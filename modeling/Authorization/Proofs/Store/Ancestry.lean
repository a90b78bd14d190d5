import Authorization.Proofs.Service.Holding
import Authorization.Proofs.Store.Consistent

namespace Authorization

/-- The entries of a line, with the places in it as levels. -/
def Domain.climbed (line : List Domain) : List (Ranked DomainId) :=
  line.mapIdx fun level domain => ⟨level, domain.id⟩

theorem Domain.climbed_cons (first : Domain) (line : List Domain) :
    climbed (first :: line) = ⟨0, first.id⟩ :: (climbed line).map (Ranked.farther 1) := by
  rw [climbed, climbed, List.mapIdx_cons]
  congr 1
  refine List.ext_getElem (by simp) fun place _ _ => ?_
  simp [Ranked.farther]

/-- The way up goes on from the parent. -/
theorem WayUp.tail {domains line : List Domain} {domain first second : Domain}
    (h : WayUp domains domain (first :: second :: line)) :
    WayUp domains second (second :: line) where
  registered := (List.cons_subset.mp h.registered).2
  starts := rfl
  climbs := h.climbs.tail
  ends root hroot := h.ends root (by rwa [List.getLast?_cons_cons])
  once := (List.nodup_cons.mp h.once).2

namespace Forest

variable {α : Type} [LT α] {parent : α → α → Prop} {a b : α} {belowA belowB : List (Ranked α)}

/-- Two subtrees of a forest are nested or have no node in common. -/
theorem nested_or_disjoint (h : Forest parent)
    (ha : IsClosure (fun above below => parent below above) a belowA)
    (hb : IsClosure (fun above below => parent below above) b belowB) :
    belowA.map (·.node) ⊆ belowB.map (·.node) ∨ belowB.map (·.node) ⊆ belowA.map (·.node) ∨
      List.Disjoint (belowA.map (·.node)) (belowB.map (·.node)) := by
  have hup : ∀ {top node} {below : List (Ranked α)},
      IsClosure (fun above below => parent below above) top below →
        (node ∈ below.map (·.node) ↔ Relation.ReflTransGen parent node top) := by
    intro top node below hbelow
    rw [List.mem_map, hbelow.exists_mem_iff]
    exact Relation.reflTransGen_swap
  by_cases hcommon : ∃ node, node ∈ belowA.map (·.node) ∧ node ∈ belowB.map (·.node)
  · obtain ⟨node, hA, hB⟩ := hcommon
    rw [hup ha] at hA
    rw [hup hb] at hB
    -- There is one way up from the common node, and both tops lie on it.
    have hunique : Relator.RightUnique parent := fun _ _ _ hc hd => h.unique hc hd
    rcases Relation.ReflTransGen.total_of_right_unique hunique hA hB with hab | hba
    · refine Or.inl fun other hother => ?_
      exact (hup hb).mpr (((hup ha).mp hother).trans hab)
    · refine Or.inr (Or.inl fun other hother => ?_)
      exact (hup ha).mpr (((hup hb).mp hother).trans hba)
  · exact Or.inr (Or.inr fun node hA hB => hcommon ⟨node, hA, hB⟩)

end Forest

namespace Memory

variable {memory : Memory} {domain : Domain} {line : List Domain}

/-- Of a registered domain only the parent that it was registered with counts. -/
theorem hasParent_iff (h : memory.records.Registered) (hdomain : domain ∈ memory.records.domains)
    {parent : DomainId} : memory.HasParent domain.id parent ↔ domain.parent? = some parent := by
  constructor
  · rintro ⟨other, hother, hid, hparent⟩
    have hsame := List.inj_on_of_nodup_map h.domains.nodup_ids hother hdomain hid
    rwa [hsame] at hparent
  · exact fun hparent => ⟨domain, hdomain, rfl, hparent⟩

/-- A way up is what is above the domain where it starts. -/
theorem isClosure_climbed (h : memory.records.Registered)
    (hline : WayUp memory.records.domains domain line) :
    IsClosure memory.HasParent domain.id (Domain.climbed line) := by
  -- The induction follows the line upwards: the rest of it is the way up of the parent.
  induction line generalizing domain with
  | nil => cases hline.starts
  | cons first line ih =>
    obtain rfl : first = domain := Option.some.inj hline.starts
    have hmem : first ∈ memory.records.domains := hline.registered List.mem_cons_self
    cases line with
    | nil =>
      have hroot : first.parent? = none := hline.ends first rfl
      refine Forest.isClosure_root fun parent hparent => ?_
      rw [hasParent_iff h hmem, hroot] at hparent
      cases hparent
    | cons second line =>
      have hparent : first.parent? = some second.id := (List.isChain_cons_cons.mp hline.climbs).1
      rw [Domain.climbed_cons]
      exact (forest_hasParent h).isClosure_cons ((hasParent_iff h hmem).mpr hparent) (ih hline.tail)

/-- Whatever the strategy, what is above a registered domain is its way up, the domain first and its
root last, with levels that count from zero. One domain is so many levels below another as that one
is above it, and two subtrees are nested or have nothing in common. -/
theorem subtrees_nest (h : memory.Reachable) (strategy : ClosureStrategy) :
    (∀ domain ∈ memory.records.domains, ∃ line, WayUp memory.records.domains domain line ∧
        (memory.service strategy).closure.ancestors domain.id =
          .ok (line.mapIdx fun level above => ⟨level, above.id⟩)) ∧
      ∀ a b : DomainId, ∃ belowA belowB aboveB,
        (memory.service strategy).closure.descendants a = .ok belowA ∧
          (memory.service strategy).closure.descendants b = .ok belowB ∧
          (memory.service strategy).closure.ancestors b = .ok aboveB ∧
          (∀ level, ⟨level, b⟩ ∈ belowA ↔ ⟨level, a⟩ ∈ aboveB) ∧
          (belowA.map (·.node) ⊆ belowB.map (·.node) ∨
            belowB.map (·.node) ⊆ belowA.map (·.node) ∨
            List.Disjoint (belowA.map (·.node)) (belowB.map (·.node))) := by
  have hregistered := h.sound.registered
  have hcomputes := service_computes hregistered strategy
  constructor
  · intro domain hdomain
    obtain ⟨line, hline⟩ := hregistered.domains.exists_wayUp hdomain
    obtain ⟨above, habove, hclosure⟩ := hcomputes.ancestors domain.id
    have hsame := hclosure.unique (isClosure_climbed hregistered hline)
    exact ⟨line, hline, by rw [habove, hsame, Domain.climbed]⟩
  · intro a b
    obtain ⟨belowA, hbelowA, hA⟩ := hcomputes.descendants a
    obtain ⟨belowB, hbelowB, hB⟩ := hcomputes.descendants b
    obtain ⟨aboveB, haboveB, hup⟩ := hcomputes.ancestors b
    refine ⟨belowA, belowB, aboveB, hbelowA, hbelowB, haboveB, fun level => ?_,
      (forest_hasParent hregistered).nested_or_disjoint hA hB⟩
    rw [hA.mem_iff, hup.mem_iff]
    exact Distance.reverse_iff

end Memory

namespace Office

/-- The company is one level above the branch, so the branch is one level below the company. -/
theorem branch_below_company :
    (store.service .iterative).closure.ancestors branch.id =
        .ok [⟨0, branch.id⟩, ⟨1, company.id⟩] ∧
      ∃ below, (store.service .iterative).closure.descendants company.id = .ok below ∧
        ⟨1, branch.id⟩ ∈ below := by
  have hline : (store.service .iterative).closure.ancestors branch.id =
      .ok [⟨0, branch.id⟩, ⟨1, company.id⟩] := by
    decide +kernel
  obtain ⟨_, hpairs⟩ := Memory.subtrees_nest store_reachable .iterative
  obtain ⟨below, _, above, hbelow, _, habove, hlevels, _⟩ := hpairs company.id branch.id
  obtain rfl := Except.ok.inj (hline.symm.trans habove)
  exact ⟨hline, below, hbelow, (hlevels 1).mpr (by decide)⟩

end Office

end Authorization
