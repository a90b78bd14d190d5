import Authorization.Proofs.Hierarchy.Distance

namespace Authorization

/-- A relation from nodes to their parents under which the nodes form a forest. -/
structure Forest {α : Type} (parent : α → α → Prop) : Prop where
  unique : ∀ {a b c}, parent a b → parent a c → b = c
  acyclic : ∀ a, ¬Relation.TransGen parent a a

section

variable {α : Type} {hop : α → α → Prop} {a b : α} {n : Nat}

theorem Walk.transGen (h : Walk hop a (n + 1) b) : Relation.TransGen hop a b := by
  cases h with
  | step walk last => exact Relation.TransGen.tail' walk.reachable last

/-- Some hops farther away. -/
def Ranked.farther (hops : Nat) (entry : Ranked α) : Ranked α :=
  ⟨entry.level + hops, entry.node⟩

theorem Ranked.map_farther_cons (n : Nat) (a : α) (entries : List (Ranked α)) :
    (⟨0, a⟩ :: entries.map (farther 1)).map (farther n) =
      ⟨n, a⟩ :: entries.map (farther (n + 1)) := by
  have hfirst : farther n ⟨0, a⟩ = ⟨n, a⟩ := congrArg (Ranked.mk · a) (Nat.zero_add n)
  have hsame : farther n ∘ farther 1 = (farther (n + 1) : Ranked α → Ranked α) := by
    funext entry
    have hlevel : entry.level + 1 + n = entry.level + (n + 1) := by omega
    exact congrArg (Ranked.mk · entry.node) hlevel
  rw [List.map_cons, List.map_map, hfirst, hsame]

end

namespace Forest

variable {α : Type} {parent : α → α → Prop} {a b c top : α} {n m : Nat}

/-- All walks up from one node to another are of one length. -/
theorem walk_length_unique (h : Forest parent) (hn : Walk parent a n b) (hm : Walk parent a m b) :
    n = m := by
  induction n generalizing a m with
  | zero =>
    cases hn
    cases m with
    | zero => rfl
    | succ m => exact absurd hm.transGen (h.acyclic _)
  | succ n ih =>
    cases m with
    | zero =>
      cases hm
      exact absurd hn.transGen (h.acyclic _)
    | succ m =>
      obtain ⟨c, hc, hrest⟩ := hn.head
      obtain ⟨c', hc', hrest'⟩ := hm.head
      obtain rfl : c = c' := h.unique hc hc'
      rw [ih hrest hrest']

theorem distance_of_walk (h : Forest parent) (hwalk : Walk parent a n b) :
    Distance parent a n b :=
  ⟨hwalk, fun other => Nat.le_of_eq (h.walk_length_unique hwalk other)⟩

/-- Whatever lies below a node is farther down than the node. -/
theorem level_lt (h : Forest parent) (ha : Distance parent a n top) (hb : Distance parent b m top)
    (hbelow : Relation.TransGen parent a b) : m < n := by
  obtain ⟨c, hc, hreach⟩ := Relation.TransGen.head'_iff.mp hbelow
  obtain ⟨k, hk⟩ := exists_walk hreach
  have hsum : n = k + 1 + m := h.walk_length_unique ha.walk ((hk.cons hc).trans hb.walk)
  omega

theorem distance_succ_iff (h : Forest parent) (hparent : parent a b) :
    Distance parent a (n + 1) c ↔ Distance parent b n c := by
  constructor
  · intro hdistance
    obtain ⟨b', hb', hrest⟩ := hdistance.walk.head
    obtain rfl : b' = b := h.unique hb' hparent
    exact h.distance_of_walk hrest
  · intro hdistance
    exact h.distance_of_walk (hdistance.walk.cons hparent)

section Closures

variable [LT α] {entries : List (Ranked α)}

/-- Above a root there is nothing but the root. -/
theorem isClosure_root (hroot : ∀ b, ¬parent a b) : IsClosure parent a [⟨0, a⟩] := by
  constructor
  · rintro ⟨level, node⟩
    rw [List.mem_singleton]
    constructor
    · intro hentry
      cases hentry
      exact Distance.zero_iff.mpr rfl
    · intro hdistance
      cases level with
      | zero => exact congrArg (Ranked.mk 0) (Distance.zero_iff.mp hdistance)
      | succ level =>
        obtain ⟨b, hb, _⟩ := hdistance.walk.head
        exact absurd hb (hroot b)
  · exact List.pairwise_singleton _ _

/-- Above a node there is the node itself, and what is above its parent is one level farther. -/
theorem isClosure_cons (h : Forest parent) (hparent : parent a b)
    (hclosure : IsClosure parent b entries) :
    IsClosure parent a (⟨0, a⟩ :: entries.map (Ranked.farther 1)) := by
  constructor
  · rintro ⟨level, node⟩
    rw [List.mem_cons, List.mem_map]
    cases level with
    | zero =>
      rw [Distance.zero_iff]
      constructor
      · rintro (hentry | ⟨entry, _, hentry⟩)
        · exact congrArg Ranked.node hentry
        · exact absurd (congrArg Ranked.level hentry) (Nat.succ_ne_zero _)
      · rintro rfl
        exact Or.inl rfl
    | succ level =>
      rw [h.distance_succ_iff hparent]
      constructor
      · rintro (hentry | ⟨entry, hmem, hentry⟩)
        · exact absurd (congrArg Ranked.level hentry) (Nat.succ_ne_zero _)
        · cases hentry
          exact hclosure.mem_iff.mp hmem
      · intro hdistance
        exact Or.inr ⟨⟨level, node⟩, hclosure.mem_iff.mpr hdistance, rfl⟩
  · refine List.pairwise_cons.mpr ⟨fun other hother => ?_, ?_⟩
    · obtain ⟨entry, _, rfl⟩ := List.mem_map.mp hother
      exact Or.inl (Nat.succ_pos _)
    · apply List.pairwise_map.mpr
      apply hclosure.ordered.imp
      rintro x y (hlevel | ⟨hlevel, hnode⟩)
      · exact Or.inl (Nat.add_lt_add_right hlevel 1)
      · exact Or.inr ⟨congrArg (· + 1) hlevel, hnode⟩

/-- What is above a node starts with what lies below one of the nodes above it, and goes on with
what is above that one. -/
theorem exists_isClosure_append (h : Forest parent) (hwalk : Walk parent a n b)
    (hclosure : IsClosure parent b entries) :
    ∃ lower, IsClosure parent a (lower ++ entries.map (Ranked.farther n)) ∧
      ∀ entry ∈ lower, Relation.ReflTransGen parent entry.node b := by
  induction hwalk generalizing entries with
  | start =>
    refine ⟨[], ?_, List.forall_mem_nil _⟩
    have hsame : entries.map (Ranked.farther 0) = entries := List.map_id entries
    rwa [List.nil_append, hsame]
  | @step n c b _ last ih =>
    obtain ⟨lower, hlower, hbelow⟩ := ih (h.isClosure_cons last hclosure)
    refine ⟨lower ++ [⟨n, c⟩], ?_, fun entry hentry => ?_⟩
    · rwa [Ranked.map_farther_cons, List.append_cons] at hlower
    · rcases List.mem_append.mp hentry with hold | hlast
      · exact (hbelow entry hold).tail last
      · rw [List.mem_singleton.mp hlast]
        exact .single last

variable [LE α] [Std.IsLinearOrder α] [Std.LawfulOrderLT α] {upper : List (Ranked α)}

/-- What is above a node below a root lies below that root. -/
theorem below_of_mem (h : Forest parent) (hroot : ∀ b, ¬parent top b) (hwalk : Walk parent a n top)
    (hclosure : IsClosure parent a entries) :
    ∀ entry ∈ entries, Relation.ReflTransGen parent entry.node top := by
  obtain ⟨lower, hlower, hbelow⟩ := h.exists_isClosure_append hwalk (isClosure_root hroot)
  rw [hclosure.unique hlower]
  intro entry hentry
  rcases List.mem_append.mp hentry with hfirst | hlast
  · exact hbelow entry hfirst
  · obtain rfl : entry = Ranked.farther n ⟨0, top⟩ := List.mem_singleton.mp hlast
    exact Relation.ReflTransGen.refl

/-- What is above a node below `top` is what lies below `top`, and then what is above the parent of
`top`. -/
theorem exists_lower_append (h : Forest parent) (hparent : parent top b)
    (hwalk : Walk parent a n top) (hclosure : IsClosure parent a entries)
    (hupper : IsClosure parent b upper) :
    ∃ lower, entries = lower ++ upper.map (Ranked.farther (n + 1)) ∧
      ∀ entry ∈ lower, Relation.ReflTransGen parent entry.node top := by
  obtain ⟨lower, hlower, hbelow⟩ :=
    h.exists_isClosure_append hwalk (h.isClosure_cons hparent hupper)
  rw [Ranked.map_farther_cons, List.append_cons] at hlower
  refine ⟨lower ++ [⟨n, top⟩], hclosure.unique hlower, fun entry hentry => ?_⟩
  rcases List.mem_append.mp hentry with hfirst | hlast
  · exact hbelow entry hfirst
  · rw [List.mem_singleton.mp hlast]

end Closures

end Forest

end Authorization
