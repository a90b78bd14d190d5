import Authorization.Proofs.Service.Decision
import Authorization.Proofs.Service.NoLess

namespace Authorization.Memory

open Service (NoLess SameDecisions)

variable {memory : Memory} {strategy : ClosureStrategy} {accessor donor : ResourceId}
  {accessors donors : List (Ranked ResourceId)}

/-- What a memory store lists for single holders. -/
def holdings (memory : Memory) : Holdings :=
  let grants := memory.records.grants
  { direct := fun accessor accessed => grants.direct.held ⟨accessor, accessed⟩
    global := fun accessor classId domain => grants.global.held ⟨accessor, classId, domain⟩
    create := fun accessor classId domain => grants.create.held ⟨accessor, classId, domain⟩
    domain := fun accessor domain => grants.domain.held ⟨accessor, domain⟩
    domainCreate := fun accessor => grants.domainCreate.held accessor }

theorem lists_holdings (memory : Memory) : memory.grantSource.Lists memory.holdings :=
  ⟨fun _ _ => rfl, fun _ _ _ => rfl, fun _ _ _ => rfl, fun _ _ => rfl, fun _ => rfl⟩

/-- The domain that owns a resource. -/
def ownDomain? (memory : Memory) (id : ResourceId) : Option DomainId :=
  (memory.records.findResource? id).map (·.domainId)

/-- A domain is meant alike by two resources if they name it, or if they name none and belong to the
same domain. -/
def MeantAlike (memory : Memory) (id other : ResourceId) (name : Option String) : Prop :=
  name = none → memory.ownDomain? id = memory.ownDomain? other

theorem MeantAlike.symm {id other : ResourceId} {name : Option String}
    (h : memory.MeantAlike id other name) : memory.MeantAlike other id name :=
  fun hnone => (h hnone).symm

theorem Inherits.hasResource (hgranted : memory.records.Granted)
    (h : memory.Inherits accessor donor) :
    memory.records.HasResource accessor ∧ memory.records.HasResource donor := by
  obtain ⟨permission, hheld, _⟩ := h
  obtain ⟨haccessor, accessed, hmem, hid, _⟩ :=
    hgranted.direct.admitted (GrantRows.mem_held_iff.mp hheld)
  exact ⟨haccessor, accessed, hmem, hid⟩

/-- A resource acts as itself, whether it exists or not, and otherwise as one that exists. -/
theorem ActsAs.hasResource (hgranted : memory.records.Granted) (h : memory.ActsAs accessor donor) :
    accessor = donor ∨ memory.records.HasResource accessor ∧ memory.records.HasResource donor := by
  rcases h.cases_head with heq | ⟨_, hfirst, _⟩
  · exact Or.inl heq
  rcases h.cases_tail with heq | ⟨_, _, hlast⟩
  · exact Or.inl heq.symm
  · exact Or.inr ⟨(hfirst.hasResource hgranted).1, (hlast.hasResource hgranted).2⟩

theorem participants_agree (h : memory.records.Sound) (hacts : memory.ActsAs accessor donor)
    {related : Resource → Resource → Prop} (hsame : ∀ resource, related resource resource)
    (hboth : ∀ {first second}, first ∈ memory.records.resources → first.id = donor →
      second ∈ memory.records.resources → second.id = accessor → related first second) :
    Agree related ((memory.service strategy).requireParticipant .accessor donor)
      ((memory.service strategy).requireParticipant .accessor accessor) := by
  rcases hacts.hasResource h.granted with rfl | ⟨⟨second, hsecond, hid'⟩, first, hfirst, hid⟩
  · exact Agree.refl hsame _
  · rw [(requireParticipant_eq_ok_iff h.registered).mpr ⟨hfirst, hid⟩,
      (requireParticipant_eq_ok_iff h.registered).mpr ⟨hsecond, hid'⟩]
    exact .ok (hboth hfirst hid hsecond hid')

theorem MeantAlike.sameDomain (h : memory.records.Sound) (hacts : memory.ActsAs accessor donor)
    {name : Option String} (hmeant : memory.MeantAlike donor accessor name) :
    (memory.service strategy).SameDomain (memory.service strategy) donor accessor name := by
  have hregistered := h.registered
  refine participants_agree h hacts (fun _ => rfl) ?_
  intro first second hfirst hid hsecond hid'
  cases name with
  | some text => rfl
  | none =>
    have hdomains := hmeant rfl
    rw [ownDomain?, ownDomain?, hregistered.findResource?_eq_some_iff.mpr ⟨hfirst, hid⟩,
      hregistered.findResource?_eq_some_iff.mpr ⟨hsecond, hid'⟩] at hdomains
    obtain ⟨domain, hdomain, hfound⟩ := hregistered.resourceDomain first hfirst
    have hfound' : domain.id = second.domainId := hfound.trans (Option.some.inj hdomains)
    rw [resolveDomain_eq hregistered hdomain (show AskedAbout first domain none from hfound),
      resolveDomain_eq hregistered hdomain (show AskedAbout second domain none from hfound')]

theorem outdone_of_actsAs (h : memory.records.Sound) (hacts : memory.ActsAs accessor donor)
    (haccessors : (memory.service strategy).closure.accessors accessor = .ok accessors)
    (hdonors : (memory.service strategy).closure.accessors donor = .ok donors) :
    (memory.service strategy).Outdone (memory.service strategy) donor accessor donors accessors
      memory.holdings memory.holdings := by
  have hA := isClosure_accessors h.registered haccessors
  have hD := isClosure_accessors h.registered hdonors
  have hcomeUp : Service.ComeUp donors accessors := by
    intro entry hentry
    exact hA.exists_mem_iff.mpr (hacts.trans (hD.exists_mem_iff.mp ⟨entry, hentry, rfl⟩))
  exact
    { directory := rfl
      ancestors := rfl
      descendants := rfl
      participants := participants_agree h hacts (fun _ => trivial) fun _ _ _ _ => trivial
      left := hdonors
      right := haccessors
      lists := memory.lists_holdings
      lists' := memory.lists_holdings
      within := .refl _
      comeUp := hcomeUp }

/-- Whatever a resource in the closure of an accessor is told it may do, the accessor is told it may
do, too, and whatever resources are listed for the former are listed for the latter, in the same
order and perhaps among others. About a domain they both ask by its name, or by none if they belong
to the same domain. Resources in the closures of each other get the same decisions. -/
theorem accessor_does_what_donor_does (h : memory.Reachable) (strategy : ClosureStrategy)
    (haccessors : (memory.service strategy).closure.accessors accessor = .ok accessors)
    (hdonor : donor ∈ accessors.map (·.node)) :
    NoLess (memory.service strategy) (memory.service strategy) donor accessor
        (memory.MeantAlike donor accessor) ∧
      ∀ donors, (memory.service strategy).closure.accessors donor = .ok donors →
        accessor ∈ donors.map (·.node) →
        SameDecisions (memory.service strategy) (memory.service strategy) donor accessor
          (memory.MeantAlike donor accessor) := by
  have hsound := h.sound
  have hcomputes := service_computes hsound.registered strategy
  have hactsAs {id other entries} (heq : (memory.service strategy).closure.accessors id = .ok entries)
      (hmem : other ∈ entries.map (·.node)) : memory.ActsAs id other :=
    (isClosure_accessors hsound.registered heq).exists_mem_iff.mp (List.mem_map.mp hmem)
  have hnoLess {id other entries} (heq : (memory.service strategy).closure.accessors id = .ok entries)
      (hmem : other ∈ entries.map (·.node)) :
      NoLess (memory.service strategy) (memory.service strategy) other id
        (memory.MeantAlike other id) := by
    obtain ⟨others, hothers, _⟩ := hcomputes.accessors other
    have hacts := hactsAs heq hmem
    exact (outdone_of_actsAs hsound hacts heq hothers).noLess.of_names
      (MeantAlike.sameDomain hsound hacts)
  refine ⟨hnoLess haccessors hdonor, fun donors hdonors haccessor => ?_⟩
  have hback := (hnoLess hdonors haccessor).of_names MeantAlike.symm
  exact (hnoLess haccessors hdonor).antisymm hback

/-- The clerk and the team act as each other, so both may view the file as the team may, and about
domains they get the same answers. -/
theorem clerk_does_what_team_does :
    (∃ accessors, (Office.store.service .iterative).closure.accessors Office.clerk.id =
        .ok accessors ∧ Office.team.id ∈ accessors.map (·.node)) ∧
      (Office.store.service .iterative).hasResourcePermissions Office.team.id Office.file.id
        [Office.view] = .ok true ∧
      (Office.store.service .iterative).hasResourcePermissions Office.clerk.id Office.file.id
        [Office.view] = .ok true ∧
      ∀ text requested,
        (Office.store.service .iterative).hasDomainPermissions Office.team.id text requested =
          (Office.store.service .iterative).hasDomainPermissions Office.clerk.id text requested := by
  have hregistered := Office.store_reachable.sound.registered
  have hcomputes := service_computes hregistered .iterative
  obtain ⟨accessors, haccessors, hA⟩ := hcomputes.accessors Office.clerk.id
  obtain ⟨donors, hdonors, hD⟩ := hcomputes.accessors Office.team.id
  have hteam : Office.team.id ∈ accessors.map (·.node) :=
    List.mem_map.mpr (hA.exists_mem_iff.mpr Office.clerk_actsAs_team)
  have hclerk : Office.clerk.id ∈ donors.map (·.node) :=
    List.mem_map.mpr (hD.exists_mem_iff.mpr (.single ⟨Office.inherit, by decide, rfl⟩))
  obtain ⟨hnoLess, hsame⟩ := accessor_does_what_donor_does Office.store_reachable .iterative
    haccessors hteam
  have hview : Office.store.HoldsOn Office.team.id Office.file Office.view :=
    Or.inl ⟨Office.team.id, .refl, by decide⟩
  have hasks : Office.store.Asks Office.team Office.file Office.document [Office.view] :=
    ⟨by decide, by decide, by decide, rfl, List.cons_ne_nil _ _, by decide⟩
  have hyes := (has_check_decides hregistered .iterative hasks).eq_true_iff.mpr
    (Or.inr (.singleton hview (by decide)))
  have hyes' := Service.yes_of_le
    (hnoLess.hasResourcePermissions Office.file.id [Office.view]) hyes
  refine ⟨⟨accessors, haccessors, hteam⟩, hyes, hyes', fun text requested => ?_⟩
  exact ((hsame donors hdonors hclerk).hasDomainPermissions text requested).eq

end Authorization.Memory
