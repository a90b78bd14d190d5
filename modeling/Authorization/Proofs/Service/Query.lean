import Authorization.Proofs.Service.Decision

namespace Authorization.Memory

variable {memory : Memory} {accessor : Resource} {resourceClass : ResourceClass}
  {requested : List ResourcePermission} {accessors : List (Ranked ResourceId)}
  {strategy : ClosureStrategy}

/-- A domain that limits a query is asked about by its name; a query may do without. -/
def Limits (memory : Memory) : Option String → Option Domain → Prop :=
  Option.Rel fun text domain =>
    domain ∈ memory.records.domains ∧ Label.ofText? text = some domain.name

theorem limit_eq (h : memory.records.Registered) {name : Option String} {limit : Option Domain}
    (hlimit : memory.Limits name limit) :
    name.mapM (memory.service strategy).directory.requireDomain = .ok limit := by
  cases hlimit with
  | none => rfl
  | some hnamed =>
    obtain ⟨hdomain, htext⟩ := hnamed
    exact bind_eq_ok (requireDomain_eq h hdomain htext) rfl

/-- A resource is in the scope of a query if it lies in the domain that limits it. -/
theorem inScope_iff (h : memory.records.Registered) (strategy : ClosureStrategy)
    (limit : Option Domain) :
    ∃ scope, (limit.mapM fun domain =>
        (memory.service strategy).closure.descendants domain.id) = .ok scope ∧
      ∀ resource, Service.inScope scope resource = true ↔
        ∀ domain ∈ limit, memory.LiesIn resource.domainId domain.id := by
  cases limit with
  | none => exact ⟨none, rfl, fun resource => iff_of_true rfl nofun⟩
  | some domain =>
    obtain ⟨descendants, heq, hdescendants⟩ := (service_computes h strategy).descendants domain.id
    refine ⟨some descendants, bind_eq_ok heq rfl, fun resource => ?_⟩
    have hbelow := hdescendants.exists_mem_iff (a := resource.domainId)
    have hreverse := Relation.reflTransGen_swap (r := memory.HasParent) (a := domain.id)
      (b := resource.domainId)
    simp only [Service.inScope, List.any_eq_true, decide_eq_true_eq, Option.mem_def,
      Option.some.injEq, forall_eq']
    exact hbelow.trans hreverse

/-- What the query keeps of a class are the resources for which the check says yes. -/
theorem permitted_eq (h : memory.records.Registered)
    (haccessor : accessor ∈ memory.records.resources)
    (hclass : resourceClass ∈ memory.records.classes) (hne : requested ≠ [])
    (hvalid : ∀ wanted ∈ requested, resourceClass.validate wanted = .ok ())
    (haccessors : (memory.service strategy).closure.accessors accessor.id = .ok accessors)
    (hA : IsClosure memory.Inherits accessor.id accessors) {candidates : List Resource}
    (hcandidates : ∀ resource ∈ candidates,
      resource ∈ memory.records.resources ∧ resource.classId = resourceClass.id) :
    ∃ found,
      (memory.service strategy).permitted accessors resourceClass requested candidates =
        .ok found ∧
      found.Sublist candidates ∧ ∀ resource, resource ∈ found ↔ resource ∈ candidates ∧
        (memory.service strategy).hasResourcePermissions accessor.id resource.id requested =
          .ok true := by
  apply gather_eq_filter
  intro resource hresource
  obtain ⟨hmem, hid⟩ := hcandidates resource hresource
  obtain ⟨effective, hresolve, _⟩ := resolveOnResource_resolves h strategy hA hid.symm
  -- The check resolves the same along the same closure.
  have hcheck : (memory.service strategy).hasResourcePermissions accessor.id resource.id requested =
      .ok (Service.allSatisfied requested effective) := by
    have hchecked := checkedOnResource_eq h haccessor hmem hclass hid.symm hvalid haccessors
    rw [hresolve] at hchecked
    exact bind_eq_ok (Service.requireRequested_eq_ok hne) (bind_eq_ok hchecked rfl)
  cases hsatisfied : Service.allSatisfied requested effective with
  | true =>
    rw [hsatisfied] at hcheck
    exact Or.inl ⟨hcheck, bind_eq_ok hresolve (by rw [hsatisfied]; rfl)⟩
  | false =>
    rw [hsatisfied] at hcheck
    refine Or.inr ⟨?_, bind_eq_ok hresolve (by rw [hsatisfied]; rfl)⟩
    rw [hcheck]
    nofun

/-- An accessor that asks for the resources of a class on which it has something that is valid for
the class is given a list of them, in ascending order and without repetition. These are the
resources of the class for which the check says yes and that lie in the domain to which the query is
limited, if it is. -/
theorem query_agrees_with_checks (h : memory.Reachable) (strategy : ClosureStrategy)
    (haccessor : accessor ∈ memory.records.resources)
    (hclass : resourceClass ∈ memory.records.classes) {className : String}
    (hclassName : Label.ofText? className = some resourceClass.name) {name : Option String}
    {limit : Option Domain} (hlimit : memory.Limits name limit) (hne : requested ≠ [])
    (hvalid : ∀ wanted ∈ requested, resourceClass.validate wanted = .ok ()) :
    ∃ found,
      (memory.service strategy).resourcesByPermissions accessor.id className name requested =
        .ok found ∧
      found.Pairwise (fun a b => a.id < b.id) ∧
      ∀ resource, resource ∈ found ↔
        resource ∈ memory.records.resources ∧ resource.classId = resourceClass.id ∧
          (memory.service strategy).hasResourcePermissions accessor.id resource.id requested =
            .ok true ∧
          ∀ domain ∈ limit, memory.LiesIn resource.domainId domain.id := by
  have hregistered := h.sound.registered
  obtain ⟨accessors, haccessors, hA⟩ :=
    (service_computes hregistered strategy).accessors accessor.id
  obtain ⟨scope, hscope, hinScope⟩ := inScope_iff hregistered strategy limit
  have hunique : ((memory.records.resourcesOf resourceClass.id).map (·.id)).Nodup :=
    hregistered.resourceIds.sublist (List.filter_sublist.map _)
  -- The resources of the class in ascending order; those out of scope are dropped before the check.
  let listed := (memory.records.resourcesOf resourceClass.id).mergeSort fun a b => a.id ≤ b.id
  have hlisted : ∀ resource, resource ∈ listed ↔
      resource ∈ memory.records.resources ∧ resource.classId = resourceClass.id := by
    intro resource
    rw [List.mem_mergeSort, Records.resourcesOf, List.mem_filter, decide_eq_true_eq]
  have hcandidates : ∀ resource ∈ listed.filter (Service.inScope scope),
      resource ∈ memory.records.resources ∧ resource.classId = resourceClass.id := by
    intro resource hresource
    exact (hlisted resource).mp (List.mem_of_mem_filter hresource)
  obtain ⟨found, hfound, hsublist, hmem⟩ :=
    permitted_eq hregistered haccessor hclass hne hvalid haccessors hA hcandidates
  refine ⟨found, ?_, ?_, fun resource => ?_⟩
  · apply bind_eq_ok (Service.requireRequested_eq_ok hne)
    apply bind_eq_ok ((requireParticipant_eq_ok_iff hregistered).mpr ⟨haccessor, rfl⟩)
    apply bind_eq_ok (requireClass_eq hregistered hclass hclassName)
    apply bind_eq_ok (limit_eq hregistered hlimit)
    apply bind_eq_ok (checkAll_eq_ok_iff.mpr hvalid)
    apply bind_eq_ok hscope
    apply bind_eq_ok haccessors
    exact bind_eq_ok rfl hfound
  · exact (pairwise_mergeSort_key (fun resource : Resource => resource.id) hunique).sublist
      (hsublist.trans List.filter_sublist)
  · rw [hmem, List.mem_filter, hlisted, hinScope]
    constructor
    · rintro ⟨⟨⟨hresource, hid⟩, hlies⟩, hyes⟩
      exact ⟨hresource, hid, hyes, hlies⟩
    · rintro ⟨hresource, hid, hyes, hlies⟩
      exact ⟨⟨⟨hresource, hid⟩, hlies⟩, hyes⟩

/-- Of the company's documents the clerk may view the file, and nothing else. -/
theorem clerk_finds_file :
    ∃ found, (Office.store.service .iterative).resourcesByPermissions Office.clerk.id " document "
        (some "company") [Office.view] = .ok found ∧
      ∀ resource, resource ∈ found ↔ resource = Office.file := by
  have hasks : ∀ resource ∈ Office.store.records.resources,
      Office.store.Asks Office.clerk resource Office.document [Office.view] := by
    intro resource hresource
    have hid : Office.document.id = resource.classId := by
      revert resource
      decide
    exact ⟨by decide, hresource, by decide, hid, List.cons_ne_nil _ _, by decide⟩
  have hlimit : Office.store.Limits (some "company") (some Office.company) :=
    .some ⟨by decide, by decide⟩
  obtain ⟨found, hquery, _, hfound⟩ := query_agrees_with_checks Office.store_reachable .iterative
    (show Office.clerk ∈ Office.store.records.resources by decide)
    (show Office.document ∈ Office.store.records.classes by decide)
    (show Label.ofText? " document " = some Office.document.name by decide) hlimit
    (List.cons_ne_nil Office.view []) (by decide)
  refine ⟨found, hquery, fun resource => ?_⟩
  rw [hfound]
  constructor
  · rintro ⟨hresource, _, hyes, _⟩
    have hholds := (has_check_decides Office.store_reachable.sound.registered .iterative
      (hasks resource hresource)).eq_true_iff.mp hyes
    -- Only what is granted on the file itself satisfies the request.
    have hglobal : ∀ row ∈ Office.store.records.grants.global,
        Permission.isSatisfiedBy Office.view row.2 = false := by decide
    have hdirect : ∀ row ∈ Office.store.records.grants.direct,
        Permission.isSatisfiedBy Office.view row.2 = true → row.1.accessed = Office.file.id := by
      decide
    have hunique : ∀ other ∈ Office.store.records.resources, other.id = Office.file.id →
        other = Office.file := by decide
    rcases hholds with hsuper | hsatisfied
    · exact absurd hsuper (Office.clerk_not_superUser _)
    · obtain ⟨permission, hholds, hsatisfied⟩ := hsatisfied _ (List.mem_singleton_self _)
      rcases hholds with ⟨holder, _, hheld⟩ | ⟨holder, _, above, _, hheld⟩
      · exact hunique resource hresource
          (hdirect _ (GrantRows.mem_held_iff.mp hheld) hsatisfied)
      · have hfalse := hglobal _ (GrantRows.mem_held_iff.mp hheld)
        rw [hsatisfied] at hfalse
        cases hfalse
  · rintro rfl
    have hfile : Office.file ∈ Office.store.records.resources := by decide
    have hview : Office.store.HoldsOn Office.clerk.id Office.file Office.view :=
      Or.inl ⟨Office.team.id, Office.clerk_actsAs_team, by decide⟩
    have hyes := (has_check_decides Office.store_reachable.sound.registered .iterative
      (hasks Office.file hfile)).eq_true_iff.mpr (Or.inr fun wanted hwanted => by
        rw [List.mem_singleton.mp hwanted]
        exact ⟨_, hview, by decide⟩)
    refine ⟨hfile, rfl, hyes, fun domain hdomain => ?_⟩
    cases hdomain
    exact Office.branch_liesIn_company

end Authorization.Memory
