import Authorization.Proofs.Service.Effective

namespace Authorization.Memory

open Service (Decides Grantable Satisfied)

variable {memory : Memory} {accessor accessed : Resource} {resourceClass : ResourceClass}
  {requested : List ResourcePermission}

/-- A question that has an answer makes sense. -/
theorem asks_of_answer (h : memory.records.Registered) {strategy : ClosureStrategy}
    {accessorId accessedId : ResourceId} {decision : Bool}
    {answer : List (EffectivePermission ResourcePermission) → Bool}
    (hanswer : (do
      Service.requireRequested requested
      let effective ←
        (memory.service strategy).checkedOnResource accessorId accessedId requested
      return answer effective) = .ok decision) :
    ∃ accessor accessed resourceClass, accessor.id = accessorId ∧ accessed.id = accessedId ∧
      memory.Asks accessor accessed resourceClass requested := by
  obtain ⟨_, hrequested, hanswer⟩ := bind_eq_ok_iff.mp hanswer
  obtain ⟨_, hchecked, _⟩ := bind_eq_ok_iff.mp hanswer
  unfold Service.checkedOnResource at hchecked
  obtain ⟨accessor, hfirst, hchecked⟩ := bind_eq_ok_iff.mp hchecked
  obtain ⟨accessed, hsecond, hchecked⟩ := bind_eq_ok_iff.mp hchecked
  obtain ⟨resourceClass, hthird, hchecked⟩ := bind_eq_ok_iff.mp hchecked
  obtain ⟨_, hvalid, _⟩ := bind_eq_ok_iff.mp hchecked
  obtain ⟨haccessor, rfl⟩ := (requireParticipant_eq_ok_iff h).mp hfirst
  obtain ⟨haccessed, rfl⟩ := (requireParticipant_eq_ok_iff h).mp hsecond
  obtain ⟨hclass, hid⟩ := (requireClassOf_eq_ok_iff h).mp hthird
  exact ⟨accessor, accessed, resourceClass, rfl, rfl, haccessor, haccessed, hclass, hid,
    Service.requireRequested_eq_ok_iff.mp hrequested, checkAll_eq_ok_iff.mp hvalid⟩

theorem has_check_decides (h : memory.records.Registered) (strategy : ClosureStrategy)
    (hasks : memory.Asks accessor accessed resourceClass requested) :
    Decides ((memory.service strategy).hasResourcePermissions accessor.id accessed.id requested)
      (memory.IsSuperUser accessor.id accessed.domainId ∨
        Satisfied requested (memory.HoldsOn accessor.id accessed)) := by
  obtain ⟨effective, hchecked, hresolves⟩ := checkedOnResource_resolves h strategy
    hasks.accessor_mem hasks.accessed_mem hasks.class_mem hasks.class_id hasks.valid
  have hrequested := Service.requireRequested_eq_ok hasks.nonempty
  refine ⟨_, bind_eq_ok hrequested (bind_eq_ok hchecked rfl), ?_⟩
  apply hresolves.allSatisfied_iff exists_copyOn_iff
  intro wanted hwanted
  exact ResourceClass.mem_definedPermissions_iff.mpr (hasks.valid wanted hwanted)

theorem canGrant_check_decides (h : memory.records.Registered) (strategy : ClosureStrategy)
    (hasks : memory.Asks accessor accessed resourceClass requested) :
    Decides
      ((memory.service strategy).canGrantResourcePermissions accessor.id accessed.id requested)
      (memory.IsSuperUser accessor.id accessed.domainId ∨
        Grantable requested (memory.HoldsOn accessor.id accessed)) := by
  obtain ⟨effective, hchecked, hresolves⟩ := checkedOnResource_resolves h strategy
    hasks.accessor_mem hasks.accessed_mem hasks.class_mem hasks.class_id hasks.valid
  have hrequested := Service.requireRequested_eq_ok hasks.nonempty
  have hdefined : ∀ wanted ∈ requested, ∃ permission ∈ resourceClass.definedPermissions,
      Permission.isGrantableFrom wanted permission = true := by
    intro wanted hwanted
    have hlisted := ResourceClass.mem_definedPermissions_iff.mpr (hasks.valid wanted hwanted)
    exact ⟨_, hlisted, Permission.isGrantableFrom_regrantable rfl⟩
  have hgrantable := hresolves.enough_iff exists_copyOn_iff
    (fun wanted permission => Permission.isGrantableFrom wanted permission = true)
    (fun hab hwanted => Permission.isGrantableFrom_trans hwanted hab) hdefined
  refine ⟨_, bind_eq_ok hrequested (bind_eq_ok hchecked rfl), ?_⟩
  apply Iff.trans _ hgrantable
  simp only [List.all_eq_true, List.any_eq_true]

/-- A resource that asks about another, with what is valid for the class of that one, is told
whether it may use it and whether it may pass it on. It may if it is super-user in the domain of the
other, or else if all that it asks for is satisfied, or may be granted, by what it holds there. -/
theorem resource_checks_decide (h : memory.Reachable) (strategy : ClosureStrategy)
    (haccessor : accessor ∈ memory.records.resources)
    (haccessed : accessed ∈ memory.records.resources)
    (hclass : resourceClass ∈ memory.records.classes) (hid : resourceClass.id = accessed.classId)
    (hne : requested ≠ [])
    (hvalid : ∀ wanted ∈ requested, resourceClass.validate wanted = .ok ()) :
    Decides ((memory.service strategy).hasResourcePermissions accessor.id accessed.id requested)
        (memory.IsSuperUser accessor.id accessed.domainId ∨
          Satisfied requested (memory.HoldsOn accessor.id accessed)) ∧
      Decides
        ((memory.service strategy).canGrantResourcePermissions accessor.id accessed.id requested)
        (memory.IsSuperUser accessor.id accessed.domainId ∨
          Grantable requested (memory.HoldsOn accessor.id accessed)) := by
  have hasks : memory.Asks accessor accessed resourceClass requested :=
    ⟨haccessor, haccessed, hclass, hid, hne, hvalid⟩
  constructor
  · exact has_check_decides h.sound.registered strategy hasks
  · exact canGrant_check_decides h.sound.registered strategy hasks

/-- A clerk that acts as a team may use, and pass on, what the team may pass on. -/
theorem clerk_checks_decide :
    (Office.store.service .recursive).hasResourcePermissions Office.clerk.id Office.file.id
        [Office.view, Office.query] = .ok true ∧
      (Office.store.service .iterative).canGrantResourcePermissions Office.clerk.id Office.file.id
        [Office.view] = .ok true := by
  have hview : Office.store.HoldsOn Office.clerk.id Office.file Office.view :=
    Or.inl ⟨Office.team.id, Office.clerk_actsAs_team, by decide⟩
  have hquery : Office.store.HoldsOn Office.clerk.id Office.file Office.query :=
    Or.inr ⟨Office.team.id, Office.clerk_actsAs_team, Office.company.id,
      Office.branch_liesIn_company, by decide⟩
  have hclerk : Office.clerk ∈ Office.store.records.resources := by decide
  have hfile : Office.file ∈ Office.store.records.resources := by decide
  have hdocument : Office.document ∈ Office.store.records.classes := by decide
  have hhas := (resource_checks_decide Office.store_reachable .recursive hclerk hfile hdocument rfl
    (List.cons_ne_nil Office.view [Office.query]) (by decide)).1
  have hcanGrant := (resource_checks_decide Office.store_reachable .iterative hclerk hfile hdocument
    rfl (List.cons_ne_nil Office.view []) (by decide)).2
  rw [hhas.eq_true_iff, hcanGrant.eq_true_iff]
  refine ⟨Or.inr ?_, Or.inr ?_⟩
  · intro wanted hwanted
    rcases List.mem_pair.mp hwanted with rfl | rfl
    · exact ⟨_, hview, by decide⟩
    · exact ⟨_, hquery, by decide⟩
  · intro wanted hwanted
    rw [List.mem_singleton.mp hwanted]
    exact ⟨_, hview, by decide⟩

end Authorization.Memory
