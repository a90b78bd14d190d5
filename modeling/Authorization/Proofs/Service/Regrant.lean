import Authorization.Proofs.Service.Decision

namespace Authorization.Memory

open Service (Satisfied)

variable {memory next : Memory} {accessed : Resource} {requested : List ResourcePermission}
  {wanted : ResourcePermission} {id holder : ResourceId}

/-- A resource has a permission by itself if grants to it alone give it: one of super-user in the
domain of the accessed resource or above, or one on that resource or on its class that satisfies the
permission. -/
def HasItself (memory : Memory) (holder : ResourceId) (accessed : Resource)
    (wanted : ResourcePermission) : Prop :=
  (∃ above, memory.LiesIn accessed.domainId above ∧
    ∃ permission ∈ memory.records.grants.domain.held ⟨holder, above⟩,
      permission.isSuperUser = true) ∨
  ∃ permission, Permission.isSatisfiedBy wanted permission = true ∧
    (permission ∈ memory.records.grants.direct.held ⟨holder, accessed.id⟩ ∨
      ∃ above, memory.LiesIn accessed.domainId above ∧
        permission ∈ memory.records.grants.global.held ⟨holder, accessed.classId, above⟩)

/-- What an accessor holds is what the resources that it acts as have by themselves. -/
theorem satisfied_iff_throughSome :
    memory.IsSuperUser id accessed.domainId ∨ Satisfied [wanted] (memory.HoldsOn id accessed) ↔
      memory.ThroughSome id fun holder => memory.HasItself holder accessed wanted := by
  constructor
  · rintro (⟨permission, ⟨holder, hacts, above, habove, hheld⟩, hsuper⟩ | hsatisfied)
    · exact ⟨holder, hacts, Or.inl ⟨above, habove, permission, hheld, hsuper⟩⟩
    · obtain ⟨permission, hholds, henough⟩ := hsatisfied wanted (List.mem_singleton_self _)
      rcases hholds with ⟨holder, hacts, hheld⟩ | ⟨holder, hacts, above, habove, hheld⟩
      · exact ⟨holder, hacts, Or.inr ⟨permission, henough, Or.inl hheld⟩⟩
      · exact ⟨holder, hacts, Or.inr ⟨permission, henough, Or.inr ⟨above, habove, hheld⟩⟩⟩
  · rintro ⟨holder, hacts,
      ⟨above, habove, permission, hheld, hsuper⟩ | ⟨permission, henough, hheld⟩⟩
    · exact Or.inl ⟨permission, ⟨holder, hacts, above, habove, hheld⟩, hsuper⟩
    · refine Or.inr fun other hother => ?_
      rw [List.mem_singleton.mp hother]
      refine ⟨permission, ?_, henough⟩
      rcases hheld with hdirect | ⟨above, habove, hglobal⟩
      · exact Or.inl ⟨holder, hacts, hdirect⟩
      · exact Or.inr ⟨holder, hacts, above, habove, hglobal⟩

theorem HasItself.hasResource (hgranted : memory.records.Granted)
    (h : memory.HasItself holder accessed wanted) : memory.records.HasResource holder := by
  rcases h with ⟨above, _, permission, hheld, _⟩ | ⟨permission, _, hdirect | ⟨above, _, hglobal⟩⟩
  · exact (hgranted.domain.admitted (GrantRows.mem_held_iff.mp hheld)).1
  · exact (hgranted.direct.admitted (GrantRows.mem_held_iff.mp hdirect)).1
  · exact (hgranted.global.admitted (GrantRows.mem_held_iff.mp hglobal)).1

theorem exists_yes_iff (h : memory.records.Sound) (strategy : ClosureStrategy) :
    (∃ accessor, (memory.service strategy).hasResourcePermissions accessor id [wanted] = .ok true) ↔
      ∃ accessed ∈ memory.records.resources, accessed.id = id ∧
        (∃ resourceClass ∈ memory.records.classes, resourceClass.id = accessed.classId ∧
          resourceClass.validate wanted = .ok ()) ∧
        ∃ holder, memory.HasItself holder accessed wanted := by
  constructor
  · rintro ⟨accessor, hyes⟩
    obtain ⟨accessor, accessed, resourceClass, rfl, rfl, hasks⟩ := asks_of_answer h.registered hyes
    have hholds := (has_check_decides h.registered strategy hasks).eq_true_iff.mp hyes
    obtain ⟨holder, _, hitself⟩ := satisfied_iff_throughSome.mp hholds
    exact ⟨accessed, hasks.accessed_mem, rfl, ⟨resourceClass, hasks.class_mem, hasks.class_id,
      hasks.valid wanted (List.mem_singleton_self _)⟩, holder, hitself⟩
  · rintro ⟨accessed, haccessed, rfl, ⟨resourceClass, hclass, hid, hvalid⟩, holder, hitself⟩
    -- The one that has it by itself may ask.
    obtain ⟨accessor, haccessor, rfl⟩ := hitself.hasResource h.granted
    have hasks : memory.Asks accessor accessed resourceClass [wanted] := by
      refine ⟨haccessor, haccessed, hclass, hid, List.cons_ne_nil _ _, fun other hother => ?_⟩
      rwa [List.mem_singleton.mp hother]
    refine ⟨accessor.id, (has_check_decides h.registered strategy hasks).eq_true_iff.mpr ?_⟩
    exact satisfied_iff_throughSome.mpr ⟨accessor.id, .refl, hitself⟩

/-- One store leads to another by a grant on a resource that some resource may make. -/
def Regrants (memory next : Memory) : Prop :=
  ∃ (strategy : ClosureStrategy) (grantor : ResourceId) (key : DirectKey)
    (permissions : List ResourcePermission),
    (memory.service strategy).canGrantResourcePermissions grantor key.accessed permissions =
        .ok true ∧
      next = memory.after (.grantDirect key permissions)

/-- What may be granted on a resource, somebody has. -/
theorem exists_hasItself_of_canGrant (h : memory.records.Registered) {strategy : ClosureStrategy}
    {grantor : ResourceId}
    (hyes : (memory.service strategy).canGrantResourcePermissions grantor id requested = .ok true)
    (haccessed : accessed ∈ memory.records.resources) (hid : accessed.id = id)
    {permission : ResourcePermission} (hpermission : permission ∈ requested)
    (henough : Permission.isSatisfiedBy wanted permission = true) :
    ∃ holder, memory.HasItself holder accessed wanted := by
  obtain ⟨accessor, found, resourceClass, rfl, rfl, hasks⟩ := asks_of_answer h hyes
  obtain rfl : accessed = found :=
    List.inj_on_of_nodup_map h.resourceIds haccessed hasks.accessed_mem hid
  have hholds := (canGrant_check_decides h strategy hasks).eq_true_iff.mp hyes
  -- What the grantor passes on, it could use itself.
  have hsatisfied : memory.IsSuperUser accessor.id accessed.domainId ∨
      Satisfied [wanted] (memory.HoldsOn accessor.id accessed) := by
    apply hholds.imp_right
    intro hgrantable other hother
    obtain ⟨held, hheld, hgrant⟩ := hgrantable permission hpermission
    rw [List.mem_singleton.mp hother]
    exact ⟨held, hheld,
      Permission.isSatisfiedBy_trans henough (Permission.isGrantableFrom_iff.mp hgrant).2⟩
  obtain ⟨holder, _, hitself⟩ := satisfied_iff_throughSome.mp hsatisfied
  exact ⟨holder, hitself⟩

theorem Regrants.exists_hasItself (h : memory.records.Registered) (hstep : memory.Regrants next)
    (haccessed : accessed ∈ memory.records.resources)
    (hafter : ∃ holder, next.HasItself holder accessed wanted) :
    ∃ holder, memory.HasItself holder accessed wanted := by
  obtain ⟨strategy, grantor, key, permissions, hallowed, rfl⟩ := hstep
  unfold Memory.after at hafter
  split at hafter
  · next granted hperform =>
    obtain ⟨_, rfl⟩ := of_grantDirect hperform
    obtain ⟨holder, hsuper | ⟨permission, henough, hdirect | hglobal⟩⟩ := hafter
    · exact ⟨holder, Or.inl hsuper⟩
    · rcases GrantRows.mem_putAll (GrantRows.mem_held_iff.mp hdirect) with hold | ⟨hkey, hnew⟩
      · exact ⟨holder, Or.inr ⟨permission, henough, Or.inl (GrantRows.mem_held_iff.mpr hold)⟩⟩
      · exact exists_hasItself_of_canGrant h hallowed haccessed
          (congrArg DirectKey.accessed hkey) hnew henough
    · exact ⟨holder, Or.inr ⟨permission, henough, Or.inr hglobal⟩⟩
  · exact hafter

theorem Regrants.registers (hstep : memory.Regrants next) :
    next.records.resources = memory.records.resources ∧
      next.records.classes = memory.records.classes := by
  obtain ⟨strategy, grantor, key, permissions, _, rfl⟩ := hstep
  unfold Memory.after
  split
  · next hperform =>
    obtain ⟨_, rfl⟩ := of_grantDirect hperform
    exact ⟨rfl, rfl⟩
  · exact ⟨rfl, rfl⟩

theorem Regrants.reachable (hstep : memory.Regrants next) (h : memory.Reachable) :
    next.Reachable := by
  obtain ⟨strategy, grantor, key, permissions, _, rfl⟩ := hstep
  exact h.after _

/-- A step gives nobody what nobody had. -/
theorem Regrants.exists_yes (h : memory.Reachable) (hstep : memory.Regrants next)
    {strategy strategy' : ClosureStrategy}
    (hafter : ∃ accessor,
      (next.service strategy').hasResourcePermissions accessor id [wanted] = .ok true) :
    ∃ accessor,
      (memory.service strategy).hasResourcePermissions accessor id [wanted] = .ok true := by
  rw [exists_yes_iff (hstep.reachable h).sound, hstep.registers.1, hstep.registers.2] at hafter
  rw [exists_yes_iff h.sound]
  obtain ⟨accessed, haccessed, hid, hvalid, hholder⟩ := hafter
  have hbefore := hstep.exists_hasItself h.sound.registered haccessed hholder
  exact ⟨accessed, haccessed, hid, hvalid, hbefore⟩

/-- However often resources pass on what they may grant, a permission on a resource that nobody had
at the start, nobody has in the end. -/
theorem nobody_has_after_regrants (h : memory.Reachable)
    (hrun : Relation.ReflTransGen Regrants memory next) (strategy strategy' : ClosureStrategy)
    (hnobody : ∀ accessor,
      (memory.service strategy).hasResourcePermissions accessor id [wanted] ≠ .ok true) :
    ∀ accessor,
      (next.service strategy').hasResourcePermissions accessor id [wanted] ≠ .ok true := by
  -- By induction on the run every store is reachable, and a yes in it is one at the start.
  have hback : next.Reachable ∧ ∀ last : ClosureStrategy,
      (∃ accessor, (next.service last).hasResourcePermissions accessor id [wanted] = .ok true) →
      ∃ accessor,
        (memory.service strategy).hasResourcePermissions accessor id [wanted] = .ok true := by
    induction hrun with
    | refl =>
      refine ⟨h, fun last hyes => ?_⟩
      rw [exists_yes_iff h.sound] at hyes ⊢
      exact hyes
    | tail _ hstep ih =>
      obtain ⟨hreachable, hearlier⟩ := ih
      refine ⟨hstep.reachable hreachable, fun last hyes => ?_⟩
      exact hearlier last (hstep.exists_yes hreachable hyes)
  intro accessor hyes
  obtain ⟨earlier, hearlier⟩ := hback.2 strategy' ⟨accessor, hyes⟩
  exact hnobody earlier hearlier

/-- A clerk that acts as a team may pass on to itself what the team may pass on. Nobody could delete
the file before, and nobody can afterwards. -/
theorem nobody_deletes_file :
    (Office.store.service .iterative).canGrantResourcePermissions Office.clerk.id Office.file.id
        [Office.view] = .ok true ∧
      ∀ accessor, ((Office.store.after
          (.grantDirect ⟨Office.clerk.id, Office.file.id⟩ [Office.view])).service
          .recursive).hasResourcePermissions accessor Office.file.id
        [⟨.system .deleteResource, false⟩] ≠ .ok true := by
  have hasks : Office.store.Asks Office.clerk Office.file Office.document [Office.view] :=
    ⟨by decide, by decide, by decide, rfl, List.cons_ne_nil _ _, by decide⟩
  have hgrantable : Service.Grantable [Office.view]
      (Office.store.HoldsOn Office.clerk.id Office.file) := by
    intro wanted hwanted
    rw [List.mem_singleton.mp hwanted]
    exact ⟨Office.view, Or.inl ⟨Office.team.id, Office.clerk_actsAs_team, by decide⟩, by decide⟩
  have hallowed := (canGrant_check_decides Office.store_reachable.sound.registered .iterative
    hasks).eq_true_iff.mpr (Or.inr hgrantable)
  have hrun : Relation.ReflTransGen Regrants Office.store
      (Office.store.after (.grantDirect ⟨Office.clerk.id, Office.file.id⟩ [Office.view])) :=
    .single ⟨.iterative, Office.clerk.id, ⟨Office.clerk.id, Office.file.id⟩, [Office.view],
      hallowed, rfl⟩
  -- No grant makes a super-user, and none satisfies the permission.
  have hdomain : ∀ row ∈ Office.store.records.grants.domain, row.2.isSuperUser = false := by
    decide
  have hdirect : ∀ row ∈ Office.store.records.grants.direct,
      Permission.isSatisfiedBy (⟨.system .deleteResource, false⟩ : ResourcePermission) row.2 =
        false := by
    decide
  have hglobal : ∀ row ∈ Office.store.records.grants.global,
      Permission.isSatisfiedBy (⟨.system .deleteResource, false⟩ : ResourcePermission) row.2 =
        false := by
    decide
  have hnobody : ∀ accessor, (Office.store.service .iterative).hasResourcePermissions accessor
      Office.file.id [⟨.system .deleteResource, false⟩] ≠ .ok true := by
    intro accessor hyes
    obtain ⟨accessed, _, _, _, holder, hitself⟩ :=
      (exists_yes_iff Office.store_reachable.sound .iterative).mp ⟨accessor, hyes⟩
    rcases hitself with ⟨above, _, permission, hheld, hsuper⟩ |
      ⟨permission, henough, hheld | ⟨above, _, hheld⟩⟩
    · have hfalse := hdomain _ (GrantRows.mem_held_iff.mp hheld)
      simp [hsuper] at hfalse
    · have hfalse := hdirect _ (GrantRows.mem_held_iff.mp hheld)
      simp [henough] at hfalse
    · have hfalse := hglobal _ (GrantRows.mem_held_iff.mp hheld)
      simp [henough] at hfalse
  exact ⟨hallowed,
    nobody_has_after_regrants Office.store_reachable hrun .iterative .recursive hnobody⟩

end Authorization.Memory
