import Authorization.Proofs.Service.Decision

namespace Authorization.Memory

open Service (Decides Satisfied)

variable {memory other : Memory} {accessor : Resource}
  {resourceClass : ResourceClass} {domain : Domain} {className text : String}
  {name : Option String}

theorem create_check_decides (h : memory.records.Registered) (strategy : ClosureStrategy)
    (haccessor : accessor ∈ memory.records.resources)
    (hclass : resourceClass ∈ memory.records.classes)
    (hclassName : Label.ofText? className = some resourceClass.name)
    (hdomain : domain ∈ memory.records.domains) (hname : AskedAbout accessor domain name)
    {requested : List ResourceCreatePermission} (hne : requested ≠ [])
    (hvalid : ∀ wanted ∈ requested, resourceClass.validateCreate wanted = .ok ()) :
    Decides
      ((memory.service strategy).hasResourceCreatePermissions accessor.id className name requested)
      (memory.IsSuperUser accessor.id domain.id ∨
        Satisfied requested (memory.HoldsToCreate accessor.id resourceClass.id domain.id)) := by
  obtain ⟨effective, hchecked, hresolves⟩ :=
    checkedCreate_resolves h strategy haccessor hclass hclassName hdomain hname hvalid
  refine ⟨_, bind_eq_ok (Service.requireRequested_eq_ok hne) (bind_eq_ok hchecked rfl), ?_⟩
  apply hresolves.allSatisfied_iff exists_copyIn_iff
  intro wanted hwanted
  exact ResourceClass.mem_definedCreatePermissions_iff.mpr (hvalid wanted hwanted)

theorem global_check_decides (h : memory.records.Registered) (strategy : ClosureStrategy)
    (haccessor : accessor ∈ memory.records.resources)
    (hclass : resourceClass ∈ memory.records.classes)
    (hclassName : Label.ofText? className = some resourceClass.name)
    (hdomain : domain ∈ memory.records.domains) (hname : AskedAbout accessor domain name)
    {requested : List ResourcePermission} (hne : requested ≠ [])
    (hvalid : ∀ wanted ∈ requested, resourceClass.validate wanted = .ok ()) :
    Decides
      ((memory.service strategy).hasGlobalResourcePermissions accessor.id className name requested)
      (memory.IsSuperUser accessor.id domain.id ∨
        Satisfied requested (memory.HoldsGlobally accessor.id resourceClass.id domain.id)) := by
  obtain ⟨effective, hchecked, hresolves⟩ :=
    checkedGlobal_resolves h strategy haccessor hclass hclassName hdomain hname hvalid
  refine ⟨_, bind_eq_ok (Service.requireRequested_eq_ok hne) (bind_eq_ok hchecked rfl), ?_⟩
  apply hresolves.allSatisfied_iff exists_copyIn_iff
  intro wanted hwanted
  exact ResourceClass.mem_definedPermissions_iff.mpr (hvalid wanted hwanted)

theorem domain_check_decides (h : memory.records.Registered) (strategy : ClosureStrategy)
    (haccessor : accessor ∈ memory.records.resources) (hdomain : domain ∈ memory.records.domains)
    (htext : Label.ofText? text = some domain.name) {requested : List DomainPermission}
    (hne : requested ≠ []) :
    Decides ((memory.service strategy).hasDomainPermissions accessor.id text requested)
      (memory.IsSuperUser accessor.id domain.id ∨
        Satisfied requested (memory.HoldsOnDomain accessor.id domain.id)) := by
  obtain ⟨effective, hchecked, hresolves⟩ :=
    effectiveDomainPermissions_resolves h strategy haccessor hdomain htext
  refine ⟨_, bind_eq_ok (Service.requireRequested_eq_ok hne) (bind_eq_ok hchecked rfl), ?_⟩
  apply hresolves.allSatisfied_iff exists_copyIn_iff
  intro wanted _
  exact DomainPermission.regrantable_mem_allRegrantable wanted

theorem domainCreate_check_decides (h : memory.records.Registered) (strategy : ClosureStrategy)
    (haccessor : accessor ∈ memory.records.resources) {requested : List DomainCreatePermission}
    (hne : requested ≠ []) :
    Decides ((memory.service strategy).hasDomainCreatePermissions accessor.id requested)
      (Satisfied requested (memory.HoldsToCreateDomains accessor.id)) := by
  obtain ⟨effective, hchecked, hsummary⟩ :=
    effectiveDomainCreatePermissions_summarizes h strategy haccessor
  refine ⟨_, bind_eq_ok (Service.requireRequested_eq_ok hne) (bind_eq_ok hchecked rfl), ?_⟩
  rw [Service.allSatisfied_iff]
  apply forall₂_congr
  intro wanted _
  rw [hsummary.exists_iff fun hab hwanted => Permission.isSatisfiedBy_trans hwanted hab]
  constructor
  · rintro ⟨entry, hcopy, hsatisfied⟩
    exact ⟨entry.permission, exists_copy_iff.mp ⟨entry, hcopy, rfl⟩, hsatisfied⟩
  · rintro ⟨permission, hheld, hsatisfied⟩
    obtain ⟨entry, hcopy, rfl⟩ := exists_copy_iff.mpr hheld
    exact ⟨entry, hcopy, hsatisfied⟩

/-- Something is so for all resources that the accessor acts as and all domains in which the given
one lies. -/
def ThroughAllIn (memory : Memory) (accessor : ResourceId) (domain : DomainId)
    (same : ResourceId → DomainId → Prop) : Prop :=
  ∀ holder above, memory.ActsAs accessor holder → memory.LiesIn domain above → same holder above

/-- Two stores that register the same and in which the same resources inherit from each other. -/
structure SameWalks (memory other : Memory) : Prop where
  domains : other.records.domains = memory.records.domains
  classes : other.records.classes = memory.records.classes
  resources : other.records.resources = memory.records.resources
  inherits : ∀ accessor donor, memory.Inherits accessor donor ↔ other.Inherits accessor donor

/-- Two stores in which the same resources are super-users, of those that the accessor acts as, and
in the same domains, of those in which the given one lies. -/
def SameSuperUsers (memory other : Memory) (accessor : ResourceId) (domain : DomainId) : Prop :=
  memory.ThroughAllIn accessor domain fun holder above =>
    ((∃ permission ∈ memory.records.grants.domain.held ⟨holder, above⟩,
        permission.isSuperUser = true) ↔
      ∃ permission ∈ other.records.grants.domain.held ⟨holder, above⟩,
        permission.isSuperUser = true)

section Same

variable {id : ResourceId} {scope : DomainId}

theorem SameWalks.throughSome_congr (h : memory.SameWalks other) {holds holds' : ResourceId → Prop}
    (hsame : ∀ holder, memory.ActsAs id holder → (holds holder ↔ holds' holder)) :
    memory.ThroughSome id holds ↔ other.ThroughSome id holds' := by
  have hinherits : memory.Inherits = other.Inherits := by
    ext accessor donor
    exact h.inherits accessor donor
  unfold ThroughSome ActsAs
  rw [← hinherits]
  apply exists_congr
  intro holder
  exact and_congr_right (hsame holder)

theorem SameWalks.throughSomeIn_congr (h : memory.SameWalks other)
    {holds holds' : ResourceId → DomainId → Prop}
    (hsame : memory.ThroughAllIn id scope fun holder above => (holds holder above ↔
      holds' holder above)) :
    memory.ThroughSomeIn id scope holds ↔ other.ThroughSomeIn id scope holds' := by
  have hparents : other.HasParent = memory.HasParent := by
    unfold HasParent
    rw [h.domains]
  apply h.throughSome_congr
  intro holder hholder
  unfold LiesIn
  rw [hparents]
  apply exists_congr
  intro above
  exact and_congr_right (hsame holder above hholder)

theorem SameWalks.isSuperUser_congr (h : memory.SameWalks other)
    (hsupers : memory.SameSuperUsers other id scope) :
    memory.IsSuperUser id scope ↔ other.IsSuperUser id scope := by
  rw [isSuperUser_iff, isSuperUser_iff]
  exact h.throughSomeIn_congr hsupers

/-- What is granted to no holder that counts, or in no domain that counts, satisfies nothing. -/
theorem SameWalks.satisfied_congr {π : Type} [Permission π] [DecidableEq π]
    (h : memory.SameWalks other) {held held' : ResourceId → DomainId → List π}
    (hsame : memory.ThroughAllIn id scope fun holder above =>
      ∀ permission, permission ∈ held holder above ↔ permission ∈ held' holder above)
    (requested : List π) :
    (Satisfied requested fun permission =>
      memory.ThroughSomeIn id scope fun holder above => permission ∈ held holder above) ↔
      Satisfied requested fun permission =>
        other.ThroughSomeIn id scope fun holder above => permission ∈ held' holder above := by
  apply Service.satisfied_congr
  intro permission
  apply h.throughSomeIn_congr
  intro holder above hholder habove
  exact hsame holder above hholder habove permission

end Same

/-- An accessor that asks about a class and a domain that exist is told whether it may create
resources of the class in the domain, has permissions on all that are there, has permissions on the
domain, and may create domains. All but the last it may do as super-user in the domain. Otherwise
each needs grants of its own family, and no grant of another family, for another class, in another
domain than those that the one asked about lies in, or to a resource that the accessor does not act
as makes a difference. -/
theorem scoped_checks_decide (h : memory.Reachable) (strategy : ClosureStrategy)
    (haccessor : accessor ∈ memory.records.resources)
    (hclass : resourceClass ∈ memory.records.classes)
    (hclassName : Label.ofText? className = some resourceClass.name)
    (hdomain : domain ∈ memory.records.domains) (hname : AskedAbout accessor domain name)
    (htext : Label.ofText? text = some domain.name) {creates : List ResourceCreatePermission}
    {globals : List ResourcePermission} {onDomain : List DomainPermission}
    {domainCreates : List DomainCreatePermission} (hcreates : creates ≠ [])
    (hglobals : globals ≠ []) (honDomain : onDomain ≠ []) (hdomainCreates : domainCreates ≠ [])
    (hvalidCreates : ∀ wanted ∈ creates, resourceClass.validateCreate wanted = .ok ())
    (hvalidGlobals : ∀ wanted ∈ globals, resourceClass.validate wanted = .ok ()) :
    (Decides
        ((memory.service strategy).hasResourceCreatePermissions accessor.id className name creates)
        (memory.IsSuperUser accessor.id domain.id ∨
          Satisfied creates (memory.HoldsToCreate accessor.id resourceClass.id domain.id)) ∧
      Decides
        ((memory.service strategy).hasGlobalResourcePermissions accessor.id className name globals)
        (memory.IsSuperUser accessor.id domain.id ∨
          Satisfied globals (memory.HoldsGlobally accessor.id resourceClass.id domain.id)) ∧
      Decides ((memory.service strategy).hasDomainPermissions accessor.id text onDomain)
        (memory.IsSuperUser accessor.id domain.id ∨
          Satisfied onDomain (memory.HoldsOnDomain accessor.id domain.id)) ∧
      Decides ((memory.service strategy).hasDomainCreatePermissions accessor.id domainCreates)
        (Satisfied domainCreates (memory.HoldsToCreateDomains accessor.id))) ∧
    ∀ other : Memory, other.Reachable → memory.SameWalks other →
      (memory.SameSuperUsers other accessor.id domain.id →
        (memory.ThroughAllIn accessor.id domain.id fun holder above => ∀ permission,
          permission ∈ memory.records.grants.create.held ⟨holder, resourceClass.id, above⟩ ↔
            permission ∈ other.records.grants.create.held ⟨holder, resourceClass.id, above⟩) →
        (other.service strategy).hasResourceCreatePermissions accessor.id className name creates =
          (memory.service strategy).hasResourceCreatePermissions accessor.id className name
            creates) ∧
      (memory.SameSuperUsers other accessor.id domain.id →
        (memory.ThroughAllIn accessor.id domain.id fun holder above => ∀ permission,
          permission ∈ memory.records.grants.global.held ⟨holder, resourceClass.id, above⟩ ↔
            permission ∈ other.records.grants.global.held ⟨holder, resourceClass.id, above⟩) →
        (other.service strategy).hasGlobalResourcePermissions accessor.id className name globals =
          (memory.service strategy).hasGlobalResourcePermissions accessor.id className name
            globals) ∧
      ((memory.ThroughAllIn accessor.id domain.id fun holder above => ∀ permission,
          permission ∈ memory.records.grants.domain.held ⟨holder, above⟩ ↔
            permission ∈ other.records.grants.domain.held ⟨holder, above⟩) →
        (other.service strategy).hasDomainPermissions accessor.id text onDomain =
          (memory.service strategy).hasDomainPermissions accessor.id text onDomain) ∧
      ((∀ holder, memory.ActsAs accessor.id holder → ∀ permission,
          permission ∈ memory.records.grants.domainCreate.held holder ↔
            permission ∈ other.records.grants.domainCreate.held holder) →
        (other.service strategy).hasDomainCreatePermissions accessor.id domainCreates =
          (memory.service strategy).hasDomainCreatePermissions accessor.id domainCreates) := by
  have hregistered := h.sound.registered
  have hcreate := create_check_decides hregistered strategy haccessor hclass hclassName hdomain
    hname hcreates hvalidCreates
  have hglobal := global_check_decides hregistered strategy haccessor hclass hclassName hdomain
    hname hglobals hvalidGlobals
  have hdomainCheck := domain_check_decides hregistered strategy haccessor hdomain htext honDomain
  have hdomainCreate := domainCreate_check_decides hregistered strategy haccessor hdomainCreates
  refine ⟨⟨hcreate, hglobal, hdomainCheck, hdomainCreate⟩, fun other hother hwalks => ?_⟩
  -- What has been asked about exists in the other store as well.
  have hregistered' := hother.sound.registered
  rw [← hwalks.resources] at haccessor
  rw [← hwalks.classes] at hclass
  rw [← hwalks.domains] at hdomain
  refine ⟨fun hsupers hrows => ?_, fun hsupers hrows => ?_, fun hrows => ?_, fun hrows => ?_⟩
  · have hother' := create_check_decides hregistered' strategy haccessor hclass hclassName hdomain
      hname hcreates hvalidCreates
    apply hother'.congr hcreate
    rw [hwalks.isSuperUser_congr hsupers]
    exact or_congr_right (hwalks.satisfied_congr hrows creates).symm
  · have hother' := global_check_decides hregistered' strategy haccessor hclass hclassName hdomain
      hname hglobals hvalidGlobals
    apply hother'.congr hglobal
    rw [hwalks.isSuperUser_congr hsupers]
    exact or_congr_right (hwalks.satisfied_congr hrows globals).symm
  · have hother' := domain_check_decides hregistered' strategy haccessor hdomain htext honDomain
    have hsupers : memory.SameSuperUsers other accessor.id domain.id := by
      intro holder above hholder habove
      apply exists_congr
      intro permission
      rw [hrows holder above hholder habove permission]
    apply hother'.congr hdomainCheck
    rw [hwalks.isSuperUser_congr hsupers]
    exact or_congr_right (hwalks.satisfied_congr hrows onDomain).symm
  · have hother' := domainCreate_check_decides hregistered' strategy haccessor hdomainCreates
    apply hother'.congr hdomainCreate
    apply Service.satisfied_congr
    intro permission
    apply Iff.symm
    apply hwalks.throughSome_congr
    intro holder hholder
    exact hrows holder hholder permission

/-- A clerk that acts as a team may do in a branch what the team may do in the company, and a grant
of another family to another resource does not change what it may create. -/
theorem clerk_scoped_checks_decide :
    ((Office.store.service .iterative).hasResourceCreatePermissions Office.clerk.id "document" none
        [⟨.create, true⟩] = .ok true ∧
      (Office.store.service .iterative).hasGlobalResourcePermissions Office.clerk.id "document" none
        [Office.query] = .ok true ∧
      (Office.store.service .iterative).hasDomainPermissions Office.clerk.id " branch "
        [⟨.deleteDomain, false⟩] = .ok true ∧
      (Office.store.service .iterative).hasDomainCreatePermissions Office.clerk.id
        [⟨.create, false⟩] = .ok true) ∧
    ((Office.store.after (.grantDomainCreate Office.file.id [⟨.create, true⟩])).service
        .iterative).hasResourceCreatePermissions Office.clerk.id "document" none
        [⟨.create, true⟩] =
      (Office.store.service .iterative).hasResourceCreatePermissions Office.clerk.id "document" none
        [⟨.create, true⟩] := by
  have hclerk : Office.clerk ∈ Office.store.records.resources := by decide
  have hdocument : Office.document ∈ Office.store.records.classes := by decide
  have hbranch : Office.branch ∈ Office.store.records.domains := by decide
  have hteam := Office.clerk_actsAs_team
  have hcompany := Office.branch_liesIn_company
  have hclass : Label.ofText? "document" = some Office.document.name := by decide
  have hname : AskedAbout Office.clerk Office.branch none := rfl
  have htext : Label.ofText? " branch " = some Office.branch.name := by decide
  have hchecks := scoped_checks_decide Office.store_reachable .iterative hclerk hdocument hclass
    hbranch hname htext (List.cons_ne_nil (⟨.create, true⟩ : ResourceCreatePermission) [])
    (List.cons_ne_nil Office.query [])
    (List.cons_ne_nil (⟨.deleteDomain, false⟩ : DomainPermission) [])
    (List.cons_ne_nil (⟨.create, false⟩ : DomainCreatePermission) []) (by decide) (by decide)
  obtain ⟨⟨hcreate, hglobal, hdomain, hdomainCreate⟩, hframe⟩ := hchecks
  refine ⟨⟨hcreate.eq_true_iff.mpr (Or.inr ?_), hglobal.eq_true_iff.mpr (Or.inr ?_),
    hdomain.eq_true_iff.mpr (Or.inr ?_), hdomainCreate.eq_true_iff.mpr ?_⟩, ?_⟩
  · intro wanted hwanted
    rw [List.mem_singleton.mp hwanted]
    exact ⟨⟨.create, true⟩, ⟨_, hteam, _, hcompany, by decide⟩, by decide⟩
  · intro wanted hwanted
    rw [List.mem_singleton.mp hwanted]
    exact ⟨Office.query, ⟨_, hteam, _, hcompany, by decide⟩, by decide⟩
  · intro wanted hwanted
    rw [List.mem_singleton.mp hwanted]
    exact ⟨⟨.deleteDomain, false⟩, ⟨_, hteam, _, hcompany, by decide⟩, by decide⟩
  · intro wanted hwanted
    rw [List.mem_singleton.mp hwanted]
    exact ⟨⟨.create, false⟩, ⟨_, hteam, by decide⟩, by decide⟩
  · have hwalks : Office.store.SameWalks
        (Office.store.after (.grantDomainCreate Office.file.id [⟨.create, true⟩])) :=
      ⟨rfl, rfl, rfl, fun _ _ => Iff.rfl⟩
    have hsame := hframe _ (Office.store_reachable.after _) hwalks
    exact hsame.1 (fun _ _ _ _ => Iff.rfl) fun _ _ _ _ _ => Iff.rfl

end Authorization.Memory
