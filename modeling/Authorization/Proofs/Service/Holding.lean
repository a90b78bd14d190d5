import Authorization.Proofs.Service.Resolve
import Authorization.Proofs.Store.Walk
import Authorization.Service.OnCreation
import Authorization.Service.OnResource

namespace Authorization

namespace Memory

variable (memory : Memory)

/-- The authorization service over a memory store. -/
def service (strategy : ClosureStrategy) : Service :=
  (Store.backend memory).service strategy

/-- A resource acts as another if inherit permissions lead from it to the other. -/
def ActsAs : ResourceId → ResourceId → Prop :=
  Relation.ReflTransGen memory.Inherits

/-- A domain lies in another if that is the domain itself or one above it. -/
def LiesIn : DomainId → DomainId → Prop :=
  Relation.ReflTransGen memory.HasParent

/-- Something that depends on a holder is so for a resource that the accessor acts as. -/
def ThroughSome (accessor : ResourceId) (holds : ResourceId → Prop) : Prop :=
  ∃ holder, memory.ActsAs accessor holder ∧ holds holder

/-- Something that depends on a holder and a domain is so for a resource that the accessor acts as
and for a domain in which the given one lies. -/
def ThroughSomeIn (accessor : ResourceId) (domain : DomainId)
    (holds : ResourceId → DomainId → Prop) : Prop :=
  memory.ThroughSome accessor fun holder =>
    ∃ above, memory.LiesIn domain above ∧ holds holder above

/-- The accessor holds a permission granted on one resource. -/
def HoldsDirectly (accessor accessed : ResourceId) (permission : ResourcePermission) : Prop :=
  memory.ThroughSome accessor fun holder =>
    permission ∈ memory.records.grants.direct.held ⟨holder, accessed⟩

/-- The accessor holds a permission on all resources of a class within a domain. -/
def HoldsGlobally (accessor : ResourceId) (classId : ResourceClassId) (domain : DomainId)
    (permission : ResourcePermission) : Prop :=
  memory.ThroughSomeIn accessor domain fun holder above =>
    permission ∈ memory.records.grants.global.held ⟨holder, classId, above⟩

/-- The accessor holds a permission on a resource, granted on it or on its class. -/
def HoldsOn (accessor : ResourceId) (accessed : Resource) (permission : ResourcePermission) :
    Prop :=
  memory.HoldsDirectly accessor accessed.id permission ∨
    memory.HoldsGlobally accessor accessed.classId accessed.domainId permission

/-- The accessor holds a permission to create resources of a class within a domain. -/
def HoldsToCreate (accessor : ResourceId) (classId : ResourceClassId) (domain : DomainId)
    (permission : ResourceCreatePermission) : Prop :=
  memory.ThroughSomeIn accessor domain fun holder above =>
    permission ∈ memory.records.grants.create.held ⟨holder, classId, above⟩

/-- The accessor holds a permission on a domain. -/
def HoldsOnDomain (accessor : ResourceId) (domain : DomainId) (permission : DomainPermission) :
    Prop :=
  memory.ThroughSomeIn accessor domain fun holder above =>
    permission ∈ memory.records.grants.domain.held ⟨holder, above⟩

/-- The accessor holds a permission to create domains. -/
def HoldsToCreateDomains (accessor : ResourceId) (permission : DomainCreatePermission) : Prop :=
  memory.ThroughSome accessor fun holder =>
    permission ∈ memory.records.grants.domainCreate.held holder

/-- The accessor is super-user in a domain. -/
def IsSuperUser (accessor : ResourceId) (domain : DomainId) : Prop :=
  ∃ permission, memory.HoldsOnDomain accessor domain permission ∧ permission.isSuperUser = true

/-- A domain is asked about by its name, or without a name if it is that of the accessor. -/
def AskedAbout (accessor : Resource) (domain : Domain) : Option String → Prop
  | some text => Label.ofText? text = some domain.name
  | none => domain.id = accessor.domainId

/-- A question on a resource that makes sense: both resources exist, and something that is valid for
the class of the accessed one is asked for. -/
structure Asks (accessor accessed : Resource) (resourceClass : ResourceClass)
    (requested : List ResourcePermission) : Prop where
  accessor_mem : accessor ∈ memory.records.resources
  accessed_mem : accessed ∈ memory.records.resources
  class_mem : resourceClass ∈ memory.records.classes
  class_id : resourceClass.id = accessed.classId
  nonempty : requested ≠ []
  valid : ∀ wanted ∈ requested, resourceClass.validate wanted = .ok ()

end Memory

namespace Memory

variable {memory : Memory} {strategy : ClosureStrategy}

theorem service_computes (h : memory.records.Registered) (strategy : ClosureStrategy) :
    (memory.service strategy).closure.Computes memory.Inherits memory.HasParent :=
  computes h ⟨List.Perm.refl _, List.Perm.refl _⟩ strategy

theorem isClosure_accessors (h : memory.records.Registered) {id : ResourceId}
    {accessors : List (Ranked ResourceId)}
    (haccessors : (memory.service strategy).closure.accessors id = .ok accessors) :
    IsClosure memory.Inherits id accessors := by
  obtain ⟨entries, heq, hclosure⟩ := (service_computes h strategy).accessors id
  obtain rfl := Except.ok.inj (heq.symm.trans haccessors)
  exact hclosure

theorem isClosure_ancestors (h : memory.records.Registered) {id : DomainId}
    {ancestors : List (Ranked DomainId)}
    (hancestors : (memory.service strategy).closure.ancestors id = .ok ancestors) :
    IsClosure memory.HasParent id ancestors := by
  obtain ⟨entries, heq, hclosure⟩ := (service_computes h strategy).ancestors id
  obtain rfl := Except.ok.inj (heq.symm.trans hancestors)
  exact hclosure

theorem isSuperUser_iff {accessor : ResourceId} {domain : DomainId} :
    memory.IsSuperUser accessor domain ↔
      memory.ThroughSomeIn accessor domain fun holder above =>
        ∃ permission ∈ memory.records.grants.domain.held ⟨holder, above⟩,
          permission.isSuperUser = true := by
  constructor
  · rintro ⟨permission, ⟨holder, hholder, above, habove, hheld⟩, hsuper⟩
    exact ⟨holder, hholder, above, habove, permission, hheld, hsuper⟩
  · rintro ⟨holder, hholder, above, habove, permission, hheld, hsuper⟩
    exact ⟨permission, ⟨holder, hholder, above, habove, hheld⟩, hsuper⟩

theorem requireParticipant_eq_ok_iff (h : memory.records.Registered) {role : Role}
    {id : ResourceId} {resource : Resource} :
    (memory.service strategy).requireParticipant role id = .ok resource ↔
      resource ∈ memory.records.resources ∧ resource.id = id :=
  orFail_eq_ok_iff.trans h.findResource?_eq_some_iff

theorem requireClassOf_eq_ok_iff (h : memory.records.Registered) {resource : Resource}
    {resourceClass : ResourceClass} :
    (memory.service strategy).requireClassOf resource = .ok resourceClass ↔
      resourceClass ∈ memory.records.classes ∧ resourceClass.id = resource.classId :=
  orFail_eq_ok_iff.trans h.findClass?_eq_some_iff

theorem requireClass_eq_ok_iff (h : memory.records.Registered) {text : String}
    {resourceClass : ResourceClass} :
    (memory.service strategy).requireClass text = .ok resourceClass ↔
      resourceClass ∈ memory.records.classes ∧ Label.ofText? text = some resourceClass.name := by
  unfold Service.requireClass Label.require
  cases Label.ofText? text with
  | none => exact iff_of_false nofun nofun
  | some name =>
    rw [Option.some_inj, eq_comm (a := name)]
    exact orFail_eq_ok_iff.trans h.findClassByName?_eq_some_iff

theorem requireDomain_eq_ok_iff (h : memory.records.Registered) {text : String} {domain : Domain} :
    (memory.service strategy).directory.requireDomain text = .ok domain ↔
      domain ∈ memory.records.domains ∧ Label.ofText? text = some domain.name := by
  unfold Directory.requireDomain Label.require
  cases Label.ofText? text with
  | none => exact iff_of_false nofun nofun
  | some name =>
    rw [Option.some_inj, eq_comm (a := name)]
    exact orFail_eq_ok_iff.trans h.findDomainByName?_eq_some_iff

theorem resolveDomain_eq_ok_iff (h : memory.records.Registered) {accessor : Resource}
    {domain : Domain} {name : Option String} :
    (memory.service strategy).resolveDomain accessor name = .ok domain ↔
      domain ∈ memory.records.domains ∧ AskedAbout accessor domain name := by
  cases name with
  | some text => exact requireDomain_eq_ok_iff h
  | none => exact orFail_eq_ok_iff.trans h.findDomain?_eq_some_iff

theorem requireClass_eq (h : memory.records.Registered) {resourceClass : ResourceClass}
    (hmem : resourceClass ∈ memory.records.classes) {text : String}
    (htext : Label.ofText? text = some resourceClass.name) :
    (memory.service strategy).requireClass text = .ok resourceClass :=
  (requireClass_eq_ok_iff h).mpr ⟨hmem, htext⟩

theorem requireDomain_eq (h : memory.records.Registered) {domain : Domain}
    (hmem : domain ∈ memory.records.domains) {text : String}
    (htext : Label.ofText? text = some domain.name) :
    (memory.service strategy).directory.requireDomain text = .ok domain :=
  (requireDomain_eq_ok_iff h).mpr ⟨hmem, htext⟩

theorem resolveDomain_eq (h : memory.records.Registered) {accessor : Resource} {domain : Domain}
    (hmem : domain ∈ memory.records.domains) {name : Option String}
    (hname : AskedAbout accessor domain name) :
    (memory.service strategy).resolveDomain accessor name = .ok domain :=
  (resolveDomain_eq_ok_iff h).mpr ⟨hmem, hname⟩

end Memory

namespace Office

theorem clerk_actsAs_team : store.ActsAs clerk.id team.id :=
  .single ⟨inherit, by decide, rfl⟩

theorem branch_liesIn_company : store.LiesIn branch.id company.id :=
  .single ⟨branch, by decide, rfl, rfl⟩

end Office

end Authorization
