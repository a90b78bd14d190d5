import Authorization.Proofs.Store.Sound

namespace Authorization

/-- The operations that change a memory store. -/
inductive Mutation where
  | addDomain (domain : Domain)
  | addClass (resourceClass : ResourceClass)
  | addResource (resource : Resource)
  | grantDirect (key : DirectKey) (permissions : List ResourcePermission)
  | grantGlobal (key : ClassKey) (permissions : List ResourcePermission)
  | grantCreate (key : ClassKey) (permissions : List ResourceCreatePermission)
  | grantDomain (key : DomainKey) (permissions : List DomainPermission)
  | grantDomainCreate (accessor : ResourceId) (permissions : List DomainCreatePermission)
  | clear (domain : DomainId)

namespace Memory

variable {memory next : Memory}

/-- The outcome of a mutation. -/
def perform (memory : Memory) : Mutation → Except Error Memory
  | .addDomain domain => memory.addDomain domain
  | .addClass resourceClass => memory.addClass resourceClass
  | .addResource resource => memory.addResource resource
  | .grantDirect key permissions => memory.grantDirect key permissions
  | .grantGlobal key permissions => memory.grantGlobal key permissions
  | .grantCreate key permissions => memory.grantCreate key permissions
  | .grantDomain key permissions => memory.grantDomain key permissions
  | .grantDomainCreate accessor permissions => memory.grantDomainCreate accessor permissions
  | .clear domain => .ok (memory.clear domain)

/-- The store after a mutation, which may have been refused. -/
def after (memory : Memory) (mutation : Mutation) : Memory :=
  match memory.perform mutation with
  | .ok next => next
  | .error _ => memory

/-- The stores that runs of mutations lead to from the empty store. -/
inductive Reachable : Memory → Prop
  | empty : Reachable {}
  | after {memory : Memory} (reachable : Reachable memory) (mutation : Mutation) :
      Reachable (memory.after mutation)

theorem of_requireResource {id : ResourceId} {resource : Resource}
    (h : memory.requireResource id = .ok resource) :
    resource ∈ memory.records.resources ∧ resource.id = id :=
  of_find?_eq_some (orFail_eq_ok_iff.mp h)

theorem of_requireClass {id : ResourceClassId} {resourceClass : ResourceClass}
    (h : memory.requireClass id = .ok resourceClass) :
    resourceClass ∈ memory.records.classes ∧ resourceClass.id = id :=
  of_find?_eq_some (orFail_eq_ok_iff.mp h)

theorem of_requireDomain {id : DomainId} {domain : Domain}
    (h : memory.requireDomain id = .ok domain) :
    domain ∈ memory.records.domains ∧ domain.id = id :=
  of_find?_eq_some (orFail_eq_ok_iff.mp h)

theorem of_addDomain {domain : Domain} (h : memory.addDomain domain = .ok next) :
    (∀ other ∈ memory.records.domains, other.id ≠ domain.id ∧ other.name ≠ domain.name) ∧
      (∀ {parent}, domain.parent? = some parent → memory.records.HasDomain parent) ∧
      next = ⟨{ memory.records with domains := memory.records.domains ++ [domain] }⟩ := by
  unfold addDomain at h
  dsimp only at h
  split at h
  · cases h
  · next hnew =>
    have hfresh : ∀ other ∈ memory.records.domains,
        other.id ≠ domain.id ∧ other.name ≠ domain.name := by
      simpa using hnew
    split at h
    · next parent hparent =>
      split at h
      · cases h
      · next hfound =>
        cases h
        refine ⟨hfresh, fun {other} hother => ?_, rfl⟩
        obtain rfl : parent = other := Option.some.inj (hparent.symm.trans hother)
        rw [Option.isNone_iff_eq_none, ← ne_eq, Option.ne_none_iff_exists'] at hfound
        obtain ⟨found, hfind⟩ := hfound
        exact ⟨found, of_find?_eq_some hfind⟩
    · next hroot =>
      cases h
      exact ⟨hfresh, fun {other} hother => by simp [hroot] at hother, rfl⟩

theorem of_addClass {resourceClass : ResourceClass} (h : memory.addClass resourceClass = .ok next) :
    (∀ other ∈ memory.records.classes,
      other.id ≠ resourceClass.id ∧ other.name ≠ resourceClass.name) ∧
      next = ⟨{ memory.records with classes := memory.records.classes ++ [resourceClass] }⟩ := by
  unfold addClass at h
  dsimp only at h
  split at h
  · cases h
  · next hnew =>
    cases h
    exact ⟨by simpa using hnew, rfl⟩

theorem of_addResource {resource : Resource} (h : memory.addResource resource = .ok next) :
    (∃ resourceClass ∈ memory.records.classes, resourceClass.id = resource.classId) ∧
      memory.records.HasDomain resource.domainId ∧
      (∀ other ∈ memory.records.resources, other.id ≠ resource.id) ∧
      next = ⟨{ memory.records with resources := memory.records.resources ++ [resource] }⟩ := by
  unfold addResource at h
  obtain ⟨resourceClass, hclass, h⟩ := bind_eq_ok_iff.mp h
  obtain ⟨domain, hdomain, h⟩ := bind_eq_ok_iff.mp h
  dsimp only at h
  split at h
  · cases h
  · next hnew =>
    cases h
    exact ⟨⟨resourceClass, of_requireClass hclass⟩, ⟨domain, of_requireDomain hdomain⟩,
      by simpa using hnew, rfl⟩

theorem of_grantDirect {key : DirectKey} {permissions : List ResourcePermission}
    (h : memory.grantDirect key permissions = .ok next) :
    (∀ permission ∈ permissions, memory.records.AdmitsDirect key permission) ∧
      next = memory.withGrants fun grants =>
        { grants with direct := grants.direct.putAll key permissions } := by
  unfold grantDirect at h
  obtain ⟨accessor, haccessor, h⟩ := bind_eq_ok_iff.mp h
  obtain ⟨accessed, haccessed, h⟩ := bind_eq_ok_iff.mp h
  obtain ⟨resourceClass, hclass, h⟩ := bind_eq_ok_iff.mp h
  obtain ⟨_, hvalid, h⟩ := bind_eq_ok_iff.mp h
  cases h
  refine ⟨fun permission hpermission => ?_, rfl⟩
  have hpassed := checkAll_eq_ok_iff.mp hvalid permission hpermission
  obtain ⟨hmem, hid⟩ := of_requireResource haccessed
  obtain ⟨hclassMem, hclassId⟩ := of_requireClass hclass
  exact ⟨⟨accessor, of_requireResource haccessor⟩, accessed, hmem, hid, resourceClass, hclassMem,
    hclassId, hpassed⟩

theorem of_requireClassKey {key : ClassKey} {resourceClass : ResourceClass}
    (h : memory.requireClassKey key = .ok resourceClass) :
    memory.records.HasResource key.accessor ∧ memory.records.HasDomain key.domainId ∧
      resourceClass ∈ memory.records.classes ∧ resourceClass.id = key.classId := by
  unfold requireClassKey at h
  obtain ⟨accessor, haccessor, h⟩ := bind_eq_ok_iff.mp h
  obtain ⟨found, hclass, h⟩ := bind_eq_ok_iff.mp h
  obtain ⟨domain, hdomain, h⟩ := bind_eq_ok_iff.mp h
  cases h
  exact ⟨⟨accessor, of_requireResource haccessor⟩, ⟨domain, of_requireDomain hdomain⟩,
    of_requireClass hclass⟩

/-- The two checks before a grant for a class within a domain admit what is granted. -/
theorem admitsScoped_of_checks {π : Type} {validate : ResourceClass → π → Except Error Unit}
    {key : ClassKey} {permissions : List π} {resourceClass : ResourceClass}
    (hkey : memory.requireClassKey key = .ok resourceClass)
    (hvalid : checkAll (validate resourceClass) permissions = .ok ()) :
    ∀ permission ∈ permissions, memory.records.AdmitsScoped validate key permission := by
  intro permission hpermission
  obtain ⟨haccessor, hdomain, hmem, hid⟩ := of_requireClassKey hkey
  exact ⟨haccessor, hdomain, resourceClass, hmem, hid, checkAll_eq_ok_iff.mp hvalid _ hpermission⟩

theorem of_grantGlobal {key : ClassKey} {permissions : List ResourcePermission}
    (h : memory.grantGlobal key permissions = .ok next) :
    (∀ permission ∈ permissions,
      memory.records.AdmitsScoped ResourceClass.validate key permission) ∧
      next = memory.withGrants fun grants =>
        { grants with global := grants.global.putAll key permissions } := by
  unfold grantGlobal at h
  obtain ⟨resourceClass, hkey, h⟩ := bind_eq_ok_iff.mp h
  obtain ⟨_, hvalid, h⟩ := bind_eq_ok_iff.mp h
  cases h
  exact ⟨admitsScoped_of_checks hkey hvalid, rfl⟩

theorem of_grantCreate {key : ClassKey} {permissions : List ResourceCreatePermission}
    (h : memory.grantCreate key permissions = .ok next) :
    (∀ permission ∈ permissions,
      memory.records.AdmitsScoped ResourceClass.validateCreate key permission) ∧
      next = memory.withGrants fun grants =>
        { grants with create := grants.create.putAll key permissions } := by
  unfold grantCreate at h
  obtain ⟨resourceClass, hkey, h⟩ := bind_eq_ok_iff.mp h
  obtain ⟨_, hvalid, h⟩ := bind_eq_ok_iff.mp h
  cases h
  exact ⟨admitsScoped_of_checks hkey hvalid, rfl⟩

theorem of_grantDomain {key : DomainKey} {permissions : List DomainPermission}
    (h : memory.grantDomain key permissions = .ok next) :
    memory.records.AdmitsDomain key ∧
      next = memory.withGrants fun grants =>
        { grants with domain := grants.domain.putAll key permissions } := by
  unfold grantDomain at h
  obtain ⟨accessor, haccessor, h⟩ := bind_eq_ok_iff.mp h
  obtain ⟨domain, hdomain, h⟩ := bind_eq_ok_iff.mp h
  cases h
  exact ⟨⟨⟨accessor, of_requireResource haccessor⟩, domain, of_requireDomain hdomain⟩, rfl⟩

theorem of_grantDomainCreate {accessor : ResourceId} {permissions : List DomainCreatePermission}
    (h : memory.grantDomainCreate accessor permissions = .ok next) :
    memory.records.HasResource accessor ∧
      next = memory.withGrants fun grants =>
        { grants with domainCreate := grants.domainCreate.putAll accessor permissions } := by
  unfold grantDomainCreate at h
  obtain ⟨found, haccessor, h⟩ := bind_eq_ok_iff.mp h
  cases h
  exact ⟨⟨found, of_requireResource haccessor⟩, rfl⟩

end Memory

namespace Records

variable {records other : Records}

theorem sound_empty : ({} : Records).Sound where
  registered :=
    { domains := .empty
      classIds := List.nodup_nil
      classNames := List.nodup_nil
      resourceIds := List.nodup_nil
      resourceClass := nofun
      resourceDomain := nofun }
  granted := ⟨.nil, .nil, .nil, .nil, .nil⟩

/-- Grants stay good when more is registered. -/
theorem Granted.mono (h : records.Granted) (hdomains : records.domains ⊆ other.domains)
    (hclasses : records.classes ⊆ other.classes) (hresources : records.resources ⊆ other.resources)
    (hgrants : other.grants = records.grants) : other.Granted := by
  have hresource {id : ResourceId} : records.HasResource id → other.HasResource id :=
    fun ⟨resource, hmem, hid⟩ => ⟨resource, hresources hmem, hid⟩
  have hdomain {id : DomainId} : records.HasDomain id → other.HasDomain id :=
    fun ⟨domain, hmem, hid⟩ => ⟨domain, hdomains hmem, hid⟩
  have hscoped {π : Type} {validate : ResourceClass → π → Except Error Unit} {key : ClassKey}
      {permission : π} :
      records.AdmitsScoped validate key permission → other.AdmitsScoped validate key permission :=
    fun ⟨haccessor, hscope, resourceClass, hmem, hvalid⟩ =>
      ⟨hresource haccessor, hdomain hscope, resourceClass, hclasses hmem, hvalid⟩
  constructor
  · rw [hgrants]
    refine h.direct.mono fun ⟨haccessor, accessed, hmem, hid, resourceClass, hclass, hvalid⟩ => ?_
    exact ⟨hresource haccessor, accessed, hresources hmem, hid, resourceClass, hclasses hclass,
      hvalid⟩
  · rw [hgrants]
    exact h.global.mono hscoped
  · rw [hgrants]
    exact h.create.mono hscoped
  · rw [hgrants]
    exact h.domain.mono fun ⟨haccessor, hscope⟩ => ⟨hresource haccessor, hdomain hscope⟩
  · rw [hgrants]
    exact h.domainCreate.mono hresource

end Records

namespace Memory

variable {memory : Memory}

/-- A mutation that succeeds keeps the contents together. -/
theorem sound_of_perform (h : memory.records.Sound) {mutation : Mutation} {next : Memory}
    (hperform : memory.perform mutation = .ok next) : next.records.Sound := by
  obtain ⟨hregistered, hgranted⟩ := h
  cases mutation with
  | addDomain domain =>
    -- What is registered stays so when something is added, and so do references to it.
    obtain ⟨hnew, hparent, rfl⟩ := of_addDomain hperform
    have hsubset := List.subset_append_left memory.records.domains [domain]
    refine ⟨{ hregistered with
      domains := hregistered.domains.add hnew hparent
      resourceDomain := fun resource hmem => ?_ }, ?_⟩
    · obtain ⟨found, hfound, hid⟩ := hregistered.resourceDomain resource hmem
      exact ⟨found, hsubset hfound, hid⟩
    · exact hgranted.mono hsubset (List.Subset.refl _) (List.Subset.refl _) rfl
  | addClass resourceClass =>
    obtain ⟨hnew, rfl⟩ := of_addClass hperform
    have hsubset := List.subset_append_left memory.records.classes [resourceClass]
    refine ⟨{ hregistered with
      classIds := ?_
      classNames := ?_
      resourceClass := fun resource hmem => ?_ }, ?_⟩
    · exact nodup_map_append hregistered.classIds fun other hother => (hnew other hother).1
    · exact nodup_map_append hregistered.classNames fun other hother => (hnew other hother).2
    · obtain ⟨found, hfound, hid⟩ := hregistered.resourceClass resource hmem
      exact ⟨found, hsubset hfound, hid⟩
    · exact hgranted.mono (List.Subset.refl _) hsubset (List.Subset.refl _) rfl
  | addResource resource =>
    obtain ⟨hclass, hdomain, hnew, rfl⟩ := of_addResource hperform
    have hsubset := List.subset_append_left memory.records.resources [resource]
    refine ⟨{ hregistered with
      resourceIds := ?_
      resourceClass := fun other hmem => ?_
      resourceDomain := fun other hmem => ?_ }, ?_⟩
    · exact nodup_map_append hregistered.resourceIds hnew
    · rcases List.mem_append.mp hmem with hold | hlast
      · exact hregistered.resourceClass other hold
      · rwa [List.mem_singleton.mp hlast]
    · rcases List.mem_append.mp hmem with hold | hlast
      · exact hregistered.resourceDomain other hold
      · rwa [List.mem_singleton.mp hlast]
    · exact hgranted.mono (List.Subset.refl _) (List.Subset.refl _) hsubset rfl
  | grantDirect key permissions =>
    obtain ⟨hadmits, rfl⟩ := of_grantDirect hperform
    exact ⟨{ hregistered with }, { hgranted with direct := hgranted.direct.putAll hadmits }⟩
  | grantGlobal key permissions =>
    obtain ⟨hadmits, rfl⟩ := of_grantGlobal hperform
    exact ⟨{ hregistered with }, { hgranted with global := hgranted.global.putAll hadmits }⟩
  | grantCreate key permissions =>
    obtain ⟨hadmits, rfl⟩ := of_grantCreate hperform
    exact ⟨{ hregistered with }, { hgranted with create := hgranted.create.putAll hadmits }⟩
  | grantDomain key permissions =>
    obtain ⟨hadmits, rfl⟩ := of_grantDomain hperform
    exact ⟨{ hregistered with },
      { hgranted with domain := hgranted.domain.putAll fun _ _ => hadmits }⟩
  | grantDomainCreate accessor permissions =>
    obtain ⟨hadmits, rfl⟩ := of_grantDomainCreate hperform
    exact ⟨{ hregistered with },
      { hgranted with domainCreate := hgranted.domainCreate.putAll fun _ _ => hadmits }⟩
  | clear domain =>
    -- Fewer rows under the same keys are as good as before.
    cases hperform
    exact ⟨{ hregistered with },
      { direct := hgranted.direct
        global := hgranted.global.outside fun key => key.domainId = domain
        create := hgranted.create.outside fun key => key.domainId = domain
        domain := hgranted.domain.outside fun key => key.domainId = domain
        domainCreate := hgranted.domainCreate }⟩

/-- The contents of a store that a run leads to hang together. -/
theorem Reachable.sound (h : Reachable memory) : memory.records.Sound := by
  induction h with
  | empty => exact Records.sound_empty
  | @after memory _ mutation ih =>
    unfold Memory.after
    split
    · next hperform => exact sound_of_perform ih hperform
    · exact ih

/-- The store after mutations one after the other. -/
def run (memory : Memory) (mutations : List Mutation) : Memory :=
  mutations.foldl Memory.after memory

theorem Reachable.run (h : Reachable memory) (mutations : List Mutation) :
    Reachable (memory.run mutations) := by
  unfold Memory.run
  induction mutations generalizing memory with
  | nil => exact h
  | cons mutation mutations ih => exact ih (h.after mutation)

end Memory

namespace Office

def company : Domain := ⟨⟨1⟩, ⟨"company", by decide, by decide⟩, none⟩

def branch : Domain := ⟨⟨2⟩, ⟨"branch", by decide, by decide⟩, some company.id⟩

def viewName : CustomName := ⟨⟨"view", by decide, by decide⟩, by decide⟩

def document : ResourceClass :=
  ⟨⟨1⟩, ⟨"document", by decide, by decide⟩, false, [viewName], List.pairwise_singleton _ _⟩

def clerk : Resource := ⟨⟨1⟩, document.id, branch.id⟩

def team : Resource := ⟨⟨2⟩, document.id, branch.id⟩

def file : Resource := ⟨⟨3⟩, document.id, branch.id⟩

def inherit : ResourcePermission := ⟨.system .inherit, false⟩

def view : ResourcePermission := ⟨.custom viewName, true⟩

def query : ResourcePermission := ⟨.system .query, false⟩

/-- A clerk and a team that act as each other. The team may pass on the permission to view a file,
and holds permissions of every other family for the whole company, in which the file lies. -/
def store : Memory :=
  Memory.run {}
    [.addDomain company, .addDomain branch, .addClass document, .addResource clerk,
      .addResource team, .addResource file, .grantDirect ⟨clerk.id, team.id⟩ [inherit],
      .grantDirect ⟨team.id, clerk.id⟩ [inherit], .grantDirect ⟨team.id, file.id⟩ [view],
      .grantGlobal ⟨team.id, document.id, company.id⟩ [query],
      .grantCreate ⟨team.id, document.id, company.id⟩ [⟨.create, true⟩],
      .grantDomain ⟨team.id, company.id⟩ [⟨.deleteDomain, false⟩],
      .grantDomainCreate team.id [⟨.create, false⟩]]

theorem store_reachable : store.Reachable :=
  Memory.Reachable.empty.run _

/-- The same office after the team was made super-user of the company. -/
def promoted : Memory :=
  store.after (.grantDomain ⟨team.id, company.id⟩ [⟨.superUser, false⟩])

theorem promoted_reachable : promoted.Reachable :=
  store_reachable.after _

end Office

end Authorization
