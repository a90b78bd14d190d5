import Authorization.Gather
import Authorization.Store.Records

/-! The memory store. Its contents change only through operations that check every reference. -/
namespace Authorization

structure Memory where
  records : Records := {}

namespace Memory

/-- The resource with a given handle, which must exist. -/
def requireResource (memory : Memory) (id : ResourceId) : Except Error Resource :=
  orFail (.resourceNotFound id) (memory.records.findResource? id)

def requireClass (memory : Memory) (id : ResourceClassId) : Except Error ResourceClass :=
  orFail (.classNotFound id) (memory.records.findClass? id)

def requireDomain (memory : Memory) (id : DomainId) : Except Error Domain :=
  orFail (.domainNotFound id) (memory.records.findDomain? id)

/-- Adds a domain. Its handle and name must be new, and its parent must exist. -/
def addDomain (memory : Memory) (domain : Domain) : Except Error Memory := do
  let records := memory.records
  if records.domains.any fun other => other.id = domain.id || other.name = domain.name then
    throw (.domainExists domain.name domain.id)
  match domain.parent? with
  | some parent =>
    if (records.findDomain? parent).isNone then throw (.parentMissing parent domain.name)
  | none => pure ()
  return ⟨{ records with domains := records.domains ++ [domain] }⟩

def addClass (memory : Memory) (resourceClass : ResourceClass) : Except Error Memory := do
  let records := memory.records
  if records.classes.any fun other =>
      other.id = resourceClass.id || other.name = resourceClass.name then
    throw (.classExists resourceClass.name)
  return ⟨{ records with classes := records.classes ++ [resourceClass] }⟩

/-- Adds a resource. Its class and domain must exist, and its handle must be new. -/
def addResource (memory : Memory) (resource : Resource) : Except Error Memory := do
  let records := memory.records
  let _ ← memory.requireClass resource.classId
  let _ ← memory.requireDomain resource.domainId
  if records.resources.any (·.id = resource.id) then throw (.resourceExists resource.id)
  return ⟨{ records with resources := records.resources ++ [resource] }⟩

def withGrants (memory : Memory) (update : PermissionTables → PermissionTables) : Memory :=
  ⟨{ memory.records with grants := update memory.records.grants }⟩

/-- Grants permissions on a resource; all of them must be defined for its class. -/
def grantDirect (memory : Memory) (key : DirectKey) (permissions : List ResourcePermission) :
    Except Error Memory := do
  let _ ← memory.requireResource key.accessor
  let accessed ← memory.requireResource key.accessed
  let resourceClass ← memory.requireClass accessed.classId
  checkAll resourceClass.validate permissions
  return memory.withGrants fun grants =>
    { grants with direct := grants.direct.putAll key permissions }

/-- Checks what a grant for a class within a domain refers to. -/
def requireClassKey (memory : Memory) (key : ClassKey) : Except Error ResourceClass := do
  let _ ← memory.requireResource key.accessor
  let resourceClass ← memory.requireClass key.classId
  let _ ← memory.requireDomain key.domainId
  return resourceClass

/-- Grants permissions on all resources of a class within a domain. -/
def grantGlobal (memory : Memory) (key : ClassKey) (permissions : List ResourcePermission) :
    Except Error Memory := do
  let resourceClass ← memory.requireClassKey key
  checkAll resourceClass.validate permissions
  return memory.withGrants fun grants =>
    { grants with global := grants.global.putAll key permissions }

/-- Grants create permissions for a class within a domain. -/
def grantCreate (memory : Memory) (key : ClassKey) (permissions : List ResourceCreatePermission) :
    Except Error Memory := do
  let resourceClass ← memory.requireClassKey key
  checkAll resourceClass.validateCreate permissions
  return memory.withGrants fun grants =>
    { grants with create := grants.create.putAll key permissions }

def grantDomain (memory : Memory) (key : DomainKey) (permissions : List DomainPermission) :
    Except Error Memory := do
  let _ ← memory.requireResource key.accessor
  let _ ← memory.requireDomain key.domainId
  return memory.withGrants fun grants =>
    { grants with domain := grants.domain.putAll key permissions }

def grantDomainCreate (memory : Memory) (accessor : ResourceId)
    (permissions : List DomainCreatePermission) : Except Error Memory := do
  let _ ← memory.requireResource accessor
  return memory.withGrants fun grants =>
    { grants with domainCreate := grants.domainCreate.putAll accessor permissions }

def countIn (memory : Memory) (domain : DomainId) : Nat :=
  let grants := memory.records.grants
  grants.countIn domain .global + grants.countIn domain .create + grants.countIn domain .domain

def clear (memory : Memory) (domain : DomainId) : Memory :=
  memory.withGrants fun grants =>
    ((grants.clear domain .global).clear domain .create).clear domain .domain

/-- Lookups by handle and name; listings are ordered by handle. -/
def directory (memory : Memory) : Directory :=
  { memory.records.directory with
    listClasses := .ok (memory.records.classes.mergeSort fun a b => a.id ≤ b.id)
    listResources := fun classId =>
      .ok ((memory.records.resourcesOf classId).mergeSort fun a b => a.id ≤ b.id) }

/-- Grants for classes within domains, ordered by domain and then by class. -/
def sortClassGrants {π : Type} (grants : List (ClassGrant π)) : List (ClassGrant π) :=
  grants.mergeSort fun a b =>
    a.domainId < b.domainId || (a.domainId = b.domainId && a.classId ≤ b.classId)

/-- Grants under one key in the order in which they were put in; listings over all keys are
ordered by domain and class. -/
def grantSource (memory : Memory) : GrantSource :=
  let grants := memory.records.grants
  { memory.records.grantSource with
    listAllGlobal := fun accessor =>
      .ok (sortClassGrants (Records.classGrants grants.global accessor))
    listAllCreate := fun accessor =>
      .ok (sortClassGrants (Records.classGrants grants.create accessor))
    listAllDomain := fun accessor =>
      .ok ((Records.domainGrants grants.domain accessor).mergeSort
        fun a b => a.domainId ≤ b.domainId) }

instance : Store Memory where
  backend memory :=
    let edges := memory.records.edges
    ⟨memory.directory, memory.grantSource, edges.hops, edges.native⟩
  clearDomain domain := fun memory => (.ok (memory.countIn domain), memory.clear domain)

end Memory

end Authorization
