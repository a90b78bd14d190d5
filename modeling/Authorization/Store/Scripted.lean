import Authorization.Store.Records

/-! A store for trying services against bad data. -/
namespace Authorization

/-- Contents, fixed closure entries and the operations that fail. -/
structure Scripted where
  records : Records := {}
  accessorEntries : List (Ranked ResourceId) := []
  ancestorEntries : List (Ranked DomainId) := []
  descendantEntries : List (Ranked DomainId) := []
  /-- The names of the operations that fail. -/
  failing : List String := []
  /-- The domains that cannot be cleared. -/
  failingRemovals : List DomainId := []
  /-- The domains that were cleared, in order. -/
  removed : List DomainId := []

namespace Scripted

/-- Fails if the named operation is one that fails. -/
def gate (store : Scripted) (operation : String) : Except Error Unit :=
  if operation ∈ store.failing then .error (.operationFailed operation) else .ok ()

/-- The answer of a named operation. -/
def answer {α : Type} (store : Scripted) (operation : String) (value : Except Error α) :
    Except Error α := do
  store.gate operation
  value

/-- The lookups of the records, of which the chosen ones fail. -/
def directory (store : Scripted) : Directory :=
  let source := store.records.directory
  { findResource := fun id => store.answer "find_resource" (source.findResource id)
    findClass := fun id => store.answer "find_class" (source.findClass id)
    findClassByName := fun name => store.answer "find_class_by_name" (source.findClassByName name)
    listClasses := store.answer "list_classes" source.listClasses
    findDomain := fun id => store.answer "find_domain" (source.findDomain id)
    findDomainByName := fun name =>
      store.answer "find_domain_by_name" (source.findDomainByName name)
    listResources := fun id => store.answer "list_resources" (source.listResources id) }

/-- The grants of the records, of which the chosen lists fail. -/
def grantSource (store : Scripted) : GrantSource :=
  let source := store.records.grantSource
  { listDirect := fun accessor accessed =>
      store.answer "list_direct" (source.listDirect accessor accessed)
    listGlobal := fun accessor classId domain =>
      store.answer "list_global" (source.listGlobal accessor classId domain)
    listCreate := fun accessor classId domain =>
      store.answer "list_create" (source.listCreate accessor classId domain)
    listDomain := fun accessor domain =>
      store.answer "list_domain" (source.listDomain accessor domain)
    listDomainCreate := fun accessor =>
      store.answer "list_domain_create" (source.listDomainCreate accessor)
    listAllGlobal := fun accessor =>
      store.answer "list_all_global" (source.listAllGlobal accessor)
    listAllCreate := fun accessor =>
      store.answer "list_all_create" (source.listAllCreate accessor)
    listAllDomain := fun accessor =>
      store.answer "list_all_domain" (source.listAllDomain accessor) }

/-- The single steps of the hierarchy, of which the chosen ones fail. -/
def hops (store : Scripted) : HopSource :=
  let source := store.records.edges.hops
  { donors := source.donors.guarded fun _ => store.gate "donors"
    parents := source.parents.guarded fun _ => store.gate "parent"
    children := source.children.guarded fun _ => store.gate "children" }

/-- The fixed closure entries, whatever is asked. -/
def native (store : Scripted) : NativeSource where
  accessors _ := store.answer "accessor_rows" (.ok store.accessorEntries)
  ancestors _ := store.answer "ancestor_rows" (.ok store.ancestorEntries)
  descendants _ := store.answer "descendant_rows" (.ok store.descendantEntries)

instance : Store Scripted where
  backend store := ⟨store.directory, store.grantSource, store.hops, store.native⟩
  clearDomain domain := fun store =>
    if domain ∈ store.failingRemovals then (.error (.removalFailed domain), store)
    else (.ok 1, { store with removed := store.removed ++ [domain] })

end Scripted

end Authorization
