import Authorization.Gather
import Authorization.Hierarchy.Paths
import Authorization.Store.Backend
import Authorization.Store.GrantTables
import Authorization.Store.Row

/-! The table store. Nothing is assumed of its rows, and every statement may be refused; what one
statement of a transaction did counts only if all of them were run. -/
namespace Authorization

/-- Grant tables that hold undecoded rows. -/
abbrev RowTables :=
  GrantTables ResourcePermissionRow ResourceCreateRow DomainPermissionRow DomainCreateRow

structure Tables where
  domains : List DomainRow := []
  classes : List ClassRow := []
  resources : List Resource := []
  grants : RowTables := {}

/-- Tables, and the statements that the database refuses with its reasons. -/
structure Database where
  tables : Tables := {}
  refusals : List (String × String) := []

namespace Tables

/-- The class rows as statements see them, with their permission names sorted. -/
def classRows (tables : Tables) : List ClassRow :=
  tables.classes.map fun row =>
    { row with permissionNames := row.permissionNames.mergeSort fun a b => decide (a ≤ b) }

def byName {κ : Type} (rows : GrantRows κ ResourcePermissionRow) :
    GrantRows κ ResourcePermissionRow :=
  rows.mergeSort fun a b => decide (a.2.name ≤ b.2.name)

/-- Rows in descending order of the number of the permission. -/
def bySystemId {κ : Type} (rows : GrantRows κ DomainPermissionRow) :
    GrantRows κ DomainPermissionRow :=
  rows.mergeSort fun a b => decide (b.2.systemId ≤ a.2.systemId)

def byScope {ρ : Type} (rows : GrantRows ClassKey ρ) : GrantRows ClassKey ρ :=
  rows.mergeSort fun a b =>
    a.1.domainId < b.1.domainId || (a.1.domainId = b.1.domainId && a.1.classId ≤ b.1.classId)

def byDomain {ρ : Type} (rows : GrantRows DomainKey ρ) : GrantRows DomainKey ρ :=
  rows.mergeSort fun a b => decide (a.1.domainId ≤ b.1.domainId)

/-- The edges of the hierarchy. A row is an inherit permission by its number, whatever its name.
-/
def edges (tables : Tables) : HierarchyEdges where
  donors := (tables.grants.direct.filter (·.2.systemId = some SystemPermission.inherit.id)).map
    fun row => (row.1.accessor, row.1.accessed)
  domains := tables.domains.map fun row => (row.id, row.parent?)

end Tables

namespace Database

def gate (database : Database) (statement : Statement) : Except Error Unit :=
  match database.refusals.lookup statement.name with
  | some reason => .error (.statementRefused statement reason)
  | none => .ok ()

def query {ρ α : Type} (database : Database) (statement : Statement) (decode : ρ → Except Error α)
    (rows : List ρ) : Except Error (List α) := do
  database.gate statement
  decodeRows decode rows

/-- Runs a statement that gives at most one row, and decodes it. -/
def queryOne {ρ α : Type} (database : Database) (statement : Statement)
    (decode : ρ → Except Error α) (row : Option ρ) : Except Error (Option α) := do
  database.gate statement
  row.mapM decode

/-- Lookups by statement; every row that is read is decoded. -/
def directory (database : Database) : Directory :=
  let tables := database.tables
  { findResource := fun id =>
      database.queryOne (.findResource id) .ok (tables.resources.find? (·.id = id))
    findClass := fun id =>
      database.queryOne .findClass ClassRow.decode (tables.classRows.find? (·.id = id))
    findClassByName := fun name =>
      database.queryOne .findClassByName ClassRow.decode (tables.classRows.find? (·.name = name))
    listClasses :=
      database.query .listClasses ClassRow.decode
        (tables.classRows.mergeSort fun a b => a.id ≤ b.id)
    findDomain := fun id =>
      database.queryOne (.findDomain id) DomainRow.decode (tables.domains.find? (·.id = id))
    findDomainByName := fun name =>
      database.queryOne (.findDomainByName name) DomainRow.decode
        (tables.domains.find? (·.name = name))
    listResources := fun classId =>
      database.query .listResources .ok
        ((tables.resources.filter (·.classId = classId)).mergeSort fun a b => a.id ≤ b.id) }

/-- Decodes the permission of a row and keeps what its key says of class and domain. -/
def decodeClassGrant {ρ π : Type} (decode : ρ → Except Error π) (row : ClassKey × ρ) :
    Except Error (ClassGrant π) := do
  let permission ← decode row.2
  return ⟨row.1.classId, row.1.domainId, permission⟩

def decodeDomainGrant {ρ π : Type} (decode : ρ → Except Error π) (row : DomainKey × ρ) :
    Except Error (DomainGrant π) := do
  let permission ← decode row.2
  return ⟨row.1.domainId, permission⟩

/-- Grants by statement; the first row that cannot be decoded fails the list. -/
def grantSource (database : Database) : GrantSource :=
  let grants := database.tables.grants
  { listDirect := fun accessor accessed =>
      database.query .listDirect ResourcePermissionRow.decode
        ((Tables.byName grants.direct).held ⟨accessor, accessed⟩)
    listGlobal := fun accessor classId domain =>
      database.query .listGlobal ResourcePermissionRow.decode
        ((Tables.byName grants.global).held ⟨accessor, classId, domain⟩)
    listCreate := fun accessor classId domain =>
      database.query .listCreate ResourceCreateRow.decode
        (grants.create.held ⟨accessor, classId, domain⟩)
    listDomain := fun accessor domain =>
      database.query .listDomain DomainPermissionRow.decode
        ((Tables.bySystemId grants.domain).held ⟨accessor, domain⟩)
    listDomainCreate := fun accessor =>
      database.query .listDomainCreate DomainCreateRow.decode (grants.domainCreate.held accessor)
    listAllGlobal := fun accessor =>
      database.query (.listAllGlobal accessor) (decodeClassGrant ResourcePermissionRow.decode)
        (Tables.byScope ((Tables.byName grants.global).filter (·.1.accessor = accessor)))
    listAllCreate := fun accessor =>
      database.query (.listAllCreate accessor) (decodeClassGrant ResourceCreateRow.decode)
        (Tables.byScope (grants.create.filter (·.1.accessor = accessor)))
    listAllDomain := fun accessor =>
      database.query (.listAllDomain accessor) (decodeDomainGrant DomainPermissionRow.decode)
        (Tables.byDomain ((Tables.bySystemId grants.domain).filter (·.1.accessor = accessor))) }

/-- Single hops, by statements that list neighbours in ascending order. A refused statement about
parents names the domain. -/
def hops (database : Database) : HopSource :=
  let source := database.tables.edges.hops
  { donors := source.donors.distinct.guarded fun _ => database.gate .donors
    parents := source.parents.guarded (checkAll fun id => database.gate (.parent id))
    children := source.children.distinct.guarded fun _ => database.gate .children }

def native (database : Database) : NativeSource :=
  let source := database.tables.edges.recursive
  { accessors := fun id => do
      database.gate (.accessorClosure id)
      source.accessors id
    ancestors := fun id => do
      database.gate (.ancestorClosure id)
      source.ancestors id
    descendants := fun id => do
      database.gate (.descendantClosure id)
      source.descendants id }

/-- Deletes the rows of one grant table that belong to a domain, and counts them. -/
def deleteScoped (database : Database) (domain : DomainId) (table : ScopedTable)
    (grants : RowTables) : Except Error (Nat × RowTables) := do
  database.gate (.delete table domain)
  return (grants.countIn domain table, grants.clear domain table)

/-- The grants that are left when a domain is cleared, and the number of deleted rows. -/
def clearTransaction (database : Database) (domain : DomainId) :
    Except Error (Nat × RowTables) := do
  -- The statements work on a copy; only a commit makes it the contents.
  database.gate .begin
  let (creates, grants) ← database.deleteScoped domain .create database.tables.grants
  let (globals, grants) ← database.deleteScoped domain .global grants
  let (domains, grants) ← database.deleteScoped domain .domain grants
  database.gate .commit
  return (creates + globals + domains, grants)

instance : Store Database where
  backend database := ⟨database.directory, database.grantSource, database.hops, database.native⟩
  clearDomain domain := fun database =>
    match database.clearTransaction domain with
    | .error error => (.error error, database)
    | .ok (count, grants) =>
      (.ok count, { database with tables := { database.tables with grants } })

end Database

end Authorization
