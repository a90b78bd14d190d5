import Authorization.Resource

namespace Authorization

/-- A row of a resource permission; the number is absent for a custom name. -/
structure ResourcePermissionRow where
  systemId : Option Int
  name : String
  withGrantOption : Bool
  deriving DecidableEq

/-- A row of a resource create permission. It wraps a permission if it has the name of one. -/
structure ResourceCreateRow where
  systemId : Option Int
  postSystemId : Option Int
  postName : Option String
  postGrantOption : Option Bool
  withGrantOption : Bool
  deriving DecidableEq

structure DomainPermissionRow where
  systemId : Int
  withGrantOption : Bool
  deriving DecidableEq

/-- A row of a domain create permission. It wraps a permission if it has the number of one. -/
structure DomainCreateRow where
  systemId : Option Int
  postSystemId : Option Int
  postGrantOption : Option Bool
  withGrantOption : Bool
  deriving DecidableEq

structure DomainRow where
  id : DomainId
  name : String
  parent? : Option DomainId
  deriving DecidableEq

structure ClassRow where
  id : ResourceClassId
  name : String
  isAuthenticatable : Bool
  permissionNames : List String
  deriving DecidableEq

def ResourcePermissionRow.decode (row : ResourcePermissionRow) : Except Error ResourcePermission :=
  ResourcePermission.ofStored row.systemId row.name row.withGrantOption

/-- A missing grant option of the wrapped permission counts as none. -/
def ResourceCreateRow.decode (row : ResourceCreateRow) : Except Error ResourceCreatePermission := do
  let wrapped ← row.postName.mapM fun name =>
    ResourcePermission.ofStored row.postSystemId name (row.postGrantOption.getD false)
  ResourceCreatePermission.ofStored row.systemId wrapped row.withGrantOption

def DomainPermissionRow.decode (row : DomainPermissionRow) : Except Error DomainPermission :=
  DomainPermission.ofStored row.systemId row.withGrantOption

/-- A missing grant option of the wrapped permission counts as none. -/
def DomainCreateRow.decode (row : DomainCreateRow) : Except Error DomainCreatePermission := do
  let wrapped ← row.postSystemId.mapM fun id =>
    DomainPermission.ofStored id (row.postGrantOption.getD false)
  DomainCreatePermission.ofStored row.systemId wrapped row.withGrantOption

def DomainRow.decode (row : DomainRow) : Except Error Domain :=
  Domain.make row.id row.name row.parent?

/-- A class that cannot be made is bad data, not a bad request. -/
def ClassRow.decode (row : ClassRow) : Except Error ResourceClass :=
  (ResourceClass.make row.id row.name row.isAuthenticatable row.permissionNames).mapError
    (.invalidStoredClass row.name)

/-- A stored level; `what` says of what. -/
def decodeLevel (what : String) (level : Int) : Except Error Nat :=
  match level with
  | .ofNat n => .ok n
  | .negSucc _ => .error (.negativeLevel what level)

/-- Decodes rows in order, up to the first that stands for nothing. -/
def decodeRows {ρ α : Type} (decode : ρ → Except Error α) : List ρ → Except Error (List α)
  | [] => .ok []
  | row :: rows => do
    let value ← decode row
    let values ← decodeRows decode rows
    return value :: values

end Authorization
