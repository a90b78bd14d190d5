import Authorization.Label
import Authorization.Permission.System

/-! The four families of permissions. Each permission may carry a grant option, and what a create
permission wraps has one of its own. -/
namespace Authorization

/-- The name of a permission that a resource class defines. -/
structure CustomName extends Label where
  unreserved : isReservedName text = false
  deriving DecidableEq

inductive PermissionName where
  | system (permission : SystemPermission .resource)
  | custom (name : CustomName)
  deriving DecidableEq

structure ResourcePermission where
  name : PermissionName
  withGrantOption : Bool
  deriving DecidableEq

structure DomainPermission where
  system : SystemPermission .domain
  withGrantOption : Bool
  deriving DecidableEq

/-- What a create permission grants: the creation itself, or a permission on what is created. -/
inductive CreateGrant (π : Type) where
  | create
  | postCreate (permission : π)
  deriving DecidableEq

/-- A permission to create, or to hold a permission after creation. -/
structure CreatePermission (π : Type) where
  grant : CreateGrant π
  withGrantOption : Bool
  deriving DecidableEq

abbrev ResourceCreatePermission := CreatePermission ResourcePermission
abbrev DomainCreatePermission := CreatePermission DomainPermission

/-- What the comparison of permissions needs to know of a family. -/
class Permission (π : Type) extends ToString π where
  family : Family
  /-- Whether the holder may pass the permission on. -/
  withGrantOption : π → Bool
  /-- The grant option of a wrapped permission, if there is one. -/
  postCreateGrantOption : π → Option Bool
  /-- The permission without its own grant option; that of a wrapped permission stays. -/
  plain : π → π
  /-- The permission without any grant option. -/
  bare : π → π
  /-- The permission with every grant option. -/
  regrantable : π → π

/-- How a grant option is written after a permission. -/
def grantSuffix (withGrantOption : Bool) : String :=
  if withGrantOption then " /G" else ""

namespace PermissionName

def text : PermissionName → String
  | system permission => permission.name
  | custom name => name.text

/-- The number of a system permission; custom names have none. -/
def systemId? : PermissionName → Option Int
  | system permission => some permission.id
  | custom _ => none

end PermissionName

namespace ResourcePermission

/-- Whether a permission makes its holder act with all that the accessed resource holds. -/
def isInherit (permission : ResourcePermission) : Bool :=
  permission.name = .system .inherit

instance : Permission ResourcePermission where
  toString permission := permission.name.text ++ grantSuffix permission.withGrantOption
  family := .resource
  withGrantOption := ResourcePermission.withGrantOption
  postCreateGrantOption _ := none
  plain permission := { permission with withGrantOption := false }
  bare permission := { permission with withGrantOption := false }
  regrantable permission := { permission with withGrantOption := true }

end ResourcePermission

namespace DomainPermission

/-- Whether a permission stands for every permission in the domain. -/
def isSuperUser (permission : DomainPermission) : Bool :=
  permission.system = .superUser

instance : Permission DomainPermission where
  toString permission := permission.system.name ++ grantSuffix permission.withGrantOption
  family := .domain
  withGrantOption := DomainPermission.withGrantOption
  postCreateGrantOption _ := none
  plain permission := { permission with withGrantOption := false }
  bare permission := { permission with withGrantOption := false }
  regrantable permission := { permission with withGrantOption := true }

/-- Every domain permission, with the grant option. -/
def allRegrantable : List DomainPermission :=
  (SystemPermission.all .domain).map fun system => ⟨system, true⟩

end DomainPermission

/-- A family whose permissions can be wrapped in create permissions. -/
class Creatable (π : Type) extends Permission π where
  /-- The family of the create permissions. -/
  createFamily : Family
  /-- The system permission that permits the creation. -/
  marker : SystemPermission createFamily

instance : Creatable ResourcePermission where
  createFamily := .resourceCreate
  marker := .createResource

instance : Creatable DomainPermission where
  createFamily := .domainCreate
  marker := .createDomain

namespace CreateGrant

variable {π : Type}

def map {ρ : Type} (f : π → ρ) : CreateGrant π → CreateGrant ρ
  | create => create
  | postCreate permission => postCreate (f permission)

def wrapped? : CreateGrant π → Option π
  | create => none
  | postCreate permission => some permission

end CreateGrant

namespace CreatePermission

variable {π : Type}

/-- A create permission is written as its marker, or as the wrapped permission in brackets. -/
def text [Creatable π] (permission : CreatePermission π) : String :=
  match permission.grant with
  | .create => (@Creatable.marker π _).name
  | .postCreate wrapped => "[" ++ toString wrapped ++ "]"

instance [Creatable π] : Permission (CreatePermission π) where
  toString permission := permission.text ++ grantSuffix permission.withGrantOption
  family := Creatable.createFamily π
  withGrantOption := CreatePermission.withGrantOption
  postCreateGrantOption permission := permission.grant.wrapped?.map Permission.withGrantOption
  plain permission := { permission with withGrantOption := false }
  bare permission := ⟨permission.grant.map Permission.bare, false⟩
  regrantable permission := ⟨permission.grant.map Permission.regrantable, true⟩

def regrantableMarker : CreatePermission π := ⟨.create, true⟩

/-- A permission on what is created, which may itself be passed on. -/
def regrantablePostCreate (permission : π) : CreatePermission π :=
  ⟨.postCreate permission, true⟩

end CreatePermission

namespace DomainCreatePermission

/-- Every domain create permission, with the grant option on both levels. -/
def allRegrantable : List DomainCreatePermission :=
  .regrantableMarker :: DomainPermission.allRegrantable.map .regrantablePostCreate

end DomainCreatePermission

end Authorization
