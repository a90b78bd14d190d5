import Authorization.Order
import Authorization.Permission.Reading

namespace Authorization

/-- A resource: its handle, its class and the domain that owns it. -/
structure Resource where
  id : ResourceId
  classId : ResourceClassId
  domainId : DomainId
  deriving DecidableEq

structure Domain where
  id : DomainId
  name : Label
  parent? : Option DomainId
  deriving DecidableEq

namespace Domain

def make (id : DomainId) (name : String) (parent? : Option DomainId) : Except Error Domain := do
  let name ← Label.require "domain name" name
  return ⟨id, name, parent?⟩

end Domain

namespace CustomName

instance : LE CustomName where
  le a b := a.text ≤ b.text

instance : LT CustomName where
  lt a b := a.text < b.text

instance : DecidableLE CustomName := fun a b => inferInstanceAs (Decidable (a.text ≤ b.text))

instance : DecidableLT CustomName := fun a b => inferInstanceAs (Decidable (a.text < b.text))

theorem eq_of_text_eq {a b : CustomName} (h : a.text = b.text) : a = b := by
  obtain ⟨⟨_, _, _⟩, _⟩ := a
  obtain ⟨⟨_, _, _⟩, _⟩ := b
  cases h
  rfl

/-- Custom names are ordered as the texts that they are. -/
instance : Std.IsLinearOrder CustomName where
  le_refl a := Std.le_refl a.text
  le_trans _ b _ hab hbc := Std.le_trans (b := b.text) hab hbc
  le_antisymm _ _ hab hba := eq_of_text_eq (Std.le_antisymm hab hba)
  le_total a b := Std.le_total (a := a.text) (b := b.text)

instance : Std.LawfulOrderLT CustomName where
  lt_iff a b := Std.LawfulOrderLT.lt_iff a.text b.text

def require (text : String) : Except Error CustomName := do
  let name ← requirePermissionName text
  if h : isReservedName name.text = false then return ⟨name, h⟩
  else throw (.reservedName name)

end CustomName

/-- A class of resources with the custom permissions that it defines, in ascending order. -/
structure ResourceClass where
  id : ResourceClassId
  name : Label
  isAuthenticatable : Bool
  permissionNames : List CustomName
  ascending : Ascending permissionNames
  deriving DecidableEq

namespace ResourceClass

/-- A class with the names that texts spell. -/
def make (id : ResourceClassId) (name : String) (isAuthenticatable : Bool)
    (permissionNames : List String) : Except Error ResourceClass := do
  let name ← Label.require "resource class name" name
  let names ← permissionNames.mapM CustomName.require
  return ⟨id, name, isAuthenticatable, sortDistinct names, ascending_sortDistinct names⟩

/-- Whether a system permission makes sense on the resources of the class. -/
def admits (resourceClass : ResourceClass) (system : SystemPermission .resource) : Bool :=
  resourceClass.isAuthenticatable || !system.needsAuthenticatable

/-- Refuses a permission that the class does not define. -/
def validate (resourceClass : ResourceClass) (permission : ResourcePermission) :
    Except Error Unit :=
  match permission.name with
  | .system system =>
    if resourceClass.admits system then .ok ()
    else .error (.needsAuthenticatable system.name resourceClass.name)
  | .custom name =>
    if name ∈ resourceClass.permissionNames then .ok ()
    else .error (.undefinedPermission name.text resourceClass.name)

/-- Refuses a create permission that wraps one that the class does not define. -/
def validateCreate (resourceClass : ResourceClass) (permission : ResourceCreatePermission) :
    Except Error Unit :=
  match permission.grant with
  | .create => .ok ()
  | .postCreate wrapped => resourceClass.validate wrapped

/-- Every permission that the class defines, with the grant option. -/
def definedPermissions (resourceClass : ResourceClass) : List ResourcePermission :=
  (((SystemPermission.all .resource).filter resourceClass.admits).map fun system =>
      ⟨.system system, true⟩) ++
    resourceClass.permissionNames.map fun name => ⟨.custom name, true⟩

/-- Every create permission that the class defines, with the grant option on both levels. -/
def definedCreatePermissions (resourceClass : ResourceClass) : List ResourceCreatePermission :=
  .regrantableMarker :: resourceClass.definedPermissions.map .regrantablePostCreate

end ResourceClass

end Authorization
