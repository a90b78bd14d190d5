import Authorization.Error

namespace Authorization

/-- A text that is not blank, as it stands. -/
def requireNonblank (text : String) : Except Error String :=
  if Text.trim text = "" then .error .blankValue else .ok text

/-- The label that a text spells; `what` tells what is missing when the text is blank. -/
def Label.require (what : String) (text : String) : Except Error Label :=
  match Label.ofText? text with
  | some label => .ok label
  | none => .error (.required what)

namespace SystemPermission

def ofName (family : Family) (name : String) : Except Error (SystemPermission family) :=
  match byName? family name with
  | some system => .ok system
  | none => .error (.unknownSystemName family name)

def ofId (family : Family) (id : Int) : Except Error (SystemPermission family) :=
  match byId? family id with
  | some system => .ok system
  | none => .error (.unknownSystemId family id)

end SystemPermission

def requirePermissionName (text : String) : Except Error Label :=
  Label.require "permission name" text

namespace ResourcePermission

def ofName (text : String) (withGrantOption : Bool) : Except Error ResourcePermission := do
  let name ← requirePermissionName text
  if h : isReservedName name.text = false then
    return ⟨.custom ⟨name, h⟩, withGrantOption⟩
  else
    let system ← SystemPermission.ofName .resource name.text
    return ⟨.system system, withGrantOption⟩

/-- The permission that a stored name and number stand for; a custom name has no number. -/
def ofStored (id : Option Int) (text : String) (withGrantOption : Bool) :
    Except Error ResourcePermission := do
  let permission ← ofName text withGrantOption
  if permission.name.systemId? = id then return permission
  else throw (.mismatchedResourceId id permission.name.text)

end ResourcePermission

namespace DomainPermission

def ofName (text : String) (withGrantOption : Bool) : Except Error DomainPermission := do
  let name ← requirePermissionName text
  let system ← SystemPermission.ofName .domain name.text
  return ⟨system, withGrantOption⟩

def ofStored (id : Int) (withGrantOption : Bool) : Except Error DomainPermission := do
  let system ← SystemPermission.ofId .domain id
  return ⟨system, withGrantOption⟩

/-- The permission that a name stands for, if the number is the right one. -/
def verify (text : String) (id : Int) (withGrantOption : Bool) : Except Error DomainPermission := do
  let permission ← ofName text withGrantOption
  if permission.system.id = id then return permission
  else throw (.mismatchedDomainId id permission.system.name)

end DomainPermission

namespace CreatePermission

variable {π : Type} [Creatable π]

/-- The permission to create, by the name of its marker. -/
def ofName (text : String) (withGrantOption : Bool) : Except Error (CreatePermission π) := do
  let name ← requirePermissionName text
  let _ ← SystemPermission.ofName (@Creatable.createFamily π _) name.text
  return ⟨.create, withGrantOption⟩

/-- The create permission that a stored row stands for: the row carries either the number of the
marker or a wrapped permission. -/
def ofStored (malformed : Option Int → Option π → Error) (id : Option Int) (wrapped : Option π)
    (withGrantOption : Bool) : Except Error (CreatePermission π) := do
  match id, wrapped with
  | some id, none =>
    let _ ← SystemPermission.ofId (@Creatable.createFamily π _) id
    return ⟨.create, withGrantOption⟩
  | none, some permission => return ⟨.postCreate permission, withGrantOption⟩
  | id, wrapped => throw (malformed id wrapped)

end CreatePermission

def ResourceCreatePermission.ofStored (id : Option Int) (wrapped : Option ResourcePermission)
    (withGrantOption : Bool) : Except Error ResourceCreatePermission :=
  CreatePermission.ofStored .malformedResourceCreate id wrapped withGrantOption

def DomainCreatePermission.ofStored (id : Option Int) (wrapped : Option DomainPermission)
    (withGrantOption : Bool) : Except Error DomainCreatePermission :=
  CreatePermission.ofStored .malformedDomainCreate id wrapped withGrantOption

end Authorization
