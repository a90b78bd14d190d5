import Authorization.Permission.Reading

namespace Authorization

/-- Reads a resource handle, with blanks around it. -/
def ResourceId.ofText (text : String) : Except Error ResourceId :=
  match Text.readInt64 (Text.trim text) with
  | .ok value => .ok ⟨value⟩
  | .error reason => .error (.invalidResourceId text reason)

namespace ResourcePermission

/-- What stands behind a permission word that asks for the grant option. -/
def grantMarker : List Char := ['/', 'G']

/-- A text without the grant marker at its end, if it has one. -/
def withoutGrantMarker? (text : String) : Option String :=
  let chars := text.toList
  if grantMarker.isSuffixOf chars then
    some (String.ofList (chars.take (chars.length - grantMarker.length)))
  else none

/-- Reads a permission word; a grant marker at its end asks for the grant option. -/
def ofText (text : String) : Except Error ResourcePermission :=
  match withoutGrantMarker? text with
  | some name => ofName (Text.trimEnd name) true
  | none => ofName text false

end ResourcePermission

inductive Argument where
  | resource (id : ResourceId)
  | permission (permission : ResourcePermission)
  | text (word : String)
  deriving DecidableEq

namespace Argument

def readResource (word : String) : Except Error Argument :=
  (ResourceId.ofText word).map resource

def readPermission (word : String) : Except Error Argument :=
  (ResourcePermission.ofText word).map permission

def readText (word : String) : Except Error Argument :=
  .ok (text word)

def permission? : Argument → Option ResourcePermission
  | .permission value => some value
  | _ => none

end Argument

end Authorization
