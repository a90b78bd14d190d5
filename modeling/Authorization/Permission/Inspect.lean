import Authorization.Permission.Basic
import Authorization.Text.Quoted

namespace Authorization

def inspectRecord (name : String) (fields : List (String × String)) : String :=
  let parts := fields.map fun field => field.1 ++ ": " ++ field.2
  name ++ " \x7b " ++ ", ".intercalate parts ++ " \x7d"

def inspectOption (value : Option String) : String :=
  match value with
  | none => "None"
  | some text => "Some(" ++ text ++ ")"

def inspectBool (value : Bool) : String :=
  if value then "true" else "false"

def inspectId (id : Option Int) : String :=
  inspectOption (id.map toString)

/-- The structural word for a family. -/
def Family.inspect : Family → String
  | resource => "Resource"
  | resourceCreate => "ResourceCreate"
  | domain => "Domain"
  | domainCreate => "DomainCreate"

def SystemPermission.inspect {family : Family} (system : SystemPermission family) : String :=
  inspectRecord "SystemPermission"
    [("id", toString system.id), ("name", Text.quoted system.name), ("family", family.inspect)]

def PermissionName.inspect : PermissionName → String
  | system permission => "System(" ++ permission.inspect ++ ")"
  | custom name => "Custom(NonEmptyString(" ++ Text.quoted name.text ++ "))"

def ResourcePermission.inspect (permission : ResourcePermission) : String :=
  inspectRecord "ResourcePermission"
    [("name", permission.name.inspect),
     ("with_grant_option", inspectBool permission.withGrantOption)]

def DomainPermission.inspect (permission : DomainPermission) : String :=
  inspectRecord "DomainPermission"
    [("system", permission.system.inspect),
     ("with_grant_option", inspectBool permission.withGrantOption)]

end Authorization
