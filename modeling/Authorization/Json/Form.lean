import Authorization.Hierarchy.Closure
import Authorization.Json.Basic
import Authorization.Service.Overview

namespace Authorization

class JsonForm (α : Type) where
  json : α → Json

export JsonForm (json)

instance : JsonForm Json := ⟨id⟩
instance : JsonForm Unit := ⟨fun _ => .null⟩
instance : JsonForm Bool := ⟨.bool⟩
instance : JsonForm Int := ⟨.int⟩
instance : JsonForm Nat := ⟨fun n => .int n⟩
instance : JsonForm String := ⟨.text⟩
instance : JsonForm Label := ⟨fun label => .text label.text⟩
instance {entity : Entity} : JsonForm (Id entity) := ⟨fun id => .int id.value.toInt⟩
instance {α : Type} [JsonForm α] : JsonForm (Option α) := ⟨fun value => value.elim .null json⟩
instance {α : Type} [JsonForm α] : JsonForm (List α) := ⟨fun values => .list (values.map json)⟩
instance : JsonForm Family := ⟨fun family => .text family.word⟩

instance {family : Family} : JsonForm (SystemPermission family) where
  json system := .record
    [("id", json system.id), ("name", json system.name), ("family", json family)]

instance : JsonForm PermissionName where
  json
    | .system system => .record [("kind", .text "system"), ("name", json system)]
    | .custom name => .record [("kind", .text "custom"), ("name", json name.text)]

instance : JsonForm ResourcePermission where
  json permission := .record
    [("name", json permission.name), ("with_grant_option", json permission.withGrantOption)]

instance : JsonForm DomainPermission where
  json permission := .record
    [("system", json permission.system), ("with_grant_option", json permission.withGrantOption)]

instance {π : Type} [JsonForm π] : JsonForm (CreateGrant π) where
  json
    | .create => .record [("kind", .text "create")]
    | .postCreate permission =>
      .record [("kind", .text "post_create"), ("permission", json permission)]

instance {π : Type} [JsonForm π] : JsonForm (CreatePermission π) where
  json permission := .record
    [("grant", json permission.grant), ("with_grant_option", json permission.withGrantOption)]

instance {π : Type} [JsonForm π] : JsonForm (EffectivePermission π) where
  json entry := .record
    [("permission", json entry.permission), ("inherit_level", json entry.inheritLevel),
     ("domain_level", json entry.domainLevel)]

instance : JsonForm Resource where
  json resource := .record
    [("id", json resource.id), ("resource_class_id", json resource.classId),
     ("domain_id", json resource.domainId)]

instance : JsonForm Domain where
  json domain := .record
    [("id", json domain.id), ("name", json domain.name), ("parent_id", json domain.parent?)]

instance : JsonForm ResourceClass where
  json resourceClass := .record
    [("id", json resourceClass.id), ("name", json resourceClass.name),
     ("is_authenticatable", json resourceClass.isAuthenticatable),
     ("permission_names", json (resourceClass.permissionNames.map (·.text)))]

instance {π : Type} [JsonForm π] : JsonForm (ClassGrant π) where
  json grant := .record
    [("resource_class_id", json grant.classId), ("domain_id", json grant.domainId),
     ("permission", json grant.permission)]

instance {π : Type} [JsonForm π] : JsonForm (DomainGrant π) where
  json grant := .record
    [("domain_id", json grant.domainId), ("permission", json grant.permission)]

instance : JsonForm ClosureStrategy := ⟨fun strategy => .text strategy.word⟩

namespace Json

def ofAccessor (entry : Ranked ResourceId) : Json :=
  .record [("inherit_level", json entry.level), ("resource_id", json entry.node)]

def ofAncestor (entry : Ranked DomainId) : Json :=
  .record [("domain_level", json entry.level), ("domain_id", json entry.node)]

def ofDescendant (entry : Ranked DomainId) : Json :=
  .record [("level", json entry.level), ("domain_id", json entry.node)]

/-- The form of an overview: a record of records, by domain name and by class name. -/
def ofOverview {π : Type} [JsonForm π] (overview : PermissionOverview π) : Json :=
  .record (overview.map fun row =>
    (row.1, .record (row.2.map fun cell => (cell.1, json cell.2))))

end Json

end Authorization
