import Authorization.Resource

/-! What checks read. Each question may fail, and nothing is assumed of the answers. -/
namespace Authorization

structure ClassGrant (π : Type) where
  classId : ResourceClassId
  domainId : DomainId
  permission : π
  deriving DecidableEq

structure DomainGrant (π : Type) where
  domainId : DomainId
  permission : π
  deriving DecidableEq

structure Directory where
  findResource : ResourceId → Except Error (Option Resource)
  findClass : ResourceClassId → Except Error (Option ResourceClass)
  findClassByName : String → Except Error (Option ResourceClass)
  listClasses : Except Error (List ResourceClass)
  findDomain : DomainId → Except Error (Option Domain)
  findDomainByName : String → Except Error (Option Domain)
  listResources : ResourceClassId → Except Error (List Resource)

/-- Lookups of granted permissions, each for the accessor that holds them. -/
structure GrantSource where
  /-- Permissions on one accessed resource. -/
  listDirect : ResourceId → ResourceId → Except Error (List ResourcePermission)
  /-- Permissions on all resources of a class within a domain. -/
  listGlobal : ResourceId → ResourceClassId → DomainId → Except Error (List ResourcePermission)
  /-- Permissions to create resources of a class within a domain. -/
  listCreate : ResourceId → ResourceClassId → DomainId →
    Except Error (List ResourceCreatePermission)
  /-- Permissions on a domain. -/
  listDomain : ResourceId → DomainId → Except Error (List DomainPermission)
  /-- Permissions to create domains. -/
  listDomainCreate : ResourceId → Except Error (List DomainCreatePermission)
  listAllGlobal : ResourceId → Except Error (List (ClassGrant ResourcePermission))
  listAllCreate : ResourceId → Except Error (List (ClassGrant ResourceCreatePermission))
  listAllDomain : ResourceId → Except Error (List (DomainGrant DomainPermission))

end Authorization
