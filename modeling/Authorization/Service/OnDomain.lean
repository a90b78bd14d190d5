import Authorization.Service.Basic

namespace Authorization.Service

/-- The distance of the closest super-user grant among collected permissions. -/
def closestSuperUser (collected : List (EffectivePermission DomainPermission)) : Option Proximity :=
  ((collected.filter (·.permission.isSuperUser)).map (·.proximity)).foldl
    (fun found candidate => some (Proximity.closest found candidate)) none

/-- All that the accessor holds on a domain. A super-user grant on it or above it gives
everything. -/
def effectiveDomainPermissions (service : Service) (accessorId : ResourceId) (domainName : String) :
    Except Error (List (EffectivePermission DomainPermission)) := do
  let _ ← service.requireParticipant .accessor accessorId
  let domain ← service.directory.requireDomain domainName
  let accessors ← service.closure.accessors accessorId
  let ancestors ← service.closure.ancestors domain.id
  let collected ← collectScoped accessors ancestors service.grants.listDomain
  resolve (closestSuperUser collected) DomainPermission.allRegrantable (.ok collected)

def hasDomainPermissions (service : Service) (accessorId : ResourceId) (domainName : String)
    (requested : List DomainPermission) : Except Error Bool := do
  requireRequested requested
  let effective ← service.effectiveDomainPermissions accessorId domainName
  return allSatisfied requested effective

def requireDomainPermissions (service : Service) (accessorId : ResourceId) (domainName : String)
    (requested : List DomainPermission) : Except Error Unit := do
  requireRequested requested
  let effective ← service.effectiveDomainPermissions accessorId domainName
  demand requested effective (.missingOnDomain accessorId · domainName)

end Authorization.Service
