import Authorization.Service.Basic

namespace Authorization.Service

/-- Checks the arguments, then resolves what the accessor may create of a class within a domain.
-/
def checkedCreate (service : Service) (accessorId : ResourceId) (className : String)
    (domainName : Option String) (requested : List ResourceCreatePermission) :
    Except Error (Domain × List (EffectivePermission ResourceCreatePermission)) := do
  let accessor ← service.requireParticipant .accessor accessorId
  let resourceClass ← service.requireClass className
  let domain ← service.resolveDomain accessor domainName
  checkAll resourceClass.validateCreate requested
  let accessors ← service.closure.accessors accessorId
  let ancestors ← service.closure.ancestors domain.id
  let superUser ← service.findSuperUser accessors ancestors
  let effective ← resolve superUser resourceClass.definedCreatePermissions
    (collectScoped accessors ancestors fun accessor domain =>
      service.grants.listCreate accessor resourceClass.id domain)
  return (domain, effective)

def hasResourceCreatePermissions (service : Service) (accessorId : ResourceId) (className : String)
    (domainName : Option String) (requested : List ResourceCreatePermission) :
    Except Error Bool := do
  requireRequested requested
  let (_, effective) ← service.checkedCreate accessorId className domainName requested
  return allSatisfied requested effective

def requireResourceCreatePermissions (service : Service) (accessorId : ResourceId)
    (className : String) (domainName : Option String)
    (requested : List ResourceCreatePermission) : Except Error Unit := do
  requireRequested requested
  let (domain, effective) ← service.checkedCreate accessorId className domainName requested
  demand requested effective (.missingForClass accessorId · className domain.name)

def effectiveResourceCreatePermissions (service : Service) (accessorId : ResourceId)
    (className : String) (domainName : Option String) :
    Except Error (List (EffectivePermission ResourceCreatePermission)) := do
  let (_, effective) ← service.checkedCreate accessorId className domainName []
  return effective

/-- All domain create permissions that the accessor holds. They belong to no domain. -/
def effectiveDomainCreatePermissions (service : Service) (accessorId : ResourceId) :
    Except Error (List (EffectivePermission DomainCreatePermission)) := do
  let _ ← service.requireParticipant .accessor accessorId
  let accessors ← service.closure.accessors accessorId
  let collected ← collectHeld accessors service.grants.listDomainCreate
  return EffectivePermission.merge collected

def hasDomainCreatePermissions (service : Service) (accessorId : ResourceId)
    (requested : List DomainCreatePermission) : Except Error Bool := do
  requireRequested requested
  let effective ← service.effectiveDomainCreatePermissions accessorId
  return allSatisfied requested effective

end Authorization.Service
