import Authorization.Service.Basic

namespace Authorization.Service

/-- What accessors hold on the resources of a class through grants on a chain of domains. -/
def collectGlobal (service : Service) (accessors : List (Ranked ResourceId))
    (ancestors : List (Ranked DomainId)) (classId : ResourceClassId) :
    Except Error (List (EffectivePermission ResourcePermission)) :=
  collectScoped accessors ancestors fun accessor domain =>
    service.grants.listGlobal accessor classId domain

/-- What accessors hold on one resource: directly, or globally on its class and domain. -/
def resolveOnResource (service : Service) (accessors : List (Ranked ResourceId))
    (resource : Resource) (resourceClass : ResourceClass) :
    Except Error (List (EffectivePermission ResourcePermission)) := do
  let ancestors ← service.closure.ancestors resource.domainId
  let superUser ← service.findSuperUser accessors ancestors
  resolve superUser resourceClass.definedPermissions do
    let direct ← collectHeld accessors fun accessor =>
      service.grants.listDirect accessor resource.id
    let global ← service.collectGlobal accessors ancestors resourceClass.id
    return direct ++ global

/-- Checks the arguments, then resolves what the accessor holds on the accessed resource. -/
def checkedOnResource (service : Service) (accessorId accessedId : ResourceId)
    (requested : List ResourcePermission) :
    Except Error (List (EffectivePermission ResourcePermission)) := do
  let _ ← service.requireParticipant .accessor accessorId
  let accessed ← service.requireParticipant .accessed accessedId
  let resourceClass ← service.requireClassOf accessed
  checkAll resourceClass.validate requested
  let accessors ← service.closure.accessors accessorId
  service.resolveOnResource accessors accessed resourceClass

def hasResourcePermissions (service : Service) (accessorId accessedId : ResourceId)
    (requested : List ResourcePermission) : Except Error Bool := do
  requireRequested requested
  let effective ← service.checkedOnResource accessorId accessedId requested
  return allSatisfied requested effective

def requireResourcePermissions (service : Service) (accessorId accessedId : ResourceId)
    (requested : List ResourcePermission) : Except Error Unit := do
  requireRequested requested
  let effective ← service.checkedOnResource accessorId accessedId requested
  demand requested effective (.missingOnResource accessorId · accessedId)

def effectiveResourcePermissions (service : Service) (accessorId accessedId : ResourceId) :
    Except Error (List (EffectivePermission ResourcePermission)) :=
  service.checkedOnResource accessorId accessedId []

/-- Whether the grantor may grant every requested permission on the accessed resource. -/
def canGrantResourcePermissions (service : Service) (grantorId accessedId : ResourceId)
    (requested : List ResourcePermission) : Except Error Bool := do
  requireRequested requested
  let effective ← service.checkedOnResource grantorId accessedId requested
  return requested.all fun wanted =>
    effective.any fun held => Permission.isGrantableFrom wanted held.permission

/-- Checks the arguments, then resolves what the accessor holds on a class within a domain. -/
def checkedGlobal (service : Service) (accessorId : ResourceId) (className : String)
    (domainName : Option String) (requested : List ResourcePermission) :
    Except Error (List (EffectivePermission ResourcePermission)) := do
  let accessor ← service.requireParticipant .accessor accessorId
  let resourceClass ← service.requireClass className
  let domain ← service.resolveDomain accessor domainName
  checkAll resourceClass.validate requested
  let accessors ← service.closure.accessors accessorId
  let ancestors ← service.closure.ancestors domain.id
  let superUser ← service.findSuperUser accessors ancestors
  resolve superUser resourceClass.definedPermissions
    (service.collectGlobal accessors ancestors resourceClass.id)

def hasGlobalResourcePermissions (service : Service) (accessorId : ResourceId) (className : String)
    (domainName : Option String) (requested : List ResourcePermission) : Except Error Bool := do
  requireRequested requested
  let effective ← service.checkedGlobal accessorId className domainName requested
  return allSatisfied requested effective

def effectiveGlobalResourcePermissions (service : Service) (accessorId : ResourceId)
    (className : String) (domainName : Option String) :
    Except Error (List (EffectivePermission ResourcePermission)) :=
  service.checkedGlobal accessorId className domainName []

/-- Those of some resources on which accessors hold every requested permission. -/
def permitted (service : Service) (accessors : List (Ranked ResourceId))
    (resourceClass : ResourceClass) (requested : List ResourcePermission)
    (candidates : List Resource) : Except Error (List Resource) :=
  gather (fun resource => do
    let effective ← service.resolveOnResource accessors resource resourceClass
    return if allSatisfied requested effective then [resource] else []) candidates

/-- Whether a resource lies in one of some domains; without a scope every resource counts. -/
def inScope (scope : Option (List (Ranked DomainId))) (resource : Resource) : Bool :=
  match scope with
  | none => true
  | some descendants => descendants.any fun entry => entry.node = resource.domainId

/-- The resources of a class on which the accessor holds every requested permission. When a domain
is named, only resources in it or below it count. -/
def resourcesByPermissions (service : Service) (accessorId : ResourceId) (className : String)
    (domainName : Option String) (requested : List ResourcePermission) :
    Except Error (List Resource) := do
  requireRequested requested
  let _ ← service.requireParticipant .accessor accessorId
  let resourceClass ← service.requireClass className
  let domain ← domainName.mapM service.directory.requireDomain
  checkAll resourceClass.validate requested
  -- From here on the arguments are known to be good.
  let scope ← domain.mapM fun domain => service.closure.descendants domain.id
  let accessors ← service.closure.accessors accessorId
  let candidates ← service.directory.listResources resourceClass.id
  service.permitted accessors resourceClass requested (candidates.filter (inScope scope))

end Authorization.Service
