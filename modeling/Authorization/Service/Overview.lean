import Authorization.KeyedList
import Authorization.Service.Basic

namespace Authorization

/-- Effective permissions by domain name and class name, both ascending. -/
abbrev PermissionOverview (π : Type) :=
  KeyedList String (KeyedList String (List (EffectivePermission π)))

/-- Effective permissions by domain and class, both ascending by handle. -/
abbrev PermissionCells (π : Type) :=
  KeyedList DomainId (KeyedList ResourceClassId (List (EffectivePermission π)))

namespace PermissionCells

variable {π : Type}

/-- Changes what is collected for a class in a domain. -/
def alter (domain : DomainId) (resourceClass : ResourceClassId)
    (update : List (EffectivePermission π) → List (EffectivePermission π))
    (cells : PermissionCells π) : PermissionCells π :=
  KeyedList.alter domain (fun row =>
    KeyedList.alter resourceClass (fun cell => update (cell.getD [])) (row.getD [])) cells

end PermissionCells

namespace Service

variable {π : Type}

/-- What a grant to a holder gives in each domain below the one that it was made on. -/
def spread (service : Service) (level : Nat) (grant : ClassGrant π) :
    Except Error (List (ClassGrant (EffectivePermission π))) := do
  let descendants ← service.closure.descendants grant.domainId
  return descendants.map fun entry =>
    ⟨grant.classId, entry.node, ⟨grant.permission, level, entry.level⟩⟩

/-- The domains that super-user grants of some accessors cover, with the closest grant of each. -/
def superUserDomains (service : Service) (accessors : List (Ranked ResourceId)) :
    Except Error (KeyedList DomainId Proximity) := do
  let covered ← gather (fun accessor => do
    let held ← service.grants.listAllDomain accessor.node
    gather (fun grant => do
      let descendants ← service.closure.descendants grant.domainId
      return descendants.map fun entry =>
        (entry.node, (⟨accessor.level, entry.level⟩ : Proximity)))
      (held.filter (·.permission.isSuperUser))) accessors
  return covered.foldl (fun entries candidate =>
    entries.alter candidate.1 (Proximity.closest · candidate.2)) []

def collectCells (collected : List (ClassGrant (EffectivePermission π))) : PermissionCells π :=
  collected.foldl (fun cells grant =>
    PermissionCells.alter grant.domainId grant.classId (· ++ [grant.permission]) cells) []

/-- Replaces every cell of a covered domain by all that the class defines. -/
def cover [Permission π] [DecidableEq π] (defined : ResourceClass → List π)
    (classes : List ResourceClass) (covered : KeyedList DomainId Proximity)
    (cells : PermissionCells π) : PermissionCells π :=
  covered.foldl (fun cells entry =>
    classes.foldl (fun cells resourceClass =>
      PermissionCells.alter entry.1 resourceClass.id
        (fun _ => entry.2.expand (defined resourceClass)) cells) cells) cells

def nameDomains (service : Service) (cells : PermissionCells π) :
    Except Error (List (Label × KeyedList ResourceClassId (List (EffectivePermission π)))) :=
  gather (fun row => do
    let domain ← service.directory.findDomain row.1
    let domain ← orFail (.grantedDomainMissing row.1) domain
    return [(domain.name, row.2)]) cells

/-- The name of a class; of several classes with one handle the last counts. -/
def requireClassName (classes : List ResourceClass) (id : ResourceClassId) : Except Error Label :=
  orFail (.grantedClassMissing id)
    ((classes.reverse.find? fun resourceClass => resourceClass.id = id).map (·.name))

def nameClasses (classes : List ResourceClass)
    (rows : List (Label × KeyedList ResourceClassId (List (EffectivePermission π)))) :
    Except Error (List (Label × Label × List (EffectivePermission π))) :=
  gather (fun row => gather (fun cell => do
    let name ← requireClassName classes cell.1
    return [(row.1, name, cell.2)]) row.2) rows

variable [Permission π] [DecidableEq π]

/-- Named cells as an overview; of several cells with the same two names the last counts. -/
def overviewOf (cells : List (Label × Label × List (EffectivePermission π))) :
    PermissionOverview π :=
  cells.foldl (fun overview cell =>
    overview.alter cell.1.text fun row =>
      (row.getD []).insert cell.2.1.text (EffectivePermission.merge cell.2.2)) []

/-- The overview of what an accessor holds through grants for classes within domains. -/
def overview (service : Service) (accessorId : ResourceId)
    (listAll : ResourceId → Except Error (List (ClassGrant π)))
    (defined : ResourceClass → List π) : Except Error (PermissionOverview π) := do
  let _ ← service.requireParticipant .accessor accessorId
  let accessors ← service.closure.accessors accessorId
  let grants ← gather (fun accessor => do
    let held ← listAll accessor.node
    return held.map ((accessor.level, ·))) accessors
  let collected ← gather (fun grant => service.spread grant.1 grant.2) grants
  -- Super-user grants come last, since they replace what was collected.
  let classes ← service.directory.listClasses
  let covered ← service.superUserDomains accessors
  -- All domains are named before any class is, so a missing domain is told first.
  let rows ← service.nameDomains (cover defined classes covered (collectCells collected))
  let cells ← nameClasses classes rows
  return overviewOf cells

/-- What the accessor may create, for every domain and class. -/
def createOverview (service : Service) (accessorId : ResourceId) :
    Except Error (PermissionOverview ResourceCreatePermission) :=
  service.overview accessorId service.grants.listAllCreate ResourceClass.definedCreatePermissions

/-- What the accessor holds on all resources, for every domain and class. -/
def globalOverview (service : Service) (accessorId : ResourceId) :
    Except Error (PermissionOverview ResourcePermission) :=
  service.overview accessorId service.grants.listAllGlobal ResourceClass.definedPermissions

end Service

end Authorization
