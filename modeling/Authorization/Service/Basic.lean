import Authorization.Effective
import Authorization.Gather
import Authorization.Hierarchy.Closure
import Authorization.Source

/-! The authorization service. Arguments are checked before any walk, and nothing is remembered
between questions. -/
namespace Authorization

structure Service where
  directory : Directory
  grants : GrantSource
  closure : HierarchyClosure

/-- What a super-user grant at this distance gives: every permission that there is. -/
def Proximity.expand {π : Type} [Permission π] [DecidableEq π] (proximity : Proximity)
    (defined : List π) : List (EffectivePermission π) :=
  EffectivePermission.merge
    (defined.map (⟨·, proximity.inheritLevel, proximity.domainLevel⟩))

def Directory.requireDomain (directory : Directory) (name : String) : Except Error Domain := do
  let name ← Label.require "domain name" name
  let domain ← directory.findDomainByName name.text
  orFail (.domainNameNotFound name) domain

namespace Service

variable {π : Type}

/-- A check needs something to check. -/
def requireRequested (requested : List π) : Except Error Unit :=
  if requested.isEmpty then .error (.required "at least one requested permission") else .ok ()

def requireParticipant (service : Service) (role : Role) (id : ResourceId) :
    Except Error Resource := do
  let resource ← service.directory.findResource id
  orFail (.participantNotFound role id) resource

def requireClass (service : Service) (name : String) : Except Error ResourceClass := do
  let name ← Label.require "resource class name" name
  let resourceClass ← service.directory.findClassByName name.text
  orFail (.classNameNotFound name) resourceClass

def requireClassOf (service : Service) (resource : Resource) : Except Error ResourceClass := do
  let resourceClass ← service.directory.findClass resource.classId
  orFail (.classOfResourceNotFound resource.classId resource.id) resourceClass

/-- The named domain, or the domain of the accessor when none is named. -/
def resolveDomain (service : Service) (accessor : Resource) (name : Option String) :
    Except Error Domain := do
  match name with
  | some name => service.directory.requireDomain name
  | none =>
    let domain ← service.directory.findDomain accessor.domainId
    orFail (.accessorDomainMissing accessor.domainId accessor.id) domain

/-- What each accessor holds by itself, at its inheritance level. -/
def collectHeld (accessors : List (Ranked ResourceId))
    (held : ResourceId → Except Error (List π)) : Except Error (List (EffectivePermission π)) :=
  gather (fun accessor => do
    let permissions ← held accessor.node
    return permissions.map (⟨·, accessor.level, 0⟩)) accessors

/-- What each accessor holds on each domain of a chain, at the levels of the two. -/
def collectScoped (accessors : List (Ranked ResourceId)) (ancestors : List (Ranked DomainId))
    (held : ResourceId → DomainId → Except Error (List π)) :
    Except Error (List (EffectivePermission π)) :=
  gather (fun accessor => gather (fun ancestor => do
    let permissions ← held accessor.node ancestor.node
    return permissions.map (⟨·, accessor.level, ancestor.level⟩)) ancestors) accessors

/-- The closest super-user grant of some accessors on a chain of domains. Both lists are sorted by
level, so it is the first that is found. -/
def findSuperUser (service : Service) (accessors : List (Ranked ResourceId))
    (ancestors : List (Ranked DomainId)) : Except Error (Option Proximity) :=
  firstAnswer (fun accessor => firstAnswer (fun ancestor => do
    let permissions ← service.grants.listDomain accessor.node ancestor.node
    return if permissions.any DomainPermission.isSuperUser
      then some ⟨accessor.level, ancestor.level⟩ else none) ancestors) accessors

variable [Permission π] [DecidableEq π]

/-- A super-user has every defined permission; anyone else has what was collected. -/
def resolve (superUser : Option Proximity) (defined : List π)
    (collected : Except Error (List (EffectivePermission π))) :
    Except Error (List (EffectivePermission π)) :=
  match superUser with
  | some proximity => .ok (proximity.expand defined)
  | none => collected.map EffectivePermission.merge

/-- Whether some effective permission covers a request. -/
def covers (effective : List (EffectivePermission π)) (wanted : π) : Bool :=
  effective.any fun held => Permission.isSatisfiedBy wanted held.permission

def allSatisfied (requested : List π) (effective : List (EffectivePermission π)) : Bool :=
  requested.all (covers effective)

/-- The requests that nothing covers, as messages show them. -/
def missing (requested : List π) (effective : List (EffectivePermission π)) : List String :=
  (requested.filter fun wanted => !covers effective wanted).map toString

/-- Passes if every request is covered; `forbidden` tells of those that are not. -/
def demand (requested : List π) (effective : List (EffectivePermission π))
    (forbidden : List String → Error) : Except Error Unit :=
  if allSatisfied requested effective then .ok ()
  else .error (forbidden (missing requested effective))

end Service

end Authorization
