import Authorization.Proofs.Lookup
import Authorization.Proofs.Store.Run
import Authorization.Service.OnCreation
import Authorization.Service.OnDomain
import Authorization.Service.OnResource
import Authorization.Service.Overview

/-! Objections to arguments. Every method looks up all that it was asked about before it walks, so
the first objection is the answer whatever the grants and the closures are. -/
namespace Authorization

/-- What a directory knows of the resources, classes and domains that are named to it. -/
structure Lookups where
  resource? : ResourceId → Option Resource
  class? : ResourceClassId → Option ResourceClass
  classNamed? : String → Option ResourceClass
  domain? : DomainId → Option Domain
  domainNamed? : String → Option Domain

/-- A directory whose lookups never fail. Its listings may. -/
structure Directory.Answers (directory : Directory) (lookups : Lookups) : Prop where
  findResource : ∀ id, directory.findResource id = .ok (lookups.resource? id)
  findClass : ∀ id, directory.findClass id = .ok (lookups.class? id)
  findClassByName : ∀ text, directory.findClassByName text = .ok (lookups.classNamed? text)
  findDomain : ∀ id, directory.findDomain id = .ok (lookups.domain? id)
  findDomainByName : ∀ text, directory.findDomainByName text = .ok (lookups.domainNamed? text)

namespace Objection

/-- Something that was looked up is not there. -/
def missing {α : Type} (error : Error) (found : Option α) : Option Error :=
  if found.isSome then none else some error

/-- Nothing is requested. -/
def empty {π : Type} (requested : List π) : Option Error :=
  if requested = [] then some (.required "at least one requested permission") else none

/-- A name is blank, or there is nothing of this name. -/
def unnamed {α : Type} (what text : String) (named? : String → Option α) (error : Label → Error) :
    Option Error :=
  match Label.ofText? text with
  | none => some (.required what)
  | some label => missing (error label) (named? label.text)

/-- Some request is refused; of several refusals the first counts. -/
def invalid {π : Type} (validate : π → Except Error Unit) (requested : List π) : Option Error :=
  requested.findSome? fun wanted =>
    match validate wanted with
    | .error error => some error
    | .ok _ => none

end Objection

namespace Lookups

variable (lookups : Lookups)

def participant (role : Role) (id : ResourceId) : Option Error :=
  Objection.missing (.participantNotFound role id) (lookups.resource? id)

/-- The class of a resource that exists is not there. -/
def classOf (id : ResourceId) : Option Error :=
  (lookups.resource? id).bind fun resource =>
    Objection.missing (.classOfResourceNotFound resource.classId resource.id)
      (lookups.class? resource.classId)

/-- A request that the class of an existing resource does not define. -/
def requested (id : ResourceId) (wanted : List ResourcePermission) : Option Error :=
  ((lookups.resource? id).bind fun resource => lookups.class? resource.classId).bind
    fun resourceClass => Objection.invalid resourceClass.validate wanted

def className (text : String) : Option Error :=
  Objection.unnamed "resource class name" text lookups.classNamed? .classNameNotFound

def domainName (text : String) : Option Error :=
  Objection.unnamed "domain name" text lookups.domainNamed? .domainNameNotFound

/-- The domain that is named is not there, or, where none is named, that of the accessor. -/
def scope (accessor : ResourceId) : Option String → Option Error
  | some text => lookups.domainName text
  | none =>
    (lookups.resource? accessor).bind fun resource =>
      Objection.missing (.accessorDomainMissing resource.domainId resource.id)
        (lookups.domain? resource.domainId)

/-- The domain that is named is not there. None need be named. -/
def limit (name : Option String) : Option Error :=
  name.bind lookups.domainName

/-- A request that the class of this name refuses. -/
def requestedOf {π : Type} (text : String)
    (validate : ResourceClass → π → Except Error Unit) (wanted : List π) : Option Error :=
  ((Label.ofText? text).bind fun label => lookups.classNamed? label.text).bind
    fun resourceClass => Objection.invalid (validate resourceClass) wanted

/-- The objections to a question on one resource, in the order in which they are raised. -/
def onResource (accessor accessed : ResourceId) (wanted : List ResourcePermission) :
    List (Option Error) :=
  [lookups.participant .accessor accessor, lookups.participant .accessed accessed,
    lookups.classOf accessed, lookups.requested accessed wanted]

/-- The objections to a question on a class, in the order in which they are raised. What there may be
to object to the place comes before the requests. -/
def onClass {π : Type} (accessor : ResourceId) (text : String) (place : Option Error)
    (validate : ResourceClass → π → Except Error Unit) (wanted : List π) : List (Option Error) :=
  [lookups.participant .accessor accessor, lookups.className text, place,
    lookups.requestedOf text validate wanted]

/-- The objections to a question on a class within a domain. -/
def onScope {π : Type} (accessor : ResourceId) (text : String) (name : Option String)
    (validate : ResourceClass → π → Except Error Unit) (wanted : List π) : List (Option Error) :=
  lookups.onClass accessor text (lookups.scope accessor name) validate wanted

/-- The objections to a question on a domain, in the order in which they are raised. -/
def onDomain (accessor : ResourceId) (text : String) : List (Option Error) :=
  [lookups.participant .accessor accessor, lookups.domainName text]

end Lookups

/-- A check fails with an objection if there is one, and passes otherwise. -/
def Objects {α : Type} (objection : Option Error) (check : Except Error α) : Prop :=
  ∀ error, check = .error error ↔ objection = some error

/-- The first objection that there is, is the answer. -/
def Raises {α : Type} (objections : List (Option Error)) (answer : Except Error α) : Prop :=
  ∀ error, objections.findSome? id = some error → answer = .error error

/-- The first objection that there is, is the answer to both of two questions. -/
def BothRaise {α : Type} (objections : List (Option Error)) (answer answer' : Except Error α) :
    Prop :=
  ∀ error, objections.findSome? id = some error → answer = .error error ∧ answer' = .error error

section Raising

variable {α β : Type} {objection : Option Error} {objections : List (Option Error)}

theorem raises_nil (answer : Except Error α) : Raises [] answer := by
  intro error herror
  cases herror

/-- One check of several: either it fails, or what it found is there for those that follow. -/
theorem Raises.cons {first : Except Error α} {next : α → Except Error β}
    (hfirst : Objects objection first) (hnext : ∀ a, first = .ok a → Raises objections (next a)) :
    Raises (objection :: objections) (first >>= next) := by
  intro error herror
  cases first with
  | error other =>
    have hother : objection = some other := (hfirst other).mp rfl
    rw [hother] at herror
    cases herror
    rfl
  | ok a =>
    cases objection with
    | some other => exact nomatch (hfirst other).mpr rfl
    | none => exact hnext a rfl error herror

/-- What is done with an answer does not change an error. -/
theorem Raises.bind {answer : Except Error α} (h : Raises objections answer)
    (next : α → Except Error β) : Raises objections (answer >>= next) := by
  intro error herror
  rw [h error herror]
  rfl

theorem objects_error (error : Error) : Objects (some error) (.error error : Except Error α) := by
  intro other
  rw [Except.error.injEq, Option.some.injEq]

theorem objects_ok (a : α) : Objects none (.ok a : Except Error α) := by
  intro error
  exact ⟨nofun, nofun⟩

theorem Objects.map {check : Except Error α} (h : Objects objection check) (f : α → β) :
    Objects objection (f <$> check) := by
  intro error
  rw [← h error]
  cases check with
  | error other => exact ⟨fun herror => congrArg _ (Except.error.inj herror), fun herror => by
      cases herror
      rfl⟩
  | ok a => exact ⟨nofun, nofun⟩

theorem objects_orFail {found : Option α} {lookup : Except Error (Option α)}
    (h : lookup = .ok found) (missing : Error) :
    Objects (Objection.missing missing found) (lookup >>= orFail missing) := by
  rw [h]
  cases found with
  | none => exact objects_error missing
  | some a => exact objects_ok a

theorem objects_requireRequested {π : Type} (requested : List π) :
    Objects (Objection.empty requested) (Service.requireRequested requested) := by
  cases requested with
  | nil => exact objects_error _
  | cons wanted requested => exact objects_ok _

theorem objects_checkAll {π : Type} (validate : π → Except Error Unit) (requested : List π) :
    Objects (Objection.invalid validate requested) (checkAll validate requested) := by
  induction requested with
  | nil => exact objects_ok _
  | cons wanted requested ih =>
    rw [checkAll, Objection.invalid, List.findSome?_cons]
    cases validate wanted with
    | error error => exact objects_error error
    | ok _ => exact ih

/-- A name is looked up when it is not blank. -/
theorem objects_named {named? : String → Option α} {lookup : String → Except Error (Option α)}
    (h : ∀ text, lookup text = .ok (named? text)) (what text : String) (missing : Label → Error) :
    Objects (Objection.unnamed what text named? missing) (do
      let label ← Label.require what text
      let found ← lookup label.text
      orFail (missing label) found) := by
  unfold Objection.unnamed Label.require
  cases Label.ofText? text with
  | none => exact objects_error _
  | some label => exact objects_orFail (h label.text) (missing label)

end Raising

namespace Service

variable {service : Service} {lookups : Lookups} (h : service.directory.Answers lookups)

include h

theorem objects_requireParticipant (role : Role) (id : ResourceId) :
    Objects (lookups.participant role id) (service.requireParticipant role id) :=
  objects_orFail (h.findResource id) _

theorem requireParticipant_found {role : Role} {id : ResourceId} {resource : Resource}
    (hfound : service.requireParticipant role id = .ok resource) :
    lookups.resource? id = some resource := by
  unfold requireParticipant at hfound
  rw [bind_of_eq_ok (h.findResource id)] at hfound
  exact orFail_eq_ok_iff.mp hfound

theorem objects_requireClassOf {id : ResourceId} {resource : Resource}
    (hresource : lookups.resource? id = some resource) :
    Objects (lookups.classOf id) (service.requireClassOf resource) := by
  rw [Lookups.classOf, hresource]
  exact objects_orFail (h.findClass resource.classId) _

theorem requireClassOf_found {resource : Resource} {resourceClass : ResourceClass}
    (hfound : service.requireClassOf resource = .ok resourceClass) :
    lookups.class? resource.classId = some resourceClass := by
  unfold requireClassOf at hfound
  rw [bind_of_eq_ok (h.findClass resource.classId)] at hfound
  exact orFail_eq_ok_iff.mp hfound

theorem objects_requireClass (text : String) :
    Objects (lookups.className text) (service.requireClass text) :=
  objects_named h.findClassByName _ text _

theorem requireClass_found {text : String} {resourceClass : ResourceClass}
    (hfound : service.requireClass text = .ok resourceClass) :
    ((Label.ofText? text).bind fun label => lookups.classNamed? label.text) =
      some resourceClass := by
  unfold requireClass Label.require at hfound
  cases hlabel : Label.ofText? text with
  | none =>
    rw [hlabel] at hfound
    cases hfound
  | some label =>
    rw [hlabel, bind_of_eq_ok rfl, bind_of_eq_ok (h.findClassByName label.text)] at hfound
    exact orFail_eq_ok_iff.mp hfound

theorem objects_requireDomain (text : String) :
    Objects (lookups.domainName text) (service.directory.requireDomain text) :=
  objects_named h.findDomainByName _ text _

theorem objects_resolveDomain {accessor : ResourceId} {resource : Resource}
    (hresource : lookups.resource? accessor = some resource) (name : Option String) :
    Objects (lookups.scope accessor name) (service.resolveDomain resource name) := by
  cases name with
  | some text => exact objects_requireDomain h text
  | none =>
    rw [Lookups.scope, hresource]
    exact objects_orFail (h.findDomain resource.domainId) _

theorem objects_limit (name : Option String) :
    Objects (lookups.limit name) (name.mapM service.directory.requireDomain) := by
  cases name with
  | none => exact objects_ok _
  | some text =>
    rw [Option.mapM_some]
    exact (objects_requireDomain h text).map some

theorem checkedOnResource_raises (accessor accessed : ResourceId)
    (requested : List ResourcePermission) :
    Raises (lookups.onResource accessor accessed requested)
      (service.checkedOnResource accessor accessed requested) := by
  apply Raises.cons (objects_requireParticipant h .accessor accessor)
  intro _ _
  apply Raises.cons (objects_requireParticipant h .accessed accessed)
  intro resource hresource
  have hfound := requireParticipant_found h hresource
  apply Raises.cons (objects_requireClassOf h hfound)
  intro resourceClass hclass
  have hrequested : lookups.requested accessed requested =
      Objection.invalid resourceClass.validate requested := by
    rw [Lookups.requested, hfound, Option.bind_some, requireClassOf_found h hclass,
      Option.bind_some]
  rw [hrequested]
  apply Raises.cons (objects_checkAll _ requested)
  intro _ _
  exact raises_nil _

/-- Checks of a class and of a place, and whatever is done with what they found. -/
theorem class_raises {π α δ : Type} (accessor : ResourceId) (text : String) {place : Option Error}
    {locate : Resource → Except Error δ}
    (hlocate : ∀ {resource}, lookups.resource? accessor = some resource →
      Objects place (locate resource))
    (validate : ResourceClass → π → Except Error Unit) (requested : List π)
    (next : ResourceClass → δ → Except Error α) :
    Raises (lookups.onClass accessor text place validate requested) (do
      let resource ← service.requireParticipant .accessor accessor
      let resourceClass ← service.requireClass text
      let located ← locate resource
      checkAll (validate resourceClass) requested
      next resourceClass located) := by
  apply Raises.cons (objects_requireParticipant h .accessor accessor)
  intro resource hresource
  apply Raises.cons (objects_requireClass h text)
  intro resourceClass hclass
  apply Raises.cons (hlocate (requireParticipant_found h hresource))
  intro located _
  have hrequested : lookups.requestedOf text validate requested =
      Objection.invalid (validate resourceClass) requested := by
    rw [Lookups.requestedOf, requireClass_found h hclass, Option.bind_some]
  rw [hrequested]
  apply Raises.cons (objects_checkAll _ requested)
  intro _ _
  exact raises_nil _

theorem checkedGlobal_raises (accessor : ResourceId) (text : String) (name : Option String)
    (requested : List ResourcePermission) :
    Raises (lookups.onScope accessor text name ResourceClass.validate requested)
      (service.checkedGlobal accessor text name requested) :=
  class_raises h accessor text (fun hresource => objects_resolveDomain h hresource name)
    ResourceClass.validate requested _

theorem checkedCreate_raises (accessor : ResourceId) (text : String) (name : Option String)
    (requested : List ResourceCreatePermission) :
    Raises (lookups.onScope accessor text name ResourceClass.validateCreate requested)
      (service.checkedCreate accessor text name requested) :=
  class_raises h accessor text (fun hresource => objects_resolveDomain h hresource name)
    ResourceClass.validateCreate requested _

theorem resourcesByPermissions_raises (accessor : ResourceId) (text : String)
    (name : Option String) (requested : List ResourcePermission) :
    Raises (Objection.empty requested ::
        lookups.onClass accessor text (lookups.limit name) ResourceClass.validate requested)
      (service.resourcesByPermissions accessor text name requested) := by
  apply Raises.cons (objects_requireRequested requested)
  intro _ _
  exact class_raises h accessor text (fun _ => objects_limit h name) ResourceClass.validate
    requested _

theorem participant_raises {α : Type} (accessor : ResourceId) (next : Except Error α) :
    Raises [lookups.participant .accessor accessor] (do
      let _ ← service.requireParticipant .accessor accessor
      next) := by
  apply Raises.cons (objects_requireParticipant h .accessor accessor)
  intro _ _
  exact raises_nil _

theorem effectiveDomainPermissions_raises (accessor : ResourceId) (text : String) :
    Raises (lookups.onDomain accessor text)
      (service.effectiveDomainPermissions accessor text) := by
  apply Raises.cons (objects_requireParticipant h .accessor accessor)
  intro _ _
  apply Raises.cons (objects_requireDomain h text)
  intro _ _
  exact raises_nil _

end Service

/-- A check of what is reported first wants something to check. -/
theorem Raises.check {π α β : Type} {objections : List (Option Error)} {reported : Except Error α}
    (h : Raises objections reported) (requested : List π) (conclude : α → Except Error β) :
    Raises (Objection.empty requested :: objections) (do
      Service.requireRequested requested
      let a ← reported
      conclude a) := by
  apply Raises.cons (objects_requireRequested requested)
  intro _ _
  exact h.bind conclude

namespace Service

/-- Two services raise the same objections, whatever they are asked. -/
structure ObjectAlike (lookups : Lookups) (service service' : Service) : Prop where
  hasResourcePermissions : ∀ accessor accessed requested,
    BothRaise (Objection.empty requested :: lookups.onResource accessor accessed requested)
      (service.hasResourcePermissions accessor accessed requested)
      (service'.hasResourcePermissions accessor accessed requested)
  requireResourcePermissions : ∀ accessor accessed requested,
    BothRaise (Objection.empty requested :: lookups.onResource accessor accessed requested)
      (service.requireResourcePermissions accessor accessed requested)
      (service'.requireResourcePermissions accessor accessed requested)
  effectiveResourcePermissions : ∀ accessor accessed,
    BothRaise (lookups.onResource accessor accessed [])
      (service.effectiveResourcePermissions accessor accessed)
      (service'.effectiveResourcePermissions accessor accessed)
  canGrantResourcePermissions : ∀ grantor accessed requested,
    BothRaise (Objection.empty requested :: lookups.onResource grantor accessed requested)
      (service.canGrantResourcePermissions grantor accessed requested)
      (service'.canGrantResourcePermissions grantor accessed requested)
  hasGlobalResourcePermissions : ∀ accessor text name requested,
    BothRaise (Objection.empty requested ::
        lookups.onScope accessor text name ResourceClass.validate requested)
      (service.hasGlobalResourcePermissions accessor text name requested)
      (service'.hasGlobalResourcePermissions accessor text name requested)
  effectiveGlobalResourcePermissions : ∀ accessor text name,
    BothRaise (lookups.onScope accessor text name ResourceClass.validate [])
      (service.effectiveGlobalResourcePermissions accessor text name)
      (service'.effectiveGlobalResourcePermissions accessor text name)
  resourcesByPermissions : ∀ accessor text name requested,
    BothRaise (Objection.empty requested ::
        lookups.onClass accessor text (lookups.limit name) ResourceClass.validate requested)
      (service.resourcesByPermissions accessor text name requested)
      (service'.resourcesByPermissions accessor text name requested)
  hasResourceCreatePermissions : ∀ accessor text name requested,
    BothRaise (Objection.empty requested ::
        lookups.onScope accessor text name ResourceClass.validateCreate requested)
      (service.hasResourceCreatePermissions accessor text name requested)
      (service'.hasResourceCreatePermissions accessor text name requested)
  requireResourceCreatePermissions : ∀ accessor text name requested,
    BothRaise (Objection.empty requested ::
        lookups.onScope accessor text name ResourceClass.validateCreate requested)
      (service.requireResourceCreatePermissions accessor text name requested)
      (service'.requireResourceCreatePermissions accessor text name requested)
  effectiveResourceCreatePermissions : ∀ accessor text name,
    BothRaise (lookups.onScope accessor text name ResourceClass.validateCreate [])
      (service.effectiveResourceCreatePermissions accessor text name)
      (service'.effectiveResourceCreatePermissions accessor text name)
  hasDomainCreatePermissions : ∀ accessor requested,
    BothRaise [Objection.empty requested, lookups.participant .accessor accessor]
      (service.hasDomainCreatePermissions accessor requested)
      (service'.hasDomainCreatePermissions accessor requested)
  effectiveDomainCreatePermissions : ∀ accessor,
    BothRaise [lookups.participant .accessor accessor]
      (service.effectiveDomainCreatePermissions accessor)
      (service'.effectiveDomainCreatePermissions accessor)
  hasDomainPermissions : ∀ accessor text requested,
    BothRaise (Objection.empty requested :: lookups.onDomain accessor text)
      (service.hasDomainPermissions accessor text requested)
      (service'.hasDomainPermissions accessor text requested)
  requireDomainPermissions : ∀ accessor text requested,
    BothRaise (Objection.empty requested :: lookups.onDomain accessor text)
      (service.requireDomainPermissions accessor text requested)
      (service'.requireDomainPermissions accessor text requested)
  effectiveDomainPermissions : ∀ accessor text,
    BothRaise (lookups.onDomain accessor text)
      (service.effectiveDomainPermissions accessor text)
      (service'.effectiveDomainPermissions accessor text)
  createOverview : ∀ accessor,
    BothRaise [lookups.participant .accessor accessor] (service.createOverview accessor)
      (service'.createOverview accessor)
  globalOverview : ∀ accessor,
    BothRaise [lookups.participant .accessor accessor] (service.globalOverview accessor)
      (service'.globalOverview accessor)

/-- A question that raises objections over whatever grants and closures, raises the same over any
two choices of them. -/
theorem bothRaise {α : Type} {directory : Directory} {lookups : Lookups}
    {objections : List (Option Error)} (h : directory.Answers lookups)
    (grants grants' : GrantSource) (closure closure' : HierarchyClosure)
    (ask : Service → Except Error α)
    (hraises : ∀ {service : Service}, service.directory.Answers lookups →
      Raises objections (ask service)) :
    BothRaise objections (ask ⟨directory, grants, closure⟩)
      (ask ⟨directory, grants', closure'⟩) := by
  intro error herror
  exact ⟨hraises h error herror, hraises h error herror⟩

/-- Where the directory answers, the first objection to the arguments is the answer of every method,
by whatever grants and closures the service works, and so two services that share the directory
cannot be told apart by it. -/
theorem objections_come_first {directory : Directory} {lookups : Lookups}
    (h : directory.Answers lookups) (grants grants' : GrantSource)
    (closure closure' : HierarchyClosure) :
    ObjectAlike lookups ⟨directory, grants, closure⟩ ⟨directory, grants', closure'⟩ := by
  constructor
  case hasResourcePermissions =>
    intro accessor accessed requested
    apply bothRaise h _ _ _ _ (·.hasResourcePermissions accessor accessed requested)
    exact fun h => (checkedOnResource_raises h accessor accessed requested).check requested _
  case requireResourcePermissions =>
    intro accessor accessed requested
    apply bothRaise h _ _ _ _ (·.requireResourcePermissions accessor accessed requested)
    exact fun h => (checkedOnResource_raises h accessor accessed requested).check requested _
  case effectiveResourcePermissions =>
    intro accessor accessed
    apply bothRaise h _ _ _ _ (·.effectiveResourcePermissions accessor accessed)
    exact fun h => checkedOnResource_raises h accessor accessed []
  case canGrantResourcePermissions =>
    intro grantor accessed requested
    apply bothRaise h _ _ _ _ (·.canGrantResourcePermissions grantor accessed requested)
    exact fun h => (checkedOnResource_raises h grantor accessed requested).check requested _
  case hasGlobalResourcePermissions =>
    intro accessor text name requested
    apply bothRaise h _ _ _ _ (·.hasGlobalResourcePermissions accessor text name requested)
    exact fun h => (checkedGlobal_raises h accessor text name requested).check requested _
  case effectiveGlobalResourcePermissions =>
    intro accessor text name
    apply bothRaise h _ _ _ _ (·.effectiveGlobalResourcePermissions accessor text name)
    exact fun h => checkedGlobal_raises h accessor text name []
  case resourcesByPermissions =>
    intro accessor text name requested
    apply bothRaise h _ _ _ _ (·.resourcesByPermissions accessor text name requested)
    exact fun h => resourcesByPermissions_raises h accessor text name requested
  case hasResourceCreatePermissions =>
    intro accessor text name requested
    apply bothRaise h _ _ _ _ (·.hasResourceCreatePermissions accessor text name requested)
    exact fun h => (checkedCreate_raises h accessor text name requested).check requested _
  case requireResourceCreatePermissions =>
    intro accessor text name requested
    apply bothRaise h _ _ _ _ (·.requireResourceCreatePermissions accessor text name requested)
    exact fun h => (checkedCreate_raises h accessor text name requested).check requested _
  case effectiveResourceCreatePermissions =>
    intro accessor text name
    apply bothRaise h _ _ _ _ (·.effectiveResourceCreatePermissions accessor text name)
    exact fun h => (checkedCreate_raises h accessor text name []).bind _
  case hasDomainCreatePermissions =>
    intro accessor requested
    apply bothRaise h _ _ _ _ (·.hasDomainCreatePermissions accessor requested)
    exact fun h => (participant_raises h accessor _).check requested _
  case effectiveDomainCreatePermissions =>
    intro accessor
    apply bothRaise h _ _ _ _ (·.effectiveDomainCreatePermissions accessor)
    exact fun h => participant_raises h accessor _
  case hasDomainPermissions =>
    intro accessor text requested
    apply bothRaise h _ _ _ _ (·.hasDomainPermissions accessor text requested)
    exact fun h => (effectiveDomainPermissions_raises h accessor text).check requested _
  case requireDomainPermissions =>
    intro accessor text requested
    apply bothRaise h _ _ _ _ (·.requireDomainPermissions accessor text requested)
    exact fun h => (effectiveDomainPermissions_raises h accessor text).check requested _
  case effectiveDomainPermissions =>
    intro accessor text
    apply bothRaise h _ _ _ _ (·.effectiveDomainPermissions accessor text)
    exact fun h => effectiveDomainPermissions_raises h accessor text
  case createOverview =>
    intro accessor
    apply bothRaise h _ _ _ _ (·.createOverview accessor)
    exact fun h => participant_raises h accessor _
  case globalOverview =>
    intro accessor
    apply bothRaise h _ _ _ _ (·.globalOverview accessor)
    exact fun h => participant_raises h accessor _

end Service

/-- What lookups among records find. -/
def Records.lookups (records : Records) : Lookups where
  resource? := records.findResource?
  class? := records.findClass?
  classNamed? := records.findClassByName?
  domain? := records.findDomain?
  domainNamed? := records.findDomainByName?

theorem Memory.answers_lookups (memory : Memory) :
    memory.directory.Answers memory.records.lookups where
  findResource _ := rfl
  findClass _ := rfl
  findClassByName _ := rfl
  findDomain _ := rfl
  findDomainByName _ := rfl

/-- Grants that cannot be read. -/
def GrantSource.failing (error : Error) : GrantSource where
  listDirect _ _ := .error error
  listGlobal _ _ _ := .error error
  listCreate _ _ _ := .error error
  listDomain _ _ := .error error
  listDomainCreate _ := .error error
  listAllGlobal _ := .error error
  listAllCreate _ := .error error
  listAllDomain _ := .error error

/-- Closures that cannot be computed. -/
def HierarchyClosure.failing (error : Error) : HierarchyClosure where
  accessors _ := .error error
  ancestors _ := .error error
  descendants _ := .error error

namespace Office

/-- The service over the office when neither a grant nor a closure can be read. -/
def stalled : Service :=
  ⟨store.directory, .failing (.operationFailed "list"), .failing (.operationFailed "walk")⟩

/-- The clerk is told by either service that a domain name is blank, and that a file does not exist.
Who requests nothing is told so before anything is looked up. -/
theorem clerk_told_of_arguments :
    stalled.hasGlobalResourcePermissions clerk.id "document" (some " ") [view] =
        .error (.required "domain name") ∧
      ((Store.backend store).service .iterative).hasGlobalResourcePermissions clerk.id "document"
          (some " ") [view] = .error (.required "domain name") ∧
      stalled.effectiveResourcePermissions clerk.id ⟨9⟩ =
        .error (.participantNotFound .accessed ⟨9⟩) ∧
      stalled.hasResourcePermissions ⟨9⟩ file.id [] =
        .error (.required "at least one requested permission") := by
  have halike := Service.objections_come_first store.answers_lookups stalled.grants
    store.grantSource stalled.closure ((Store.backend store).closure .iterative)
  have hblank := halike.hasGlobalResourcePermissions clerk.id "document" (some " ") [view]
    (.required "domain name") (by decide)
  have hfile := halike.effectiveResourcePermissions clerk.id ⟨9⟩
    (.participantNotFound .accessed ⟨9⟩) (by decide)
  have hnothing := halike.hasResourcePermissions ⟨9⟩ file.id []
    (.required "at least one requested permission") (by decide)
  exact ⟨hblank.1, hblank.2, hfile.1, hnothing.1⟩

end Office

end Authorization
