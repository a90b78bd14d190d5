import Authorization.Proofs.Failure
import Authorization.Service.OnCreation
import Authorization.Service.OnDomain
import Authorization.Service.OnResource
import Authorization.Service.Overview

/-! Where the errors of a service come from: from its arguments, from what its store refuses, and
from references of the store that lead nowhere. -/
namespace Authorization.Service

variable {service : Service} {sort : Error → Prop} {π δ α : Type}

/-- Whatever a service reads fails only with errors of a sort, and so do references that lead
nowhere. -/
structure Reads (service : Service) (sort : Error → Prop) : Prop where
  findResource : ∀ id, FailsOnly sort (service.directory.findResource id)
  findClass : ∀ id, FailsOnly sort (service.directory.findClass id)
  findClassByName : ∀ name, FailsOnly sort (service.directory.findClassByName name)
  listClasses : FailsOnly sort service.directory.listClasses
  findDomain : ∀ id, FailsOnly sort (service.directory.findDomain id)
  findDomainByName : ∀ name, FailsOnly sort (service.directory.findDomainByName name)
  listResources : ∀ id, FailsOnly sort (service.directory.listResources id)
  listDirect : ∀ accessor accessed, FailsOnly sort (service.grants.listDirect accessor accessed)
  listGlobal : ∀ accessor resourceClass domain,
    FailsOnly sort (service.grants.listGlobal accessor resourceClass domain)
  listCreate : ∀ accessor resourceClass domain,
    FailsOnly sort (service.grants.listCreate accessor resourceClass domain)
  listDomain : ∀ accessor domain, FailsOnly sort (service.grants.listDomain accessor domain)
  listDomainCreate : ∀ accessor, FailsOnly sort (service.grants.listDomainCreate accessor)
  listAllGlobal : ∀ accessor, FailsOnly sort (service.grants.listAllGlobal accessor)
  listAllCreate : ∀ accessor, FailsOnly sort (service.grants.listAllCreate accessor)
  listAllDomain : ∀ accessor, FailsOnly sort (service.grants.listAllDomain accessor)
  accessors : ∀ id, FailsOnly sort (service.closure.accessors id)
  ancestors : ∀ id, FailsOnly sort (service.closure.ancestors id)
  descendants : ∀ id, FailsOnly sort (service.closure.descendants id)
  accessorDomainMissing : ∀ domain accessor, sort (.accessorDomainMissing domain accessor)
  grantedDomainMissing : ∀ id, sort (.grantedDomainMissing id)
  grantedClassMissing : ∀ id, sort (.grantedClassMissing id)

/-- Errors that tell what is wrong with an argument by itself or that it names nothing. -/
def RefusesArguments (sort : Error → Prop) : Prop :=
  ∀ error : Error, error.kind ∈ [.required, .validation, .notFound] → sort error

theorem require_fails (what text : String) :
    FailsOnly (·.kind = .required) (Label.require what text) := by
  unfold Label.require
  cases Label.ofText? text with
  | some label => exact FailsOnly.of_ok rfl
  | none => exact FailsOnly.of_error rfl

theorem requireRequested_fails (requested : List π) :
    FailsOnly (·.kind = .required) (requireRequested requested) := by
  unfold requireRequested
  split
  · exact FailsOnly.of_error rfl
  · exact FailsOnly.of_ok rfl

/-- A check fails as its request is refused, as the report does or as the conclusion. -/
theorem check_fails {β : Type} {requested : List π} {reported : Except Error α}
    {conclude : α → Except Error β} (hrequested : FailsOnly sort (requireRequested requested))
    (hreported : FailsOnly sort reported) (hconclude : ∀ a, FailsOnly sort (conclude a)) :
    FailsOnly sort (do
      requireRequested requested
      let a ← reported
      conclude a) := by
  apply hrequested.bind
  intro _ _
  apply hreported.bind
  intro a _
  exact hconclude a

theorem demand_fails [Permission π] [DecidableEq π] {forbidden : List String → Error}
    (hforbidden : ∀ missing, (forbidden missing).kind = .forbidden) (requested : List π)
    (effective : List (EffectivePermission π)) :
    FailsOnly (·.kind = .forbidden) (demand requested effective forbidden) := by
  unfold demand
  split
  · exact FailsOnly.of_ok rfl
  · exact FailsOnly.of_error (hforbidden _)

theorem validate_fails (resourceClass : ResourceClass) (permission : ResourcePermission) :
    FailsOnly (·.kind = .validation) (resourceClass.validate permission) := by
  unfold ResourceClass.validate
  cases permission.name with
  | system system =>
    dsimp only
    split
    · exact FailsOnly.of_ok rfl
    · exact FailsOnly.of_error rfl
  | custom name =>
    dsimp only
    split
    · exact FailsOnly.of_ok rfl
    · exact FailsOnly.of_error rfl

theorem validateCreate_fails (resourceClass : ResourceClass)
    (permission : ResourceCreatePermission) :
    FailsOnly (·.kind = .validation) (resourceClass.validateCreate permission) := by
  unfold ResourceClass.validateCreate
  cases permission.grant with
  | create => exact FailsOnly.of_ok rfl
  | postCreate wrapped => exact validate_fails resourceClass wrapped

/-- The arguments of a question about a resource are refused only with errors of a sort. -/
structure RefusesOnResource (service : Service) (sort : Error → Prop)
    (accessorId accessedId : ResourceId) (requested : List ResourcePermission) : Prop where
  accessor : FailsOnly sort (service.requireParticipant .accessor accessorId)
  accessed : FailsOnly sort (service.requireParticipant .accessed accessedId)
  classOf : ∀ resource, service.requireParticipant .accessed accessedId = .ok resource →
    FailsOnly sort (service.requireClassOf resource)
  requested : ∀ resource resourceClass,
    service.requireParticipant .accessed accessedId = .ok resource →
    service.requireClassOf resource = .ok resourceClass →
    ∀ wanted ∈ requested, FailsOnly sort (resourceClass.validate wanted)

/-- The arguments of a question about a class are refused only with errors of a sort; `locate` finds
the place that is named or meant, and `validate` says what can be asked for. -/
structure RefusesOnClass (service : Service) (sort : Error → Prop) (accessorId : ResourceId)
    (className : String) (locate : Resource → Except Error δ)
    (validate : ResourceClass → π → Except Error Unit) (requested : List π) : Prop where
  accessor : FailsOnly sort (service.requireParticipant .accessor accessorId)
  named : FailsOnly sort (service.requireClass className)
  located : ∀ resource, service.requireParticipant .accessor accessorId = .ok resource →
    FailsOnly sort (locate resource)
  requested : ∀ resourceClass, service.requireClass className = .ok resourceClass →
    ∀ wanted ∈ requested, FailsOnly sort (validate resourceClass wanted)

/-- Arguments that are checked in this order, and whatever is done with what they name. -/
theorem RefusesOnClass.failsOnly {accessorId : ResourceId} {className : String}
    {locate : Resource → Except Error δ} {validate : ResourceClass → π → Except Error Unit}
    {requested : List π} {next : ResourceClass → δ → Except Error α}
    (h : service.RefusesOnClass sort accessorId className locate validate requested)
    (hnext : ∀ resourceClass located, FailsOnly sort (next resourceClass located)) :
    FailsOnly sort (do
      let resource ← service.requireParticipant .accessor accessorId
      let resourceClass ← service.requireClass className
      let located ← locate resource
      checkAll (validate resourceClass) requested
      next resourceClass located) := by
  apply h.accessor.bind
  intro resource hresource
  apply h.named.bind
  intro resourceClass hclass
  apply (h.located resource hresource).bind
  intro located _
  apply (FailsOnly.checkAll (h.requested resourceClass hclass)).bind
  intro _ _
  exact hnext resourceClass located

namespace Reads

variable (h : service.Reads sort)

include h

theorem requireParticipant (hsort : RefusesArguments sort) (role : Role) (id : ResourceId) :
    FailsOnly sort (service.requireParticipant role id) := by
  apply (h.findResource id).bind
  intro _ _
  exact FailsOnly.orFail fun _ => hsort _ (by simp [Error.kind])

theorem requireClassOf (hsort : RefusesArguments sort) (resource : Resource) :
    FailsOnly sort (service.requireClassOf resource) := by
  apply (h.findClass resource.classId).bind
  intro _ _
  exact FailsOnly.orFail fun _ => hsort _ (by simp [Error.kind])

theorem requireClass (hsort : RefusesArguments sort) (name : String) :
    FailsOnly sort (service.requireClass name) := by
  apply ((require_fails _ name).mono fun error hkind => hsort error (by simp [hkind])).bind
  intro label _
  apply (h.findClassByName label.text).bind
  intro _ _
  exact FailsOnly.orFail fun _ => hsort _ (by simp [Error.kind])

theorem requireDomain (hsort : RefusesArguments sort) (name : String) :
    FailsOnly sort (service.directory.requireDomain name) := by
  apply ((require_fails _ name).mono fun error hkind => hsort error (by simp [hkind])).bind
  intro label _
  apply (h.findDomainByName label.text).bind
  intro _ _
  exact FailsOnly.orFail fun _ => hsort _ (by simp [Error.kind])

/-- The accessor's own domain is found or is a reference that leads nowhere. -/
theorem resolveDomain {accessor : Resource} {name : Option String}
    (hname : ∀ text ∈ name, FailsOnly sort (service.directory.requireDomain text)) :
    FailsOnly sort (service.resolveDomain accessor name) := by
  cases name with
  | some text => exact hname text rfl
  | none =>
    apply (h.findDomain accessor.domainId).bind
    intro _ _
    exact FailsOnly.orFail fun _ => h.accessorDomainMissing _ _

theorem refusesOnResource (hsort : RefusesArguments sort) (accessorId accessedId : ResourceId)
    (requested : List ResourcePermission) :
    service.RefusesOnResource sort accessorId accessedId requested where
  accessor := h.requireParticipant hsort .accessor accessorId
  accessed := h.requireParticipant hsort .accessed accessedId
  classOf resource _ := h.requireClassOf hsort resource
  requested _ resourceClass _ _ wanted _ :=
    (validate_fails resourceClass wanted).mono fun error hkind => hsort error (by simp [hkind])

theorem refusesOnClass (hsort : RefusesArguments sort) (accessorId : ResourceId)
    (className : String) (name : Option String) {validate : ResourceClass → π → Except Error Unit}
    (hvalidate : ∀ resourceClass wanted,
      FailsOnly (·.kind = .validation) (validate resourceClass wanted)) (requested : List π) :
    service.RefusesOnClass sort accessorId className
      (fun resource => service.resolveDomain resource name) validate requested where
  accessor := h.requireParticipant hsort .accessor accessorId
  named := h.requireClass hsort className
  located _ _ := h.resolveDomain fun text _ => h.requireDomain hsort text
  requested resourceClass _ wanted _ :=
    (hvalidate resourceClass wanted).mono fun error hkind => hsort error (by simp [hkind])

omit h in
theorem collectHeld {accessors : List (Ranked ResourceId)}
    {held : ResourceId → Except Error (List π)}
    (hheld : ∀ accessor, FailsOnly sort (held accessor)) :
    FailsOnly sort (collectHeld accessors held) := by
  apply FailsOnly.gather
  intro accessor _
  apply (hheld accessor.node).bind
  intro _ _
  exact FailsOnly.of_ok rfl

omit h in
theorem collectScoped {accessors : List (Ranked ResourceId)} {ancestors : List (Ranked DomainId)}
    {held : ResourceId → DomainId → Except Error (List π)}
    (hheld : ∀ accessor domain, FailsOnly sort (held accessor domain)) :
    FailsOnly sort (collectScoped accessors ancestors held) := by
  apply FailsOnly.gather
  intro accessor _
  apply FailsOnly.gather
  intro ancestor _
  apply (hheld accessor.node ancestor.node).bind
  intro _ _
  exact FailsOnly.of_ok rfl

theorem findSuperUser (accessors : List (Ranked ResourceId)) (ancestors : List (Ranked DomainId)) :
    FailsOnly sort (service.findSuperUser accessors ancestors) := by
  apply FailsOnly.firstAnswer
  intro accessor _
  apply FailsOnly.firstAnswer
  intro ancestor _
  apply (h.listDomain accessor.node ancestor.node).bind
  intro _ _
  exact FailsOnly.of_ok rfl

section Resolve

variable [Permission π] [DecidableEq π]

omit h in
theorem resolve {superUser : Option Proximity} {defined : List π}
    {collected : Except Error (List (EffectivePermission π))}
    (hcollected : FailsOnly sort collected) :
    FailsOnly sort (resolve superUser defined collected) := by
  cases superUser with
  | some proximity => exact FailsOnly.of_ok rfl
  | none => exact hcollected.map _

/-- What accessors hold on a chain of domains that is still to be found. -/
theorem resolveScoped (id : ResourceId) (domain : DomainId) (defined : List π)
    {held : ResourceId → DomainId → Except Error (List π)}
    (hheld : ∀ accessor domain, FailsOnly sort (held accessor domain))
    (next : List (EffectivePermission π) → Except Error α)
    (hnext : ∀ effective, FailsOnly sort (next effective)) :
    FailsOnly sort (do
      let accessors ← service.closure.accessors id
      let ancestors ← service.closure.ancestors domain
      let superUser ← service.findSuperUser accessors ancestors
      let effective ←
        Service.resolve superUser defined (Service.collectScoped accessors ancestors held)
      next effective) := by
  apply (h.accessors id).bind
  intro accessors _
  apply (h.ancestors domain).bind
  intro ancestors _
  apply (h.findSuperUser accessors ancestors).bind
  intro superUser _
  apply (resolve (collectScoped hheld)).bind
  intro effective _
  exact hnext effective

end Resolve

theorem resolveOnResource (accessors : List (Ranked ResourceId)) (resource : Resource)
    (resourceClass : ResourceClass) :
    FailsOnly sort (service.resolveOnResource accessors resource resourceClass) := by
  apply (h.ancestors resource.domainId).bind
  intro ancestors _
  apply (h.findSuperUser accessors ancestors).bind
  intro superUser _
  apply resolve
  have hdirect : FailsOnly sort (Service.collectHeld accessors fun accessor =>
      service.grants.listDirect accessor resource.id) :=
    collectHeld fun accessor => h.listDirect accessor resource.id
  apply hdirect.bind
  intro _ _
  have hglobal : FailsOnly sort (service.collectGlobal accessors ancestors resourceClass.id) :=
    collectScoped fun accessor domain => h.listGlobal accessor resourceClass.id domain
  apply hglobal.bind
  intro _ _
  exact FailsOnly.of_ok rfl

variable {accessorId accessedId : ResourceId} {className : String} {name : Option String}

theorem checkedOnResource {requested : List ResourcePermission}
    (hrefuses : service.RefusesOnResource sort accessorId accessedId requested) :
    FailsOnly sort (service.checkedOnResource accessorId accessedId requested) := by
  apply hrefuses.accessor.bind
  intro _ _
  apply hrefuses.accessed.bind
  intro resource hresource
  apply (hrefuses.classOf resource hresource).bind
  intro resourceClass hclass
  apply (FailsOnly.checkAll (hrefuses.requested resource resourceClass hresource hclass)).bind
  intro _ _
  apply (h.accessors accessorId).bind
  intro accessors _
  exact h.resolveOnResource accessors resource resourceClass

theorem checkedGlobal {requested : List ResourcePermission}
    (hrefuses : service.RefusesOnClass sort accessorId className
      (fun resource => service.resolveDomain resource name) ResourceClass.validate requested) :
    FailsOnly sort (service.checkedGlobal accessorId className name requested) := by
  apply hrefuses.failsOnly
  intro resourceClass domain
  have hheld (holder : ResourceId) (above : DomainId) :
      FailsOnly sort (service.grants.listGlobal holder resourceClass.id above) :=
    h.listGlobal holder resourceClass.id above
  have hresolve := h.resolveScoped accessorId domain.id resourceClass.definedPermissions hheld pure
    fun _ => FailsOnly.of_ok rfl
  simp only [bind_pure] at hresolve
  exact hresolve

theorem checkedCreate {requested : List ResourceCreatePermission}
    (hrefuses : service.RefusesOnClass sort accessorId className
      (fun resource => service.resolveDomain resource name) ResourceClass.validateCreate
      requested) :
    FailsOnly sort (service.checkedCreate accessorId className name requested) := by
  apply hrefuses.failsOnly
  intro resourceClass domain
  apply h.resolveScoped accessorId domain.id
  · exact fun holder above => h.listCreate holder resourceClass.id above
  · exact fun _ => FailsOnly.of_ok rfl

theorem effectiveDomainPermissions {domainName : String}
    (haccessor : FailsOnly sort (service.requireParticipant .accessor accessorId))
    (hdomain : FailsOnly sort (service.directory.requireDomain domainName)) :
    FailsOnly sort (service.effectiveDomainPermissions accessorId domainName) := by
  apply haccessor.bind
  intro _ _
  apply hdomain.bind
  intro domain _
  apply (h.accessors accessorId).bind
  intro accessors _
  apply (h.ancestors domain.id).bind
  intro ancestors _
  apply (collectScoped h.listDomain).bind
  intro _ _
  exact resolve (FailsOnly.of_ok rfl)

theorem effectiveDomainCreatePermissions
    (haccessor : FailsOnly sort (service.requireParticipant .accessor accessorId)) :
    FailsOnly sort (service.effectiveDomainCreatePermissions accessorId) := by
  apply haccessor.bind
  intro _ _
  apply (h.accessors accessorId).bind
  intro accessors _
  apply (collectHeld h.listDomainCreate).bind
  intro _ _
  exact FailsOnly.of_ok rfl

theorem resourcesByPermissions {requested : List ResourcePermission}
    (hrequested : FailsOnly sort (requireRequested requested))
    (hrefuses : service.RefusesOnClass sort accessorId className
      (fun _ => name.mapM service.directory.requireDomain) ResourceClass.validate requested) :
    FailsOnly sort (service.resourcesByPermissions accessorId className name requested) := by
  apply hrequested.bind
  intro _ _
  apply hrefuses.failsOnly
  intro resourceClass limit
  have hscope : FailsOnly sort
      (limit.mapM fun domain => service.closure.descendants domain.id) :=
    FailsOnly.optionMapM fun domain _ => h.descendants domain.id
  apply hscope.bind
  intro _ _
  apply (h.accessors accessorId).bind
  intro accessors _
  apply (h.listResources resourceClass.id).bind
  intro _ _
  apply FailsOnly.gather
  intro resource _
  apply (h.resolveOnResource accessors resource resourceClass).bind
  intro _ _
  exact FailsOnly.of_ok rfl

theorem superUserDomains (accessors : List (Ranked ResourceId)) :
    FailsOnly sort (service.superUserDomains accessors) := by
  have hcovered : FailsOnly sort (gather (fun accessor => do
      let held ← service.grants.listAllDomain accessor.node
      gather (fun grant => do
        let descendants ← service.closure.descendants grant.domainId
        return descendants.map fun entry =>
          (entry.node, (⟨accessor.level, entry.level⟩ : Proximity)))
        (held.filter (·.permission.isSuperUser))) accessors) := by
    apply FailsOnly.gather
    intro accessor _
    apply (h.listAllDomain accessor.node).bind
    intro _ _
    apply FailsOnly.gather
    intro grant _
    apply (h.descendants grant.domainId).bind
    intro _ _
    exact FailsOnly.of_ok rfl
  apply hcovered.bind
  intro _ _
  exact FailsOnly.of_ok rfl

theorem nameDomains (cells : PermissionCells π) : FailsOnly sort (service.nameDomains cells) := by
  apply FailsOnly.gather
  intro row _
  apply (h.findDomain row.1).bind
  intro found _
  have hfound : FailsOnly sort (orFail (.grantedDomainMissing row.1) found) :=
    FailsOnly.orFail fun _ => h.grantedDomainMissing row.1
  apply hfound.bind
  intro _ _
  exact FailsOnly.of_ok rfl

theorem nameClasses (classes : List ResourceClass)
    (rows : List (Label × KeyedList ResourceClassId (List (EffectivePermission π)))) :
    FailsOnly sort (nameClasses classes rows) := by
  apply FailsOnly.gather
  intro row _
  apply FailsOnly.gather
  intro cell _
  have hnamed : FailsOnly sort (requireClassName classes cell.1) :=
    FailsOnly.orFail fun _ => h.grantedClassMissing cell.1
  apply hnamed.bind
  intro _ _
  exact FailsOnly.of_ok rfl

theorem overview [Permission π] [DecidableEq π]
    {listAll : ResourceId → Except Error (List (ClassGrant π))}
    (hlist : ∀ accessor, FailsOnly sort (listAll accessor)) (defined : ResourceClass → List π)
    (haccessor : FailsOnly sort (service.requireParticipant .accessor accessorId)) :
    FailsOnly sort (service.overview accessorId listAll defined) := by
  apply haccessor.bind
  intro _ _
  apply (h.accessors accessorId).bind
  intro accessors _
  have hgrants : FailsOnly sort (gather (fun accessor => do
      let held ← listAll accessor.node
      return held.map ((accessor.level, ·))) accessors) := by
    apply FailsOnly.gather
    intro accessor _
    apply (hlist accessor.node).bind
    intro _ _
    exact FailsOnly.of_ok rfl
  apply hgrants.bind
  intro grants _
  have hcollected : FailsOnly sort
      (gather (fun grant => service.spread grant.1 grant.2) grants) := by
    apply FailsOnly.gather
    intro grant _
    apply (h.descendants grant.2.domainId).bind
    intro _ _
    exact FailsOnly.of_ok rfl
  apply hcollected.bind
  intro _ _
  apply h.listClasses.bind
  intro classes _
  apply (h.superUserDomains accessors).bind
  intro _ _
  apply (h.nameDomains _).bind
  intro rows _
  apply (h.nameClasses classes rows).bind
  intro _ _
  exact FailsOnly.of_ok rfl

end Reads

end Authorization.Service
