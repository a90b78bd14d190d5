import Authorization.Proofs.Agree
import Authorization.Proofs.KeyedList
import Authorization.Service.OnCreation
import Authorization.Service.OnDomain
import Authorization.Service.OnResource
import Authorization.Service.Overview

/-! What a difference between two services bears on. It is said by resources, classes and domains,
not by questions: a question is spared if what it asks about is. -/
namespace Authorization

/-- What a difference bears on: single resources, all resources of a class or their creation within
a domain, domains, and the creation of domains. -/
structure Bearing where
  resource : Resource → Prop
  global : ResourceClassId → DomainId → Prop
  create : ResourceClassId → DomainId → Prop
  domain : DomainId → Prop
  domainCreate : Prop

def Bearing.nothing : Bearing :=
  ⟨fun _ => False, fun _ _ => False, fun _ _ => False, fun _ => False, False⟩

/-- All answers of a service about one accessor. -/
structure Answers where
  hasResourcePermissions : ResourceId → List ResourcePermission → Except Error Bool
  requireResourcePermissions : ResourceId → List ResourcePermission → Except Error Unit
  canGrantResourcePermissions : ResourceId → List ResourcePermission → Except Error Bool
  effectiveResourcePermissions :
    ResourceId → Except Error (List (EffectivePermission ResourcePermission))
  hasGlobalResourcePermissions :
    String → Option String → List ResourcePermission → Except Error Bool
  effectiveGlobalResourcePermissions :
    String → Option String → Except Error (List (EffectivePermission ResourcePermission))
  resourcesByPermissions :
    String → Option String → List ResourcePermission → Except Error (List Resource)
  hasResourceCreatePermissions :
    String → Option String → List ResourceCreatePermission → Except Error Bool
  requireResourceCreatePermissions :
    String → Option String → List ResourceCreatePermission → Except Error Unit
  effectiveResourceCreatePermissions :
    String → Option String → Except Error (List (EffectivePermission ResourceCreatePermission))
  hasDomainPermissions : String → List DomainPermission → Except Error Bool
  requireDomainPermissions : String → List DomainPermission → Except Error Unit
  effectiveDomainPermissions :
    String → Except Error (List (EffectivePermission DomainPermission))
  hasDomainCreatePermissions : List DomainCreatePermission → Except Error Bool
  effectiveDomainCreatePermissions :
    Except Error (List (EffectivePermission DomainCreatePermission))
  globalOverview : Except Error (PermissionOverview ResourcePermission)
  createOverview : Except Error (PermissionOverview ResourceCreatePermission)

namespace Service

def answers (service : Service) (id : ResourceId) : Answers where
  hasResourcePermissions := service.hasResourcePermissions id
  requireResourcePermissions := service.requireResourcePermissions id
  canGrantResourcePermissions := service.canGrantResourcePermissions id
  effectiveResourcePermissions := service.effectiveResourcePermissions id
  hasGlobalResourcePermissions := service.hasGlobalResourcePermissions id
  effectiveGlobalResourcePermissions := service.effectiveGlobalResourcePermissions id
  resourcesByPermissions := service.resourcesByPermissions id
  hasResourceCreatePermissions := service.hasResourceCreatePermissions id
  requireResourceCreatePermissions := service.requireResourceCreatePermissions id
  effectiveResourceCreatePermissions := service.effectiveResourceCreatePermissions id
  hasDomainPermissions := service.hasDomainPermissions id
  requireDomainPermissions := service.requireDomainPermissions id
  effectiveDomainPermissions := service.effectiveDomainPermissions id
  hasDomainCreatePermissions := service.hasDomainCreatePermissions id
  effectiveDomainCreatePermissions := service.effectiveDomainCreatePermissions id
  globalOverview := service.globalOverview id
  createOverview := service.createOverview id

/-- The resource that is asked about, if it exists, is not borne on. -/
def SparesResource (service : Service) (bears : Resource → Prop) (id : ResourceId) : Prop :=
  ∀ resource, service.requireParticipant .accessed id = .ok resource → ¬bears resource

/-- The class and the domain that an accessor asks about, if they exist, are not borne on. -/
def SparesClass (service : Service) (bears : ResourceClassId → DomainId → Prop) (id : ResourceId)
    (className : String) (name : Option String) : Prop :=
  ∀ accessor resourceClass domain, service.requireParticipant .accessor id = .ok accessor →
    service.requireClass className = .ok resourceClass →
    service.resolveDomain accessor name = .ok domain → ¬bears resourceClass.id domain.id

/-- The domain that is asked about, if it exists, is not borne on. -/
def SparesDomain (service : Service) (bears : DomainId → Prop) (name : String) : Prop :=
  ∀ domain, service.directory.requireDomain name = .ok domain → ¬bears domain.id

/-- Two services that tell an accessor the same about everything that a bearing spares. Lists of
resources have the same resources of those that are spared, in the same order, and overviews have
the same in the cells that are spared. -/
structure SameBut (bearing : Bearing) (service other : Service) (id : ResourceId) : Prop where
  hasResourcePermissions : ∀ accessed, service.SparesResource bearing.resource accessed →
    ∀ requested, other.hasResourcePermissions id accessed requested =
      service.hasResourcePermissions id accessed requested
  requireResourcePermissions : ∀ accessed, service.SparesResource bearing.resource accessed →
    ∀ requested, other.requireResourcePermissions id accessed requested =
      service.requireResourcePermissions id accessed requested
  canGrantResourcePermissions : ∀ accessed, service.SparesResource bearing.resource accessed →
    ∀ requested, other.canGrantResourcePermissions id accessed requested =
      service.canGrantResourcePermissions id accessed requested
  effectiveResourcePermissions : ∀ accessed, service.SparesResource bearing.resource accessed →
    other.effectiveResourcePermissions id accessed =
      service.effectiveResourcePermissions id accessed
  hasGlobalResourcePermissions : ∀ className name,
    service.SparesClass bearing.global id className name →
    ∀ requested, other.hasGlobalResourcePermissions id className name requested =
      service.hasGlobalResourcePermissions id className name requested
  effectiveGlobalResourcePermissions : ∀ className name,
    service.SparesClass bearing.global id className name →
    other.effectiveGlobalResourcePermissions id className name =
      service.effectiveGlobalResourcePermissions id className name
  resourcesByPermissions : ∀ kept : Resource → Bool,
    (∀ resource, kept resource = true → ¬bearing.resource resource) →
    ∀ className name requested,
      (other.resourcesByPermissions id className name requested).map (·.filter kept) =
        (service.resourcesByPermissions id className name requested).map (·.filter kept)
  hasResourceCreatePermissions : ∀ className name,
    service.SparesClass bearing.create id className name →
    ∀ requested, other.hasResourceCreatePermissions id className name requested =
      service.hasResourceCreatePermissions id className name requested
  requireResourceCreatePermissions : ∀ className name,
    service.SparesClass bearing.create id className name →
    ∀ requested, other.requireResourceCreatePermissions id className name requested =
      service.requireResourceCreatePermissions id className name requested
  effectiveResourceCreatePermissions : ∀ className name,
    service.SparesClass bearing.create id className name →
    other.effectiveResourceCreatePermissions id className name =
      service.effectiveResourceCreatePermissions id className name
  hasDomainPermissions : ∀ name, service.SparesDomain bearing.domain name →
    ∀ requested, other.hasDomainPermissions id name requested =
      service.hasDomainPermissions id name requested
  requireDomainPermissions : ∀ name, service.SparesDomain bearing.domain name →
    ∀ requested, other.requireDomainPermissions id name requested =
      service.requireDomainPermissions id name requested
  effectiveDomainPermissions : ∀ name, service.SparesDomain bearing.domain name →
    other.effectiveDomainPermissions id name = service.effectiveDomainPermissions id name
  hasDomainCreatePermissions : ¬bearing.domainCreate →
    ∀ requested, other.hasDomainCreatePermissions id requested =
      service.hasDomainCreatePermissions id requested
  effectiveDomainCreatePermissions : ¬bearing.domainCreate →
    other.effectiveDomainCreatePermissions id = service.effectiveDomainCreatePermissions id
  globalOverview :
    Agree (Table.SameIn fun row column =>
        service.SparesClass bearing.global id column (some row))
      (service.globalOverview id) (other.globalOverview id)
  createOverview :
    Agree (Table.SameIn fun row column =>
        service.SparesClass bearing.create id column (some row))
      (service.createOverview id) (other.createOverview id)

variable {bearing : Bearing} {service other : Service} {accessor : ResourceId}

/-- Methods ask the store only through what they check or resolve. -/
theorem SameBut.of_checked
    (hresource : ∀ accessed, service.SparesResource bearing.resource accessed → ∀ requested,
      other.checkedOnResource accessor accessed requested =
        service.checkedOnResource accessor accessed requested)
    (hglobal : ∀ className name, service.SparesClass bearing.global accessor className name →
      ∀ requested, other.checkedGlobal accessor className name requested =
        service.checkedGlobal accessor className name requested)
    (hcreate : ∀ className name, service.SparesClass bearing.create accessor className name →
      ∀ requested, other.checkedCreate accessor className name requested =
        service.checkedCreate accessor className name requested)
    (hdomain : ∀ name, service.SparesDomain bearing.domain name →
      other.effectiveDomainPermissions accessor name =
        service.effectiveDomainPermissions accessor name)
    (hdomainCreate : ¬bearing.domainCreate →
      other.effectiveDomainCreatePermissions accessor =
        service.effectiveDomainCreatePermissions accessor)
    (hlist : ∀ kept : Resource → Bool,
      (∀ resource, kept resource = true → ¬bearing.resource resource) →
      ∀ className name requested,
        (other.resourcesByPermissions accessor className name requested).map (·.filter kept) =
          (service.resourcesByPermissions accessor className name requested).map (·.filter kept))
    (hglobalOverview : Agree (Table.SameIn fun row column =>
        service.SparesClass bearing.global accessor column (some row))
      (service.globalOverview accessor) (other.globalOverview accessor))
    (hcreateOverview : Agree (Table.SameIn fun row column =>
        service.SparesClass bearing.create accessor column (some row))
      (service.createOverview accessor) (other.createOverview accessor)) :
    SameBut bearing service other accessor where
  hasResourcePermissions accessed hspared requested := by
    rw [Service.hasResourcePermissions, hresource accessed hspared]
    rfl
  requireResourcePermissions accessed hspared requested := by
    rw [Service.requireResourcePermissions, hresource accessed hspared]
    rfl
  canGrantResourcePermissions accessed hspared requested := by
    rw [Service.canGrantResourcePermissions, hresource accessed hspared]
    rfl
  effectiveResourcePermissions accessed hspared := hresource accessed hspared []
  hasGlobalResourcePermissions className name hspared requested := by
    rw [Service.hasGlobalResourcePermissions, hglobal className name hspared]
    rfl
  effectiveGlobalResourcePermissions className name hspared := hglobal className name hspared []
  resourcesByPermissions := hlist
  hasResourceCreatePermissions className name hspared requested := by
    rw [Service.hasResourceCreatePermissions, hcreate className name hspared]
    rfl
  requireResourceCreatePermissions className name hspared requested := by
    rw [Service.requireResourceCreatePermissions, hcreate className name hspared]
    rfl
  effectiveResourceCreatePermissions className name hspared := by
    rw [Service.effectiveResourceCreatePermissions, hcreate className name hspared]
    rfl
  hasDomainPermissions name hspared requested := by
    rw [Service.hasDomainPermissions, hdomain name hspared]
    rfl
  requireDomainPermissions name hspared requested := by
    rw [Service.requireDomainPermissions, hdomain name hspared]
    rfl
  effectiveDomainPermissions := hdomain
  hasDomainCreatePermissions hspared requested := by
    rw [Service.hasDomainCreatePermissions, hdomainCreate hspared]
    rfl
  effectiveDomainCreatePermissions := hdomainCreate
  globalOverview := hglobalOverview
  createOverview := hcreateOverview

/-- What bears on nothing changes no answer. -/
theorem SameBut.answers_eq (h : SameBut .nothing service other accessor) :
    other.answers accessor = service.answers accessor := by
  have hresource (accessed : ResourceId) :
      service.SparesResource Bearing.nothing.resource accessed := fun _ _ => not_false
  have hclass (className : String) (name : Option String) :
      service.SparesClass (fun _ _ => False) accessor className name := fun _ _ _ _ _ _ => not_false
  have hdomain (name : String) : service.SparesDomain Bearing.nothing.domain name :=
    fun _ _ => not_false
  have hlist (className : String) (name : Option String) (requested : List ResourcePermission) :
      other.resourcesByPermissions accessor className name requested =
        service.resourcesByPermissions accessor className name requested := by
    have hall := h.resourcesByPermissions (fun _ => true) (fun _ _ => not_false) className name
      requested
    have hid : (fun listed : List Resource => listed.filter fun _ => true) = id :=
      funext List.filter_true
    rw [hid, Except.map_id] at hall
    exact hall
  have hoverview {π : Type} {overview overview' : Except Error (PermissionOverview π)}
      (hagree : Agree (Table.SameIn fun row column =>
        service.SparesClass (fun _ _ => False) accessor column (some row)) overview overview') :
      overview' = overview := by
    cases hagree with
    | error error => rfl
    | ok hsame => rw [hsame.eq fun row column => hclass column (some row)]
  simp only [answers, Answers.mk.injEq, funext_iff]
  exact ⟨fun accessed => h.hasResourcePermissions accessed (hresource accessed),
    fun accessed => h.requireResourcePermissions accessed (hresource accessed),
    fun accessed => h.canGrantResourcePermissions accessed (hresource accessed),
    fun accessed => h.effectiveResourcePermissions accessed (hresource accessed),
    fun className name => h.hasGlobalResourcePermissions className name (hclass className name),
    fun className name =>
      h.effectiveGlobalResourcePermissions className name (hclass className name),
    hlist,
    fun className name => h.hasResourceCreatePermissions className name (hclass className name),
    fun className name => h.requireResourceCreatePermissions className name (hclass className name),
    fun className name =>
      h.effectiveResourceCreatePermissions className name (hclass className name),
    fun name => h.hasDomainPermissions name (hdomain name),
    fun name => h.requireDomainPermissions name (hdomain name),
    fun name => h.effectiveDomainPermissions name (hdomain name),
    h.hasDomainCreatePermissions not_false,
    h.effectiveDomainCreatePermissions not_false,
    hoverview h.globalOverview,
    hoverview h.createOverview⟩

end Service

end Authorization
