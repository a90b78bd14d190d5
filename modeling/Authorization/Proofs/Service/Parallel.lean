import Authorization.Proofs.Agree
import Authorization.Service.OnCreation
import Authorization.Service.OnDomain
import Authorization.Service.OnResource

namespace Authorization.Service

/-- Two services, each asked by an accessor of its own. They differ in nothing but what is granted
and whom resources inherit from. -/
structure Parallel (service other : Service) (id id' : ResourceId)
    (accessors accessors' : List (Ranked ResourceId)) : Prop where
  directory : other.directory = service.directory
  ancestors : other.closure.ancestors = service.closure.ancestors
  descendants : other.closure.descendants = service.closure.descendants
  participants : Agree (fun _ _ => True) (service.requireParticipant .accessor id)
    (other.requireParticipant .accessor id')
  left : service.closure.accessors id = .ok accessors
  right : other.closure.accessors id' = .ok accessors'

/-- Two accessors, each of its own service, that mean the same domain by a name, or when they give
none. -/
def SameDomain (service other : Service) (id id' : ResourceId) (name : Option String) : Prop :=
  Agree (fun accessor accessor' =>
      service.resolveDomain accessor name = other.resolveDomain accessor' name)
    (service.requireParticipant .accessor id) (other.requireParticipant .accessor id')

/-- What accessors have of what is granted on a chain of domains; a super-user has what is defined.
-/
def resolveScoped {π : Type} [Permission π] [DecidableEq π] (service : Service)
    (accessors : List (Ranked ResourceId)) (ancestors : List (Ranked DomainId)) (defined : List π)
    (held : ResourceId → DomainId → Except Error (List π)) :
    Except Error (List (EffectivePermission π)) := do
  let superUser ← service.findSuperUser accessors ancestors
  resolve superUser defined (collectScoped accessors ancestors held)

/-- What accessors have on the domain at the start of a chain. -/
def resolveOnDomain (service : Service) (accessors : List (Ranked ResourceId))
    (ancestors : List (Ranked DomainId)) :
    Except Error (List (EffectivePermission DomainPermission)) := do
  let collected ← collectScoped accessors ancestors service.grants.listDomain
  resolve (closestSuperUser collected) DomainPermission.allRegrantable (.ok collected)

namespace Parallel

variable {service other : Service} {id id' : ResourceId}
  {accessors accessors' : List (Ranked ResourceId)}
  (h : service.Parallel other id id' accessors accessors')

include h

theorem exists_eq : ∃ grants closure, other = { service with grants, closure } := by
  obtain ⟨directory, grants, closure⟩ := other
  have hdirectory : directory = service.directory := h.directory
  exact ⟨grants, closure, by rw [hdirectory]⟩

omit h in
/-- One accessor means one domain, whichever service it asks. -/
theorem sameDomain_refl (h : service.Parallel other id id accessors accessors')
    (name : Option String) : service.SameDomain other id id name := by
  obtain ⟨grants, closure, rfl⟩ := h.exists_eq
  apply Agree.refl
  intro accessor
  rfl

theorem checkedOnResource {accessedId : ResourceId} {requested : List ResourcePermission}
    {related : List (EffectivePermission ResourcePermission) →
      List (EffectivePermission ResourcePermission) → Prop}
    (hresolve : ∀ {accessed resourceClass},
      service.requireParticipant .accessed accessedId = .ok accessed →
      service.requireClassOf accessed = .ok resourceClass →
      (∀ wanted ∈ requested, resourceClass.validate wanted = .ok ()) →
      Agree related (service.resolveOnResource accessors accessed resourceClass)
        (other.resolveOnResource accessors' accessed resourceClass)) :
    Agree related (service.checkedOnResource id accessedId requested)
      (other.checkedOnResource id' accessedId requested) := by
  obtain ⟨grants, closure, rfl⟩ := h.exists_eq
  apply h.participants.bind
  intro _ _ _
  apply Agree.bind_same_of_eq_ok
  intro accessed haccessed
  apply Agree.bind_same_of_eq_ok
  intro resourceClass hclass
  apply Agree.bind_same_of_eq_ok
  intro _ hvalid
  rw [bind_of_eq_ok h.left, bind_of_eq_ok h.right]
  exact hresolve haccessed hclass (checkAll_eq_ok_iff.mp hvalid)

section Scoped

variable {className text : String} {name : Option String}

theorem checkedGlobal (hname : service.SameDomain other id id' name)
    {requested : List ResourcePermission}
    {related : List (EffectivePermission ResourcePermission) →
      List (EffectivePermission ResourcePermission) → Prop}
    (hresolve : ∀ {accessor resourceClass domain ancestors},
      service.requireParticipant .accessor id = .ok accessor →
      service.requireClass className = .ok resourceClass →
      service.resolveDomain accessor name = .ok domain →
      (∀ wanted ∈ requested, resourceClass.validate wanted = .ok ()) →
      service.closure.ancestors domain.id = .ok ancestors →
      Agree related
        (service.resolveScoped accessors ancestors resourceClass.definedPermissions
          (service.grants.listGlobal · resourceClass.id))
        (other.resolveScoped accessors' ancestors resourceClass.definedPermissions
          (other.grants.listGlobal · resourceClass.id))) :
    Agree related (service.checkedGlobal id className name requested)
      (other.checkedGlobal id' className name requested) := by
  obtain ⟨grants, closure, rfl⟩ := h.exists_eq
  apply Agree.bind_of_eq_ok hname
  intro accessor accessor' haccessor _ hdomains
  apply Agree.bind_same_of_eq_ok
  intro resourceClass hclass
  rw [← hdomains]
  apply Agree.bind_same_of_eq_ok
  intro domain hdomain
  apply Agree.bind_same_of_eq_ok
  intro _ hvalid
  rw [bind_of_eq_ok h.left, bind_of_eq_ok h.right, h.ancestors]
  apply Agree.bind_same_of_eq_ok
  intro ancestors hancestors
  exact hresolve haccessor hclass hdomain (checkAll_eq_ok_iff.mp hvalid) hancestors

theorem checkedCreate (hname : service.SameDomain other id id' name)
    {requested : List ResourceCreatePermission}
    {related : List (EffectivePermission ResourceCreatePermission) →
      List (EffectivePermission ResourceCreatePermission) → Prop}
    (hresolve : ∀ {accessor resourceClass domain ancestors},
      service.requireParticipant .accessor id = .ok accessor →
      service.requireClass className = .ok resourceClass →
      service.resolveDomain accessor name = .ok domain →
      (∀ wanted ∈ requested, resourceClass.validateCreate wanted = .ok ()) →
      service.closure.ancestors domain.id = .ok ancestors →
      Agree related
        (service.resolveScoped accessors ancestors resourceClass.definedCreatePermissions
          (service.grants.listCreate · resourceClass.id))
        (other.resolveScoped accessors' ancestors resourceClass.definedCreatePermissions
          (other.grants.listCreate · resourceClass.id))) :
    Agree (fun result result' => result.1 = result'.1 ∧ related result.2 result'.2)
      (service.checkedCreate id className name requested)
      (other.checkedCreate id' className name requested) := by
  obtain ⟨grants, closure, rfl⟩ := h.exists_eq
  apply Agree.bind_of_eq_ok hname
  intro accessor accessor' haccessor _ hdomains
  apply Agree.bind_same_of_eq_ok
  intro resourceClass hclass
  rw [← hdomains]
  apply Agree.bind_same_of_eq_ok
  intro domain hdomain
  apply Agree.bind_same_of_eq_ok
  intro _ hvalid
  rw [bind_of_eq_ok h.left, bind_of_eq_ok h.right, h.ancestors]
  apply Agree.bind_same_of_eq_ok
  intro ancestors hancestors
  have heffective :=
    hresolve haccessor hclass hdomain (checkAll_eq_ok_iff.mp hvalid) hancestors
  have hresult := heffective.paired domain
  rw [resolveScoped, resolveScoped, bind_assoc, bind_assoc] at hresult
  exact hresult

theorem effectiveDomainPermissions
    {related : List (EffectivePermission DomainPermission) →
      List (EffectivePermission DomainPermission) → Prop}
    (hresolve : ∀ {domain ancestors},
      service.directory.requireDomain text = .ok domain →
      service.closure.ancestors domain.id = .ok ancestors →
      Agree related (service.resolveOnDomain accessors ancestors)
        (other.resolveOnDomain accessors' ancestors)) :
    Agree related (service.effectiveDomainPermissions id text)
      (other.effectiveDomainPermissions id' text) := by
  obtain ⟨grants, closure, rfl⟩ := h.exists_eq
  apply h.participants.bind
  intro _ _ _
  apply Agree.bind_same_of_eq_ok
  intro domain hdomain
  rw [bind_of_eq_ok h.left, bind_of_eq_ok h.right, h.ancestors]
  apply Agree.bind_same_of_eq_ok
  intro ancestors hancestors
  exact hresolve hdomain hancestors

theorem effectiveDomainCreatePermissions
    {related : List (EffectivePermission DomainCreatePermission) →
      List (EffectivePermission DomainCreatePermission) → Prop}
    (hcollect : Agree (fun collected collected' =>
        related (EffectivePermission.merge collected) (EffectivePermission.merge collected'))
      (collectHeld accessors service.grants.listDomainCreate)
      (collectHeld accessors' other.grants.listDomainCreate)) :
    Agree related (service.effectiveDomainCreatePermissions id)
      (other.effectiveDomainCreatePermissions id') := by
  obtain ⟨grants, closure, rfl⟩ := h.exists_eq
  apply h.participants.bind
  intro _ _ _
  rw [bind_of_eq_ok h.left, bind_of_eq_ok h.right]
  apply hcollect.bind
  intro collected collected' hcollected
  exact .ok hcollected

theorem resourcesByPermissions {requested : List ResourcePermission}
    {related : List Resource → List Resource → Prop}
    (hpermitted : ∀ {resourceClass candidates},
      service.requireClass className = .ok resourceClass →
      (∀ wanted ∈ requested, resourceClass.validate wanted = .ok ()) →
      (∃ listed, service.directory.listResources resourceClass.id = .ok listed ∧
        candidates ⊆ listed) →
      Agree related (service.permitted accessors resourceClass requested candidates)
        (other.permitted accessors' resourceClass requested candidates)) :
    Agree related (service.resourcesByPermissions id className name requested)
      (other.resourcesByPermissions id' className name requested) := by
  obtain ⟨grants, closure, rfl⟩ := h.exists_eq
  apply Agree.bind_same
  intro _
  apply h.participants.bind
  intro _ _ _
  apply Agree.bind_same_of_eq_ok
  intro resourceClass hclass
  apply Agree.bind_same
  intro limit
  apply Agree.bind_same_of_eq_ok
  intro _ hvalid
  rw [h.descendants]
  apply Agree.bind_same
  intro scope
  rw [bind_of_eq_ok h.left, bind_of_eq_ok h.right]
  apply Agree.bind_same_of_eq_ok
  intro listed hlisted
  exact hpermitted hclass (checkAll_eq_ok_iff.mp hvalid) ⟨listed, hlisted, List.filter_sublist.subset⟩

end Scoped

end Parallel

end Authorization.Service
