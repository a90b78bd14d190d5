import Authorization.Proofs.Permission.Listing
import Authorization.Proofs.Service.Effective

namespace Authorization

section Expand

variable {π : Type} [Permission π] [DecidableEq π] [LawfulPermission π] {defined : List π}
  {requested : List π}

/-- Among what a super-user has there is enough for each request that is listed with every grant
option. `enough` says when a permission is enough for a wanted one. -/
theorem Proximity.expand_enough (hdefined : Regrantables defined) (proximity : Proximity)
    (enough : π → π → Prop) (henough : ∀ wanted, enough wanted (Permission.regrantable wanted))
    (hlisted : ∀ wanted ∈ requested, Permission.regrantable wanted ∈ defined) :
    ∀ wanted ∈ requested, ∃ entry ∈ proximity.expand defined, enough wanted entry.permission := by
  intro wanted hwanted
  have hperm := Proximity.expand_perm hdefined proximity
  have hmem : (⟨Permission.regrantable wanted, proximity.inheritLevel, proximity.domainLevel⟩ :
      EffectivePermission π) ∈ proximity.expand defined :=
    hperm.mem_iff.mpr (List.mem_map.mpr ⟨_, hlisted wanted hwanted, rfl⟩)
  exact ⟨_, hmem, henough wanted⟩

theorem Service.allSatisfied_expand (hdefined : Regrantables defined) (proximity : Proximity)
    (hlisted : ∀ wanted ∈ requested, Permission.regrantable wanted ∈ defined) :
    allSatisfied requested (proximity.expand defined) = true := by
  rw [allSatisfied_iff]
  exact proximity.expand_enough hdefined
    (fun wanted permission => Permission.isSatisfiedBy wanted permission = true)
    (fun _ => Permission.isSatisfiedBy_regrantable rfl) hlisted

theorem Service.allGrantable_expand (hdefined : Regrantables defined) (proximity : Proximity)
    (hlisted : ∀ wanted ∈ requested, Permission.regrantable wanted ∈ defined) :
    (requested.all fun wanted => (proximity.expand defined).any fun held =>
      Permission.isGrantableFrom wanted held.permission) = true := by
  simp only [List.all_eq_true, List.any_eq_true]
  exact proximity.expand_enough hdefined
    (fun wanted permission => Permission.isGrantableFrom wanted permission = true)
    (fun _ => Permission.isGrantableFrom_regrantable rfl) hlisted

end Expand

namespace Service

/-- Along the closures of an accessor and a domain there is a super-user grant. -/
def SuperUserIn (service : Service) (accessorId : ResourceId) (domain : DomainId) : Prop :=
  ∃ accessors ancestors proximity, service.closure.accessors accessorId = .ok accessors ∧
    service.closure.ancestors domain = .ok ancestors ∧
    service.findSuperUser accessors ancestors = .ok (some proximity)

/-- An accessor asks, as a super-user, about a resource of a class. -/
def SuperUserOn (service : Service) (accessorId accessedId : ResourceId)
    (resourceClass : ResourceClass) : Prop :=
  ∃ accessor accessed, service.requireParticipant .accessor accessorId = .ok accessor ∧
    service.requireParticipant .accessed accessedId = .ok accessed ∧
    service.requireClassOf accessed = .ok resourceClass ∧
    service.SuperUserIn accessorId accessed.domainId

/-- An accessor asks, as a super-user, about a class within a domain. -/
def SuperUserOf (service : Service) (accessorId : ResourceId) (className : String)
    (domainName : Option String) (resourceClass : ResourceClass) : Prop :=
  ∃ accessor domain, service.requireParticipant .accessor accessorId = .ok accessor ∧
    service.requireClass className = .ok resourceClass ∧
    service.resolveDomain accessor domainName = .ok domain ∧
    service.SuperUserIn accessorId domain.id

/-- Each request of something is answered with yes if and only if all of it is valid, and it is
refused if and only if, and as, some of it is not. -/
structure AcceptsExactly {π : Type} (ask : List π → Except Error Bool)
    (check : π → Except Error Unit) : Prop where
  yes_iff : ∀ {requested}, requested ≠ [] →
    (ask requested = .ok true ↔ ∀ wanted ∈ requested, check wanted = .ok ())
  refuses_iff : ∀ {requested}, requested ≠ [] → ∀ error,
    (ask requested = .error error ↔ checkAll check requested = .error error)

variable {π α : Type} {service : Service} {accessorId accessedId : ResourceId}
  {resourceClass : ResourceClass} {className : String} {domainName : Option String}

/-- A check accepts exactly what is valid if the same is reported for all that is valid, and is
enough for it. -/
theorem acceptsExactly_of_report {report : List π → Except Error α} {check : π → Except Error Unit}
    {found : α} (answer : List π → α → Bool)
    (hreport : ∀ requested, report requested = do
      checkAll check requested
      return found)
    (hanswer : ∀ {requested}, (∀ wanted ∈ requested, check wanted = .ok ()) →
      answer requested found = true) :
    AcceptsExactly (fun requested => do
      requireRequested requested
      let found ← report requested
      return answer requested found) check := by
  have hask : ∀ {requested}, requested ≠ [] → (do
      requireRequested requested
      let found ← report requested
      return answer requested found) = (checkAll check requested).map fun _ => true := by
    intro requested hne
    rw [bind_of_eq_ok (requireRequested_eq_ok hne), hreport]
    cases hcheck : checkAll check requested with
    | error error => rfl
    | ok _ => exact congrArg Except.ok (hanswer (checkAll_eq_ok_iff.mp hcheck))
  constructor
  · intro requested hne
    rw [hask hne, ← checkAll_eq_ok_iff]
    cases checkAll check requested with
    | error error => exact iff_of_false nofun nofun
    | ok _ => exact iff_of_true rfl rfl
  · intro requested hne error
    rw [hask hne]
    cases checkAll check requested with
    | error refused => simp only [Except.map, Except.error.injEq]
    | ok _ => exact iff_of_false nofun nofun

/-- All that is reported to a super-user about a resource is what the class of it defines. -/
theorem checkedOnResource_of_superUser
    (h : service.SuperUserOn accessorId accessedId resourceClass) :
    ∃ proximity : Proximity, ∀ requested,
      service.checkedOnResource accessorId accessedId requested = do
        checkAll resourceClass.validate requested
        return proximity.expand resourceClass.definedPermissions := by
  obtain ⟨accessor, accessed, haccessor, haccessed, hclass, accessors, ancestors, proximity,
    haccessors, hancestors, hfind⟩ := h
  have hresolve : service.resolveOnResource accessors accessed resourceClass =
      .ok (proximity.expand resourceClass.definedPermissions) := by
    rw [resolveOnResource, bind_of_eq_ok hancestors, bind_of_eq_ok hfind]
    rfl
  refine ⟨proximity, fun requested => ?_⟩
  rw [checkedOnResource, bind_of_eq_ok haccessor, bind_of_eq_ok haccessed, bind_of_eq_ok hclass,
    bind_of_eq_ok haccessors, hresolve]
  rfl

theorem checkedGlobal_of_superUser
    (h : service.SuperUserOf accessorId className domainName resourceClass) :
    ∃ proximity : Proximity, ∀ requested,
      service.checkedGlobal accessorId className domainName requested = do
        checkAll resourceClass.validate requested
        return proximity.expand resourceClass.definedPermissions := by
  obtain ⟨accessor, domain, haccessor, hclass, hdomain, accessors, ancestors, proximity,
    haccessors, hancestors, hfind⟩ := h
  refine ⟨proximity, fun requested => ?_⟩
  rw [checkedGlobal, bind_of_eq_ok haccessor, bind_of_eq_ok hclass, bind_of_eq_ok hdomain,
    bind_of_eq_ok haccessors, bind_of_eq_ok hancestors, bind_of_eq_ok hfind]
  rfl

theorem checkedCreate_of_superUser
    (h : service.SuperUserOf accessorId className domainName resourceClass) :
    ∃ (domain : Domain) (proximity : Proximity), ∀ requested,
      service.checkedCreate accessorId className domainName requested = do
        checkAll resourceClass.validateCreate requested
        return (domain, proximity.expand resourceClass.definedCreatePermissions) := by
  obtain ⟨accessor, domain, haccessor, hclass, hdomain, accessors, ancestors, proximity,
    haccessors, hancestors, hfind⟩ := h
  refine ⟨domain, proximity, fun requested => ?_⟩
  rw [checkedCreate, bind_of_eq_ok haccessor, bind_of_eq_ok hclass, bind_of_eq_ok hdomain,
    bind_of_eq_ok haccessors, bind_of_eq_ok hancestors, bind_of_eq_ok hfind]
  rfl

end Service

namespace ResourceClass

open Service (AcceptsExactly)

variable {resourceClass : ResourceClass}

theorem listed_of_valid {requested : List ResourcePermission}
    (hvalid : ∀ wanted ∈ requested, resourceClass.validate wanted = .ok ()) :
    ∀ wanted ∈ requested, Permission.regrantable wanted ∈ resourceClass.definedPermissions :=
  fun wanted hwanted => mem_definedPermissions_iff.mpr (hvalid wanted hwanted)

theorem listed_of_validCreate {requested : List ResourceCreatePermission}
    (hvalid : ∀ wanted ∈ requested, resourceClass.validateCreate wanted = .ok ()) :
    ∀ wanted ∈ requested, Permission.regrantable wanted ∈ resourceClass.definedCreatePermissions :=
  fun wanted hwanted => mem_definedCreatePermissions_iff.mpr (hvalid wanted hwanted)

/-- What super-users are told of the permissions of a class. -/
structure TellsSuperUsers (resourceClass : ResourceClass) (service : Service) : Prop where
  resource : ∀ {accessorId accessedId}, service.SuperUserOn accessorId accessedId resourceClass →
    AcceptsExactly (service.hasResourcePermissions accessorId accessedId) resourceClass.validate
  canGrant : ∀ {grantorId accessedId}, service.SuperUserOn grantorId accessedId resourceClass →
    AcceptsExactly (service.canGrantResourcePermissions grantorId accessedId)
      resourceClass.validate
  global : ∀ {accessorId className domainName},
    service.SuperUserOf accessorId className domainName resourceClass →
    AcceptsExactly (service.hasGlobalResourcePermissions accessorId className domainName)
      resourceClass.validate
  create : ∀ {accessorId className domainName},
    service.SuperUserOf accessorId className domainName resourceClass →
    AcceptsExactly (service.hasResourceCreatePermissions accessorId className domainName)
      resourceClass.validateCreate

theorem tellsSuperUsers (resourceClass : ResourceClass) (service : Service) :
    resourceClass.TellsSuperUsers service where
  resource h := by
    obtain ⟨proximity, hreport⟩ := Service.checkedOnResource_of_superUser h
    apply Service.acceptsExactly_of_report Service.allSatisfied hreport
    intro requested hvalid
    exact Service.allSatisfied_expand (regrantables_definedPermissions resourceClass) proximity
      (listed_of_valid hvalid)
  canGrant h := by
    obtain ⟨proximity, hreport⟩ := Service.checkedOnResource_of_superUser h
    apply Service.acceptsExactly_of_report (fun requested effective => requested.all fun wanted =>
      effective.any fun held => Permission.isGrantableFrom wanted held.permission) hreport
    intro requested hvalid
    exact Service.allGrantable_expand (regrantables_definedPermissions resourceClass) proximity
      (listed_of_valid hvalid)
  global h := by
    obtain ⟨proximity, hreport⟩ := Service.checkedGlobal_of_superUser h
    apply Service.acceptsExactly_of_report Service.allSatisfied hreport
    intro requested hvalid
    exact Service.allSatisfied_expand (regrantables_definedPermissions resourceClass) proximity
      (listed_of_valid hvalid)
  create h := by
    obtain ⟨domain, proximity, hreport⟩ := Service.checkedCreate_of_superUser h
    apply Service.acceptsExactly_of_report
      (fun requested found => Service.allSatisfied requested found.2) hreport
    intro requested hvalid
    exact Service.allSatisfied_expand (regrantables_definedCreatePermissions resourceClass)
      proximity (listed_of_validCreate hvalid)

end ResourceClass

namespace Memory

variable {memory : Memory} {resourceClass : ResourceClass}

/-- A super-user grant is found if and only if there is one for a resource that the accessor acts
as, on a domain that the given one lies in. -/
theorem superUserIn_iff (h : memory.records.Registered) (strategy : ClosureStrategy)
    {accessor : ResourceId} {domain : DomainId} :
    (memory.service strategy).SuperUserIn accessor domain ↔
      memory.IsSuperUser accessor domain := by
  obtain ⟨accessors, haccessors, hA⟩ := (service_computes h strategy).accessors accessor
  obtain ⟨ancestors, hancestors, hD⟩ := (service_computes h strategy).ancestors domain
  obtain ⟨found, hfind, hfound⟩ := findSuperUser_finds hA hD strategy
  rw [← hfound.isSome_iff]
  constructor
  · rintro ⟨accessors', ancestors', proximity, haccessors', hancestors', hfind'⟩
    -- There is one closure only, and the search along it has one answer.
    cases haccessors.symm.trans haccessors'
    cases hancestors.symm.trans hancestors'
    cases hfind.symm.trans hfind'
    rfl
  · intro hsome
    obtain ⟨proximity, rfl⟩ := Option.isSome_iff_exists.mp hsome
    exact ⟨accessors, ancestors, proximity, haccessors, hancestors, hfind⟩

/-- What it takes to be told what super-users are told. -/
structure KnowsSuperUsers (memory : Memory) (service : Service) : Prop where
  on_iff : ∀ accessorId accessedId resourceClass,
    service.SuperUserOn accessorId accessedId resourceClass ↔
      ∃ accessor ∈ memory.records.resources, ∃ accessed ∈ memory.records.resources,
        accessor.id = accessorId ∧ accessed.id = accessedId ∧
        resourceClass ∈ memory.records.classes ∧ resourceClass.id = accessed.classId ∧
        memory.IsSuperUser accessorId accessed.domainId
  of_iff : ∀ accessorId className domainName resourceClass,
    service.SuperUserOf accessorId className domainName resourceClass ↔
      ∃ accessor ∈ memory.records.resources, ∃ domain ∈ memory.records.domains,
        accessor.id = accessorId ∧ AskedAbout accessor domain domainName ∧
        resourceClass ∈ memory.records.classes ∧
        Label.ofText? className = some resourceClass.name ∧
        memory.IsSuperUser accessorId domain.id

theorem knowsSuperUsers (h : memory.records.Registered) (strategy : ClosureStrategy) :
    memory.KnowsSuperUsers (memory.service strategy) where
  on_iff accessorId accessedId resourceClass := by
    simp only [Service.SuperUserOn, requireParticipant_eq_ok_iff h, requireClassOf_eq_ok_iff h,
      superUserIn_iff h]
    constructor
    · rintro ⟨accessor, accessed, ⟨hmem, hid⟩, ⟨hmem', hid'⟩, ⟨hclass, hclassId⟩, hsuper⟩
      exact ⟨accessor, hmem, accessed, hmem', hid, hid', hclass, hclassId, hsuper⟩
    · rintro ⟨accessor, hmem, accessed, hmem', hid, hid', hclass, hclassId, hsuper⟩
      exact ⟨accessor, accessed, ⟨hmem, hid⟩, ⟨hmem', hid'⟩, ⟨hclass, hclassId⟩, hsuper⟩
  of_iff accessorId className domainName resourceClass := by
    simp only [Service.SuperUserOf, requireParticipant_eq_ok_iff h, requireClass_eq_ok_iff h,
      resolveDomain_eq_ok_iff h, superUserIn_iff h]
    constructor
    · rintro ⟨accessor, domain, ⟨hmem, hid⟩, ⟨hclass, hname⟩, ⟨hdomain, hasked⟩, hsuper⟩
      exact ⟨accessor, hmem, domain, hdomain, hid, hasked, hclass, hname, hsuper⟩
    · rintro ⟨accessor, hmem, domain, hdomain, hid, hasked, hclass, hname, hsuper⟩
      exact ⟨accessor, domain, ⟨hmem, hid⟩, ⟨hclass, hname⟩, ⟨hdomain, hasked⟩, hsuper⟩

end Memory

/-- A class that was made from any texts accepts exactly what it lists, and lists each permission
once and none less than its texts name. So over any store super-users are told that they have, and
may pass on, exactly what is valid; over a memory store these are the accessors that a super-user
grant covers. -/
theorem ResourceClass.accepts_what_it_lists {id : ResourceClassId} {name : String}
    {isAuthenticatable : Bool} {texts : List String} {resourceClass : ResourceClass}
    (hmake : make id name isAuthenticatable texts = .ok resourceClass) :
    resourceClass.ListsAccepted texts ∧
      (∀ service, resourceClass.TellsSuperUsers service) ∧
      ∀ {memory : Memory}, memory.Reachable → ∀ strategy,
        memory.KnowsSuperUsers (memory.service strategy) := by
  refine ⟨listsAccepted_of_make hmake, resourceClass.tellsSuperUsers, ?_⟩
  intro memory hreachable strategy
  exact Memory.knowsSuperUsers hreachable.sound.registered strategy

namespace Office

/-- The class of documents may be made from padded names, too. Once the team is super-user, the
clerk may use and pass on what documents have, but nothing that needs credentials. -/
theorem clerk_has_what_documents_list :
    ResourceClass.make ⟨1⟩ " document" false ["view", "\u2003view "] = .ok document ∧
      (∃ permission ∈ document.definedPermissions,
        ResourcePermission.ofName "\u2003view " true = .ok permission) ∧
      (promoted.service .iterative).hasResourcePermissions clerk.id file.id [view, query] =
        .ok true ∧
      (promoted.service .recursive).canGrantResourcePermissions clerk.id file.id
        [⟨.system .impersonate, false⟩] ≠ .ok true := by
  have hmake : ResourceClass.make ⟨1⟩ " document" false ["view", "\u2003view "] =
      .ok document := by decide
  have hclerk : clerk ∈ promoted.records.resources := by decide
  have hfile : file ∈ promoted.records.resources := by decide
  have hdocument : document ∈ promoted.records.classes := by decide
  obtain ⟨hlists, htells, hknows⟩ := ResourceClass.accepts_what_it_lists hmake
  have hsuper : ∀ strategy, (promoted.service strategy).SuperUserOn clerk.id file.id document :=
    fun strategy => ((hknows promoted_reachable strategy).on_iff _ _ _).mpr
      ⟨clerk, hclerk, file, hfile, rfl, rfl, hdocument, rfl, clerk_superUser_promoted⟩
  refine ⟨hmake, hlists.listed _ (by decide), ?_, ?_⟩
  · have hhas := (htells (promoted.service .iterative)).resource (hsuper .iterative)
    exact (hhas.yes_iff (List.cons_ne_nil view [query])).mpr (by decide)
  · have hgrants := (htells (promoted.service .recursive)).canGrant (hsuper .recursive)
    rw [Ne, hgrants.yes_iff (List.cons_ne_nil _ [])]
    decide

end Office

end Authorization
