import Authorization.Proofs.Service.Overview
import Authorization.Proofs.Service.Query
import Authorization.Proofs.Service.Reads
import Authorization.Proofs.Store.Cleared

namespace Authorization

/-- An error that the caller is to blame for. `known` says that all that the caller names exists, in
which case nothing is missing. -/
structure Error.BlamesCaller (known : Prop) (error : Error) : Prop where
  not_invalidState : error.kind ≠ .invalidState
  not_internal : error.kind ≠ .internal
  not_conflict : error.kind ≠ .conflict
  not_notFound : known → error.kind ≠ .notFound

/-- A request may be incomplete, invalid or not permitted, and it may name what does not exist. -/
theorem Error.blamesCaller_of_kind {known : Prop} {error : Error}
    (h : error.kind ∈ [.required, .validation, .forbidden] ∨ error.kind = .notFound ∧ ¬known) :
    error.BlamesCaller known := by
  constructor
  · intro hkind
    simp [hkind] at h
  · intro hkind
    simp [hkind] at h
  · intro hkind
    simp [hkind] at h
  · intro hknown hkind
    simp [hkind, hknown] at h

/-- An answer that fails, if at all, through the fault of the caller. -/
def FailsFairly {α : Type} (known : Prop) (answer : Except Error α) : Prop :=
  ∀ error, answer = .error error → error.BlamesCaller known

namespace FailsFairly

variable {α β : Type} {known known' : Prop}

theorem of_ok {answer : Except Error α} {a : α} (h : answer = .ok a) :
    FailsFairly known answer :=
  FailsOnly.of_ok h

theorem of_error {error : Error} (h : error.BlamesCaller known) :
    FailsFairly known (.error error : Except Error α) :=
  FailsOnly.of_error h

/-- To name more things that exist leaves fewer errors. -/
theorem mono {answer : Except Error α} (h : FailsFairly known answer) (hknown : known' → known) :
    FailsFairly known' answer := by
  refine FailsOnly.mono h fun error hblames => ?_
  exact { hblames with not_notFound := fun hall => hblames.not_notFound (hknown hall) }

theorem bind {first : Except Error α} {next : α → Except Error β} (hfirst : FailsFairly known first)
    (hnext : ∀ a, first = .ok a → FailsFairly known (next a)) :
    FailsFairly known (first >>= next) :=
  FailsOnly.bind hfirst hnext

theorem bind_ok {first : Except Error α} {next : α → Except Error β} {a : α}
    (hfirst : first = .ok a) (hnext : FailsFairly known (next a)) :
    FailsFairly known (first >>= next) :=
  FailsOnly.bind_ok hfirst hnext

/-- An argument may be refused for what it is. -/
theorem of_failsOnly {kind : ErrorKind} {answer : Except Error α}
    (h : FailsOnly (·.kind = kind) answer)
    (hkind : kind ∈ [.required, .validation, .forbidden]) : FailsFairly known answer := by
  refine FailsOnly.mono h fun error herror => ?_
  rw [← herror] at hkind
  exact Error.blamesCaller_of_kind (Or.inl hkind)

theorem checkAll {check : α → Except Error Unit} (h : ∀ a, FailsFairly known (check a))
    (as : List α) : FailsFairly known (checkAll check as) :=
  FailsOnly.checkAll fun a _ => h a

theorem gather {ask : α → Except Error (List β)} {as : List α}
    (h : ∀ a ∈ as, FailsFairly known (ask a)) : FailsFairly known (gather ask as) :=
  FailsOnly.gather h

/-- What is looked up and not there is missing, unless it is known. -/
theorem orFail {missing : Error} {found : Option α} (hmissing : missing.kind = .notFound)
    (hknown : known → found.isSome = true) : FailsFairly known (orFail missing found) := by
  apply FailsOnly.orFail
  rintro rfl
  have hunknown : ¬known := fun hall => Bool.false_ne_true (hknown hall)
  exact Error.blamesCaller_of_kind (Or.inr ⟨hmissing, hunknown⟩)

/-- A name that is asked for has to be there. -/
theorem require (what : String) (text : String) : FailsFairly known (Label.require what text) :=
  of_failsOnly (Service.require_fails what text) (by decide)

variable {π : Type}

theorem requireRequested (requested : List π) :
    FailsFairly known (Service.requireRequested requested) :=
  of_failsOnly (Service.requireRequested_fails requested) (by decide)

/-- A check of what is reported fails fairly if the report does. -/
theorem check {reported : Except Error α} (h : FailsFairly known reported) (requested : List π)
    {conclude : α → Except Error β} (hconclude : ∀ a, FailsFairly known (conclude a)) :
    FailsFairly known (do
      Service.requireRequested requested
      let a ← reported
      conclude a) := by
  exact Service.check_fails (requireRequested requested) h hconclude

theorem validate (resourceClass : ResourceClass) (permission : ResourcePermission) :
    FailsFairly known (resourceClass.validate permission) :=
  of_failsOnly (Service.validate_fails resourceClass permission) (by decide)

theorem validateCreate (resourceClass : ResourceClass) (permission : ResourceCreatePermission) :
    FailsFairly known (resourceClass.validateCreate permission) :=
  of_failsOnly (Service.validateCreate_fails resourceClass permission) (by decide)

variable [Permission π] [DecidableEq π]

theorem demand {forbidden : List String → Error}
    (hforbidden : ∀ missing, (forbidden missing).kind = .forbidden) (requested : List π)
    (effective : List (EffectivePermission π)) :
    FailsFairly known (Service.demand requested effective forbidden) :=
  of_failsOnly (Service.demand_fails hforbidden requested effective) (by decide)

end FailsFairly

namespace Memory

variable {memory : Memory} {strategy : ClosureStrategy}

/-- A text is the name of a class. -/
def NamesClass (memory : Memory) (text : String) : Prop :=
  ∃ resourceClass ∈ memory.records.classes, Label.ofText? text = some resourceClass.name

def NamesDomain (memory : Memory) (text : String) : Prop :=
  ∃ domain ∈ memory.records.domains, Label.ofText? text = some domain.name

section Lookups

variable (h : memory.records.Registered)

include h

theorem requireParticipant_fails (role : Role) (id : ResourceId) :
    FailsFairly (memory.records.HasResource id)
      ((memory.service strategy).requireParticipant role id) := by
  have hfound : memory.records.HasResource id →
      (memory.records.findResource? id).isSome = true := by
    rintro ⟨resource, hmem, hid⟩
    rw [h.findResource?_eq_some_iff.mpr ⟨hmem, hid⟩]
    rfl
  exact FailsFairly.orFail rfl hfound

theorem requireClass_fails (text : String) :
    FailsFairly (memory.NamesClass text) ((memory.service strategy).requireClass text) := by
  by_cases hnames : memory.NamesClass text
  · obtain ⟨resourceClass, hmem, htext⟩ := hnames
    exact FailsFairly.of_ok (requireClass_eq h hmem htext)
  · unfold Service.requireClass
    apply (FailsFairly.require _ text).bind
    intro label _
    exact FailsFairly.orFail rfl fun hknown => absurd hknown hnames

theorem requireDomain_fails (text : String) :
    FailsFairly (memory.NamesDomain text)
      ((memory.service strategy).directory.requireDomain text) := by
  by_cases hnames : memory.NamesDomain text
  · obtain ⟨domain, hmem, htext⟩ := hnames
    exact FailsFairly.of_ok (requireDomain_eq h hmem htext)
  · unfold Directory.requireDomain
    apply (FailsFairly.require _ text).bind
    intro label _
    exact FailsFairly.orFail rfl fun hknown => absurd hknown hnames

/-- The class of a resource that is there is there, too. -/
theorem requireClassOf_succeeds {resource : Resource} (hmem : resource ∈ memory.records.resources) :
    ∃ resourceClass, (memory.service strategy).requireClassOf resource = .ok resourceClass ∧
      resourceClass.id = resource.classId := by
  obtain ⟨resourceClass, hclass, hid⟩ := h.resourceClass resource hmem
  exact ⟨resourceClass, (requireClassOf_eq_ok_iff h).mpr ⟨hclass, hid⟩, hid⟩

/-- The domain of a resource that is there is there, too, so only a named domain can be missing. -/
theorem resolveDomain_fails {accessor : Resource} (hmem : accessor ∈ memory.records.resources)
    (name : Option String) :
    FailsFairly (∀ text ∈ name, memory.NamesDomain text)
      ((memory.service strategy).resolveDomain accessor name) := by
  cases name with
  | some text =>
    apply (requireDomain_fails h text).mono
    intro hnames
    exact hnames text rfl
  | none =>
    obtain ⟨domain, hdomain, hid⟩ := h.resourceDomain accessor hmem
    exact FailsFairly.of_ok (resolveDomain_eq h hdomain hid)

theorem descendantsByLevel_fails (name : String) :
    FailsFairly (memory.NamesDomain name)
      (((Store.backend memory).cascade strategy).descendantsByLevel name) := by
  have hlookup : FailsFairly (memory.NamesDomain name)
      ((memory.service strategy).directory.requireDomain name) := requireDomain_fails h name
  apply hlookup.bind
  intro domain _
  obtain ⟨descendants, hdescendants, _⟩ := (service_computes h strategy).descendants domain.id
  exact FailsFairly.of_ok hdescendants

/-- To clear domains of a memory store never fails, so only the lookup can. -/
theorem removeScopedGrants_fails (name : String) :
    FailsFairly (memory.NamesDomain name)
      ((((Store.backend memory).cascade strategy).removeScopedGrants Store.clearDomain
        name).outcome memory).1 := by
  have hlookup : FailsFairly (memory.NamesDomain name)
      (((Store.backend memory).cascade strategy).descendantsByLevel name) :=
    descendantsByLevel_fails h name
  cases hdescendants : ((Store.backend memory).cascade strategy).descendantsByLevel name with
  | error cause =>
    have hrefused : (((Store.backend memory).cascade strategy).removeScopedGrants
        Store.clearDomain name).outcome memory = (.error cause, memory) := by
      unfold Cascade.removeScopedGrants
      rw [hdescendants]
      rfl
    rw [hrefused]
    exact FailsFairly.of_error (hlookup cause hdescendants)
  | ok descendants =>
    rw [outcome_removeScopedGrants memory hdescendants]
    exact FailsFairly.of_ok rfl

end Lookups

section Reports

variable (h : memory.records.Registered) (strategy : ClosureStrategy) (accessor : ResourceId)

include h

theorem checkedOnResource_fails (accessed : ResourceId) (requested : List ResourcePermission) :
    FailsFairly (memory.records.HasResource accessor ∧ memory.records.HasResource accessed)
      ((memory.service strategy).checkedOnResource accessor accessed requested) := by
  obtain ⟨accessors, haccessors, hA⟩ := (service_computes h strategy).accessors accessor
  apply ((requireParticipant_fails h .accessor accessor).mono And.left).bind
  intro _ _
  apply ((requireParticipant_fails h .accessed accessed).mono And.right).bind
  intro resource hresource
  obtain ⟨hmem, _⟩ := (requireParticipant_eq_ok_iff h).mp hresource
  obtain ⟨resourceClass, hclass, hid⟩ := requireClassOf_succeeds h hmem
  apply FailsFairly.bind_ok hclass
  apply (FailsFairly.checkAll (FailsFairly.validate resourceClass) requested).bind
  intro _ _
  apply FailsFairly.bind_ok haccessors
  obtain ⟨effective, heffective, _⟩ := resolveOnResource_resolves h strategy hA hid
  exact FailsFairly.of_ok heffective

/-- What a question about a class within a domain names. -/
def NamesScope (memory : Memory) (accessor : ResourceId) (className : String)
    (name : Option String) : Prop :=
  memory.records.HasResource accessor ∧ memory.NamesClass className ∧
    ∀ text ∈ name, memory.NamesDomain text

/-- Questions about a class within a domain look their arguments up in the same way. -/
theorem scope_fails {strategy : ClosureStrategy} {accessor : ResourceId} {className : String}
    {name : Option String} {α : Type} {next : ResourceClass → Domain → Except Error α}
    (hnext : ∀ resourceClass domain,
      FailsFairly (memory.NamesScope accessor className name) (next resourceClass domain)) :
    FailsFairly (memory.NamesScope accessor className name) (do
      let holder ← (memory.service strategy).requireParticipant .accessor accessor
      let resourceClass ← (memory.service strategy).requireClass className
      let domain ← (memory.service strategy).resolveDomain holder name
      next resourceClass domain) := by
  apply ((requireParticipant_fails h .accessor accessor).mono And.left).bind
  intro holder hholder
  obtain ⟨hmem, _⟩ := (requireParticipant_eq_ok_iff h).mp hholder
  apply ((requireClass_fails h className).mono fun hknown => hknown.2.1).bind
  intro resourceClass _
  apply ((resolveDomain_fails h hmem name).mono fun hknown => hknown.2.2).bind
  intro domain _
  exact hnext resourceClass domain

theorem checkedGlobal_fails (className : String) (name : Option String)
    (requested : List ResourcePermission) :
    FailsFairly (memory.NamesScope accessor className name)
      ((memory.service strategy).checkedGlobal accessor className name requested) := by
  obtain ⟨accessors, haccessors, hA⟩ := (service_computes h strategy).accessors accessor
  apply scope_fails h
  intro resourceClass domain
  obtain ⟨ancestors, hancestors, hD⟩ := (service_computes h strategy).ancestors domain.id
  apply (FailsFairly.checkAll (FailsFairly.validate resourceClass) requested).bind
  intro _ _
  apply FailsFairly.bind_ok haccessors
  apply FailsFairly.bind_ok hancestors
  obtain ⟨found, effective, hfind, hresolve, _⟩ := resolveScoped_resolves hA hD strategy
    (fun holder above => (memory.service strategy).grants.listGlobal holder resourceClass.id above)
    (fun _ _ => rfl) (ResourceClass.regrantables_definedPermissions resourceClass)
  apply FailsFairly.bind_ok hfind
  exact FailsFairly.of_ok hresolve

theorem checkedCreate_fails (className : String) (name : Option String)
    (requested : List ResourceCreatePermission) :
    FailsFairly (memory.NamesScope accessor className name)
      ((memory.service strategy).checkedCreate accessor className name requested) := by
  obtain ⟨accessors, haccessors, hA⟩ := (service_computes h strategy).accessors accessor
  apply scope_fails h
  intro resourceClass domain
  obtain ⟨ancestors, hancestors, hD⟩ := (service_computes h strategy).ancestors domain.id
  apply (FailsFairly.checkAll (FailsFairly.validateCreate resourceClass) requested).bind
  intro _ _
  apply FailsFairly.bind_ok haccessors
  apply FailsFairly.bind_ok hancestors
  obtain ⟨found, effective, hfind, hresolve, _⟩ := resolveScoped_resolves hA hD strategy
    (fun holder above => (memory.service strategy).grants.listCreate holder resourceClass.id above)
    (fun _ _ => rfl) (ResourceClass.regrantables_definedCreatePermissions resourceClass)
  apply FailsFairly.bind_ok hfind
  apply FailsFairly.bind_ok hresolve
  exact FailsFairly.of_ok rfl

theorem effectiveDomainPermissions_fails (text : String) :
    FailsFairly (memory.records.HasResource accessor ∧ memory.NamesDomain text)
      ((memory.service strategy).effectiveDomainPermissions accessor text) := by
  obtain ⟨accessors, haccessors, hA⟩ := (service_computes h strategy).accessors accessor
  apply ((requireParticipant_fails h .accessor accessor).mono And.left).bind
  intro _ _
  apply ((requireDomain_fails h text).mono And.right).bind
  intro domain _
  obtain ⟨ancestors, hancestors, hD⟩ := (service_computes h strategy).ancestors domain.id
  apply FailsFairly.bind_ok haccessors
  apply FailsFairly.bind_ok hancestors
  obtain ⟨collected, hcollect, hcollected⟩ := collectScoped_copies hA hD
    (memory.service strategy).grants.listDomain (fun _ _ => rfl)
  apply FailsFairly.bind_ok hcollect
  obtain ⟨effective, hresolve, _⟩ := resolve_resolves (closestSuperUser_finds hcollected)
    DomainPermission.regrantables_allRegrantable hcollected
  exact FailsFairly.of_ok hresolve

theorem effectiveDomainCreatePermissions_fails :
    FailsFairly (memory.records.HasResource accessor)
      ((memory.service strategy).effectiveDomainCreatePermissions accessor) := by
  obtain ⟨accessors, haccessors, hA⟩ := (service_computes h strategy).accessors accessor
  apply (requireParticipant_fails h .accessor accessor).bind
  intro _ _
  apply FailsFairly.bind_ok haccessors
  obtain ⟨collected, hcollect, _⟩ := collectHeld_copies hA
    (memory.service strategy).grants.listDomainCreate (fun _ => rfl)
  apply FailsFairly.bind_ok hcollect
  exact FailsFairly.of_ok rfl

theorem resourcesByPermissions_fails (className : String) (name : Option String)
    (requested : List ResourcePermission) :
    FailsFairly (memory.NamesScope accessor className name)
      ((memory.service strategy).resourcesByPermissions accessor className name requested) := by
  obtain ⟨accessors, haccessors, hA⟩ := (service_computes h strategy).accessors accessor
  apply (FailsFairly.requireRequested requested).bind
  intro _ _
  apply ((requireParticipant_fails h .accessor accessor).mono And.left).bind
  intro _ _
  apply ((requireClass_fails h className).mono fun hknown => hknown.2.1).bind
  intro resourceClass _
  have hlimit : FailsFairly (memory.NamesScope accessor className name)
      (name.mapM (memory.service strategy).directory.requireDomain) := by
    cases name with
    | none => exact FailsFairly.of_ok rfl
    | some text =>
      apply ((requireDomain_fails h text).mono fun hknown => hknown.2.2 text rfl).bind
      intro _ _
      exact FailsFairly.of_ok rfl
  apply hlimit.bind
  intro limit _
  apply (FailsFairly.checkAll (FailsFairly.validate resourceClass) requested).bind
  intro _ _
  obtain ⟨scope, hscope, _⟩ := inScope_iff h strategy limit
  apply FailsFairly.bind_ok hscope
  apply FailsFairly.bind_ok haccessors
  apply FailsFairly.bind_ok rfl
  apply FailsFairly.gather
  intro resource hresource
  have hid : resourceClass.id = resource.classId := by
    have hlisted := List.mem_mergeSort.mp (List.mem_of_mem_filter hresource)
    exact (of_decide_eq_true (List.mem_filter.mp hlisted).2).symm
  obtain ⟨effective, heffective, _⟩ := resolveOnResource_resolves h strategy hA hid
  apply FailsFairly.bind_ok heffective
  exact FailsFairly.of_ok rfl

end Reports

section Overviews

variable {π : Type} [Permission π] [DecidableEq π] [LawfulPermission π]

/-- Grants that were admitted name domains and classes that are there, so a cell can be named. -/
theorem overview_fails (h : memory.records.Sound) (strategy : ClosureStrategy)
    (accessor : ResourceId) {rows : GrantRows ClassKey π}
    {validate : ResourceClass → π → Except Error Unit}
    (hrows : rows.Lawful (memory.records.AdmitsScoped validate))
    {listAll : ResourceId → Except Error (List (ClassGrant π))}
    (hlist : ∀ holder, listAll holder = .ok (sortClassGrants (Records.classGrants rows holder)))
    {defined : ResourceClass → List π}
    (hdefined : ∀ resourceClass,
      Regrantables (defined resourceClass) ∧ defined resourceClass ≠ []) :
    FailsFairly (memory.records.HasResource accessor)
      ((memory.service strategy).overview accessor listAll defined) := by
  by_cases hknown : memory.records.HasResource accessor
  · obtain ⟨resource, hmem, rfl⟩ := hknown
    obtain ⟨cells, entries, hoverview, _⟩ :=
      exists_overview h strategy hmem hlist (refersTo_of_lawful hrows) hdefined
    exact FailsFairly.of_ok hoverview
  · -- Nothing is asked of the store for an accessor that does not exist.
    apply (requireParticipant_fails h.registered .accessor accessor).bind
    intro resource hresource
    exact absurd ⟨resource, (requireParticipant_eq_ok_iff h.registered).mp hresource⟩ hknown

end Overviews

/-- Every method of the service and of the cascade over a memory store fails fairly. -/
structure FailFairly (memory : Memory) (service : Service) (cascade : Cascade) : Prop where
  hasResourcePermissions : ∀ accessor accessed requested,
    FailsFairly (memory.records.HasResource accessor ∧ memory.records.HasResource accessed)
      (service.hasResourcePermissions accessor accessed requested)
  requireResourcePermissions : ∀ accessor accessed requested,
    FailsFairly (memory.records.HasResource accessor ∧ memory.records.HasResource accessed)
      (service.requireResourcePermissions accessor accessed requested)
  effectiveResourcePermissions : ∀ accessor accessed,
    FailsFairly (memory.records.HasResource accessor ∧ memory.records.HasResource accessed)
      (service.effectiveResourcePermissions accessor accessed)
  canGrantResourcePermissions : ∀ grantor accessed requested,
    FailsFairly (memory.records.HasResource grantor ∧ memory.records.HasResource accessed)
      (service.canGrantResourcePermissions grantor accessed requested)
  hasGlobalResourcePermissions : ∀ accessor className name requested,
    FailsFairly (memory.NamesScope accessor className name)
      (service.hasGlobalResourcePermissions accessor className name requested)
  effectiveGlobalResourcePermissions : ∀ accessor className name,
    FailsFairly (memory.NamesScope accessor className name)
      (service.effectiveGlobalResourcePermissions accessor className name)
  resourcesByPermissions : ∀ accessor className name requested,
    FailsFairly (memory.NamesScope accessor className name)
      (service.resourcesByPermissions accessor className name requested)
  hasResourceCreatePermissions : ∀ accessor className name requested,
    FailsFairly (memory.NamesScope accessor className name)
      (service.hasResourceCreatePermissions accessor className name requested)
  requireResourceCreatePermissions : ∀ accessor className name requested,
    FailsFairly (memory.NamesScope accessor className name)
      (service.requireResourceCreatePermissions accessor className name requested)
  effectiveResourceCreatePermissions : ∀ accessor className name,
    FailsFairly (memory.NamesScope accessor className name)
      (service.effectiveResourceCreatePermissions accessor className name)
  hasDomainCreatePermissions : ∀ accessor requested,
    FailsFairly (memory.records.HasResource accessor)
      (service.hasDomainCreatePermissions accessor requested)
  effectiveDomainCreatePermissions : ∀ accessor,
    FailsFairly (memory.records.HasResource accessor)
      (service.effectiveDomainCreatePermissions accessor)
  hasDomainPermissions : ∀ accessor name requested,
    FailsFairly (memory.records.HasResource accessor ∧ memory.NamesDomain name)
      (service.hasDomainPermissions accessor name requested)
  requireDomainPermissions : ∀ accessor name requested,
    FailsFairly (memory.records.HasResource accessor ∧ memory.NamesDomain name)
      (service.requireDomainPermissions accessor name requested)
  effectiveDomainPermissions : ∀ accessor name,
    FailsFairly (memory.records.HasResource accessor ∧ memory.NamesDomain name)
      (service.effectiveDomainPermissions accessor name)
  createOverview : ∀ accessor,
    FailsFairly (memory.records.HasResource accessor) (service.createOverview accessor)
  globalOverview : ∀ accessor,
    FailsFairly (memory.records.HasResource accessor) (service.globalOverview accessor)
  descendantsByLevel : ∀ name,
    FailsFairly (memory.NamesDomain name) (cascade.descendantsByLevel name)
  removeScopedGrants : ∀ name,
    FailsFairly (memory.NamesDomain name)
      ((cascade.removeScopedGrants Store.clearDomain name).outcome memory).1

/-- Whatever has been done to a memory store, and whatever the strategy is, no method of the service
or of the cascade reports an invalid state, an internal error or a conflict, and none reports that
something is missing when all that it is asked about exists. -/
theorem errors_blame_caller (h : memory.Reachable) (strategy : ClosureStrategy) :
    memory.FailFairly (memory.service strategy) ((Store.backend memory).cascade strategy) := by
  have hsound := h.sound
  have hregistered := hsound.registered
  constructor
  case hasResourcePermissions =>
    intro accessor accessed requested
    exact FailsFairly.check
      (checkedOnResource_fails hregistered strategy accessor accessed requested)
      requested fun _ => FailsFairly.of_ok rfl
  case requireResourcePermissions =>
    intro accessor accessed requested
    exact FailsFairly.check
      (checkedOnResource_fails hregistered strategy accessor accessed requested)
      requested (FailsFairly.demand (fun _ => rfl) requested)
  case effectiveResourcePermissions =>
    intro accessor accessed
    exact checkedOnResource_fails hregistered strategy accessor accessed []
  case canGrantResourcePermissions =>
    intro grantor accessed requested
    exact FailsFairly.check
      (checkedOnResource_fails hregistered strategy grantor accessed requested)
      requested fun _ => FailsFairly.of_ok rfl
  case hasGlobalResourcePermissions =>
    intro accessor className name requested
    exact FailsFairly.check
      (checkedGlobal_fails hregistered strategy accessor className name requested)
      requested fun _ => FailsFairly.of_ok rfl
  case effectiveGlobalResourcePermissions =>
    intro accessor className name
    exact checkedGlobal_fails hregistered strategy accessor className name []
  case resourcesByPermissions =>
    exact resourcesByPermissions_fails hregistered strategy
  case hasResourceCreatePermissions =>
    intro accessor className name requested
    exact FailsFairly.check
      (checkedCreate_fails hregistered strategy accessor className name requested)
      requested fun _ => FailsFairly.of_ok rfl
  case requireResourceCreatePermissions =>
    intro accessor className name requested
    exact FailsFairly.check
      (checkedCreate_fails hregistered strategy accessor className name requested)
      requested fun found => FailsFairly.demand (fun _ => rfl) requested found.2
  case effectiveResourceCreatePermissions =>
    intro accessor className name
    apply (checkedCreate_fails hregistered strategy accessor className name []).bind
    intro _ _
    exact FailsFairly.of_ok rfl
  case hasDomainCreatePermissions =>
    intro accessor requested
    exact FailsFairly.check (effectiveDomainCreatePermissions_fails hregistered strategy accessor)
      requested fun _ => FailsFairly.of_ok rfl
  case effectiveDomainCreatePermissions =>
    exact effectiveDomainCreatePermissions_fails hregistered strategy
  case hasDomainPermissions =>
    intro accessor name requested
    exact FailsFairly.check (effectiveDomainPermissions_fails hregistered strategy accessor name)
      requested fun _ => FailsFairly.of_ok rfl
  case requireDomainPermissions =>
    intro accessor name requested
    exact FailsFairly.check (effectiveDomainPermissions_fails hregistered strategy accessor name)
      requested (FailsFairly.demand (fun _ => rfl) requested)
  case effectiveDomainPermissions =>
    exact effectiveDomainPermissions_fails hregistered strategy
  case createOverview =>
    intro accessor
    apply overview_fails hsound strategy accessor hsound.granted.create (fun holder => rfl)
    intro resourceClass
    exact ⟨resourceClass.regrantables_definedCreatePermissions,
      resourceClass.definedCreatePermissions_ne_nil⟩
  case globalOverview =>
    intro accessor
    apply overview_fails hsound strategy accessor hsound.granted.global (fun holder => rfl)
    intro resourceClass
    exact ⟨resourceClass.regrantables_definedPermissions,
      resourceClass.definedPermissions_ne_nil⟩
  case descendantsByLevel =>
    exact descendantsByLevel_fails hregistered
  case removeScopedGrants =>
    exact removeScopedGrants_fails hregistered

end Memory

namespace Office

/-- Somebody unknown is told so, and that somebody is to blame for it. The clerk is told at most
that it may not delete the file, which is there as the clerk is. -/
theorem stranger_is_to_blame :
    (store.service .recursive).effectiveDomainPermissions ⟨9⟩ "branch" =
      .error (.participantNotFound .accessor ⟨9⟩) ∧
    (Error.participantNotFound .accessor ⟨9⟩).BlamesCaller
      (store.records.HasResource ⟨9⟩ ∧ store.NamesDomain "branch") ∧
    FailsFairly True ((store.service .iterative).requireResourcePermissions clerk.id file.id
      [⟨.system .deleteResource, false⟩]) := by
  have hclerk : store.records.HasResource clerk.id := ⟨clerk, by decide, rfl⟩
  have hfile : store.records.HasResource file.id := ⟨file, by decide, rfl⟩
  have hrecursive := Memory.errors_blame_caller store_reachable .recursive
  have hiterative := Memory.errors_blame_caller store_reachable .iterative
  have hstranger : (store.service .recursive).effectiveDomainPermissions ⟨9⟩ "branch" =
      .error (.participantNotFound .accessor ⟨9⟩) := rfl
  refine ⟨hstranger, hrecursive.effectiveDomainPermissions _ _ _ hstranger, ?_⟩
  apply (hiterative.requireResourcePermissions _ _ _).mono
  intro _
  exact ⟨hclerk, hfile⟩

end Office

end Authorization
