import Authorization.Proofs.Service.Reads
import Authorization.Proofs.Service.Resolve

/-! The forms of a check, each of which resolves the request in its own right. That they agree needs
only that what is reported for a request is reported for each part of it, too. -/
namespace Authorization.Service

variable {π α : Type}

/-- What is reported for a request is reported for each part of it. -/
def Narrows (report : List π → Except Error α) : Prop :=
  ∀ {requested found}, report requested = .ok found →
    ∀ {fewer}, fewer ⊆ requested → report fewer = .ok found

/-- Those of some requested permissions that are not held when they are asked for alone. -/
def lacking (has : List π → Except Error Bool) (requested : List π) : List π :=
  requested.filter fun wanted => has [wanted] = .ok false

/-- The form `has` that answers and the form `require` that passes or fails agree. `Forbids` tells
with which cause `require` reports what is missing and between which words its message lists that,
and `Quiet` that the store has no such errors of its own. -/
structure Forms (has : List π → Except Error Bool) (require : List π → Except Error Unit)
    [ToString π] (Forbids : (List String → Error) → String → String → Prop) (Quiet : Prop) :
    Prop where
  passes_iff : ∀ requested, require requested = .ok () ↔ has requested = .ok true
  /-- The message lists what is missing in the order of the request, and something is. -/
  forbids : ∀ {requested}, has requested = .ok false → lacking has requested ≠ [] ∧
    ∃ cause before after, Forbids cause before after ∧
      ∃ error, error = cause ((lacking has requested).map toString) ∧
        require requested = .error error ∧ error.kind = .forbidden ∧
        error.message = before ++ ", ".intercalate ((lacking has requested).map toString) ++ after
  fails_alike : ∀ {requested error}, has requested = .error error →
    require requested = .error error
  /-- Something is forbidden for what is missing, unless both forms fail alike. -/
  forbidden_iff : ∀ requested,
    (∃ error, require requested = .error error ∧ error.kind = .forbidden ∧
      has requested ≠ .error error) ↔ has requested = .ok false
  forbidden_iff_of_quiet : Quiet → ∀ requested,
    (∃ error, require requested = .error error ∧ error.kind = .forbidden) ↔
      has requested = .ok false
  /-- The answer is yes if and only if it is for each requested permission alone. -/
  answers_each : ∀ {requested answer}, has requested = .ok answer →
    (∀ wanted ∈ requested, ∃ single, has [wanted] = .ok single) ∧
      (answer = true ↔ ∀ wanted ∈ requested, has [wanted] = .ok true)
  /-- Order and repetitions do not matter. -/
  answers_same : ∀ {requested other answer}, has requested = .ok answer →
    (∀ wanted, wanted ∈ other ↔ wanted ∈ requested) → has other = .ok answer

section Agree

variable [Permission π] [DecidableEq π] {report : List π → Except Error α}
  {effective : α → List (EffectivePermission π)} {forbid : α → List String → Error}
  {requested : List π}

/-- Answers whether what is reported as effective covers a request. -/
def ask (report : List π → Except Error α) (effective : α → List (EffectivePermission π))
    (requested : List π) : Except Error Bool := do
  requireRequested requested
  let found ← report requested
  return allSatisfied requested (effective found)

/-- Passes if what is reported as effective covers a request. -/
def insist (report : List π → Except Error α) (effective : α → List (EffectivePermission π))
    (forbid : α → List String → Error) (requested : List π) : Except Error Unit := do
  requireRequested requested
  let found ← report requested
  demand requested (effective found) (forbid found)

theorem ask_of_report {found : α} (hne : requested ≠ []) (hreport : report requested = .ok found) :
    ask report effective requested = .ok (allSatisfied requested (effective found)) :=
  bind_eq_ok (requireRequested_eq_ok hne) (bind_eq_ok hreport rfl)

/-- An answer comes from a report on a request that is not empty. -/
theorem report_of_ask {answer : Bool} (h : ask report effective requested = .ok answer) :
    requested ≠ [] ∧ ∃ found, report requested = .ok found ∧
      allSatisfied requested (effective found) = answer := by
  obtain ⟨_, hrequested, hanswer⟩ := bind_eq_ok_iff.mp h
  obtain ⟨found, hreport, hfound⟩ := bind_eq_ok_iff.mp hanswer
  exact ⟨requireRequested_eq_ok_iff.mp hrequested, found, hreport, Except.ok.inj hfound⟩

/-- Both forms fail with the same error, or both decide by the same report. -/
theorem forms_cases (report : List π → Except Error α)
    (effective : α → List (EffectivePermission π)) (forbid : α → List String → Error)
    (requested : List π) :
    (∃ error, ask report effective requested = .error error ∧
      insist report effective forbid requested = .error error) ∨
    (ask report effective requested = .ok true ∧
      insist report effective forbid requested = .ok ()) ∨
    ∃ found, report requested = .ok found ∧ allSatisfied requested (effective found) = false ∧
      ask report effective requested = .ok false ∧
      insist report effective forbid requested =
        .error (forbid found (missing requested (effective found))) := by
  unfold ask insist
  cases requireRequested requested with
  | error error => exact Or.inl ⟨error, rfl, rfl⟩
  | ok _ =>
    cases hreport : report requested with
    | error error => exact Or.inl ⟨error, rfl, rfl⟩
    | ok found =>
      cases hsatisfied : allSatisfied requested (effective found) with
      | true =>
        refine Or.inr (Or.inl ⟨congrArg Except.ok hsatisfied, ?_⟩)
        exact if_pos hsatisfied
      | false =>
        refine Or.inr (Or.inr ⟨found, rfl, hsatisfied, congrArg Except.ok hsatisfied, ?_⟩)
        exact if_neg (Bool.eq_false_iff.mp hsatisfied)

/-- Each permission of a request that has been reported on is answered from the same report. -/
theorem ask_singleton (hnarrows : Narrows report) (effective : α → List (EffectivePermission π))
    {found : α} (hreport : report requested = .ok found) {wanted : π}
    (hwanted : wanted ∈ requested) :
    ask report effective [wanted] = .ok (covers (effective found) wanted) := by
  have hsingle : report [wanted] = .ok found := by
    apply hnarrows hreport
    rw [List.cons_subset]
    exact ⟨hwanted, List.nil_subset _⟩
  have hcovers : allSatisfied [wanted] (effective found) = covers (effective found) wanted := by
    simp [allSatisfied]
  rw [ask_of_report (List.cons_ne_nil _ _) hsingle, hcovers]

/-- What nothing covers is what is not held when it is asked for alone. -/
theorem filter_covers_eq (hnarrows : Narrows report)
    (effective : α → List (EffectivePermission π)) {found : α}
    (hreport : report requested = .ok found) :
    (requested.filter fun wanted => !covers (effective found) wanted) =
      lacking (ask report effective) requested := by
  apply List.filter_congr
  intro wanted hwanted
  rw [ask_singleton hnarrows effective hreport hwanted]
  cases covers (effective found) wanted <;> simp

/-- A request that is not satisfied lacks something. -/
theorem lacking_ne_nil (hnarrows : Narrows report) {found : α}
    (hreport : report requested = .ok found)
    (hunsatisfied : allSatisfied requested (effective found) = false) :
    lacking (ask report effective) requested ≠ [] := by
  rw [← filter_covers_eq hnarrows effective hreport]
  intro hnil
  have hcovered : ∀ wanted ∈ requested, covers (effective found) wanted = true := by
    simpa using List.filter_eq_nil_iff.mp hnil
  have hsatisfied : allSatisfied requested (effective found) = true :=
    List.all_eq_true.mpr hcovered
  rw [hunsatisfied] at hsatisfied
  cases hsatisfied

theorem ask_each (hnarrows : Narrows report) {answer : Bool}
    (h : ask report effective requested = .ok answer) :
    (∀ wanted ∈ requested, ∃ single, ask report effective [wanted] = .ok single) ∧
      (answer = true ↔ ∀ wanted ∈ requested, ask report effective [wanted] = .ok true) := by
  obtain ⟨_, found, hreport, rfl⟩ := report_of_ask h
  have hsingle {wanted : π} (hwanted : wanted ∈ requested) :
      ask report effective [wanted] = .ok (covers (effective found) wanted) :=
    ask_singleton hnarrows effective hreport hwanted
  refine ⟨fun wanted hwanted => ⟨_, hsingle hwanted⟩, ?_⟩
  rw [allSatisfied, List.all_eq_true]
  apply forall₂_congr
  intro wanted hwanted
  rw [hsingle hwanted, Except.ok.injEq]

/-- A report on a request is one on any other with the same permissions. -/
theorem ask_same (hnarrows : Narrows report) {other : List π} {answer : Bool}
    (h : ask report effective requested = .ok answer)
    (hsame : ∀ wanted, wanted ∈ other ↔ wanted ∈ requested) :
    ask report effective other = .ok answer := by
  obtain ⟨hne, found, hreport, rfl⟩ := report_of_ask h
  have hother : report other = .ok found := by
    apply hnarrows hreport
    exact fun wanted hwanted => (hsame wanted).mp hwanted
  have hne' : other ≠ [] := by
    intro hnil
    obtain ⟨wanted, hwanted⟩ := List.exists_mem_of_ne_nil _ hne
    rw [← hsame, hnil] at hwanted
    exact List.not_mem_nil hwanted
  have hanswer : allSatisfied other (effective found) =
      allSatisfied requested (effective found) := by
    rw [Bool.eq_iff_iff, allSatisfied, allSatisfied, List.all_eq_true, List.all_eq_true]
    exact forall_congr' fun wanted => imp_congr_left (hsame wanted)
  rw [ask_of_report hne' hother, hanswer]

/-- Two forms that decide by the same report agree. -/
theorem forms_of_report (hnarrows : Narrows report)
    {Forbids : (List String → Error) → String → String → Prop} {Quiet : Prop}
    (hforbids : ∀ {requested found}, report requested = .ok found →
      ∃ before after, Forbids (forbid found) before after ∧
        Error.Lists (forbid found) before after)
    (hquiet : Quiet → ∀ requested, FailsOnly (·.kind ≠ .forbidden) (report requested)) :
    Forms (ask report effective) (insist report effective forbid) Forbids Quiet where
  passes_iff requested := by
    rcases forms_cases report effective forbid requested with
      ⟨error, hask, hinsist⟩ | ⟨hask, hinsist⟩ | ⟨found, _, _, hask, hinsist⟩
    · simp [hask, hinsist]
    · simp [hask, hinsist]
    · simp [hask, hinsist]
  forbids {requested} hanswer := by
    rcases forms_cases report effective forbid requested with
      ⟨error, hask, _⟩ | ⟨hask, _⟩ | ⟨found, hreport, hunsatisfied, _, hinsist⟩
    · cases hask.symm.trans hanswer
    · cases hask.symm.trans hanswer
    · obtain ⟨before, after, hcause, hlists⟩ := hforbids hreport
      rw [missing, filter_covers_eq hnarrows effective hreport] at hinsist
      exact ⟨lacking_ne_nil hnarrows hreport hunsatisfied, forbid found, before, after, hcause,
        _, rfl, hinsist, hlists.kind_eq _, hlists.message_eq _⟩
  fails_alike {requested error} hfails := by
    rcases forms_cases report effective forbid requested with
      ⟨other, hask, hinsist⟩ | ⟨hask, _⟩ | ⟨_, _, _, hask, _⟩
    · cases hask.symm.trans hfails
      exact hinsist
    · cases hask.symm.trans hfails
    · cases hask.symm.trans hfails
  forbidden_iff requested := by
    rcases forms_cases report effective forbid requested with
      ⟨error, hask, hinsist⟩ | ⟨hask, hinsist⟩ | ⟨found, hreport, _, hask, hinsist⟩
    · simp [hask, hinsist]
    · simp [hask, hinsist]
    · obtain ⟨_, _, _, hlists⟩ := hforbids hreport
      simp [hask, hinsist, hlists.kind_eq]
  forbidden_iff_of_quiet hsilent requested := by
    -- what `ask` fails with has nothing to do with what is held
    have hown : FailsOnly (·.kind ≠ .forbidden) (ask report effective requested) := by
      have hempty : FailsOnly (·.kind ≠ .forbidden) (requireRequested requested) :=
        (requireRequested_fails requested).mono fun error hkind => by simp [hkind]
      apply hempty.bind
      intro _ _
      apply (hquiet hsilent requested).bind
      intro _ _
      exact FailsOnly.of_ok rfl
    rcases forms_cases report effective forbid requested with
      ⟨error, hask, hinsist⟩ | ⟨hask, hinsist⟩ | ⟨found, hreport, _, hask, hinsist⟩
    · have hne : error.kind ≠ .forbidden := hown error hask
      simp [hask, hinsist, hne]
    · simp [hask, hinsist]
    · obtain ⟨_, _, _, hlists⟩ := hforbids hreport
      simp [hask, hinsist, hlists.kind_eq]
  answers_each := ask_each hnarrows
  answers_same := ask_same hnarrows

end Agree

theorem checkAll_subset {check : π → Except Error Unit} {requested fewer : List π}
    (h : checkAll check requested = .ok ()) (hfewer : fewer ⊆ requested) :
    checkAll check fewer = .ok () := by
  rw [checkAll_eq_ok_iff] at h ⊢
  exact fun wanted hwanted => h wanted (hfewer hwanted)

section Checks

variable (service : Service) (accessorId accessedId : ResourceId) (className domainName : String)
  (scope : Option String)

theorem narrows_checkedOnResource : Narrows (service.checkedOnResource accessorId accessedId) := by
  intro requested found h fewer hfewer
  obtain ⟨accessor, haccessor, h⟩ := bind_eq_ok_iff.mp h
  obtain ⟨accessed, haccessed, h⟩ := bind_eq_ok_iff.mp h
  obtain ⟨resourceClass, hclass, h⟩ := bind_eq_ok_iff.mp h
  obtain ⟨_, hvalid, hresolve⟩ := bind_eq_ok_iff.mp h
  have hfewer := checkAll_subset hvalid hfewer
  apply bind_eq_ok haccessor
  apply bind_eq_ok haccessed
  apply bind_eq_ok hclass
  exact bind_eq_ok hfewer hresolve

theorem narrows_checkedCreate : Narrows (service.checkedCreate accessorId className scope) := by
  intro requested found h fewer hfewer
  obtain ⟨accessor, haccessor, h⟩ := bind_eq_ok_iff.mp h
  obtain ⟨resourceClass, hclass, h⟩ := bind_eq_ok_iff.mp h
  obtain ⟨domain, hdomain, h⟩ := bind_eq_ok_iff.mp h
  obtain ⟨_, hvalid, hresolve⟩ := bind_eq_ok_iff.mp h
  have hfewer := checkAll_subset hvalid hfewer
  apply bind_eq_ok haccessor
  apply bind_eq_ok hclass
  apply bind_eq_ok hdomain
  exact bind_eq_ok hfewer hresolve

/-- The domain that a report on creation comes with is the one that was named or meant. -/
theorem resolveDomain_of_checkedCreate {requested : List ResourceCreatePermission} {domain : Domain}
    {effective : List (EffectivePermission ResourceCreatePermission)}
    (h : service.checkedCreate accessorId className scope requested = .ok (domain, effective)) :
    ∃ accessor, service.requireParticipant .accessor accessorId = .ok accessor ∧
      service.resolveDomain accessor scope = .ok domain := by
  obtain ⟨accessor, haccessor, h⟩ := bind_eq_ok_iff.mp h
  obtain ⟨resourceClass, _, h⟩ := bind_eq_ok_iff.mp h
  obtain ⟨located, hlocated, h⟩ := bind_eq_ok_iff.mp h
  obtain ⟨_, _, h⟩ := bind_eq_ok_iff.mp h
  obtain ⟨accessors, _, h⟩ := bind_eq_ok_iff.mp h
  obtain ⟨ancestors, _, h⟩ := bind_eq_ok_iff.mp h
  obtain ⟨superUser, _, h⟩ := bind_eq_ok_iff.mp h
  obtain ⟨resolved, _, hpair⟩ := bind_eq_ok_iff.mp h
  cases hpair
  exact ⟨accessor, haccessor, hlocated⟩

end Checks

section CanGrant

variable {service : Service} {grantorId accessedId : ResourceId}
  {requested : List ResourcePermission}

/-- A class has no regard for grant options. -/
theorem checkAll_validate_regrantable (resourceClass : ResourceClass)
    (requested : List ResourcePermission) :
    checkAll resourceClass.validate (requested.map Permission.regrantable) =
      checkAll resourceClass.validate requested := by
  induction requested with
  | nil => rfl
  | cons wanted requested ih =>
    have hwanted : resourceClass.validate (Permission.regrantable wanted) =
        resourceClass.validate wanted := rfl
    rw [List.map_cons, checkAll, checkAll, hwanted, ih]

theorem checkedOnResource_regrantable :
    service.checkedOnResource grantorId accessedId (requested.map Permission.regrantable) =
      service.checkedOnResource grantorId accessedId requested := by
  unfold checkedOnResource
  simp only [checkAll_validate_regrantable]

/-- What may be granted is what is held with the grant option, errors included. -/
theorem canGrant_eq : service.canGrantResourcePermissions grantorId accessedId requested =
    service.hasResourcePermissions grantorId accessedId
      (requested.map Permission.regrantable) := by
  have hrequested : requireRequested (requested.map Permission.regrantable) =
      requireRequested requested := by
    cases requested <;> rfl
  have hcovers (effective : List (EffectivePermission ResourcePermission)) :
      (requested.all fun wanted => effective.any fun held =>
        Permission.isGrantableFrom wanted held.permission) =
      allSatisfied (requested.map Permission.regrantable) effective := by
    rw [allSatisfied, List.all_map]
    simp only [Function.comp_def, covers, Permission.isSatisfiedBy_regrantable_eq]
  unfold canGrantResourcePermissions hasResourcePermissions
  rw [hrequested, checkedOnResource_regrantable]
  simp only [hcovers]

theorem has_of_canGrant
    (h : service.canGrantResourcePermissions grantorId accessedId requested = .ok true) :
    service.hasResourcePermissions grantorId accessedId requested = .ok true := by
  obtain ⟨_, hrequested, h⟩ := bind_eq_ok_iff.mp h
  obtain ⟨effective, hchecked, hall⟩ := bind_eq_ok_iff.mp h
  have hsatisfied : allSatisfied requested effective = true := by
    rw [allSatisfied_iff]
    intro wanted hwanted
    have hany := List.all_eq_true.mp (Except.ok.inj hall) wanted hwanted
    obtain ⟨entry, hentry, hgrantable⟩ := List.any_eq_true.mp hany
    exact ⟨entry, hentry, (Permission.isGrantableFrom_iff.mp hgrantable).2⟩
  apply bind_eq_ok hrequested
  exact bind_eq_ok hchecked (congrArg Except.ok hsatisfied)

end CanGrant

/-- Nothing that a service reads is refused as forbidden. -/
def Quiet (service : Service) : Prop :=
  service.Reads fun error => error.kind ≠ .forbidden

/-- The forms of the checks of a service agree: on a resource, on creation, and on a domain. -/
structure FormsAgree (service : Service) : Prop where
  onResource : ∀ accessor accessed, Forms (service.hasResourcePermissions accessor accessed)
    (service.requireResourcePermissions accessor accessed)
    (fun cause before after => cause = (.missingOnResource accessor · accessed) ∧
      before = "forbidden: " ++ s!"resource {accessor} is missing permission(s) " ∧
      after = s!" on resource {accessed}") service.Quiet
  onCreation : ∀ accessorId className scope,
    Forms (service.hasResourceCreatePermissions accessorId className scope)
      (service.requireResourceCreatePermissions accessorId className scope)
      (fun cause before after => ∃ accessor domain,
        service.requireParticipant .accessor accessorId = .ok accessor ∧
        service.resolveDomain accessor scope = .ok domain ∧
        cause = (.missingForClass accessorId · className domain.name) ∧
        before = "forbidden: " ++ s!"resource {accessorId} is missing create permission(s) " ∧
        after = " for " ++ s!"resource class '{className}' in domain '{domain.name}'")
      service.Quiet
  onDomain : ∀ accessor domainName, Forms (service.hasDomainPermissions accessor domainName)
    (service.requireDomainPermissions accessor domainName)
    (fun cause before after => cause = (.missingOnDomain accessor · domainName) ∧
      before = "forbidden: " ++ s!"resource {accessor} is missing domain permission(s) " ∧
      after = " on domain " ++ s!"'{domainName}'") service.Quiet
  canGrant_eq : ∀ grantor accessed requested,
    service.canGrantResourcePermissions grantor accessed requested =
      service.hasResourcePermissions grantor accessed (requested.map Permission.regrantable)
  has_of_canGrant : ∀ {grantor accessed requested},
    service.canGrantResourcePermissions grantor accessed requested = .ok true →
      service.hasResourcePermissions grantor accessed requested = .ok true

theorem refusesArguments_quiet : RefusesArguments fun error => error.kind ≠ .forbidden := by
  intro error hkind hforbidden
  simp [hforbidden] at hkind

/-- Over any store, consistent or not, the forms of each check agree on every request. -/
theorem forms_agree (service : Service) : service.FormsAgree where
  onResource accessor accessed := by
    apply forms_of_report (service.narrows_checkedOnResource accessor accessed)
    · intro _ _ _
      exact ⟨_, _, ⟨rfl, rfl, rfl⟩, Error.lists_missingOnResource accessor accessed⟩
    · intro hquiet requested
      exact hquiet.checkedOnResource
        (hquiet.refusesOnResource refusesArguments_quiet accessor accessed requested)
  onCreation accessorId className scope := by
    apply forms_of_report (service.narrows_checkedCreate accessorId className scope)
    · intro requested found hfound
      obtain ⟨accessor, haccessor, hdomain⟩ :=
        resolveDomain_of_checkedCreate service accessorId className scope hfound
      exact ⟨_, _, ⟨accessor, found.1, haccessor, hdomain, rfl, rfl, rfl⟩,
        Error.lists_missingForClass accessorId className found.1.name⟩
    · intro hquiet requested
      exact hquiet.checkedCreate (hquiet.refusesOnClass refusesArguments_quiet accessorId className
        scope validateCreate_fails requested)
  onDomain accessor domainName := by
    have hnarrows : Narrows fun _ : List DomainPermission =>
        service.effectiveDomainPermissions accessor domainName := fun hreport _ _ => hreport
    apply forms_of_report hnarrows
    · intro _ _ _
      exact ⟨_, _, ⟨rfl, rfl, rfl⟩, Error.lists_missingOnDomain accessor domainName⟩
    · intro hquiet _
      exact hquiet.effectiveDomainPermissions
        (hquiet.requireParticipant refusesArguments_quiet .accessor accessor)
        (hquiet.requireDomain refusesArguments_quiet domainName)
  canGrant_eq _ _ _ := canGrant_eq
  has_of_canGrant := has_of_canGrant

end Authorization.Service
