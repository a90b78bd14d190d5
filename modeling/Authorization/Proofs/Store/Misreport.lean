import Authorization.Proofs.Store.InheritRow
import Authorization.Proofs.Store.Reads

/-! Bad rows and good questions. With two exceptions, a row that stands for nothing is reported as
an invalid state and not as an error of the caller. -/
namespace Authorization

/-- A list of requests is valid for the class that a row stands for, if it stands for one. -/
def ClassRow.Accepts {π : Type} (row : ClassRow)
    (validate : ResourceClass → π → Except Error Unit) (requested : List π) : Prop :=
  ∀ resourceClass, row.decode = .ok resourceClass →
    ∀ wanted ∈ requested, validate resourceClass wanted = .ok ()

namespace Tables

variable (tables : Tables)

/-- Errors of a check that may find something missing. -/
def ReportsOrForbids (error : Error) : Prop :=
  tables.Reports error ∨ error.kind = .forbidden

/-- The row of a resource. Of several with one handle the first is found. -/
def resource? (id : ResourceId) : Option Resource :=
  tables.resources.find? (·.id = id)

def classRow? (id : ResourceClassId) : Option ClassRow :=
  tables.classRows.find? (·.id = id)

/-- The row of the class that a text names. -/
def classRowNamed? (text : String) : Option ClassRow :=
  (Label.ofText? text).bind fun label => tables.classRows.find? (·.name = label.text)

def domainRowNamed? (text : String) : Option DomainRow :=
  (Label.ofText? text).bind fun label => tables.domains.find? (·.name = label.text)

/-- The arguments of a question about a resource are good: all that is named has a row, and the
class accepts what is requested. -/
structure GoodOnResource (accessor accessed : ResourceId) (requested : List ResourcePermission) :
    Prop where
  accessor : (tables.resource? accessor).isSome = true
  accessed : ∃ resource row, tables.resource? accessed = some resource ∧
    tables.classRow? resource.classId = some row ∧ row.Accepts ResourceClass.validate requested

/-- The arguments of a question about a class, perhaps within a domain, are good. -/
structure GoodOnClass {π : Type} (accessor : ResourceId) (className : String)
    (scope : Option String) (validate : ResourceClass → π → Except Error Unit)
    (requested : List π) : Prop where
  accessor : (tables.resource? accessor).isSome = true
  named : ∃ row, tables.classRowNamed? className = some row ∧ row.Accepts validate requested
  scope : ∀ text ∈ scope, (tables.domainRowNamed? text).isSome = true

end Tables

namespace Database

variable {database : Database} {sort : Error → Prop} {α π : Type}

section Arguments

variable (hgate : ∀ statement, database.gate statement = .ok ()) (strategy : ClosureStrategy)

include hgate

theorem requireParticipant_eq {role : Role} {id : ResourceId} {resource : Resource}
    (hfound : database.tables.resource? id = some resource) :
    ((Store.backend database).service strategy).requireParticipant role id = .ok resource := by
  have hanswer := queryOne_some (hgate (.findResource id)) Except.ok resource
    (.participantNotFound role id)
  rw [← hfound] at hanswer
  exact hanswer

theorem requireClassOf_eq {resource : Resource} {row : ClassRow}
    (hfound : database.tables.classRow? resource.classId = some row) :
    ((Store.backend database).service strategy).requireClassOf resource = row.decode := by
  have hanswer := queryOne_some (hgate .findClass) ClassRow.decode row
    (.classOfResourceNotFound resource.classId resource.id)
  rw [← hfound] at hanswer
  exact hanswer

theorem requireClass_eq {text : String} {row : ClassRow}
    (hfound : database.tables.classRowNamed? text = some row) :
    ((Store.backend database).service strategy).requireClass text = row.decode := by
  obtain ⟨label, hlabel, hrow⟩ := Option.bind_eq_some_iff.mp hfound
  have hrequire : Label.require "resource class name" text = .ok label := by
    rw [Label.require, hlabel]
  have hanswer := queryOne_some (hgate .findClassByName) ClassRow.decode row
    (.classNameNotFound label)
  rw [← hrow] at hanswer
  rw [Service.requireClass, bind_of_eq_ok hrequire]
  exact hanswer

theorem requireDomain_eq {text : String} {row : DomainRow}
    (hfound : database.tables.domainRowNamed? text = some row) :
    database.directory.requireDomain text = row.decode := by
  obtain ⟨label, hlabel, hrow⟩ := Option.bind_eq_some_iff.mp hfound
  have hrequire : Label.require "domain name" text = .ok label := by
    rw [Label.require, hlabel]
  have hanswer := queryOne_some (hgate (.findDomainByName label.text)) DomainRow.decode row
    (.domainNameNotFound label)
  rw [← hrow] at hanswer
  rw [Directory.requireDomain, bind_of_eq_ok hrequire]
  exact hanswer

theorem participant_fails {role : Role} {id : ResourceId}
    (hfound : (database.tables.resource? id).isSome = true) :
    FailsOnly sort (((Store.backend database).service strategy).requireParticipant role id) := by
  obtain ⟨resource, hresource⟩ := Option.isSome_iff_exists.mp hfound
  exact FailsOnly.of_ok (requireParticipant_eq hgate strategy hresource)

theorem domain_fails {text : String}
    (hfound : (database.tables.domainRowNamed? text).isSome = true) :
    FailsOnly database.tables.Reports (database.directory.requireDomain text) := by
  obtain ⟨row, hrow⟩ := Option.isSome_iff_exists.mp hfound
  rw [requireDomain_eq hgate hrow]
  obtain ⟨label, _, hnamed⟩ := Option.bind_eq_some_iff.mp hrow
  exact (Tables.decodesWithin fun _ => id).domains row (List.mem_of_find?_eq_some hnamed)

theorem refusesOnResource {accessor accessed : ResourceId} {requested : List ResourcePermission}
    (hgood : database.tables.GoodOnResource accessor accessed requested) :
    ((Store.backend database).service strategy).RefusesOnResource database.tables.Reports accessor
      accessed requested := by
  obtain ⟨resource, row, hresource, hrow, haccepts⟩ := hgood.accessed
  have hfound : ((Store.backend database).service strategy).requireParticipant .accessed accessed =
      .ok resource := requireParticipant_eq hgate strategy hresource
  have hclass := requireClassOf_eq hgate strategy hrow
  constructor
  case accessor => exact participant_fails hgate strategy hgood.accessor
  case accessed => exact FailsOnly.of_ok hfound
  case classOf =>
    -- the resource that a check comes upon is the one that the rows bear out
    intro other hother
    cases hfound.symm.trans hother
    rw [hclass]
    exact row.decode_fails.mono fun _ hkind => Or.inl hkind
  case requested =>
    intro other resourceClass hother hanswer wanted hwanted
    cases hfound.symm.trans hother
    rw [hclass] at hanswer
    exact FailsOnly.of_ok (haccepts resourceClass hanswer wanted hwanted)

theorem refusesOnClass {π δ : Type} {accessor : ResourceId} {className : String}
    {scope : Option String} {validate : ResourceClass → π → Except Error Unit} {requested : List π}
    (hgood : database.tables.GoodOnClass accessor className scope validate requested)
    {locate : Resource → Except Error δ}
    (hlocate : ∀ resource, FailsOnly database.tables.Reports (locate resource)) :
    ((Store.backend database).service strategy).RefusesOnClass database.tables.Reports accessor
      className locate validate requested := by
  obtain ⟨row, hrow, haccepts⟩ := hgood.named
  have hclass := requireClass_eq hgate strategy hrow
  constructor
  case accessor => exact participant_fails hgate strategy hgood.accessor
  case named =>
    rw [hclass]
    exact row.decode_fails.mono fun _ hkind => Or.inl hkind
  case located => exact fun resource _ => hlocate resource
  case requested =>
    intro resourceClass hanswer wanted hwanted
    rw [hclass] at hanswer
    exact FailsOnly.of_ok (haccepts resourceClass hanswer wanted hwanted)

end Arguments

section Reports

variable (hgate : ∀ statement, database.gate statement = .ok ()) (strategy : ClosureStrategy)

include hgate

/-- Where all statements are run, only bad rows fail what is read. -/
theorem reads_of_gate :
    ((Store.backend database).service strategy).Reads database.tables.Reports :=
  reads (fun statement => FailsOnly.of_ok (hgate statement)) (fun _ => id) strategy

theorem checkedOnResource_fails {accessor accessed : ResourceId}
    {requested : List ResourcePermission}
    (hgood : database.tables.GoodOnResource accessor accessed requested) :
    FailsOnly database.tables.Reports
      (((Store.backend database).service strategy).checkedOnResource accessor accessed
        requested) :=
  (reads_of_gate hgate strategy).checkedOnResource (refusesOnResource hgate strategy hgood)

theorem resolveDomain_fails {scope : Option String}
    (hscope : ∀ text ∈ scope, (database.tables.domainRowNamed? text).isSome = true)
    (accessor : Resource) :
    FailsOnly database.tables.Reports
      (((Store.backend database).service strategy).resolveDomain accessor scope) :=
  (reads_of_gate hgate strategy).resolveDomain fun text htext =>
    domain_fails hgate (hscope text htext)

theorem checkedGlobal_fails {accessor : ResourceId} {className : String} {scope : Option String}
    {requested : List ResourcePermission}
    (hgood : database.tables.GoodOnClass accessor className scope ResourceClass.validate
      requested) :
    FailsOnly database.tables.Reports
      (((Store.backend database).service strategy).checkedGlobal accessor className scope
        requested) := by
  apply (reads_of_gate hgate strategy).checkedGlobal
  exact refusesOnClass hgate strategy hgood (resolveDomain_fails hgate strategy hgood.scope)

theorem checkedCreate_fails {accessor : ResourceId} {className : String} {scope : Option String}
    {requested : List ResourceCreatePermission}
    (hgood : database.tables.GoodOnClass accessor className scope ResourceClass.validateCreate
      requested) :
    FailsOnly database.tables.Reports
      (((Store.backend database).service strategy).checkedCreate accessor className scope
        requested) := by
  apply (reads_of_gate hgate strategy).checkedCreate
  exact refusesOnClass hgate strategy hgood (resolveDomain_fails hgate strategy hgood.scope)

theorem resourcesByPermissions_fails {accessor : ResourceId} {className : String}
    {scope : Option String} {requested : List ResourcePermission} (hne : requested ≠ [])
    (hgood : database.tables.GoodOnClass accessor className scope ResourceClass.validate
      requested) :
    FailsOnly database.tables.Reports
      (((Store.backend database).service strategy).resourcesByPermissions accessor className scope
        requested) := by
  apply (reads_of_gate hgate strategy).resourcesByPermissions
  · exact FailsOnly.of_ok (Service.requireRequested_eq_ok hne)
  · apply refusesOnClass hgate strategy hgood
    intro _
    exact FailsOnly.optionMapM fun text htext => domain_fails hgate (hgood.scope text htext)

theorem effectiveDomainPermissions_fails {accessor : ResourceId} {name : String}
    (haccessor : (database.tables.resource? accessor).isSome = true)
    (hname : (database.tables.domainRowNamed? name).isSome = true) :
    FailsOnly database.tables.Reports
      (((Store.backend database).service strategy).effectiveDomainPermissions accessor name) :=
  (reads_of_gate hgate strategy).effectiveDomainPermissions
    (participant_fails hgate strategy haccessor) (domain_fails hgate hname)

theorem effectiveDomainCreatePermissions_fails {accessor : ResourceId}
    (haccessor : (database.tables.resource? accessor).isSome = true) :
    FailsOnly database.tables.Reports
      (((Store.backend database).service strategy).effectiveDomainCreatePermissions accessor) :=
  (reads_of_gate hgate strategy).effectiveDomainCreatePermissions
    (participant_fails hgate strategy haccessor)

end Reports

section Checks

variable {tables : Tables} {reported : Except Error α} {requested : List π}

/-- A question that asks for something fails as what is reported does. -/
theorem asked_fails (hne : requested ≠ []) (h : FailsOnly tables.Reports reported)
    (answer : α → Bool) :
    FailsOnly tables.Reports (do
      Service.requireRequested requested
      let found ← reported
      return answer found) := by
  have hrequested : FailsOnly tables.Reports (Service.requireRequested requested) :=
    FailsOnly.of_ok (Service.requireRequested_eq_ok hne)
  exact Service.check_fails hrequested h fun _ => FailsOnly.of_ok rfl

variable [Permission π] [DecidableEq π]

theorem demanded_fails (hne : requested ≠ []) (h : FailsOnly tables.Reports reported)
    (effective : α → List (EffectivePermission π)) {forbid : α → List String → Error}
    (hforbid : ∀ found missing, (forbid found missing).kind = .forbidden) :
    FailsOnly tables.ReportsOrForbids (do
      Service.requireRequested requested
      let found ← reported
      Service.demand requested (effective found) (forbid found)) := by
  have hrequested : FailsOnly tables.ReportsOrForbids (Service.requireRequested requested) :=
    FailsOnly.of_ok (Service.requireRequested_eq_ok hne)
  have hreported : FailsOnly tables.ReportsOrForbids reported :=
    h.mono fun _ hreports => Or.inl hreports
  refine Service.check_fails hrequested hreported fun found => ?_
  have hdemand := Service.demand_fails (hforbid found) requested (effective found)
  exact hdemand.mono fun _ hforbidden => Or.inr hforbidden

end Checks

/-- A service over tables that is asked a good question fails only for bad rows or because something
is forbidden. -/
structure ReportsRows (tables : Tables) (service : Service) : Prop where
  hasResourcePermissions : ∀ {accessor accessed requested}, requested ≠ [] →
    tables.GoodOnResource accessor accessed requested →
    FailsOnly tables.Reports (service.hasResourcePermissions accessor accessed requested)
  requireResourcePermissions : ∀ {accessor accessed requested}, requested ≠ [] →
    tables.GoodOnResource accessor accessed requested →
    FailsOnly tables.ReportsOrForbids
      (service.requireResourcePermissions accessor accessed requested)
  effectiveResourcePermissions : ∀ {accessor accessed},
    tables.GoodOnResource accessor accessed [] →
    FailsOnly tables.Reports (service.effectiveResourcePermissions accessor accessed)
  canGrantResourcePermissions : ∀ {grantor accessed requested}, requested ≠ [] →
    tables.GoodOnResource grantor accessed requested →
    FailsOnly tables.Reports (service.canGrantResourcePermissions grantor accessed requested)
  hasGlobalResourcePermissions : ∀ {accessor className scope requested}, requested ≠ [] →
    tables.GoodOnClass accessor className scope ResourceClass.validate requested →
    FailsOnly tables.Reports
      (service.hasGlobalResourcePermissions accessor className scope requested)
  effectiveGlobalResourcePermissions : ∀ {accessor className scope},
    tables.GoodOnClass accessor className scope ResourceClass.validate [] →
    FailsOnly tables.Reports
      (service.effectiveGlobalResourcePermissions accessor className scope)
  resourcesByPermissions : ∀ {accessor className scope requested}, requested ≠ [] →
    tables.GoodOnClass accessor className scope ResourceClass.validate requested →
    FailsOnly tables.Reports (service.resourcesByPermissions accessor className scope requested)
  hasResourceCreatePermissions : ∀ {accessor className scope requested}, requested ≠ [] →
    tables.GoodOnClass accessor className scope ResourceClass.validateCreate requested →
    FailsOnly tables.Reports
      (service.hasResourceCreatePermissions accessor className scope requested)
  requireResourceCreatePermissions : ∀ {accessor className scope requested}, requested ≠ [] →
    tables.GoodOnClass accessor className scope ResourceClass.validateCreate requested →
    FailsOnly tables.ReportsOrForbids
      (service.requireResourceCreatePermissions accessor className scope requested)
  effectiveResourceCreatePermissions : ∀ {accessor className scope},
    tables.GoodOnClass accessor className scope ResourceClass.validateCreate [] →
    FailsOnly tables.Reports
      (service.effectiveResourceCreatePermissions accessor className scope)
  hasDomainCreatePermissions : ∀ {accessor requested}, requested ≠ [] →
    (tables.resource? accessor).isSome = true →
    FailsOnly tables.Reports (service.hasDomainCreatePermissions accessor requested)
  effectiveDomainCreatePermissions : ∀ {accessor},
    (tables.resource? accessor).isSome = true →
    FailsOnly tables.Reports (service.effectiveDomainCreatePermissions accessor)
  hasDomainPermissions : ∀ {accessor name requested}, requested ≠ [] →
    (tables.resource? accessor).isSome = true → (tables.domainRowNamed? name).isSome = true →
    FailsOnly tables.Reports (service.hasDomainPermissions accessor name requested)
  requireDomainPermissions : ∀ {accessor name requested}, requested ≠ [] →
    (tables.resource? accessor).isSome = true → (tables.domainRowNamed? name).isSome = true →
    FailsOnly tables.ReportsOrForbids (service.requireDomainPermissions accessor name requested)
  effectiveDomainPermissions : ∀ {accessor name},
    (tables.resource? accessor).isSome = true → (tables.domainRowNamed? name).isSome = true →
    FailsOnly tables.Reports (service.effectiveDomainPermissions accessor name)
  createOverview : ∀ {accessor}, (tables.resource? accessor).isSome = true →
    FailsOnly tables.Reports (service.createOverview accessor)
  globalOverview : ∀ {accessor}, (tables.resource? accessor).isSome = true →
    FailsOnly tables.Reports (service.globalOverview accessor)

/-- What rows that stand for nothing are refused with, table by table. -/
structure RowsRefused : Prop where
  resourcePermission : ∀ (row : ResourcePermissionRow) (error : Error),
    row.decode = .error error ∧ error.kind ≠ .invalidState ↔ RefusesName row.name error
  resourceCreate : ∀ (row : ResourceCreateRow) (error : Error),
    row.decode = .error error ∧ error.kind ≠ .invalidState ↔ row.RefusesWrapped error
  domain : ∀ (row : DomainRow) (error : Error), row.decode = .error error ↔ row.RefusesBlank error
  resourceClass : ∀ row : ClassRow, FailsOnly (·.kind = .invalidState) row.decode
  domainPermission : ∀ row : DomainPermissionRow, FailsOnly (·.kind = .invalidState) row.decode
  domainCreate : ∀ row : DomainCreateRow, FailsOnly (·.kind = .invalidState) row.decode

theorem rowsRefused : RowsRefused where
  resourcePermission _ _ := ResourcePermissionRow.decode_shared_iff
  resourceCreate _ _ := ResourceCreateRow.decode_shared_iff
  domain _ _ := DomainRow.decode_error_iff
  resourceClass := ClassRow.decode_fails
  domainPermission := DomainPermissionRow.decode_fails
  domainCreate := DomainCreateRow.decode_fails

/-- Rows that stand for nothing are invalid states, but for those with a permission name that no
request could have either and for domains with a blank name. Where all statements are run, a good
question fails with nothing but an invalid state or the error of such a row in the tables, or
because something is forbidden. -/
theorem bad_rows_reported (hgate : ∀ statement, database.gate statement = .ok ())
    (strategy : ClosureStrategy) : RowsRefused ∧
      ReportsRows database.tables ((Store.backend database).service strategy) := by
  refine ⟨rowsRefused, ?_⟩
  constructor
  case hasResourcePermissions =>
    intro accessor accessed requested hne hgood
    exact asked_fails hne (checkedOnResource_fails hgate strategy hgood) _
  case requireResourcePermissions =>
    intro accessor accessed requested hne hgood
    exact demanded_fails hne (checkedOnResource_fails hgate strategy hgood) id fun _ _ => rfl
  case effectiveResourcePermissions =>
    intro accessor accessed hgood
    exact checkedOnResource_fails hgate strategy hgood
  case canGrantResourcePermissions =>
    intro grantor accessed requested hne hgood
    exact asked_fails hne (checkedOnResource_fails hgate strategy hgood) _
  case hasGlobalResourcePermissions =>
    intro accessor className scope requested hne hgood
    exact asked_fails hne (checkedGlobal_fails hgate strategy hgood) _
  case effectiveGlobalResourcePermissions =>
    intro accessor className scope hgood
    exact checkedGlobal_fails hgate strategy hgood
  case resourcesByPermissions =>
    intro accessor className scope requested hne hgood
    exact resourcesByPermissions_fails hgate strategy hne hgood
  case hasResourceCreatePermissions =>
    intro accessor className scope requested hne hgood
    exact asked_fails hne (checkedCreate_fails hgate strategy hgood) _
  case requireResourceCreatePermissions =>
    intro accessor className scope requested hne hgood
    exact demanded_fails hne (checkedCreate_fails hgate strategy hgood) Prod.snd fun _ _ => rfl
  case effectiveResourceCreatePermissions =>
    intro accessor className scope hgood
    apply (checkedCreate_fails hgate strategy hgood).bind
    intro _ _
    exact FailsOnly.of_ok rfl
  case hasDomainCreatePermissions =>
    intro accessor requested hne haccessor
    exact asked_fails hne (effectiveDomainCreatePermissions_fails hgate strategy haccessor) _
  case effectiveDomainCreatePermissions =>
    intro accessor haccessor
    exact effectiveDomainCreatePermissions_fails hgate strategy haccessor
  case hasDomainPermissions =>
    intro accessor name requested hne haccessor hname
    exact asked_fails hne (effectiveDomainPermissions_fails hgate strategy haccessor hname) _
  case requireDomainPermissions =>
    intro accessor name requested hne haccessor hname
    exact demanded_fails hne (effectiveDomainPermissions_fails hgate strategy haccessor hname) id
      fun _ _ => rfl
  case effectiveDomainPermissions =>
    intro accessor name haccessor hname
    exact effectiveDomainPermissions_fails hgate strategy haccessor hname
  case createOverview =>
    intro accessor haccessor
    have hreads := reads_of_gate hgate strategy
    exact hreads.overview hreads.listAllCreate _ (participant_fails hgate strategy haccessor)
  case globalOverview =>
    intro accessor haccessor
    have hreads := reads_of_gate hgate strategy
    exact hreads.overview hreads.listAllGlobal _ (participant_fails hgate strategy haccessor)

end Database

namespace Office

/-- The clerk has one grant on the file, of a permission without a name. -/
def blank : Database :=
  rewritten [(⟨clerk.id, file.id⟩, ⟨none, " ", false⟩)]

/-- The clerk has one grant on the file, of a system permission that there is not. -/
def strange : Database :=
  rewritten [(⟨clerk.id, file.id⟩, ⟨none, "*VIEW", false⟩)]

/-- The domain that the clerk belongs to has lost its name. -/
def nameless : Database :=
  ⟨{ ledger.tables with
      domains := [⟨branch.id, " ", some company.id⟩, ⟨company.id, "company", none⟩] }, []⟩

theorem good_on_file {direct : GrantRows DirectKey ResourcePermissionRow}
    {requested : List ResourcePermission}
    (hvalid : ∀ wanted ∈ requested, document.validate wanted = .ok ()) :
    (rewritten direct).tables.GoodOnResource clerk.id file.id requested where
  accessor := rfl
  accessed := by
    have hrow : ledger.tables.classRow? file.classId = some document.row := by decide +kernel
    refine ⟨file, document.row, rfl, hrow, ?_⟩
    intro resourceClass hdecode
    cases document.decode_row.symm.trans hdecode
    exact hvalid

/-- The clerk asks good questions, and is told that a name is missing or not valid. -/
theorem bad_rows_pass_for_requests :
    (blank.tables.GoodOnResource clerk.id file.id [] ∧
      ((Store.backend blank).service .iterative).effectiveResourcePermissions clerk.id file.id =
        .error (.required "permission name")) ∧
    (strange.tables.GoodOnResource clerk.id file.id [] ∧
      ((Store.backend strange).service .iterative).effectiveResourcePermissions clerk.id file.id =
        .error (.unknownSystemName .resource "*VIEW")) ∧
    ((nameless.tables.resource? clerk.id).isSome = true ∧
      (nameless.tables.classRowNamed? "document").isSome = true ∧
      ((Store.backend nameless).service .iterative).effectiveGlobalResourcePermissions clerk.id
        "document" none = .error (.required "domain name")) := by
  have hgood {direct : GrantRows DirectKey ResourcePermissionRow} :
      (rewritten direct).tables.GoodOnResource clerk.id file.id [] :=
    good_on_file (List.forall_mem_nil _)
  refine ⟨⟨hgood, ?_⟩, ⟨hgood, ?_⟩, rfl, ?_, ?_⟩
  · decide +kernel
  · decide +kernel
  · decide +kernel
  · decide +kernel

/-- What the clerk is told is the fault of a row in the tables. -/
theorem clerk_told_of_blank_row :
    ((Store.backend blank).service .iterative).hasResourcePermissions clerk.id file.id [view] =
        .error (.required "permission name") ∧
      blank.tables.Misreports (.required "permission name") := by
  have hgate : ∀ statement, blank.gate statement = .ok () := Database.gate_eq_ok rfl
  have hgood : blank.tables.GoodOnResource clerk.id file.id [view] := good_on_file (by decide)
  have htold : ((Store.backend blank).service .iterative).hasResourcePermissions clerk.id file.id
      [view] = .error (.required "permission name") := by decide +kernel
  obtain ⟨_, hreports⟩ := Database.bad_rows_reported hgate .iterative
  have hreported := hreports.hasResourcePermissions (List.cons_ne_nil view []) hgood _ htold
  exact ⟨htold, hreported.resolve_left nofun⟩

end Office

end Authorization
