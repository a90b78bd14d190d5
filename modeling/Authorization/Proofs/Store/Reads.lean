import Authorization.Proofs.Hierarchy.Paths
import Authorization.Proofs.Service.Forms
import Authorization.Proofs.Store.Refusal
import Authorization.Proofs.Store.Sound
import Authorization.Store.Database

namespace Authorization

namespace Memory

variable {sort : Error → Prop}

theorem closure_fails (memory : Memory) (strategy : ClosureStrategy) :
    (∀ id, FailsOnly sort (((Store.backend memory).closure strategy).accessors id)) ∧
      (∀ id, FailsOnly sort (((Store.backend memory).closure strategy).ancestors id)) ∧
      ∀ id, FailsOnly sort (((Store.backend memory).closure strategy).descendants id) := by
  cases strategy with
  | recursive =>
    refine ⟨fun id => ?_, fun id => ?_, fun id => ?_⟩
    · exact FailsOnly.of_ok ((Levels.isClosure_reachable _ id).normalize_eq _)
    · exact FailsOnly.of_ok ((Levels.isClosure_reachable _ id).normalize_eq _)
    · exact FailsOnly.of_ok ((Levels.isClosure_reachable _ id).normalize_eq _)
  | iterative =>
    refine ⟨FailsOnly.closure fun _ => ?_, FailsOnly.closure fun frontier => ?_,
      FailsOnly.closure fun _ => ?_⟩
    · exact FailsOnly.of_ok rfl
    · exact FailsOnly.of_ok (Neighbours.steps_eq_ok _ frontier)
    · exact FailsOnly.of_ok rfl

/-- A memory store forbids nothing, for whatever it holds, nothing that is read from it fails. -/
theorem quiet (memory : Memory) (strategy : ClosureStrategy) :
    ((Store.backend memory).service strategy).Quiet where
  findResource _ := FailsOnly.of_ok rfl
  findClass _ := FailsOnly.of_ok rfl
  findClassByName _ := FailsOnly.of_ok rfl
  listClasses := FailsOnly.of_ok rfl
  findDomain _ := FailsOnly.of_ok rfl
  findDomainByName _ := FailsOnly.of_ok rfl
  listResources _ := FailsOnly.of_ok rfl
  listDirect _ _ := FailsOnly.of_ok rfl
  listGlobal _ _ _ := FailsOnly.of_ok rfl
  listCreate _ _ _ := FailsOnly.of_ok rfl
  listDomain _ _ := FailsOnly.of_ok rfl
  listDomainCreate _ := FailsOnly.of_ok rfl
  listAllGlobal _ := FailsOnly.of_ok rfl
  listAllCreate _ := FailsOnly.of_ok rfl
  listAllDomain _ := FailsOnly.of_ok rfl
  accessors := (memory.closure_fails strategy).1
  ancestors := (memory.closure_fails strategy).2.1
  descendants := (memory.closure_fails strategy).2.2
  accessorDomainMissing _ _ := nofun
  grantedDomainMissing _ := nofun
  grantedClassMissing _ := nofun

end Memory

namespace Tables

/-- An error for a row that is of the same kind as one for a request. -/
inductive Misreports (tables : Tables) (error : Error) : Prop where
  | direct {row : DirectKey × ResourcePermissionRow} (hrow : row ∈ tables.grants.direct)
      (hrefuses : RefusesName row.2.name error)
  | global {row : ClassKey × ResourcePermissionRow} (hrow : row ∈ tables.grants.global)
      (hrefuses : RefusesName row.2.name error)
  | create {row : ClassKey × ResourceCreateRow} (hrow : row ∈ tables.grants.create)
      (hrefuses : row.2.RefusesWrapped error)
  | domain {row : DomainRow} (hrow : row ∈ tables.domains) (hrefuses : row.RefusesBlank error)

/-- Such an error says that something is missing or not valid in a request. -/
theorem Misreports.kind {tables : Tables} {error : Error} (h : tables.Misreports error) :
    error.kind ∈ [.required, .validation] := by
  cases h with
  | direct _ hrefuses => exact hrefuses.kind
  | global _ hrefuses => exact hrefuses.kind
  | create _ hrefuses =>
    obtain ⟨_, _, hname⟩ := hrefuses
    exact hname.kind
  | domain _ hrefuses =>
    rw [hrefuses.2]
    simp [Error.kind]

/-- An error that tells of bad rows, be it by its kind or not. -/
def Reports (tables : Tables) : Error → Prop :=
  InvalidOr tables.Misreports

end Tables

namespace Database

variable {database : Database} {sort : Error → Prop} {ρ α π : Type}

theorem query_fails {statement : Statement} {decode : ρ → Except Error α} {rows : List ρ}
    (hgate : FailsOnly sort (database.gate statement))
    (hrows : ∀ row ∈ rows, FailsOnly sort (decode row)) :
    FailsOnly sort (database.query statement decode rows) := by
  apply hgate.bind
  intro _ _
  exact FailsOnly.decodeRows hrows

theorem queryOne_fails {statement : Statement} {decode : ρ → Except Error α} {row? : Option ρ}
    (hgate : FailsOnly sort (database.gate statement))
    (hrow : ∀ row ∈ row?, FailsOnly sort (decode row)) :
    FailsOnly sort (database.queryOne statement decode row?) := by
  apply hgate.bind
  intro _ _
  exact FailsOnly.optionMapM hrow

/-- What a lookup finds is what the row that it finds stands for. -/
theorem queryOne_some {statement : Statement} (hgate : database.gate statement = .ok ())
    (decode : ρ → Except Error α) (row : ρ) (missing : Error) :
    (do
      let found ← database.queryOne statement decode (some row)
      orFail missing found) = decode row := by
  rw [queryOne, bind_of_eq_ok hgate, Option.mapM_some]
  cases decode row with
  | error error => rfl
  | ok a => rfl

section Closures

variable (hgate : ∀ statement, FailsOnly sort (database.gate statement))

include hgate

/-- A query of the whole hierarchy starts at its seed, so it is accepted if it is run. -/
theorem recursive_fails {entity : Entity} (statement : Statement)
    (edges : List (Id entity × Id entity)) (seed : Id entity) (unseeded : Error) :
    FailsOnly sort ((do
      database.gate statement
      Except.ok (Paths.closure edges seed)) >>= Ranked.normalize seed unseeded) := by
  cases hrun : database.gate statement with
  | error error => exact FailsOnly.of_error (hgate statement error hrun)
  | ok _ => exact FailsOnly.of_ok ((Paths.isClosure_closure edges seed).normalize_eq unseeded)

theorem accessors_fail (strategy : ClosureStrategy) (id : ResourceId) :
    FailsOnly sort (((Store.backend database).closure strategy).accessors id) := by
  cases strategy with
  | recursive => exact recursive_fails hgate _ _ _ _
  | iterative =>
    apply FailsOnly.closure
    intro frontier
    apply (hgate .donors).bind
    intro _ _
    exact FailsOnly.of_ok rfl

theorem ancestors_fail (strategy : ClosureStrategy) (id : DomainId) :
    FailsOnly sort (((Store.backend database).closure strategy).ancestors id) := by
  cases strategy with
  | recursive => exact recursive_fails hgate _ _ _ _
  | iterative =>
    apply FailsOnly.closure
    intro frontier
    apply (FailsOnly.checkAll fun id _ => hgate (.parent id)).bind
    intro _ _
    exact FailsOnly.of_ok (Neighbours.steps_eq_ok _ frontier)

theorem descendants_fail (strategy : ClosureStrategy) (id : DomainId) :
    FailsOnly sort (((Store.backend database).closure strategy).descendants id) := by
  cases strategy with
  | recursive => exact recursive_fails hgate _ _ _ _
  | iterative =>
    apply FailsOnly.closure
    intro frontier
    apply (hgate .children).bind
    intro _ _
    exact FailsOnly.of_ok rfl

end Closures

end Database

/-- Every row of the tables is refused, if at all, with an error of a sort. -/
structure Tables.DecodesWithin (tables : Tables) (sort : Error → Prop) : Prop where
  domains : ∀ row ∈ tables.domains, FailsOnly sort row.decode
  classes : ∀ row : ClassRow, FailsOnly sort row.decode
  direct : ∀ row ∈ tables.grants.direct, FailsOnly sort row.2.decode
  global : ∀ row ∈ tables.grants.global, FailsOnly sort row.2.decode
  create : ∀ row ∈ tables.grants.create, FailsOnly sort row.2.decode
  domain : ∀ row : DomainPermissionRow, FailsOnly sort row.decode
  domainCreate : ∀ row : DomainCreateRow, FailsOnly sort row.decode

theorem Tables.decodesWithin {tables : Tables} {sort : Error → Prop}
    (hreports : ∀ error, tables.Reports error → sort error) : tables.DecodesWithin sort := by
  have hinvalid (error : Error) (hkind : error.kind = .invalidState) : sort error :=
    hreports error (Or.inl hkind)
  constructor
  case domains =>
    intro row hrow error herror
    exact hreports error (Or.inr (.domain hrow (DomainRow.decode_error_iff.mp herror)))
  case classes => exact fun row => row.decode_fails.mono hinvalid
  case direct =>
    intro row hrow
    refine row.2.decode_fails.mono fun error herror => ?_
    exact hreports error (herror.imp_right fun hrefuses => .direct hrow hrefuses)
  case global =>
    intro row hrow
    refine row.2.decode_fails.mono fun error herror => ?_
    exact hreports error (herror.imp_right fun hrefuses => .global hrow hrefuses)
  case create =>
    intro row hrow
    refine row.2.decode_fails.mono fun error herror => ?_
    exact hreports error (herror.imp_right fun hrefuses => .create hrow hrefuses)
  case domain => exact fun row => row.decode_fails.mono hinvalid
  case domainCreate => exact fun row => row.decode_fails.mono hinvalid

namespace Database

variable {database : Database} {sort : Error → Prop} {ρ α : Type}

theorem held_decodes {κ : Type} [DecidableEq κ] {rows : GrantRows κ ρ} {key : κ}
    {decode : ρ → Except Error α} (hrows : ∀ row ∈ rows, FailsOnly sort (decode row.2)) :
    ∀ row ∈ rows.held key, FailsOnly sort (decode row) := by
  intro row hrow
  exact hrows (key, row) (GrantRows.mem_held_iff.mp hrow)

/-- A service over tables whose statements are refused only with errors of a sort reads nothing
else, if the sort has all errors that tell of bad rows. -/
theorem reads (hgate : ∀ statement, FailsOnly sort (database.gate statement))
    (hreports : ∀ error, database.tables.Reports error → sort error) (strategy : ClosureStrategy) :
    ((Store.backend database).service strategy).Reads sort := by
  have hrows := Tables.decodesWithin hreports
  -- Statements list rows in some order, of which the rows do not know.
  have hdirect (row : DirectKey × ResourcePermissionRow)
      (hrow : row ∈ Tables.byName database.tables.grants.direct) : FailsOnly sort row.2.decode :=
    hrows.direct row (List.mem_mergeSort.mp hrow)
  have hglobal (row : ClassKey × ResourcePermissionRow)
      (hrow : row ∈ Tables.byName database.tables.grants.global) : FailsOnly sort row.2.decode :=
    hrows.global row (List.mem_mergeSort.mp hrow)
  constructor
  case findResource =>
    intro id
    exact queryOne_fails (hgate _) fun _ _ => FailsOnly.of_ok rfl
  case findClass =>
    intro id
    exact queryOne_fails (hgate _) fun row _ => hrows.classes row
  case findClassByName =>
    intro name
    exact queryOne_fails (hgate _) fun row _ => hrows.classes row
  case listClasses =>
    exact query_fails (hgate _) fun row _ => hrows.classes row
  case findDomain =>
    intro id
    apply queryOne_fails (hgate _)
    exact fun row hrow => hrows.domains row (List.mem_of_find?_eq_some hrow)
  case findDomainByName =>
    intro name
    apply queryOne_fails (hgate _)
    exact fun row hrow => hrows.domains row (List.mem_of_find?_eq_some hrow)
  case listResources =>
    intro id
    exact query_fails (hgate _) fun _ _ => FailsOnly.of_ok rfl
  case listDirect =>
    intro accessor accessed
    exact query_fails (hgate _) (held_decodes hdirect)
  case listGlobal =>
    intro accessor resourceClass domain
    exact query_fails (hgate _) (held_decodes hglobal)
  case listCreate =>
    intro accessor resourceClass domain
    exact query_fails (hgate _) (held_decodes hrows.create)
  case listDomain =>
    intro accessor domain
    exact query_fails (hgate _) fun row _ => hrows.domain row
  case listDomainCreate =>
    intro accessor
    exact query_fails (hgate _) fun row _ => hrows.domainCreate row
  case listAllGlobal =>
    intro accessor
    apply query_fails (hgate _)
    intro row hrow
    apply (hglobal row (List.mem_of_mem_filter (List.mem_mergeSort.mp hrow))).bind
    intro _ _
    exact FailsOnly.of_ok rfl
  case listAllCreate =>
    intro accessor
    apply query_fails (hgate _)
    intro row hrow
    apply (hrows.create row (List.mem_of_mem_filter (List.mem_mergeSort.mp hrow))).bind
    intro _ _
    exact FailsOnly.of_ok rfl
  case listAllDomain =>
    intro accessor
    apply query_fails (hgate _)
    intro row _
    apply (hrows.domain row.2).bind
    intro _ _
    exact FailsOnly.of_ok rfl
  case accessors => exact accessors_fail hgate strategy
  case ancestors => exact ancestors_fail hgate strategy
  case descendants => exact descendants_fail hgate strategy
  case accessorDomainMissing => exact fun _ _ => hreports _ (Or.inl rfl)
  case grantedDomainMissing => exact fun _ => hreports _ (Or.inl rfl)
  case grantedClassMissing => exact fun _ => hreports _ (Or.inl rfl)

/-- A database forbids nothing by itself, whatever its rows are and whichever statements it
refuses. -/
theorem quiet (database : Database) (strategy : ClosureStrategy) :
    ((Store.backend database).service strategy).Quiet := by
  apply reads
  · intro statement error herror hforbidden
    unfold gate at herror
    split at herror
    · cases herror
      cases hforbidden
    · cases herror
  · rintro error (hinvalid | hmisreports) hforbidden
    · rw [hforbidden] at hinvalid
      cases hinvalid
    · have hkind := hmisreports.kind
      simp [hforbidden] at hkind

end Database

end Authorization
