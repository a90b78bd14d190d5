import Authorization.Proofs.Store.Cleared
import Authorization.Store.Database

namespace Authorization

namespace GrantRows

variable {κ ρ : Type} {rows : GrantRows κ ρ} {scope scope' : κ → Bool}

/-- Dropping a scope leaves the rows of a scope apart from it alone. -/
theorem countWithin_outside (h : ∀ key, scope' key = true → scope key = false) :
    (rows.outside scope).countWithin scope' = rows.countWithin scope' := by
  rw [countWithin, countWithin, outside, List.countP_filter]
  apply List.countP_congr
  intro row _
  rw [Bool.and_eq_true, Bool.not_eq_true']
  exact and_iff_left_of_imp (h row.1)

end GrantRows

namespace GrantTables

variable {ρ γ δ ε : Type} (grants : GrantTables ρ γ δ ε)

/-- The number of rows that belong to a domain. -/
def countScoped (domain : DomainId) : Nat :=
  grants.countIn domain .create + grants.countIn domain .global + grants.countIn domain .domain

/-- The number of rows that belong to some domain. -/
def scopedRows : Nat :=
  grants.create.length + grants.global.length + grants.domain.length

theorem countScoped_add_scopedRows (domain : DomainId) :
    grants.countScoped domain + (grants.without [domain]).scopedRows = grants.scopedRows := by
  have hcreate := grants.create.countWithin_add_length (·.domainId = domain)
  have hglobal := grants.global.countWithin_add_length (·.domainId = domain)
  have hdomain := grants.domain.countWithin_add_length (·.domainId = domain)
  simp only [countScoped, countIn, scopedRows, without, List.mem_singleton]
  omega

theorem countScoped_without {domains : List DomainId} {domain : DomainId} (h : domain ∉ domains) :
    (grants.without domains).countScoped domain = grants.countScoped domain := by
  have hkept {κ α : Type} (rows : GrantRows κ α) (domainOf : κ → DomainId) :
      (rows.outside (domainOf · ∈ domains)).countWithin (domainOf · = domain) =
        rows.countWithin (domainOf · = domain) := by
    apply GrantRows.countWithin_outside
    intro key hkey
    rw [of_decide_eq_true hkey]
    exact decide_eq_false h
  have hcreate : (grants.without domains).countIn domain .create =
      grants.countIn domain .create := hkept grants.create ClassKey.domainId
  have hglobal : (grants.without domains).countIn domain .global =
      grants.countIn domain .global := hkept grants.global ClassKey.domainId
  have hdomain : (grants.without domains).countIn domain .domain =
      grants.countIn domain .domain := hkept grants.domain DomainKey.domainId
  rw [countScoped, hcreate, hglobal, hdomain]
  rfl

end GrantTables

/-- The statements that clear a domain, in order. -/
def Statement.clearing (domain : DomainId) : List Statement :=
  [.begin, .delete .create domain, .delete .global domain, .delete .domain domain, .commit]

namespace Database

/-- The database without the grants that belong to some domains. -/
def without (database : Database) (domains : List DomainId) : Database :=
  { database with
    tables := { database.tables with grants := database.tables.grants.without domains } }

variable (database : Database)

theorem without_nil : database.without [] = database := by
  rw [without, GrantTables.without_nil]

theorem without_without (domains domains' : List DomainId) :
    (database.without domains).without domains' = database.without (domains ++ domains') := by
  simp only [without, GrantTables.without_without]

/-- The transaction comes through if no statement is refused. -/
theorem clearTransaction_eq_map (domain : DomainId) :
    database.clearTransaction domain =
      (checkAll database.gate (Statement.clearing domain)).map fun _ =>
        (database.tables.grants.countScoped domain, database.tables.grants.without [domain]) := by
  simp only [clearTransaction, deleteScoped, Statement.clearing, checkAll]
  -- The first refused statement ends both sides with its error.
  cases database.gate .begin with
  | error error => rfl
  | ok _ =>
    cases database.gate (.delete .create domain) with
    | error error => rfl
    | ok _ =>
      cases database.gate (.delete .global domain) with
      | error error => rfl
      | ok _ =>
        cases database.gate (.delete .domain domain) with
        | error error => rfl
        | ok _ =>
          cases database.gate .commit with
          | error error => rfl
          | ok _ =>
            rw [← GrantTables.clear_clear_clear]
            rfl

/-- Clearing a domain either changes nothing, with the error of the refused statement, or drops the
rows of the domain and answers with their number. -/
theorem outcome_clearDomain (domain : DomainId) :
    (Store.clearDomain domain).outcome database =
      match checkAll database.gate (Statement.clearing domain) with
      | .error error => (.error error, database)
      | .ok _ => (.ok (database.tables.grants.countScoped domain), database.without [domain]) := by
  rw [Removal.outcome]
  dsimp only [Store.clearDomain, ExceptT.run, StateT.run, Id.run]
  rw [clearTransaction_eq_map]
  cases checkAll database.gate (Statement.clearing domain) with
  | error error => rfl
  | ok _ => rfl

end Database

end Authorization
