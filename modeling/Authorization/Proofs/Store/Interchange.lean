import Authorization.Proofs.Store.Mirror
import Authorization.Proofs.Store.Transaction

namespace Authorization

theorem GrantRows.outside_stored {κ ρ σ : Type} {row : ρ → σ} {rows : GrantRows κ σ}
    {grants : GrantRows κ ρ} (h : rows.Perm (grants.stored row)) (scope : κ → Bool) :
    List.Perm (rows.outside scope) ((grants.outside scope).stored row) :=
  filter_stored h fun key => !scope key

/-- The tables without the grants of a domain. -/
def Tables.clear (tables : Tables) (domain : DomainId) : Tables :=
  { tables with
    grants := ((tables.grants.clear domain .create).clear domain .global).clear domain .domain }

namespace Database.Mirrors

variable {database : Database} {memory : Memory} (h : database.Mirrors memory)

include h

theorem clear (domain : DomainId) :
    Mirrors { database with tables := database.tables.clear domain } (memory.clear domain) :=
  { refusals := h.refusals
    tables :=
      { h.tables with
        global := GrantRows.outside_stored h.tables.global fun key => key.domainId = domain
        create := GrantRows.outside_stored h.tables.create fun key => key.domainId = domain
        domain := GrantRows.outside_stored h.tables.domain fun key => key.domainId = domain } }

theorem countIn_eq (domain : DomainId) (table : ScopedTable) :
    database.tables.grants.countIn domain table = memory.records.grants.countIn domain table := by
  cases table with
  | create => exact GrantRows.countWithin_stored h.tables.create fun key => key.domainId = domain
  | global => exact GrantRows.countWithin_stored h.tables.global fun key => key.domainId = domain
  | domain => exact GrantRows.countWithin_stored h.tables.domain fun key => key.domainId = domain

theorem clearTransaction_eq (domain : DomainId) :
    database.clearTransaction domain =
      .ok (memory.countIn domain, (database.tables.clear domain).grants) := by
  have hpasses : checkAll database.gate (Statement.clearing domain) = .ok () :=
    checkAll_eq_ok_iff.mpr fun statement _ => gate_eq_ok h.refusals statement
  have hcount : database.tables.grants.countScoped domain = memory.countIn domain := by
    rw [GrantTables.countScoped, h.countIn_eq, h.countIn_eq, h.countIn_eq, Memory.countIn]
    omega
  rw [clearTransaction_eq_map, hpasses, hcount, Tables.clear, GrantTables.clear_clear_clear]
  rfl

end Database.Mirrors

/-- Clearing a domain counts the same grants in both stores and leaves them alike. -/
theorem simulates_clearDomain (domain : DomainId) :
    Removal.Simulates
      (fun (memory : Memory) (database : Database) => memory.Reachable ∧ database.Mirrors memory)
      (Store.clearDomain domain) (Store.clearDomain domain) := by
  rintro memory database ⟨hreachable, hmirrors⟩
  have hmemory : (Store.clearDomain domain).outcome memory =
      (.ok (memory.countIn domain), memory.clear domain) := rfl
  have hdatabase : (Store.clearDomain domain).outcome database =
      (.ok (memory.countIn domain),
        { database with tables := database.tables.clear domain }) := by
    rw [Removal.outcome]
    dsimp only [Store.clearDomain, ExceptT.run, StateT.run, Id.run]
    rw [hmirrors.clearTransaction_eq]
    rfl
  have hafter : (memory.clear domain).Reachable := hreachable.after (.clear domain)
  rw [hmemory, hdatabase]
  exact ⟨rfl, hafter, hmirrors.clear domain⟩

namespace Database.Mirrors

variable {database : Database} {memory : Memory} (h : database.Mirrors memory)
  (hreachable : memory.Reachable) (strategy strategy' : ClosureStrategy)

include h hreachable

theorem service_eq : (Store.backend database).service strategy' =
    ((Store.backend memory).service strategy).reading database.grantSource := by
  have hregistered := hreachable.sound.registered
  have hdirectory : (Store.backend database).directory = (Store.backend memory).directory :=
    h.directory_eq hregistered
  rw [Backend.service, Backend.service, hdirectory,
    ← h.closure_eq hregistered strategy strategy']
  rfl

theorem cascade_eq : (Store.backend database).cascade strategy' =
    (Store.backend memory).cascade strategy := by
  have hregistered := hreachable.sound.registered
  have hdirectory : (Store.backend database).directory = (Store.backend memory).directory :=
    h.directory_eq hregistered
  rw [Backend.cascade, Backend.cascade, hdirectory, ← h.closure_eq hregistered strategy strategy']

theorem sameAnswers : ((Store.backend memory).service strategy).SameAnswers
    ((Store.backend database).service strategy') := by
  have hcomputes := Memory.computes hreachable.sound.registered
    ⟨List.Perm.refl memory.records.edges.donors, List.Perm.refl _⟩ strategy
  have hdescendants : ∀ id, ∃ entries,
      ((Store.backend memory).closure strategy).descendants id = .ok entries := by
    intro id
    obtain ⟨entries, hentries, _⟩ := hcomputes.descendants id
    exact ⟨entries, hentries⟩
  rw [h.service_eq hreachable strategy strategy']
  exact Service.sameAnswers_reading h.grants_alike hdescendants

/-- Over tables that mirror a memory store every method of a service gives the same answer or the
same error as over the store, whatever the strategies are, where effective permissions are the same
up to order. Removing the grants of a subtree gives the same answer, too, and leaves tables that
mirror what it leaves in the store. -/
theorem interchangeable :
    ((Store.backend memory).service strategy).SameAnswers
        ((Store.backend database).service strategy') ∧
      ∀ name,
        let outcome := (((Store.backend memory).cascade strategy).removeScopedGrants
          Store.clearDomain name).outcome memory
        let outcome' := (((Store.backend database).cascade strategy').removeScopedGrants
          Store.clearDomain name).outcome database
        outcome.1 = outcome'.1 ∧ outcome.2.Reachable ∧ outcome'.2.Mirrors outcome.2 := by
  refine ⟨h.sameAnswers hreachable strategy strategy', fun name => ?_⟩
  rw [h.cascade_eq hreachable strategy strategy']
  exact Cascade.simulates_removeScopedGrants _ simulates_clearDomain name memory database
    ⟨hreachable, h⟩

end Database.Mirrors

namespace Office

/-- The tables of the office, with the rows in another order than that of the mutations. -/
def ledger : Database where
  tables :=
    { domains := [⟨branch.id, "branch", some company.id⟩, ⟨company.id, "company", none⟩]
      classes := [⟨document.id, "document", false, ["view"]⟩]
      resources := [file, team, clerk]
      grants :=
        { direct :=
            [(⟨team.id, file.id⟩, ⟨none, "view", true⟩),
              (⟨team.id, clerk.id⟩, ⟨some (-101), "*INHERIT", false⟩),
              (⟨clerk.id, team.id⟩, ⟨some (-101), "*INHERIT", false⟩)]
          global := [(⟨team.id, document.id, company.id⟩, ⟨some (-105), "*QUERY", false⟩)]
          create := [(⟨team.id, document.id, company.id⟩, ⟨some (-100), none, none, none, true⟩)]
          domain := [(⟨team.id, company.id⟩, ⟨-303, false⟩)]
          domainCreate := [(team.id, ⟨some (-300), none, none, false⟩)] } }

theorem ledger_mirrors : ledger.Mirrors store where
  refusals := rfl
  tables :=
    { domains := by decide
      classes := by decide +kernel
      resources := by decide
      direct := by decide
      global := by decide
      create := by decide
      domain := by decide
      domainCreate := by decide }

theorem ledger_interchangeable :
    ((Store.backend store).service .iterative).SameAnswers
        ((Store.backend ledger).service .recursive) ∧
      ((((Store.backend store).cascade .iterative).removeScopedGrants Store.clearDomain
          "company").outcome store).1 =
        ((((Store.backend ledger).cascade .recursive).removeScopedGrants Store.clearDomain
          "company").outcome ledger).1 := by
  obtain ⟨hanswers, hcascades⟩ :=
    ledger_mirrors.interchangeable store_reachable .iterative .recursive
  exact ⟨hanswers, (hcascades "company").1⟩

end Office

end Authorization
