import Authorization.Proofs.Cascade.BottomUp
import Authorization.Proofs.Service.Holding
import Authorization.Proofs.Store.Consistent
import Authorization.Proofs.Store.Interchange

/-! Removals that fail half-way. Each domain is cleared in a transaction of its own, and any
statement of any of them may be refused. -/
namespace Authorization

/-- The domains on which a call succeeded. -/
def cleared (calls : List Call) : List DomainId :=
  (calls.filter (·.answer.isOk)).map (·.domain)

theorem mem_cleared_iff {id : DomainId} {calls : List Call} :
    id ∈ cleared calls ↔ ∃ count, ⟨id, .ok count⟩ ∈ calls := by
  rw [cleared, List.mem_map]
  constructor
  · rintro ⟨⟨_, answer⟩, hcall, rfl⟩
    obtain ⟨hmem, hok⟩ := List.mem_filter.mp hcall
    cases answer with
    | error error => cases hok
    | ok count => exact ⟨count, hmem⟩
  · rintro ⟨count, hmem⟩
    exact ⟨⟨id, .ok count⟩, List.mem_filter.mpr ⟨hmem, rfl⟩, rfl⟩

namespace Database

/-- Clears a domain while the database refuses what is given for that domain, and no more. -/
def clearWhile (refusals : DomainId → List (String × String)) (domain : DomainId) :
    Removal Database Nat :=
  fun database =>
    let outcome := (Store.clearDomain domain).outcome
      { database with refusals := refusals domain }
    (outcome.1, { outcome.2 with refusals := database.refusals })

/-- What comes of the transaction that clears a domain, by what is refused meanwhile. -/
def clearing (refusals : DomainId → List (String × String)) (domain : DomainId) :
    Except Error Unit :=
  checkAll (gate { refusals := refusals domain }) (Statement.clearing domain)

variable {refusals : DomainId → List (String × String)} {database later : Database}

theorem outcome_clearWhile (domain : DomainId) :
    (clearWhile refusals domain).outcome database =
      match clearing refusals domain with
      | .error error => (.error error, database)
      | .ok _ => (.ok (database.tables.grants.countScoped domain), database.without [domain]) := by
  have hsame : checkAll (gate { database with refusals := refusals domain })
      (Statement.clearing domain) = clearing refusals domain := rfl
  have hclear := outcome_clearDomain { database with refusals := refusals domain } domain
  rw [hsame] at hclear
  rw [Removal.outcome]
  dsimp only [clearWhile, ExceptT.run, StateT.run, Id.run]
  rw [hclear]
  cases clearing refusals domain with
  | error error => rfl
  | ok _ => rfl

theorem of_clearWhile_error {domain : DomainId} {error : Error}
    (h : (clearWhile refusals domain).outcome database = (.error error, later)) :
    clearing refusals domain = .error error ∧ later = database := by
  rw [outcome_clearWhile] at h
  cases hclearing : clearing refusals domain with
  | error refused =>
    rw [hclearing] at h
    cases h
    exact ⟨rfl, rfl⟩
  | ok _ =>
    rw [hclearing] at h
    cases h

theorem of_clearWhile_ok {domain : DomainId} {count : Nat}
    (h : (clearWhile refusals domain).outcome database = (.ok count, later)) :
    clearing refusals domain = .ok () ∧ count = database.tables.grants.countScoped domain ∧
      later = database.without [domain] := by
  rw [outcome_clearWhile] at h
  cases hclearing : clearing refusals domain with
  | error refused =>
    rw [hclearing] at h
    cases h
  | ok _ =>
    rw [hclearing] at h
    cases h
    exact ⟨rfl, rfl, rfl⟩

/-- A run through different domains clears those on which it succeeds, and each call answers with
what its transaction comes to and with the number of the rows that were there from the start. -/
theorem runsThrough_clearWhile {domains : List DomainId} {calls : List Call}
    {answer : Except Error Unit}
    (hrun : Removal.RunsThrough (clearWhile refusals) database domains calls answer later)
    (honce : domains.Nodup) :
    later = database.without (cleared calls) ∧ ∀ call ∈ calls, call.answer =
      (clearing refusals call.domain).map fun _ =>
        database.tables.grants.countScoped call.domain := by
  induction hrun with
  | done state => exact ⟨state.without_nil.symm, List.forall_mem_nil _⟩
  | @failed state later domain error fails domains =>
    obtain ⟨hclearing, rfl⟩ := of_clearWhile_error fails
    refine ⟨later.without_nil.symm, List.forall_mem_singleton.mpr ?_⟩
    rw [hclearing]
    rfl
  | @next state middle later domain domains count calls answer succeeds rest ih =>
    obtain ⟨hclearing, rfl, rfl⟩ := of_clearWhile_ok succeeds
    obtain ⟨hnew, honce⟩ := List.nodup_cons.mp honce
    obtain ⟨hlater, hall⟩ := ih honce
    refine ⟨hlater.trans (state.without_without [domain] (cleared calls)),
      List.forall_mem_cons.mpr ⟨?_, fun call hcall => ?_⟩⟩
    · rw [hclearing]
      rfl
    · -- The domain that was cleared first is none of those that come later.
      have hlisted : call.domain ∈ domains := rest.isPrefix.subset (List.mem_map_of_mem hcall)
      have hother : call.domain ∉ [domain] := by
        rw [List.mem_singleton]
        rintro rfl
        exact hnew hlisted
      rw [hall call hcall, without, GrantTables.countScoped_without _ hother]

/-- Clearing a single domain drops its rows and counts them, or changes nothing. -/
theorem clearDomain_removes (database : Database) (domain : DomainId) :
    ∃ answer later, (Store.clearDomain domain).outcome database = (answer, later) ∧
      (∀ error, answer = .error error → later = database) ∧
      ∀ count, answer = .ok count → later = database.without [domain] ∧
        count + later.tables.grants.scopedRows = database.tables.grants.scopedRows := by
  rw [outcome_clearDomain]
  cases checkAll database.gate (Statement.clearing domain) with
  | error error => exact ⟨_, _, rfl, fun _ _ => rfl, nofun⟩
  | ok _ =>
    refine ⟨_, _, rfl, nofun, fun count hcount => ⟨rfl, ?_⟩⟩
    cases hcount
    exact database.tables.grants.countScoped_add_scopedRows domain

end Database

/-- A cascade over a forest of domains is child-first and fails cleanly. Whatever the remover does,
it is called on the domains of the subtree alone, on each at most once and only after it has
succeeded on all that lies below; the first error ends the removal and is its answer. Over a
database of which any statement may be refused for any domain, exactly the rows of the domains are
gone on which the remover succeeded. A single domain is cleared as a whole or not at all, and the
answer is the number of rows that are gone. -/
theorem cascade_fails_cleanly :
    (∀ {σ : Type} {edges : HierarchyEdges} {native : NativeSource} {directory : Directory}
      {name : String} {domain : Domain} (strategy : ClosureStrategy)
      (remove : DomainId → Removal σ Nat) (state : σ), edges.IsForest →
      native ∈ [edges.native, edges.recursive] → directory.requireDomain name = .ok domain →
      ∃ answer later calls,
        Cascade.Ends ⟨directory, strategy.closure edges.hops native⟩ remove name state answer later
          calls ∧
        BottomUp (fun below above => (below, some above) ∈ edges.domains) domain.id calls answer) ∧
    (∀ {database : Database} {name : String} {domain : Domain} (strategy : ClosureStrategy)
      (refusals : DomainId → List (String × String)), database.refusals = [] →
      database.tables.edges.IsForest →
      (Store.backend database).directory.requireDomain name = .ok domain →
      ∃ answer calls,
        Cascade.Ends ((Store.backend database).cascade strategy) (Database.clearWhile refusals) name
          database answer (database.without (cleared calls)) calls ∧
        BottomUp (fun below above => (below, some above) ∈ database.tables.edges.domains) domain.id
          calls answer ∧
        ∀ call ∈ calls, call.answer = (Database.clearing refusals call.domain).map fun _ =>
          database.tables.grants.countScoped call.domain) ∧
    ∀ (database : Database) (domain : DomainId),
      ∃ answer later, (Store.clearDomain domain).outcome database = (answer, later) ∧
        (∀ error, answer = .error error → later = database) ∧
        ∀ count, answer = .ok count → later = database.without [domain] ∧
          count + later.tables.grants.scopedRows = database.tables.grants.scopedRows := by
  refine ⟨?_, ?_, Database.clearDomain_removes⟩
  · intro σ edges native directory name domain strategy remove state hforest hnative hdomain
    have hcomputes := HierarchyEdges.computes_either hforest strategy hnative
    obtain ⟨domains, calls, answer, later, _, _, hends, hbottomUp⟩ :=
      Cascade.exists_bottomUp ⟨directory, strategy.closure edges.hops native⟩ hforest.forest
        hcomputes hdomain remove state
    exact ⟨_, later, calls, hends, hbottomUp⟩
  · intro database name domain strategy refusals hnone hforest hdomain
    have hcomputes := (Database.walkable_of_refusals_eq hnone).computes hforest.unique strategy
    obtain ⟨domains, calls, answer, later, honce, hrun, hends, hbottomUp⟩ :=
      Cascade.exists_bottomUp ((Store.backend database).cascade strategy) hforest.forest hcomputes
        hdomain (Database.clearWhile refusals) database
    obtain ⟨rfl, hanswers⟩ := Database.runsThrough_clearWhile hrun honce
    exact ⟨_, calls, hends, hbottomUp, hanswers⟩

/-- However the domains of a memory store are listed, they are a forest. -/
theorem HierarchyEdges.Reorders.isForest {edges : HierarchyEdges} {memory : Memory}
    (h : edges.Reorders memory.records.edges) (hregistered : memory.records.Registered) :
    edges.IsForest where
  unique := by
    rw [(h.domains.map _).nodup_iff, Records.edges, List.map_map]
    exact hregistered.domains.nodup_ids
  acyclic := by
    simp only [h.domains.mem_iff, Memory.mem_domains_iff]
    exact (Memory.forest_hasParent hregistered).acyclic

namespace Office

/-- The transaction that clears the company is not committed. -/
def refusingCompany (domain : DomainId) : List (String × String) :=
  if domain = company.id then [("commit", "disk full")] else []

/-- When the transaction for the company is not committed, the branch has been cleared before and
the company keeps its rows; the answer is the error of the commit. -/
theorem ledger_keeps_company :
    (∃ answer later calls,
      Cascade.Ends ⟨store.directory, ClosureStrategy.iterative.closure store.records.edges.hops
          store.records.edges.recursive⟩
        (fun domain => throw (.removalFailed domain)) "company" () answer later calls ∧
      BottomUp (fun below above => (below, some above) ∈ store.records.edges.domains) company.id
        calls answer) ∧
    ∃ calls,
      Cascade.Ends ((Store.backend ledger).cascade .recursive)
        (Database.clearWhile refusingCompany) "company" ledger
        (.error (.statementRefused .commit "disk full")) (ledger.without (cleared calls)) calls ∧
      branch.id ∈ cleared calls ∧ company.id ∉ cleared calls := by
  have hregistered := store_reachable.sound.registered
  have htext : Label.ofText? "company" = some company.name := by decide
  have hcompany : company ∈ store.records.domains := by decide
  have hname : (store.service .iterative).directory.requireDomain "company" = .ok company :=
    Memory.requireDomain_eq hregistered hcompany htext
  have hname' : ledger.directory.requireDomain "company" = .ok company := by
    rw [ledger_mirrors.directory_eq hregistered]
    exact hname
  have hbranch : (branch.id, some company.id) ∈ ledger.tables.edges.domains := by decide
  constructor
  · have hforest : store.records.edges.IsForest :=
      HierarchyEdges.Reorders.isForest ⟨List.Perm.refl _, List.Perm.refl _⟩ hregistered
    have hnative : store.records.edges.recursive ∈
        [store.records.edges.native, store.records.edges.recursive] :=
      List.mem_cons_of_mem _ List.mem_cons_self
    exact cascade_fails_cleanly.1 .iterative _ () hforest hnative hname
  · have hforest : ledger.tables.edges.IsForest := ledger_mirrors.reorders.isForest hregistered
    obtain ⟨answer, calls, hends, hbottomUp, hanswers⟩ :=
      cascade_fails_cleanly.2.1 .recursive refusingCompany rfl hforest hname'
    have hrefused : Database.clearing refusingCompany company.id =
        .error (.statementRefused .commit "disk full") := by decide
    have hothers : ∀ id, id ≠ company.id → Database.clearing refusingCompany id = .ok () := by
      intro id hid
      rw [Database.clearing, refusingCompany, if_neg hid]
      rfl
    rcases hbottomUp.ends with ⟨_, hall, hcovers⟩ | ⟨before, domain, error, rfl, rfl, hbefore⟩
    · -- A call on the company cannot have succeeded.
      obtain ⟨call, hcall, hcompany⟩ := hcovers company.id Relation.ReflTransGen.refl
      obtain ⟨count, hcount⟩ := hall call hcall
      rw [hanswers call hcall, hcompany, hrefused] at hcount
      cases hcount
    · have hlast := hanswers ⟨domain, .error error⟩ (List.mem_append_right _ List.mem_cons_self)
      have hdomain : domain = company.id := by
        by_contra hother
        rw [hothers domain hother] at hlast
        cases hlast
      subst hdomain
      rw [hrefused] at hlast
      cases hlast
      obtain ⟨count, hcount⟩ := hbottomUp.childFirst rfl (Relation.TransGen.single hbranch)
      refine ⟨_, hends, ?_, ?_⟩
      · exact mem_cleared_iff.mpr ⟨count, List.mem_append_left _ hcount⟩
      · intro hcleared
        obtain ⟨count', hcall⟩ := mem_cleared_iff.mp hcleared
        have hanswer := hanswers _ hcall
        rw [hrefused] at hanswer
        cases hanswer

end Office

end Authorization
