import Authorization.Proofs.Hierarchy.Paths
import Authorization.Store.Database

/-! Walks over stored rows, of which next to nothing is assumed: parents may be missing or go round
in a circle, and so may inherit permissions. -/
namespace Authorization

/-- The statements that read the hierarchy, hop by hop or as a whole. -/
def Statement.readsHierarchy : Statement → Bool
  | donors | parent _ | children => true
  | accessorClosure _ | ancestorClosure _ | descendantClosure _ => true
  | _ => false

namespace Tables

variable (tables : Tables)

/-- A row says of a resource that it inherits from another, by the number of its permission. -/
def Inherits (accessor donor : ResourceId) : Prop :=
  ∃ row, (⟨accessor, donor⟩, row) ∈ tables.grants.direct ∧
    row.systemId = some SystemPermission.inherit.id

/-- A row puts a domain directly below another, of which there may be no row. -/
def HasParent (id parent : DomainId) : Prop :=
  ∃ row ∈ tables.domains, row.id = id ∧ row.parent? = some parent

variable {tables}

theorem mem_donors_iff {accessor donor : ResourceId} :
    (accessor, donor) ∈ tables.edges.donors ↔ tables.Inherits accessor donor := by
  simp only [edges, List.mem_map, List.mem_filter, Inherits, decide_eq_true_eq]
  constructor
  · rintro ⟨⟨⟨_, _⟩, row⟩, ⟨hmem, hinherit⟩, heq⟩
    cases heq
    exact ⟨row, hmem, hinherit⟩
  · rintro ⟨row, hmem, hinherit⟩
    exact ⟨_, ⟨hmem, hinherit⟩, rfl⟩

theorem mem_domains_iff {id parent : DomainId} :
    (id, some parent) ∈ tables.edges.domains ↔ tables.HasParent id parent := by
  simp only [edges, List.mem_map, HasParent, Prod.mk.injEq]

end Tables

namespace Database

/-- No statement that reads the hierarchy is refused. Others may be. -/
def Walkable (database : Database) : Prop :=
  ∀ statement, statement.readsHierarchy = true → database.gate statement = .ok ()

theorem gate_eq_ok {database : Database} (h : database.refusals = []) (statement : Statement) :
    database.gate statement = .ok () := by
  rw [gate, h]
  rfl

theorem walkable_of_refusals_eq {database : Database} (h : database.refusals = []) :
    database.Walkable :=
  fun statement _ => gate_eq_ok h statement

namespace Walkable

variable {database : Database} (h : database.Walkable)

include h

theorem follows_donors :
    database.hops.donors.Follows fun accessor donor =>
      (accessor, donor) ∈ database.tables.edges.donors :=
  (Neighbours.follows_ofEdges _).distinct.guarded fun _ => h .donors rfl

/-- What the native query of accessors reports, before it is accepted. -/
theorem native_accessors (id : ResourceId) :
    database.native.accessors id = .ok (Paths.closure database.tables.edges.donors id) :=
  bind_of_eq_ok (h (.accessorClosure id) rfl)

/-- The closures of accessors follow the inherit rows, whatever the domains are. -/
theorem exists_accessors (strategy : ClosureStrategy) (id : ResourceId) :
    ∃ entries, ((Store.backend database).closure strategy).accessors id = .ok entries ∧
      IsClosure database.tables.Inherits id entries := by
  have hsame : (fun accessor donor => (accessor, donor) ∈ database.tables.edges.donors) =
      database.tables.Inherits := by
    funext accessor donor
    exact propext Tables.mem_donors_iff
  rw [← hsame]
  cases strategy with
  | iterative => exact h.follows_donors.closure_spec id
  | recursive =>
    have hclosure := Paths.isClosure_closure database.tables.edges.donors id
    exact IsClosure.exists_normalize ⟨_, h.native_accessors id, hclosure⟩ _

/-- Both strategies compute the closures of the edges that stand in the tables. -/
theorem computes (hunique : (database.tables.edges.domains.map (·.1)).Nodup)
    (strategy : ClosureStrategy) :
    ((Store.backend database).closure strategy).Computes
      (fun accessor donor => (accessor, donor) ∈ database.tables.edges.donors)
      (fun id parent => (id, some parent) ∈ database.tables.edges.domains) := by
  cases strategy with
  -- No statement is refused, so each gate lets the question through to the edges.
  | iterative =>
    have hparents := HierarchyEdges.follows_parents hunique
    have hchildren := HierarchyEdges.follows_children database.tables.edges
    apply HierarchyClosure.computes_iterative
    · exact h.follows_donors
    · exact hparents.guarded fun _ => checkAll_eq_ok_iff.mpr fun id _ => h (.parent id) rfl
    · exact hchildren.distinct.guarded fun _ => h .children rfl
  | recursive =>
    apply HierarchyEdges.computes_queries
    · intro id
      exact ⟨_, h.native_accessors id, Paths.isClosure_closure _ id⟩
    · intro id
      exact ⟨_, bind_of_eq_ok (h (.ancestorClosure id) rfl), Paths.isClosure_closure _ id⟩
    · intro id
      exact ⟨_, bind_of_eq_ok (h (.descendantClosure id) rfl), Paths.isClosure_closure _ id⟩

end Walkable

/-- Over rows that go round in circles or lead nowhere, both strategies list what the walks reach,
each node once, with its least number of hops, by that number and then by handle. The services and
the cascades that differ only in their strategy are equal, and so are all their answers. -/
theorem strategies_agree {database : Database} (hwalkable : database.Walkable)
    (hunique : (database.tables.domains.map (·.id)).Nodup) (strategy strategy' : ClosureStrategy) :
    ((Store.backend database).closure strategy).Computes database.tables.Inherits
        database.tables.HasParent ∧
      (Store.backend database).closure strategy = (Store.backend database).closure strategy' ∧
      (Store.backend database).service strategy = (Store.backend database).service strategy' ∧
      (Store.backend database).cascade strategy = (Store.backend database).cascade strategy' := by
  have hhandles : (database.tables.edges.domains.map (·.1)).Nodup := by
    rw [Tables.edges, List.map_map]
    exact hunique
  have hcomputes (strategy : ClosureStrategy) :
      ((Store.backend database).closure strategy).Computes database.tables.Inherits
        database.tables.HasParent := by
    have hedges := hwalkable.computes hhandles strategy
    simp only [Tables.mem_donors_iff, Tables.mem_domains_iff] at hedges
    exact hedges
  have hclosure := (hcomputes strategy).unique (hcomputes strategy')
  refine ⟨hcomputes strategy, hclosure, ?_, ?_⟩
  · rw [Backend.service, Backend.service, hclosure]
  · rw [Backend.cascade, Backend.cascade, hclosure]

def inherit : ResourcePermissionRow :=
  ⟨some SystemPermission.inherit.id, "*INHERIT", false⟩

/-- Rows that go round in circles, lead nowhere and stand twice, in a database that commits nothing.
-/
def tangled : Database where
  tables :=
    { domains := [⟨⟨1⟩, "east", some ⟨2⟩⟩, ⟨⟨2⟩, "west", some ⟨1⟩⟩, ⟨⟨3⟩, "self", some ⟨3⟩⟩,
        ⟨⟨4⟩, "orphan", some ⟨9⟩⟩]
      grants :=
        { direct := [(⟨⟨1⟩, ⟨1⟩⟩, inherit), (⟨⟨1⟩, ⟨3⟩⟩, inherit), (⟨⟨3⟩, ⟨2⟩⟩, inherit),
            (⟨⟨1⟩, ⟨3⟩⟩, inherit), (⟨⟨2⟩, ⟨1⟩⟩, inherit), (⟨⟨3⟩, ⟨7⟩⟩, inherit)] } }
  refusals := [(Statement.commit.name, "disk full")]

theorem tangled_walkable : tangled.Walkable := by
  intro statement h
  cases statement <;> first | rfl | cases h

/-- A circle is walked once, and a parent without a row ends the chain; the queries and the searches
say the same. -/
theorem tangled_strategies_agree :
    ((Store.backend tangled).closure .recursive).accessors ⟨1⟩ =
        .ok [⟨0, ⟨1⟩⟩, ⟨1, ⟨3⟩⟩, ⟨2, ⟨2⟩⟩, ⟨2, ⟨7⟩⟩] ∧
      ((Store.backend tangled).closure .recursive).ancestors ⟨4⟩ = .ok [⟨0, ⟨4⟩⟩, ⟨1, ⟨9⟩⟩] ∧
      ((Store.backend tangled).closure .recursive).descendants ⟨1⟩ = .ok [⟨0, ⟨1⟩⟩, ⟨1, ⟨2⟩⟩] ∧
      (Store.backend tangled).service .recursive = (Store.backend tangled).service .iterative := by
  have hunique : (tangled.tables.domains.map (·.id)).Nodup := by decide
  obtain ⟨_, hclosure, hservice, _⟩ :=
    strategies_agree tangled_walkable hunique .recursive .iterative
  rw [hclosure]
  refine ⟨?_, ?_, ?_, hservice⟩
  · decide +kernel
  · decide +kernel
  · decide +kernel

end Database

end Authorization
