import Authorization.Proofs.Hierarchy.Closure
import Authorization.Proofs.Store.Run

namespace Authorization

namespace Memory

variable (memory : Memory)

/-- A resource inherits from another if it holds an inherit permission on it. -/
def Inherits (accessor donor : ResourceId) : Prop :=
  ∃ permission ∈ memory.records.grants.direct.held ⟨accessor, donor⟩, permission.isInherit = true

/-- A domain lies directly below another. -/
def HasParent (id parent : DomainId) : Prop :=
  ∃ domain ∈ memory.records.domains, domain.id = id ∧ domain.parent? = some parent

/-- What the store offers when it lists its edges in a given way. -/
def backendOver (edges : HierarchyEdges) : Backend :=
  ⟨memory.directory, memory.grantSource, edges.hops, edges.native⟩

variable {memory}

theorem mem_donors_iff {accessor donor : ResourceId} :
    (accessor, donor) ∈ memory.records.edges.donors ↔ memory.Inherits accessor donor := by
  simp only [Records.edges, List.mem_map, List.mem_filter, Inherits, GrantRows.mem_held_iff]
  constructor
  · rintro ⟨⟨⟨_, _⟩, permission⟩, ⟨hmem, hinherit⟩, heq⟩
    cases heq
    exact ⟨permission, hmem, hinherit⟩
  · rintro ⟨permission, hmem, hinherit⟩
    exact ⟨_, ⟨hmem, hinherit⟩, rfl⟩

theorem mem_domains_iff {id parent : DomainId} :
    (id, some parent) ∈ memory.records.edges.domains ↔ memory.HasParent id parent := by
  simp only [Records.edges, List.mem_map, HasParent, Prod.mk.injEq]

end Memory

/-- Two listings of the same edges in different orders. -/
structure HierarchyEdges.Reorders (edges other : HierarchyEdges) : Prop where
  donors : edges.donors.Perm other.donors
  domains : edges.domains.Perm other.domains

namespace Memory

variable {memory : Memory}

theorem computes (hregistered : memory.records.Registered) {edges : HierarchyEdges}
    (hedges : edges.Reorders memory.records.edges) (strategy : ClosureStrategy) :
    ((memory.backendOver edges).closure strategy).Computes memory.Inherits memory.HasParent := by
  have hunique : (edges.domains.map (·.1)).Nodup := by
    refine (hedges.domains.map _).nodup_iff.mpr ?_
    rw [Records.edges, List.map_map]
    exact hregistered.domains.nodup_ids
  have hcomputes := HierarchyEdges.computes hunique strategy
  simp only [hedges.donors.mem_iff, hedges.domains.mem_iff, mem_donors_iff,
    mem_domains_iff] at hcomputes
  exact hcomputes

/-- Both strategies give the closures of the walks: every reachable node once, with its least
number of hops, by that number and then by handle. The services that differ only in their strategy
and in the order in which the store lists its edges are equal, and so are all their answers. -/
theorem services_agree (h : memory.Reachable) {edges edges' : HierarchyEdges}
    (hedges : edges.Reorders memory.records.edges) (hedges' : edges'.Reorders memory.records.edges)
    (strategy strategy' : ClosureStrategy) :
    ((memory.backendOver edges).closure strategy).Computes memory.Inherits memory.HasParent ∧
      (memory.backendOver edges).closure strategy = (memory.backendOver edges').closure strategy' ∧
      (memory.backendOver edges).service strategy = (memory.backendOver edges').service strategy' ∧
      (memory.backendOver edges).cascade strategy =
        (memory.backendOver edges').cascade strategy' := by
  have hcomputes := computes h.sound.registered hedges strategy
  have hclosure : (memory.backendOver edges).closure strategy =
      (memory.backendOver edges').closure strategy' :=
    hcomputes.unique (computes h.sound.registered hedges' strategy')
  refine ⟨hcomputes, hclosure, ?_, ?_⟩
  · rw [Backend.service, Backend.service, hclosure]
    rfl
  · rw [Backend.cascade, Backend.cascade, hclosure]
    rfl

theorem services_agree_backwards :
    (Office.store.backendOver Office.store.records.edges).service .iterative =
      (Office.store.backendOver ⟨Office.store.records.edges.donors.reverse,
        Office.store.records.edges.domains.reverse⟩).service .recursive := by
  have hforwards : Office.store.records.edges.Reorders Office.store.records.edges :=
    ⟨List.Perm.refl _, List.Perm.refl _⟩
  have hbackwards : HierarchyEdges.Reorders ⟨Office.store.records.edges.donors.reverse,
      Office.store.records.edges.domains.reverse⟩ Office.store.records.edges :=
    ⟨List.reverse_perm _, List.reverse_perm _⟩
  exact (services_agree Office.store_reachable hforwards hbackwards .iterative .recursive).2.2.1

end Memory

end Authorization
