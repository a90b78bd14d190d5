import Authorization.Hierarchy.Closure
import Authorization.Hierarchy.Relaxation

namespace Authorization

structure HierarchyEdges where
  /-- From the holder of an inherit permission to the resource that it inherits from. -/
  donors : List (ResourceId × ResourceId)
  /-- The domains, each with its parent. -/
  domains : List (DomainId × Option DomainId)

namespace HierarchyEdges

def parents (edges : HierarchyEdges) : List (DomainId × DomainId) :=
  edges.domains.filterMap fun domain => domain.2.map (domain.1, ·)

def children (edges : HierarchyEdges) : List (DomainId × DomainId) :=
  edges.parents.map Prod.swap

/-- The parent of a domain; of several domains with one handle the first counts. -/
def parentOf? (edges : HierarchyEdges) (id : DomainId) : Option DomainId :=
  (edges.domains.find? (·.1 = id)).bind (·.2)

theorem mem_parents {edges : HierarchyEdges} {id parent : DomainId}
    (h : edges.parentOf? id = some parent) : (id, parent) ∈ edges.parents := by
  obtain ⟨domain, hfind, hparent⟩ := Option.bind_eq_some_iff.mp h
  have hid : domain.1 = id := by simpa using List.find?_some hfind
  refine List.mem_filterMap.mpr ⟨domain, List.mem_of_find?_eq_some hfind, ?_⟩
  rw [hparent, ← hid]
  rfl

def hops (edges : HierarchyEdges) : HopSource where
  donors := .ofEdges edges.donors
  parents := .ofStep (fun id => .ok (edges.parentOf? id)) (edges.parents.map (·.2))
    fun h => List.mem_map.mpr ⟨_, mem_parents (Except.ok.inj h), rfl⟩
  children := .ofEdges edges.children

/-- Whole closures, by relaxation over the edges. -/
def native (edges : HierarchyEdges) : NativeSource where
  accessors id := .ok (Levels.reachable edges.donors id)
  ancestors id := .ok (Levels.reachable edges.parents id)
  descendants id := .ok (Levels.reachable edges.children id)

end HierarchyEdges

end Authorization
