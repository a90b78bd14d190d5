import Authorization.Hierarchy.Edges

/-! Closures as a recursive query computes them, from the paths out of a seed that meet no node
twice. -/
namespace Authorization.Paths

variable {α : Type} [DecidableEq α]

/-- The edges that lead from the end of a path to nodes that are not on it. -/
def onward (edges : List (α × α)) (path : List α) (node : α) : List (α × α) :=
  edges.filter fun edge => edge.1 = node ∧ edge.2 ∉ path

/-- Going on leaves fewer edges to nodes that are not on the path. -/
theorem length_lt {edges : List (α × α)} {path : List α} {node : α} {edge : α × α}
    (h : edge ∈ onward edges path node) :
    (edges.filter fun other => other.2 ∉ edge.2 :: path).length <
      (edges.filter fun other => other.2 ∉ path).length := by
  obtain ⟨hmem, hedge⟩ := List.mem_filter.mp h
  have hnew : edge.2 ∉ path := (of_decide_eq_true hedge).2
  have hsplit : (edges.filter fun other => other.2 ∉ edge.2 :: path) =
      (edges.filter fun other => other.2 ∉ path).filter fun other => other.2 ≠ edge.2 := by
    rw [List.filter_filter]
    exact List.filter_congr fun other _ => by simp [List.mem_cons, not_or]
  rw [hsplit]
  apply List.length_filter_lt_length_iff_exists.mpr
  exact ⟨edge, List.mem_filter.mpr ⟨hmem, decide_eq_true hnew⟩, by simp⟩

/-- The ends of a path and of all that go on from it, each with its number of hops. -/
def rows (edges : List (α × α)) (path : List α) (level : Nat) (node : α) : List (Ranked α) :=
  ⟨level, node⟩ :: (onward edges path node).attach.flatMap fun edge =>
    rows edges (edge.1.2 :: path) (level + 1) edge.1.2
termination_by (edges.filter fun other => other.2 ∉ path).length
decreasing_by exact length_lt edge.2

/-- What the query answers: the least level of each node, by level and then by node. -/
def closure [LE α] [DecidableLE α] (edges : List (α × α)) (seed : α) : List (Ranked α) :=
  Ranked.firsts [] (Ranked.sort (rows edges [seed] 0 seed))

end Authorization.Paths

namespace Authorization.HierarchyEdges

/-- Whole closures, by recursive queries over the edges. -/
def recursive (edges : HierarchyEdges) : NativeSource where
  accessors id := .ok (Paths.closure edges.donors id)
  ancestors id := .ok (Paths.closure edges.parents id)
  descendants id := .ok (Paths.closure edges.children id)

end Authorization.HierarchyEdges
