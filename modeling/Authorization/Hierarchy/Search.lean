import Authorization.Hierarchy.Neighbours

/-! Search outward from a seed, level by level. Every round but the last visits a new node, so the
search ends whatever the edges are. -/
namespace Authorization.Neighbours

variable {α : Type} [LT α] [DecidableLT α] [DecidableEq α]

/-- The neighbours found that were not visited before, in ascending order. -/
def fresh (visited found : List α) : List α :=
  (sortDistinct found).filter (· ∉ visited)

theorem mem_fresh {visited found : List α} {a : α} :
    a ∈ fresh visited found ↔ a ∈ found ∧ a ∉ visited := by
  simp [fresh, mem_sortDistinct]

/-- Visiting a new node leaves fewer nodes to visit. -/
theorem unvisited_lt {nodes visited found : List α} (hfound : found ⊆ nodes)
    (hfresh : fresh visited found ≠ []) :
    (nodes.filter (· ∉ visited ++ fresh visited found)).length <
      (nodes.filter (· ∉ visited)).length := by
  obtain ⟨a, ha⟩ := List.exists_mem_of_ne_nil _ hfresh
  have hsplit : nodes.filter (· ∉ visited ++ fresh visited found) =
      (nodes.filter (· ∉ visited)).filter (· ∉ fresh visited found) := by
    rw [List.filter_filter]
    exact List.filter_congr fun b _ => by simp [not_or, Bool.and_comm]
  have hmem : a ∈ nodes.filter (· ∉ visited) := by
    have ⟨hin, hnew⟩ := mem_fresh.mp ha
    simp [hfound hin, hnew]
  rw [hsplit]
  exact List.length_filter_lt_length_iff_exists.mpr ⟨a, hmem, by simp [ha]⟩

/-- The levels beyond a frontier. The last non-empty frontier is asked for its neighbours too. -/
def beyond (neighbours : Neighbours α) (visited frontier : List α) (level : Nat) :
    Except Error (List (Ranked α)) :=
  match h : neighbours.next frontier with
  | .error error => .error error
  | .ok found =>
    -- Nodes of an earlier level are closer there and are not listed again.
    if hfresh : fresh visited found = [] then .ok []
    else
      (beyond neighbours (visited ++ fresh visited found) (fresh visited found) (level + 1)).map
        fun rest => (fresh visited found).map (⟨level, ·⟩) ++ rest
termination_by (neighbours.nodes.filter (· ∉ visited)).length
decreasing_by exact unvisited_lt (neighbours.next_subset h) hfresh

/-- The closure of a seed: the seed itself, then level after level. -/
def closure (neighbours : Neighbours α) (seed : α) : Except Error (List (Ranked α)) :=
  (neighbours.beyond [seed] [seed] 1).map (⟨0, seed⟩ :: ·)

end Authorization.Neighbours
