import Authorization.Hierarchy.Ranked
import Authorization.Order

namespace Authorization

/-- Neighbours of nodes, all of them among finitely many. -/
structure Neighbours (α : Type) where
  /-- The neighbours of some nodes, in any order and with repetitions. -/
  next : List α → Except Error (List α)
  /-- What can be a neighbour. -/
  nodes : List α
  next_subset : ∀ {frontier found}, next frontier = .ok found → found ⊆ nodes

namespace Neighbours

variable {α : Type}

/-- What one step from each of some nodes leads to. -/
def steps (step : α → Except Error (Option α)) : List α → Except Error (List α)
  | [] => .ok []
  | a :: as => do
    let found ← step a
    let others ← steps step as
    return found.toList ++ others

theorem mem_of_steps {step : α → Except Error (Option α)} {nodes : List α}
    (mem_nodes : ∀ {a b}, step a = .ok (some b) → b ∈ nodes) {frontier found : List α}
    (h : steps step frontier = .ok found) : found ⊆ nodes := by
  induction frontier generalizing found with
  | nil => cases h; exact List.nil_subset _
  | cons a as ih =>
    rw [steps] at h
    cases hstep : step a with
    | error e => rw [hstep] at h; cases h
    | ok b =>
      cases hrest : steps step as with
      | error e => rw [hstep, hrest] at h; cases h
      | ok others =>
        rw [hstep, hrest] at h
        cases h
        intro c hc
        rcases List.mem_append.mp hc with hc | hc
        · rw [Option.mem_toList] at hc
          exact mem_nodes (hstep.trans (congrArg _ hc))
        · exact ih hrest hc

/-- The neighbours given by a function that leads to at most one node. -/
def ofStep (step : α → Except Error (Option α)) (nodes : List α)
    (mem_nodes : ∀ {a b}, step a = .ok (some b) → b ∈ nodes) : Neighbours α where
  next := steps step
  nodes
  next_subset := mem_of_steps mem_nodes

/-- The targets of the edges that start at some nodes, one for each edge. -/
def ofEdges [DecidableEq α] (edges : List (α × α)) : Neighbours α where
  next frontier := .ok ((edges.filter (·.1 ∈ frontier)).map (·.2))
  nodes := edges.map (·.2)
  next_subset := by
    intro frontier found h
    cases h
    exact (List.filter_sublist.map _).subset

def distinct [LT α] [DecidableLT α] [DecidableEq α] (neighbours : Neighbours α) : Neighbours α where
  next frontier := (neighbours.next frontier).map sortDistinct
  nodes := neighbours.nodes
  next_subset := by
    intro frontier found h a ha
    cases hnext : neighbours.next frontier with
    | error error => rw [hnext] at h; cases h
    | ok all =>
      rw [hnext] at h
      cases h
      exact neighbours.next_subset hnext (mem_sortDistinct.mp ha)

/-- Neighbours behind a gate, which may refuse a question. -/
def guarded (neighbours : Neighbours α) (gate : List α → Except Error Unit) : Neighbours α where
  next frontier := do
    gate frontier
    neighbours.next frontier
  nodes := neighbours.nodes
  next_subset := by
    intro frontier found h
    cases hgate : gate frontier with
    | error error => rw [hgate] at h; cases h
    | ok _ => rw [hgate] at h; exact neighbours.next_subset h

end Neighbours

end Authorization
