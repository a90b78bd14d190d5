import Authorization.Hierarchy.Ranked

/-! Relaxation of levels over a list of edges. A path without repetition has at most as many edges
as the list, so as many rounds settle every level. -/
namespace Authorization

/-- Levels of the nodes reached so far, in order of first arrival. -/
abbrev Levels (α : Type) := List (α × Nat)

namespace Levels

variable {α : Type} [DecidableEq α]

/-- Gives a node a level in place of the one that it has, or adds it. -/
def assign (node : α) (level : Nat) : Levels α → Levels α
  | [] => [(node, level)]
  | entry :: entries =>
    if entry.1 = node then (node, level) :: entries else entry :: assign node level entries

/-- Lets an edge shorten the way to its target. -/
def relax (levels : Levels α) (edge : α × α) : Levels α :=
  match levels.lookup edge.1 with
  | none => levels
  | some level =>
    match levels.lookup edge.2 with
    | none => levels.assign edge.2 (level + 1)
    | some current =>
      if level + 1 < current then levels.assign edge.2 (level + 1) else levels

def round (edges : List (α × α)) (levels : Levels α) : Levels α :=
  edges.foldl relax levels

/-- Rounds until one changes nothing, but no more than a given number. -/
def settle (edges : List (α × α)) : Nat → Levels α → Levels α
  | 0, levels => levels
  | rounds + 1, levels =>
    let next := round edges levels
    if next = levels then levels else settle edges rounds next

/-- What can be reached from a seed along edges, with the least number of hops, as a closure. -/
def reachable [LE α] [DecidableLE α] (edges : List (α × α)) (seed : α) : List (Ranked α) :=
  Ranked.sort ((settle edges (edges.length + 1) [(seed, 0)]).map fun entry => ⟨entry.2, entry.1⟩)

end Levels

end Authorization
