import Authorization.Error

namespace Authorization

structure Ranked (α : Type) where
  level : Nat
  node : α
  deriving DecidableEq

namespace Ranked

variable {α : Type} [LE α] [DecidableLE α] [DecidableEq α]

/-- The order of a closure: by level, then by node. -/
def notAfter (a b : Ranked α) : Bool :=
  a.level < b.level || (a.level = b.level && a.node ≤ b.node)

def sort (entries : List (Ranked α)) : List (Ranked α) :=
  entries.mergeSort notAfter

/-- The first entry of each node that is not among those seen. -/
def firsts (seen : List α) : List (Ranked α) → List (Ranked α)
  | [] => []
  | entry :: entries =>
    if entry.node ∈ seen then firsts seen entries
    else entry :: firsts (entry.node :: seen) entries

/-- Reported entries as a closure: sorted, and of several entries of a node the least. A report
whose least entry is not the seed itself is refused. -/
def normalize (seed : α) (unseeded : Error) (reported : List (Ranked α)) :
    Except Error (List (Ranked α)) :=
  let closure := firsts [] (sort reported)
  if closure.head? = some ⟨0, seed⟩ then .ok closure else .error unseeded

end Ranked

end Authorization
