import Authorization.Service.Basic

namespace Authorization

/-- An action on a state that may fail; what was done before the failure stays done. -/
abbrev Removal (σ : Type) := ExceptT Error (StateM σ)

structure Cascade where
  directory : Directory
  closure : HierarchyClosure

namespace Cascade

variable {σ : Type}

/-- The named domain and all domains below it, ascending by level. -/
def descendantsByLevel (cascade : Cascade) (name : String) :
    Except Error (List (Ranked DomainId)) := do
  let domain ← cascade.directory.requireDomain name
  cascade.closure.descendants domain.id

/-- Clears domains in order until one fails. -/
def removeEach (remove : DomainId → Removal σ Nat) : List DomainId → Removal σ Unit
  | [] => pure ()
  | domain :: domains => do
    let _ ← remove domain
    removeEach remove domains

/-- Clears the named domain and all domains below it, the deepest first, and counts the domains.
-/
def removeScopedGrants (cascade : Cascade) (remove : DomainId → Removal σ Nat) (name : String) :
    Removal σ Nat := do
  match cascade.descendantsByLevel name with
  | .error error => throw error
  | .ok descendants =>
    removeEach remove (descendants.reverse.map (·.node))
    return descendants.length

end Cascade

end Authorization
