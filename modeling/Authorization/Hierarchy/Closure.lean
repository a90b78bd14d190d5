import Authorization.Hierarchy.Search
import Authorization.Id

/-! The hierarchy that checks walk, either by a search over single hops or by a query that the store
evaluates itself. -/
namespace Authorization

/-- The three closures of the hierarchy, each sorted by level and then by handle. -/
structure HierarchyClosure where
  /-- The accessor and every resource that it inherits from, directly or not. -/
  accessors : ResourceId → Except Error (List (Ranked ResourceId))
  /-- The domain and the domains above it, up to the root. -/
  ancestors : DomainId → Except Error (List (Ranked DomainId))
  /-- The domain and the domains below it. -/
  descendants : DomainId → Except Error (List (Ranked DomainId))

structure HopSource where
  donors : Neighbours ResourceId
  parents : Neighbours DomainId
  children : Neighbours DomainId

/-- Closures as a store evaluates them: entries in any order, perhaps several for one node. -/
structure NativeSource where
  accessors : ResourceId → Except Error (List (Ranked ResourceId))
  ancestors : DomainId → Except Error (List (Ranked DomainId))
  descendants : DomainId → Except Error (List (Ranked DomainId))

namespace HierarchyClosure

/-- Closures by search over single hops. -/
def iterative (hops : HopSource) : HierarchyClosure where
  accessors := hops.donors.closure
  ancestors := hops.parents.closure
  descendants := hops.children.closure

/-- Closures by the queries of a store, which have to start at the node asked for. -/
def recursive (native : NativeSource) : HierarchyClosure where
  accessors id := do Ranked.normalize id (.accessorClosureUnseeded id) (← native.accessors id)
  ancestors id := do Ranked.normalize id (.ancestorChainUnseeded id) (← native.ancestors id)
  descendants id := do
    Ranked.normalize id (.descendantClosureUnseeded id) (← native.descendants id)

end HierarchyClosure

inductive ClosureStrategy where
  | recursive
  | iterative
  deriving DecidableEq, Repr

namespace ClosureStrategy

def word : ClosureStrategy → String
  | recursive => "recursive"
  | iterative => "iterative"

/-- The strategy that a setting names, in any case of its ASCII letters and with blanks around it.
-/
def ofText (text : String) : Except Error ClosureStrategy :=
  let word := (Text.trim text).toLower
  if word = recursive.word then .ok recursive
  else if word = iterative.word then .ok iterative
  else .error (.unknownStrategy word)

def closure (strategy : ClosureStrategy) (hops : HopSource) (native : NativeSource) :
    HierarchyClosure :=
  match strategy with
  | recursive => .recursive native
  | iterative => .iterative hops

end ClosureStrategy

end Authorization
