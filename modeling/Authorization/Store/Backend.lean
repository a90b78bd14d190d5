import Authorization.Cascade

namespace Authorization

/-- The answers of a store in one state. -/
structure Backend where
  directory : Directory
  grants : GrantSource
  hops : HopSource
  native : NativeSource

namespace Backend

def closure (backend : Backend) (strategy : ClosureStrategy) : HierarchyClosure :=
  strategy.closure backend.hops backend.native

def service (backend : Backend) (strategy : ClosureStrategy) : Service :=
  ⟨backend.directory, backend.grants, backend.closure strategy⟩

def cascade (backend : Backend) (strategy : ClosureStrategy) : Cascade :=
  ⟨backend.directory, backend.closure strategy⟩

end Backend

/-- A store with states `σ`. -/
class Store (σ : Type) where
  /-- What the store answers in a state. -/
  backend : σ → Backend
  /-- Clears a domain of the grants that belong to it, and counts them. -/
  clearDomain : DomainId → Removal σ Nat

end Authorization
