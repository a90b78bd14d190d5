import Authorization.Id
import Authorization.Permission.Comparison
import Authorization.Store.Statement

namespace Authorization

structure DirectKey where
  accessor : ResourceId
  accessed : ResourceId
  deriving DecidableEq

structure ClassKey where
  accessor : ResourceId
  classId : ResourceClassId
  domainId : DomainId
  deriving DecidableEq

structure DomainKey where
  accessor : ResourceId
  domainId : DomainId
  deriving DecidableEq

abbrev GrantRows (κ ρ : Type) := List (κ × ρ)

namespace GrantRows

variable {κ ρ : Type} [DecidableEq κ]

def held (rows : GrantRows κ ρ) (key : κ) : List ρ :=
  (rows.filter fun row => row.1 = key).map (·.2)

/-- The rows whose keys are not in a scope. -/
def outside (rows : GrantRows κ ρ) (scope : κ → Bool) : GrantRows κ ρ :=
  rows.filter fun row => !scope row.1

def countWithin (rows : GrantRows κ ρ) (scope : κ → Bool) : Nat :=
  rows.countP fun row => scope row.1

/-- Dropping a scope leaves a key outside it alone. -/
theorem held_outside {rows : GrantRows κ ρ} {scope : κ → Bool} {key : κ} (h : scope key = false) :
    (rows.outside scope).held key = rows.held key := by
  rw [held, held, outside, List.filter_filter]
  refine congrArg _ (List.filter_congr fun row _ => ?_)
  by_cases hkey : row.1 = key
  · simp [hkey, h]
  · simp [hkey]

/-- Dropping a scope leaves nothing under a key within it. -/
theorem held_outside_eq_nil {rows : GrantRows κ ρ} {scope : κ → Bool} {key : κ}
    (h : scope key = true) : (rows.outside scope).held key = [] := by
  rw [held, outside, List.filter_filter, List.map_eq_nil_iff, List.filter_eq_nil_iff]
  intro row _
  by_cases hkey : row.1 = key
  · simp [hkey, h]
  · simp [hkey]

variable [Permission ρ] [DecidableEq ρ]

/-- Puts a permission under a key, in place of one that differs at most in its grant option. -/
def put (key : κ) (rows : GrantRows κ ρ) (permission : ρ) : GrantRows κ ρ :=
  (rows.filter fun row =>
    !(row.1 = key && Permission.equalIgnoringGrantOption row.2 permission)) ++ [(key, permission)]

def putAll (rows : GrantRows κ ρ) (key : κ) (permissions : List ρ) : GrantRows κ ρ :=
  permissions.foldl (put key) rows

/-- What is put under a key changes no other key. -/
theorem held_put_of_ne {key other : κ} (h : other ≠ key) (rows : GrantRows κ ρ) (permission : ρ) :
    (put key rows permission).held other = rows.held other := by
  rw [held, put, List.filter_append, List.filter_filter, List.map_append, held]
  have hnew : ([(key, permission)].filter fun row => row.1 = other) = [] := by
    simp [Ne.symm h]
  rw [hnew, List.map_nil, List.append_nil]
  refine congrArg _ (List.filter_congr fun row _ => ?_)
  by_cases hkey : row.1 = other
  · simp [hkey, h]
  · simp [hkey]

end GrantRows

/-- The five grant tables; `ρ`, `γ`, `δ` and `ε` are the contents of their rows for resource,
resource create, domain and domain create permissions. -/
structure GrantTables (ρ γ δ ε : Type) where
  direct : GrantRows DirectKey ρ := []
  global : GrantRows ClassKey ρ := []
  create : GrantRows ClassKey γ := []
  domain : GrantRows DomainKey δ := []
  domainCreate : GrantRows ResourceId ε := []

namespace GrantTables

variable {ρ γ δ ε : Type}

def countIn (grants : GrantTables ρ γ δ ε) (domain : DomainId) : ScopedTable → Nat
  | .create => grants.create.countWithin (·.domainId = domain)
  | .global => grants.global.countWithin (·.domainId = domain)
  | .domain => grants.domain.countWithin (·.domainId = domain)

/-- Drops the rows of a table that belong to a domain. -/
def clear (grants : GrantTables ρ γ δ ε) (domain : DomainId) : ScopedTable → GrantTables ρ γ δ ε
  | .create => { grants with create := grants.create.outside (·.domainId = domain) }
  | .global => { grants with global := grants.global.outside (·.domainId = domain) }
  | .domain => { grants with domain := grants.domain.outside (·.domainId = domain) }

end GrantTables

end Authorization
