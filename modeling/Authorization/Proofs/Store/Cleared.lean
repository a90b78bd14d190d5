import Authorization.Proofs.Cascade
import Authorization.Store.Memory

namespace Authorization

namespace GrantRows

variable {κ ρ : Type}

theorem outside_outside (rows : GrantRows κ ρ) (scope scope' : κ → Bool) :
    (rows.outside scope).outside scope' = rows.outside fun key => scope key || scope' key := by
  unfold outside
  rw [List.filter_filter]
  apply List.filter_congr
  intro row _
  rw [Bool.not_or, Bool.and_comm]

/-- What is dropped and what is left are all rows. -/
theorem countWithin_add_length (rows : GrantRows κ ρ) (scope : κ → Bool) :
    rows.countWithin scope + (rows.outside scope).length = rows.length := by
  have hlength := List.length_eq_countP_add_countP (l := rows) fun row => scope row.1
  rw [hlength, countWithin, outside, ← List.countP_eq_length_filter]
  simp only [Bool.not_eq_true, Bool.decide_eq_false]

end GrantRows

namespace GrantTables

variable {ρ γ δ ε : Type}

/-- The tables without the rows that belong to some domains. -/
def without (grants : GrantTables ρ γ δ ε) (domains : List DomainId) : GrantTables ρ γ δ ε :=
  { grants with
    create := grants.create.outside (·.domainId ∈ domains)
    global := grants.global.outside (·.domainId ∈ domains)
    domain := grants.domain.outside (·.domainId ∈ domains) }

variable (grants : GrantTables ρ γ δ ε)

theorem global_without (domains : List DomainId) :
    (grants.without domains).global = grants.global.outside (·.domainId ∈ domains) :=
  rfl

theorem create_without (domains : List DomainId) :
    (grants.without domains).create = grants.create.outside (·.domainId ∈ domains) :=
  rfl

theorem domain_without (domains : List DomainId) :
    (grants.without domains).domain = grants.domain.outside (·.domainId ∈ domains) :=
  rfl

theorem without_nil : grants.without [] = grants := by
  have hall {κ α : Type} (rows : GrantRows κ α) : rows.outside (fun _ => false) = rows :=
    List.filter_eq_self.mpr fun _ _ => rfl
  simp only [without, List.not_mem_nil, decide_false, hall]

theorem without_without (domains domains' : List DomainId) :
    (grants.without domains).without domains' = grants.without (domains ++ domains') := by
  simp only [without, GrantRows.outside_outside, List.mem_append, Bool.decide_or]

/-- Clearing a domain in one table after the other drops the rows of that domain from all. -/
theorem clear_clear_clear (domain : DomainId) :
    ((grants.clear domain .create).clear domain .global).clear domain .domain =
      grants.without [domain] := by
  simp only [clear, without, List.mem_singleton]

end GrantTables

namespace PermissionTables

/-- What a holder has on the resources of a class within a domain. -/
def globalIn (grants : PermissionTables) (classId : ResourceClassId) (holder : ResourceId)
    (domain : DomainId) : List ResourcePermission :=
  grants.global.held ⟨holder, classId, domain⟩

/-- What a holder has for creating resources of a class within a domain. -/
def createIn (grants : PermissionTables) (classId : ResourceClassId) (holder : ResourceId)
    (domain : DomainId) : List ResourceCreatePermission :=
  grants.create.held ⟨holder, classId, domain⟩

def domainIn (grants : PermissionTables) (holder : ResourceId) (domain : DomainId) :
    List DomainPermission :=
  grants.domain.held ⟨holder, domain⟩

/-- The same is granted for a domain in all three tables of scoped grants. -/
structure AlikeIn (grants grants' : PermissionTables) (domain : DomainId) : Prop where
  global : ∀ classId holder,
    grants.globalIn classId holder domain = grants'.globalIn classId holder domain
  create : ∀ classId holder,
    grants.createIn classId holder domain = grants'.createIn classId holder domain
  domain : ∀ holder, grants.domainIn holder domain = grants'.domainIn holder domain

variable {grants : PermissionTables} {domains : List DomainId} {domain : DomainId}

theorem alikeIn_without_of_notMem (h : domain ∉ domains) :
    AlikeIn (grants.without domains) grants domain := by
  have hscope : decide (domain ∈ domains) = false := decide_eq_false h
  constructor
  · intro classId holder
    rw [globalIn, GrantTables.global_without]
    exact GrantRows.held_outside hscope
  · intro classId holder
    rw [createIn, GrantTables.create_without]
    exact GrantRows.held_outside hscope
  · intro holder
    rw [domainIn, GrantTables.domain_without]
    exact GrantRows.held_outside hscope

/-- For a domain that was cleared there is no more than in empty tables. -/
theorem alikeIn_without_of_mem (h : domain ∈ domains) :
    AlikeIn (grants.without domains) {} domain := by
  have hscope : decide (domain ∈ domains) = true := decide_eq_true h
  constructor
  · intro classId holder
    rw [globalIn, GrantTables.global_without]
    exact GrantRows.held_outside_eq_nil hscope
  · intro classId holder
    rw [createIn, GrantTables.create_without]
    exact GrantRows.held_outside_eq_nil hscope
  · intro holder
    rw [domainIn, GrantTables.domain_without]
    exact GrantRows.held_outside_eq_nil hscope

end PermissionTables

namespace Memory

def without (memory : Memory) (domains : List DomainId) : Memory :=
  memory.withGrants (·.without domains)

variable (memory : Memory)

theorem clear_eq_without (domain : DomainId) : memory.clear domain = memory.without [domain] := by
  unfold without
  simp only [← GrantTables.clear_clear_clear]
  rfl

/-- Clearing domains one after the other succeeds, and drops what belongs to any of them. -/
theorem outcome_removeEach (domains : List DomainId) :
    (Cascade.removeEach Store.clearDomain domains).outcome memory =
      (.ok (), memory.without domains) := by
  induction domains generalizing memory with
  | nil =>
    have hsame : memory.without [] = memory := by
      simp only [without, GrantTables.without_nil]
      rfl
    rw [hsame]
    rfl
  | cons domain domains ih =>
    have hfirst : (Store.clearDomain domain : Removal Memory Nat).outcome memory =
        (.ok (memory.countIn domain), memory.without [domain]) := by
      rw [← clear_eq_without]
      rfl
    have hrest : (memory.without [domain]).without domains =
        memory.without (domain :: domains) := by
      simp only [without, withGrants, GrantTables.without_without, List.singleton_append]
    rw [Cascade.removeEach, Removal.outcome_bind, hfirst, ← hrest]
    exact ih _

/-- A cascade over a memory store clears the domains that the closure lists. -/
theorem outcome_removeScopedGrants {cascade : Cascade} {name : String}
    {descendants : List (Ranked DomainId)}
    (h : cascade.descendantsByLevel name = .ok descendants) :
    (cascade.removeScopedGrants Store.clearDomain name).outcome memory =
      (.ok descendants.length, memory.without (descendants.reverse.map (·.node))) := by
  unfold Cascade.removeScopedGrants
  rw [h]
  dsimp only
  rw [Removal.outcome_bind, outcome_removeEach]
  rfl

end Memory

end Authorization
