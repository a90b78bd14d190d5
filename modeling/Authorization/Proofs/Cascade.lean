import Authorization.Cascade
import Authorization.Proofs.Hierarchy.Closure

namespace Authorization

namespace Removal

variable {σ τ α β : Type}

/-- The answer of a removal and the state that it leaves behind. -/
def outcome (removal : Removal σ α) (state : σ) : Except Error α × σ :=
  (removal.run.run state).run

/-- Removals with the same answer in related states, which leave related states behind. -/
def Simulates (related : σ → τ → Prop) (removal : Removal σ α) (removal' : Removal τ α) : Prop :=
  ∀ state state', related state state' →
    (removal.outcome state).1 = (removal'.outcome state').1 ∧
      related (removal.outcome state).2 (removal'.outcome state').2

theorem outcome_bind (first : Removal σ α) (next : α → Removal σ β) (state : σ) :
    (first >>= next).outcome state =
      match first.outcome state with
      | (.ok a, later) => (next a).outcome later
      | (.error error, later) => (.error error, later) := by
  show (ExceptT.bindCont next (first.outcome state).1).run (first.outcome state).2 = _
  obtain ⟨answer, later⟩ := first.outcome state
  cases answer with
  | ok a => rfl
  | error error => rfl

variable {related : σ → τ → Prop}

theorem simulates_pure (a : α) : Simulates related (pure a) (pure a) :=
  fun _ _ hstates => ⟨rfl, hstates⟩

theorem simulates_throw (error : Error) :
    Simulates related (throw error : Removal σ α) (throw error : Removal τ α) :=
  fun _ _ hstates => ⟨rfl, hstates⟩

/-- A removal after another simulates if both do. -/
theorem Simulates.bind {first : Removal σ α} {first' : Removal τ α} {next : α → Removal σ β}
    {next' : α → Removal τ β} (hfirst : Simulates related first first')
    (hnext : ∀ a, Simulates related (next a) (next' a)) :
    Simulates related (first >>= next) (first' >>= next') := by
  intro state state' hstates
  obtain ⟨hanswer, hlater⟩ := hfirst state state' hstates
  rw [outcome_bind, outcome_bind]
  generalize first.outcome state = left at *
  generalize first'.outcome state' = right at *
  obtain ⟨answer, later⟩ := left
  obtain ⟨answer', later'⟩ := right
  obtain rfl : answer = answer' := hanswer
  cases answer with
  | error error => exact ⟨rfl, hlater⟩
  -- What comes next starts from the related states that the first removals left behind.
  | ok a => exact hnext a later later' hlater

end Removal

namespace Cascade

/-- What is cleared is the closure of the named domain downwards. -/
theorem exists_descendantsByLevel {cascade : Cascade} {donor : ResourceId → ResourceId → Prop}
    {parent : DomainId → DomainId → Prop} (hcomputes : cascade.closure.Computes donor parent)
    {name : String} {domain : Domain}
    (hdomain : cascade.directory.requireDomain name = .ok domain) :
    ∃ descendants, cascade.descendantsByLevel name = .ok descendants ∧
      IsClosure (fun above below => parent below above) domain.id descendants := by
  obtain ⟨descendants, hanswer, hclosure⟩ := hcomputes.descendants domain.id
  exact ⟨descendants, bind_eq_ok hdomain hanswer, hclosure⟩

section Backwards

variable {parent : DomainId → DomainId → Prop} {top : DomainId}
  {descendants : List (Ranked DomainId)}
  (h : IsClosure (fun above below => parent below above) top descendants)

include h

/-- Read backwards, too, a closure lists each domain once. -/
theorem nodup_backwards : (descendants.reverse.map (·.node)).Nodup := by
  have hperm : (descendants.reverse.map (·.node)).Perm (descendants.map (·.node)) :=
    (List.reverse_perm descendants).map _
  exact hperm.nodup_iff.mpr h.nodup_nodes

/-- Read backwards, too, a closure lists the domains from which a way leads up to its top. -/
theorem mem_backwards_iff {id : DomainId} :
    id ∈ descendants.reverse.map (·.node) ↔ Relation.ReflTransGen parent id top := by
  rw [List.map_reverse, List.mem_reverse, List.mem_map, h.exists_mem_iff]
  exact Relation.reflTransGen_swap

end Backwards

variable {σ τ : Type} {related : σ → τ → Prop} {remove : DomainId → Removal σ Nat}
  {remove' : DomainId → Removal τ Nat}

/-- Clearing domains one after the other simulates if clearing one does. -/
theorem simulates_removeEach (h : ∀ domain, Removal.Simulates related (remove domain)
    (remove' domain)) (domains : List DomainId) :
    Removal.Simulates related (removeEach remove domains) (removeEach remove' domains) := by
  induction domains with
  | nil => exact Removal.simulates_pure ()
  | cons domain domains ih =>
    apply (h domain).bind
    intro _
    exact ih

theorem simulates_removeScopedGrants (cascade : Cascade) (h : ∀ domain,
    Removal.Simulates related (remove domain) (remove' domain)) (name : String) :
    Removal.Simulates related (cascade.removeScopedGrants remove name)
      (cascade.removeScopedGrants remove' name) := by
  unfold removeScopedGrants
  cases cascade.descendantsByLevel name with
  | error error => exact Removal.simulates_throw error
  | ok descendants =>
    apply (simulates_removeEach h _).bind
    intro _
    exact Removal.simulates_pure _

end Cascade

end Authorization
