import Authorization.Proofs.Cascade
import Authorization.Proofs.Hierarchy.Forest
import Authorization.Proofs.Hierarchy.Paths

/-! Cascades from the bottom up. Whatever a remover does, what has been cleared is at any time
closed downwards. -/
namespace Authorization

/-- A call of a remover, by the domain that it was called on and what it answered. -/
structure Call where
  domain : DomainId
  answer : Except Error Nat

namespace Removal

variable {σ : Type} {remove : DomainId → Removal σ Nat}

/-- A remover that keeps a record of its calls beside its state. -/
def recorded (remove : DomainId → Removal σ Nat) (domain : DomainId) :
    Removal (σ × List Call) Nat :=
  fun state =>
    let outcome := (remove domain).outcome state.1
    (outcome.1, outcome.2, state.2 ++ [⟨domain, outcome.1⟩])

theorem outcome_recorded (domain : DomainId) (state : σ) (calls : List Call) :
    (recorded remove domain).outcome (state, calls) =
      (((remove domain).outcome state).1, ((remove domain).outcome state).2,
        calls ++ [⟨domain, ((remove domain).outcome state).1⟩]) :=
  rfl

/-- Keeping a record changes neither the answers nor the states. -/
theorem simulates_recorded (domain : DomainId) :
    Simulates (fun state (beside : σ × List Call) => state = beside.1) (remove domain)
      (recorded remove domain) := by
  rintro state ⟨_, calls⟩ rfl
  exact ⟨rfl, rfl⟩

/-- A run of a remover through domains, from one state to another: the calls that it makes and what
comes of them. The first call that fails ends it. -/
inductive RunsThrough (remove : DomainId → Removal σ Nat) :
    σ → List DomainId → List Call → Except Error Unit → σ → Prop
  | done (state : σ) : RunsThrough remove state [] [] (.ok ()) state
  | failed {state later : σ} {domain : DomainId} {error : Error}
      (fails : (remove domain).outcome state = (.error error, later)) (domains : List DomainId) :
      RunsThrough remove state (domain :: domains) [⟨domain, .error error⟩] (.error error) later
  | next {state middle later : σ} {domain : DomainId} {domains : List DomainId} {count : Nat}
      {calls : List Call} {answer : Except Error Unit}
      (succeeds : (remove domain).outcome state = (.ok count, middle))
      (rest : RunsThrough remove middle domains calls answer later) :
      RunsThrough remove state (domain :: domains) (⟨domain, .ok count⟩ :: calls) answer later

/-- What a remover records is the run that it makes. -/
theorem exists_runsThrough (remove : DomainId → Removal σ Nat) (domains : List DomainId)
    (state : σ) :
    ∃ calls answer later, RunsThrough remove state domains calls answer later ∧
      ∀ earlier, (Cascade.removeEach (recorded remove) domains).outcome (state, earlier) =
        (answer, later, earlier ++ calls) := by
  induction domains generalizing state with
  | nil =>
    refine ⟨[], .ok (), state, .done state, fun earlier => ?_⟩
    rw [List.append_nil]
    rfl
  | cons domain domains ih =>
    cases hcall : (remove domain).outcome state with
    | mk answer middle =>
      cases answer with
      | error error =>
        refine ⟨_, _, middle, .failed hcall domains, fun earlier => ?_⟩
        rw [Cascade.removeEach, outcome_bind, outcome_recorded, hcall]
      | ok count =>
        obtain ⟨calls, answer, later, hrun, hrest⟩ := ih middle
        refine ⟨_, answer, later, .next hcall hrun, fun earlier => ?_⟩
        rw [Cascade.removeEach, outcome_bind, outcome_recorded, hcall]
        dsimp only
        rw [hrest, List.append_assoc, List.singleton_append]

namespace RunsThrough

variable {state later : σ} {domains : List DomainId} {calls : List Call}
  {answer : Except Error Unit}

theorem isPrefix (h : RunsThrough remove state domains calls answer later) :
    calls.map (·.domain) <+: domains := by
  induction h with
  | done state => exact List.prefix_refl []
  | failed fails domains => exact List.prefix_append _ domains
  | next succeeds _ ih => exact List.cons_prefix_cons.mpr ⟨rfl, ih⟩

/-- Only the last call can have failed. -/
theorem succeeded (h : RunsThrough remove state domains calls answer later)
    {before after : List Call} {call : Call} (hcalls : calls = before ++ call :: after) :
    ∀ earlier ∈ before, ∃ count, earlier.answer = .ok count := by
  induction h generalizing before with
  | done state => simp at hcalls
  | failed fails domains =>
    have hnone : before = [] := by
      cases before with
      | nil => rfl
      | cons first rest => simp at hcalls
    rw [hnone]
    exact List.forall_mem_nil _
  | next succeeds rest ih =>
    cases before with
    | nil => exact List.forall_mem_nil _
    | cons first before =>
      obtain ⟨rfl, hrest⟩ := List.cons_eq_cons.mp hcalls
      exact List.forall_mem_cons.mpr ⟨⟨_, rfl⟩, ih hrest⟩

/-- A run ends when all calls have succeeded, or with the error of the one that has not. -/
theorem ends (h : RunsThrough remove state domains calls answer later) :
    (answer = .ok () ∧ calls.map (·.domain) = domains ∧
        ∀ call ∈ calls, ∃ count, call.answer = .ok count) ∨
      ∃ before domain error, answer = .error error ∧
        calls = before ++ [⟨domain, .error error⟩] ∧
        ∀ call ∈ before, ∃ count, call.answer = .ok count := by
  induction h with
  | done state => exact Or.inl ⟨rfl, rfl, List.forall_mem_nil _⟩
  | failed fails domains => exact Or.inr ⟨[], _, _, rfl, rfl, List.forall_mem_nil _⟩
  | @next _ _ _ domain _ count _ _ _ _ ih =>
    have hfirst : ∃ n, (⟨domain, .ok count⟩ : Call).answer = .ok n := ⟨count, rfl⟩
    rcases ih with ⟨hanswer, hdomains, hall⟩ | ⟨before, last, error, hanswer, hcalls, hall⟩
    · refine Or.inl ⟨hanswer, ?_, List.forall_mem_cons.mpr ⟨hfirst, hall⟩⟩
      rw [List.map_cons, hdomains]
    · refine Or.inr ⟨_ :: before, last, error, hanswer, ?_,
        List.forall_mem_cons.mpr ⟨hfirst, hall⟩⟩
      rw [hcalls, List.cons_append]

end RunsThrough

end Removal

/-- Calls of a remover on a subtree from the bottom up, and what is answered for all of them. -/
structure BottomUp (parent : DomainId → DomainId → Prop) (top : DomainId) (calls : List Call)
    (answer : Except Error Nat) : Prop where
  within : ∀ call ∈ calls, Relation.ReflTransGen parent call.domain top
  once : (calls.map (·.domain)).Nodup
  /-- Before a domain is cleared, all that lies below it has been cleared. -/
  childFirst : ∀ {before call after}, calls = before ++ call :: after →
    ∀ {id}, Relation.TransGen parent id call.domain → ∃ count, ⟨id, .ok count⟩ ∈ before
  /-- Either the whole subtree has been cleared, or the last call has failed and its error is the
  answer. -/
  ends : (answer = .ok calls.length ∧ (∀ call ∈ calls, ∃ count, call.answer = .ok count) ∧
      ∀ id, Relation.ReflTransGen parent id top → ∃ call ∈ calls, call.domain = id) ∨
    ∃ before domain error, answer = .error error ∧ calls = before ++ [⟨domain, .error error⟩] ∧
      ∀ call ∈ before, ∃ count, call.answer = .ok count

namespace Cascade

variable {parent : DomainId → DomainId → Prop} {top : DomainId}
  {descendants : List (Ranked DomainId)}

/-- The levels of a closure put every domain after all that lies below it, if it is read backwards.
-/
theorem mem_of_below (hforest : Forest parent)
    (hclosure : IsClosure (fun above below => parent below above) top descendants)
    {before after : List DomainId} {domain id : DomainId}
    (horder : descendants.reverse.map (·.node) = before ++ domain :: after)
    (hbelow : Relation.TransGen parent id domain) : id ∈ before := by
  obtain ⟨first, others, hsplit, rfl, hothers⟩ := List.map_eq_append_iff.mp horder
  obtain ⟨entry, last, rfl, rfl, rfl⟩ := List.map_eq_cons_iff.mp hothers
  have hmem : ∀ other, other ∈ first ++ entry :: last ↔ other ∈ descendants := by
    intro other
    rw [← hsplit, List.mem_reverse]
  have hdistance : ∀ {other}, other ∈ first ++ entry :: last →
      Distance parent other.node other.level top := by
    intro other hother
    exact Distance.reverse_iff.mp (hclosure.mem_iff.mp ((hmem other).mp hother))
  have hentry := hdistance (List.mem_append_right first List.mem_cons_self)
  obtain ⟨level, hlevel⟩ := Distance.of_reachable
    (hbelow.to_reflTransGen.trans hentry.walk.reachable)
  have hlower : entry.level < level := hforest.level_lt hlevel hentry hbelow
  have hlisted : (⟨level, id⟩ : Ranked DomainId) ∈ first ++ entry :: last :=
    (hmem _).mpr (hclosure.mem_iff.mpr (Distance.reverse_iff.mpr hlevel))
  have hsorted : (first ++ entry :: last).Pairwise fun a b => Ranked.Before b a := by
    rw [← hsplit]
    exact List.pairwise_reverse.mpr hclosure.ordered
  -- What lies below has a greater level, so it is neither the domain itself nor read later.
  rcases List.mem_append.mp hlisted with hfirst | hrest
  · exact List.mem_map_of_mem hfirst
  · rcases List.mem_cons.mp hrest with hsame | hlast
    · have heq : level = entry.level := congrArg Ranked.level hsame
      omega
    · have hbefore := List.rel_of_pairwise_cons (List.pairwise_append.mp hsorted).2.1 hlast
      have hle : level ≤ entry.level := hbefore.level_le
      omega

variable {σ : Type} {remove : DomainId → Removal σ Nat} {state later : σ} {calls : List Call}
  {answer : Except Error Unit}

/-- A run through a closure that is read backwards goes from the bottom up. -/
theorem bottomUp_of_runsThrough (hforest : Forest parent)
    (hclosure : IsClosure (fun above below => parent below above) top descendants)
    (hrun : Removal.RunsThrough remove state (descendants.reverse.map (·.node)) calls answer
      later) :
    BottomUp parent top calls (answer.map fun _ => descendants.length) := by
  have hstarted := hrun.isPrefix
  constructor
  case within =>
    intro call hcall
    exact (mem_backwards_iff hclosure).mp (hstarted.subset (List.mem_map_of_mem hcall))
  case once =>
    exact (nodup_backwards hclosure).sublist hstarted.sublist
  case childFirst =>
    intro before call after hcalls id hbelow
    obtain ⟨rest, hrest⟩ := hstarted
    rw [hcalls, List.map_append, List.map_cons, List.append_assoc, List.cons_append] at hrest
    have hmem := mem_of_below hforest hclosure hrest.symm hbelow
    obtain ⟨earlier, hearlier, rfl⟩ := List.mem_map.mp hmem
    obtain ⟨count, hcount⟩ := hrun.succeeded hcalls earlier hearlier
    refine ⟨count, ?_⟩
    rw [← hcount]
    exact hearlier
  case ends =>
    rcases hrun.ends with ⟨rfl, hdomains, hall⟩ | ⟨before, domain, error, rfl, hcalls, hall⟩
    · have hlength := congrArg List.length hdomains.symm
      rw [List.length_map, List.length_map, List.length_reverse] at hlength
      refine Or.inl ⟨congrArg Except.ok hlength, hall, fun id hid => ?_⟩
      rw [← mem_backwards_iff hclosure, ← hdomains] at hid
      exact List.mem_map.mp hid
    · exact Or.inr ⟨before, domain, error, rfl, hcalls, hall⟩

/-- A cascade ends with an answer and in a state, and has made some calls of the remover by then.
The calls are seen by letting the remover keep a record, which changes nothing else. -/
structure Ends (cascade : Cascade) (remove : DomainId → Removal σ Nat) (name : String) (state : σ)
    (answer : Except Error Nat) (later : σ) (calls : List Call) : Prop where
  outcome : (cascade.removeScopedGrants remove name).outcome state = (answer, later)
  recorded : (cascade.removeScopedGrants (Removal.recorded remove) name).outcome (state, []) =
    (answer, later, calls)

/-- A cascade over a forest makes its calls from the bottom up, and the run that it makes of them is
the run of the remover. -/
theorem exists_bottomUp (cascade : Cascade) {donor : ResourceId → ResourceId → Prop}
    (hforest : Forest parent) (hcomputes : cascade.closure.Computes donor parent) {name : String}
    {domain : Domain} (hdomain : cascade.directory.requireDomain name = .ok domain)
    (remove : DomainId → Removal σ Nat) (state : σ) :
    ∃ domains calls answer later, domains.Nodup ∧
      Removal.RunsThrough remove state domains calls answer later ∧
      cascade.Ends remove name state (answer.map fun _ => domains.length) later calls ∧
      BottomUp parent domain.id calls (answer.map fun _ => domains.length) := by
  obtain ⟨descendants, hdescendants, hclosure⟩ := exists_descendantsByLevel hcomputes hdomain
  obtain ⟨calls, answer, later, hrun, hrecorded⟩ :=
    Removal.exists_runsThrough remove (descendants.reverse.map (·.node)) state
  have hlength : (descendants.reverse.map (·.node)).length = descendants.length := by
    rw [List.length_map, List.length_reverse]
  have houtcome : (cascade.removeScopedGrants (Removal.recorded remove) name).outcome (state, []) =
      (answer.map fun _ => descendants.length, later, calls) := by
    unfold removeScopedGrants
    rw [hdescendants]
    dsimp only
    rw [Removal.outcome_bind, hrecorded, List.nil_append]
    cases answer with
    | error error => rfl
    | ok _ => rfl
  -- The record changes nothing, so the remover by itself ends in the same answer and state.
  obtain ⟨hanswer, hlater⟩ := simulates_removeScopedGrants cascade Removal.simulates_recorded name
    state (state, ([] : List Call)) rfl
  rw [houtcome] at hanswer hlater
  refine ⟨_, calls, answer, later, nodup_backwards hclosure, hrun, ?_, ?_⟩
  · rw [hlength]
    exact ⟨Prod.ext hanswer hlater, houtcome⟩
  · rw [hlength]
    exact bottomUp_of_runsThrough hforest hclosure hrun

end Cascade

namespace HierarchyEdges

/-- Edges under which the domains form a forest: a domain has one entry and does not lie below
itself. -/
structure IsForest (edges : HierarchyEdges) : Prop where
  unique : (edges.domains.map (·.1)).Nodup
  acyclic : ∀ id,
    ¬Relation.TransGen (fun below above => (below, some above) ∈ edges.domains) id id

theorem IsForest.forest {edges : HierarchyEdges} (h : edges.IsForest) :
    Forest fun below above => (below, some above) ∈ edges.domains where
  unique {a b c} hb hc := by
    have hsame : (a, some b) = (a, some c) := List.inj_on_of_nodup_map h.unique hb hc rfl
    cases hsame
    rfl
  acyclic := h.acyclic

/-- The cascade over edges: by either strategy, and with either way to answer queries. -/
theorem computes_either {edges : HierarchyEdges} (h : edges.IsForest) (strategy : ClosureStrategy)
    {native : NativeSource} (hnative : native ∈ [edges.native, edges.recursive]) :
    (strategy.closure edges.hops native).Computes
      (fun accessor donor => (accessor, donor) ∈ edges.donors)
      (fun below above => (below, some above) ∈ edges.domains) := by
  rcases List.mem_pair.mp hnative with rfl | rfl
  · exact computes h.unique strategy
  · cases strategy with
    -- The search does not ask for whole closures.
    | iterative => exact computes h.unique .iterative
    | recursive =>
      apply computes_queries
      · intro id
        exact ⟨_, rfl, Paths.isClosure_closure edges.donors id⟩
      · intro id
        exact ⟨_, rfl, Paths.isClosure_closure edges.parents id⟩
      · intro id
        exact ⟨_, rfl, Paths.isClosure_closure edges.children id⟩

end HierarchyEdges

end Authorization
