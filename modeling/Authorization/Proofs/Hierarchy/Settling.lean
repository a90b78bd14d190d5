import Authorization.Proofs.Hierarchy.Closure
import Mathlib.Data.List.Dedup

/-! Relaxation as a loop without a bound. Below every level that it notes on the way there are as
many other nodes, so levels stay below the number of nodes. -/
namespace Authorization.Levels

variable {α : Type} [DecidableEq α] {levels : Levels α} {edges ahead : List (α × α)}
  {edge : α × α} {seed a b node : α} {level n rounds : Nat} {changed : Bool}

/-- Whether an edge gives its target a level, or a lesser one than it has. -/
def shortens (levels : Levels α) (edge : α × α) : Bool :=
  match levels.lookup edge.1, levels.lookup edge.2 with
  | none, _ => false
  | some _, none => true
  | some level, some current => level + 1 < current

/-- The loop in the middle of a round. -/
structure Pass (α : Type) where
  levels : Levels α
  /-- The edges that the round has not come to yet. -/
  ahead : List (α × α)
  /-- Whether an edge of the round has shortened a way. -/
  changed : Bool

/-- Relaxes the next edge. At the end of a round that changed something all edges are gone over
again, and nothing follows one that did not. -/
def Pass.next (edges : List (α × α)) : Pass α → Option (Pass α)
  | ⟨levels, edge :: ahead, changed⟩ =>
    some ⟨levels.relax edge, ahead, changed || levels.shortens edge⟩
  | ⟨levels, [], true⟩ => some ⟨levels, edges, false⟩
  | ⟨_, [], false⟩ => none

/-- From one point of the loop to a later one. -/
def Pass.Runs (edges : List (α × α)) : Pass α → Pass α → Prop :=
  Relation.ReflTransGen fun pass later => pass.next edges = some later

theorem Pass.Runs.step {pass middle later : Pass α} (h : pass.Runs edges middle)
    (hnext : middle.next edges = some later) : pass.Runs edges later :=
  h.tail hnext

/-- The loop before its first round. -/
def Pass.start (edges : List (α × α)) (seed : α) : Pass α :=
  ⟨[(seed, 0)], edges, false⟩

theorem relax_eq_self (h : levels.shortens edge = false) : levels.relax edge = levels := by
  unfold shortens at h
  unfold relax
  split at h
  · next hsource => rw [hsource]
  · cases h
  · next hsource htarget =>
    have hnot := of_decide_eq_false h
    simp only [hsource, htarget, if_neg hnot]

/-- An edge that shortens a way brings its target within a distance at which it was not. -/
theorem exists_within_relax (h : levels.shortens (a, b) = true) :
    ∃ n, (levels.relax (a, b)).Within n b ∧ ¬levels.Within n b := by
  unfold shortens at h
  split at h
  · cases h
  · next level hsource htarget =>
    refine ⟨level + 1, Within.relax_target ⟨level, Nat.le_refl _, hsource⟩ b, ?_⟩
    rintro ⟨current, _, hcurrent⟩
    rw [htarget] at hcurrent
    cases hcurrent
  · next level current hsource htarget =>
    refine ⟨level + 1, Within.relax_target ⟨level, Nat.le_refl _, hsource⟩ b, ?_⟩
    rintro ⟨found, hle, hfound⟩
    rw [htarget] at hfound
    cases hfound
    exact Nat.not_lt.mpr hle (of_decide_eq_true h)

/-- A round that changes the levels brings some node closer than it was. -/
theorem exists_within_round (h : round edges levels ≠ levels) :
    ∃ n b, (round edges levels).Within n b ∧ ¬levels.Within n b := by
  induction edges generalizing levels with
  | nil => exact absurd rfl h
  | cons edge edges ih =>
    obtain ⟨a, b⟩ := edge
    cases hshorter : levels.shortens (a, b) with
    | false =>
      have hsame : round ((a, b) :: edges) levels = round edges levels :=
        congrArg (round edges) (relax_eq_self hshorter)
      rw [hsame] at h ⊢
      exact ih h
    | true =>
      -- What follows in the round takes nothing back.
      obtain ⟨n, hcloser, hfar⟩ := exists_within_relax hshorter
      exact ⟨n, b, hcloser.round edges, hfar⟩

/-- The rest of a round notes a change if and only if it changes the levels. -/
theorem Pass.runs_round (levels : Levels α) (ahead : List (α × α)) (changed : Bool) :
    Runs edges ⟨levels, ahead, changed⟩
      ⟨round ahead levels, [], changed || decide (round ahead levels ≠ levels)⟩ := by
  induction ahead generalizing levels changed with
  | nil =>
    have hnone : decide (round [] levels ≠ levels) = false := decide_eq_false fun h => h rfl
    rw [hnone, Bool.or_false]
    exact Relation.ReflTransGen.refl
  | cons edge ahead ih =>
    obtain ⟨a, b⟩ := edge
    have hfirst : (⟨levels, (a, b) :: ahead, changed⟩ : Pass α).next edges =
        some ⟨levels.relax (a, b), ahead, changed || levels.shortens (a, b)⟩ := rfl
    have hrest := ih (levels.relax (a, b)) (changed || levels.shortens (a, b))
    have hround : round ((a, b) :: ahead) levels = round ahead (levels.relax (a, b)) := rfl
    -- If the first edge shortens a way, the rest of the round does not make up for it.
    have hnoted : (levels.shortens (a, b) ||
          decide (round ahead (levels.relax (a, b)) ≠ levels.relax (a, b))) =
        decide (round ((a, b) :: ahead) levels ≠ levels) := by
      cases hshorter : levels.shortens (a, b) with
      | false => rw [hround, relax_eq_self hshorter, Bool.false_or]
      | true =>
        obtain ⟨n, hcloser, hfar⟩ := exists_within_relax hshorter
        have hchanged : round ((a, b) :: ahead) levels ≠ levels := by
          intro hsame
          have hwithin := hcloser.round ahead
          rw [← hround, hsame] at hwithin
          exact hfar hwithin
        rw [Bool.true_or, decide_eq_true hchanged]
    rw [Bool.or_assoc, hnoted] at hrest
    exact Relation.ReflTransGen.head hfirst hrest

/-- After as many rounds as there are edges all levels are distances, which a further round leaves
alone. -/
theorem round_iterate_length (edges : List (α × α)) (seed : α) :
    round edges ((round edges)^[edges.length] [(seed, 0)]) =
      (round edges)^[edges.length] [(seed, 0)] := by
  by_contra hne
  obtain ⟨n, b, ⟨level, hle, hlookup⟩, hfar⟩ := exists_within_round hne
  rw [← Function.iterate_succ_apply' (round edges), ← settle_eq_iterate,
    lookup_settle_iff (Nat.le_succ edges.length)] at hlookup
  rw [← settle_eq_iterate] at hfar
  exact hfar ⟨level, hle, (lookup_settle_iff (Nat.le_refl _)).mpr hlookup⟩

/-- A loop that would leave the levels alone after fewer rounds than are allowed ends by itself,
with what the bounded rounds give. -/
theorem Pass.runs_settle
    (hfixed : round edges ((round edges)^[n] levels) = (round edges)^[n] levels) (hn : n < rounds) :
    Runs edges ⟨levels, edges, false⟩ ⟨settle edges rounds levels, [], false⟩ := by
  -- Each round that changes something is one of the rounds allowed and one of those still needed.
  induction rounds generalizing n levels with
  | zero => exact absurd hn (Nat.not_lt_zero n)
  | succ rounds ih =>
    have hround : Runs edges ⟨levels, edges, false⟩
        ⟨round edges levels, [], decide (round edges levels ≠ levels)⟩ :=
      runs_round levels edges false
    rw [settle]
    by_cases hsame : round edges levels = levels
    · rw [decide_eq_false (not_not.mpr hsame), hsame] at hround
      rwa [if_pos hsame]
    · rw [decide_eq_true hsame] at hround
      rw [if_neg hsame]
      have hagain : (⟨round edges levels, [], true⟩ : Pass α).next edges =
          some ⟨round edges levels, edges, false⟩ := rfl
      cases n with
      | zero => exact absurd hfixed hsame
      | succ n =>
        rw [Function.iterate_succ_apply] at hfixed
        exact (hround.step hagain).trans (ih hfixed (Nat.lt_of_succ_lt_succ hn))

/-- The nodes: the seed and the ends of edges, each once. -/
def nodes (edges : List (α × α)) (seed : α) : List α :=
  (seed :: edges.flatMap fun edge => [edge.1, edge.2]).dedup

theorem mem_nodes_of_walk (h : Walk (fun a b => (a, b) ∈ edges) seed n a) :
    a ∈ nodes edges seed := by
  rw [nodes, List.mem_dedup]
  cases h with
  | start => exact List.mem_cons_self
  | step _ last =>
    exact List.mem_cons_of_mem _ (List.mem_flatMap.mpr ⟨_, last, by simp⟩)

/-- Below each level there are as many nodes as the level says. -/
def Founded (levels : Levels α) : Prop :=
  ∀ a n, levels.lookup a = some n → ∃ below : List α, below.length = n ∧ below.Nodup ∧
    ∀ b ∈ below, ∃ m < n, levels.lookup b = some m

theorem founded_seed (seed : α) : Founded [(seed, 0)] := by
  intro a n h
  rw [KeyedList.lookup_cons_eq] at h
  split at h
  · cases h
    exact ⟨[], rfl, List.nodup_nil, List.forall_mem_nil _⟩
  · cases h

/-- A node that has nodes below it is none of them. -/
theorem Founded.exists_nodup (h : Founded levels) (ha : levels.lookup a = some n) :
    ∃ line : List α, line.length = n + 1 ∧ line.Nodup ∧
      ∀ b ∈ line, ∃ m ≤ n, levels.lookup b = some m := by
  obtain ⟨below, hlength, hnodup, hbelow⟩ := h a n ha
  refine ⟨a :: below, by rw [List.length_cons, hlength], ?_, fun b hb => ?_⟩
  · refine List.nodup_cons.mpr ⟨fun hmem => ?_, hnodup⟩
    obtain ⟨m, hm, hsame⟩ := hbelow a hmem
    have heq : m = n := Option.some.inj (hsame.symm.trans ha)
    omega
  · rcases List.mem_cons.mp hb with rfl | hold
    · exact ⟨n, Nat.le_refl n, ha⟩
    · obtain ⟨m, hm, hlookup⟩ := hbelow b hold
      exact ⟨m, Nat.le_of_lt hm, hlookup⟩

/-- The target of an edge gets its level from nodes that keep theirs: were it one of them, it would
be closer already. -/
theorem Founded.relax (h : Founded levels) (edge : α × α) : Founded (levels.relax edge) := by
  obtain ⟨a, b⟩ := edge
  obtain ⟨_, heq⟩ | ⟨level, ha, ⟨_, heq⟩ | ⟨hcloser, heq⟩⟩ := relax_cases levels a b
  · rwa [heq]
  · rwa [heq]
  · rw [heq]
    intro c n hc
    rw [lookup_assign] at hc
    -- Either it is the target that is looked up, or a node that the target may be below.
    split at hc
    · cases hc
      obtain ⟨line, hlength, hnodup, hline⟩ := h.exists_nodup ha
      refine ⟨line, hlength, hnodup, fun d hd => ?_⟩
      obtain ⟨m, hm, hlookup⟩ := hline d hd
      have hne : d ≠ b := by
        rintro rfl
        have hlt := hcloser m hlookup
        omega
      exact ⟨m, by omega, by rwa [lookup_assign, if_neg hne]⟩
    · obtain ⟨below, hlength, hnodup, hbelow⟩ := h c n hc
      refine ⟨below, hlength, hnodup, fun d hd => ?_⟩
      obtain ⟨m, hm, hlookup⟩ := hbelow d hd
      rw [lookup_assign]
      split
      · next hdb =>
        have hlt := hcloser m (hdb ▸ hlookup)
        exact ⟨level + 1, by omega, rfl⟩
      · exact ⟨m, hm, hlookup⟩

/-- What holds at every point of the loop. -/
structure Pass.Sane (edges : List (α × α)) (seed : α) (pass : Pass α) : Prop where
  ahead : pass.ahead ⊆ edges
  walks : FromWalks edges seed pass.levels
  founded : Founded pass.levels

theorem Pass.Sane.next {pass later : Pass α} (h : pass.Sane edges seed)
    (hnext : pass.next edges = some later) : later.Sane edges seed := by
  obtain ⟨levels, ahead, changed⟩ := pass
  cases ahead with
  | nil =>
    cases changed with
    | false => cases hnext
    | true =>
      cases hnext
      exact ⟨List.Subset.refl edges, h.walks, h.founded⟩
  | cons edge ahead =>
    cases hnext
    obtain ⟨hedge, hahead⟩ := List.cons_subset.mp h.ahead
    exact ⟨hahead, h.walks.relax hedge, h.founded.relax edge⟩

theorem Pass.Sane.runs {pass later : Pass α} (h : pass.Sane edges seed)
    (hruns : pass.Runs edges later) : later.Sane edges seed := by
  induction hruns with
  | refl => exact h
  | tail _ hnext ih => exact ih.next hnext

theorem Pass.sane_start (edges : List (α × α)) (seed : α) : (start edges seed).Sane edges seed :=
  ⟨List.Subset.refl edges, fromWalks_seed edges seed, founded_seed seed⟩

/-- One more than a level is still no more than the number of nodes. -/
theorem Pass.Sane.level_lt {pass : Pass α} (h : pass.Sane edges seed)
    (ha : pass.levels.lookup a = some level) : level + 1 ≤ (nodes edges seed).length := by
  obtain ⟨line, hlength, hnodup, hline⟩ := h.founded.exists_nodup ha
  have hsubset : line ⊆ nodes edges seed := by
    intro b hb
    obtain ⟨m, _, hlookup⟩ := hline b hb
    exact mem_nodes_of_walk (h.walks.walk hlookup)
  calc
    level + 1 = line.length := hlength.symm
    _ ≤ (nodes edges seed).length := (List.subperm_of_subset hnodup hsubset).length_le

variable [LE α] [DecidableLE α] [LT α] [Std.IsLinearOrder α] [Std.LawfulOrderLT α]

/-- The closure of a seed depends on what edges there are and not on how they are listed. -/
theorem reachable_congr {others : List (α × α)} (h : ∀ edge, edge ∈ others ↔ edge ∈ edges)
    (seed : α) : reachable others seed = reachable edges seed := by
  have hothers := isClosure_reachable others seed
  simp only [h] at hothers
  exact hothers.unique (isClosure_reachable edges seed)

/-- The loop over edges ends by itself, and what it ends with, sorted, is the closure of the seed,
whatever the order and the multiplicity of the edges. No level on the way, nor the next greater
number, exceeds the number of nodes. -/
theorem relaxation_ends (edges : List (α × α)) (seed : α) :
    (∃ last, (Pass.start edges seed).Runs edges last ∧ last.next edges = none ∧
        reachable edges seed = Ranked.sort (last.levels.map fun entry => ⟨entry.2, entry.1⟩)) ∧
      IsClosure (fun a b => (a, b) ∈ edges) seed (reachable edges seed) ∧
      (∀ others, (∀ edge, edge ∈ others ↔ edge ∈ edges) →
        reachable others seed = reachable edges seed) ∧
      ∀ pass, (Pass.start edges seed).Runs edges pass →
        ∀ a level, pass.levels.lookup a = some level →
          level + 1 ≤ (nodes edges seed).length ∧
            ((nodes edges seed).length < UInt32.size →
              (UInt32.ofNat level + 1).toNat = level + 1) := by
  have hends := Pass.runs_settle (round_iterate_length edges seed) (Nat.lt_succ_self _)
  refine ⟨⟨_, hends, rfl, rfl⟩, isClosure_reachable edges seed,
    fun others h => reachable_congr h seed, ?_⟩
  intro pass hruns a level ha
  have hle := ((Pass.sane_start edges seed).runs hruns).level_lt ha
  refine ⟨hle, fun hfew => ?_⟩
  rw [UInt32.size] at hfew
  rw [UInt32.toNat_add, UInt32.toNat_ofNat', UInt32.toNat_one]
  omega

/-- A way round to the fourth node, before the direct one. -/
def detour : List (Nat × Nat) :=
  [(1, 2), (2, 3), (3, 4), (1, 4)]

/-- The way round gives the fourth node a level that is as great as four nodes allow. In the end it
has that of the direct one, as if this had come first. -/
theorem detour_shortened :
    (∃ pass, (Pass.start detour 1).Runs detour pass ∧ pass.levels.lookup 4 = some 3 ∧
        3 + 1 ≤ (nodes detour 1).length ∧ (nodes detour 1).length = 4) ∧
      reachable (detour.reverse ++ detour) 1 = reachable detour 1 ∧
      ⟨1, 4⟩ ∈ reachable detour 1 := by
  obtain ⟨_, hclosure, hsame, hbound⟩ := relaxation_ends detour 1
  have hruns : (Pass.start detour 1).Runs detour
      ⟨[(1, 0), (2, 1), (3, 2), (4, 3)], [(1, 4)], true⟩ := by
    have hstart : (Pass.start detour 1).Runs detour (Pass.start detour 1) := .refl
    exact ((hstart.step rfl).step rfl).step rfl
  refine ⟨⟨_, hruns, rfl, (hbound _ hruns 4 3 rfl).1, rfl⟩, hsame _ fun edge => ?_, ?_⟩
  · rw [List.mem_append, List.mem_reverse, or_self]
  · exact hclosure.mem_iff.mpr (Distance.one_iff.mpr ⟨by decide, by decide⟩)

end Authorization.Levels
