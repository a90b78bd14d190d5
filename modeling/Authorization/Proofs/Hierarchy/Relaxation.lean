import Authorization.Hierarchy.Relaxation
import Authorization.Proofs.Hierarchy.Distance
import Authorization.Proofs.KeyedList
import Mathlib.Data.List.Infix
import Mathlib.Logic.Function.Iterate

/-! Relaxation computes closures. Every level that is assigned is the length of some walk, and after
as many rounds as a shortest walk has hops its end has a level that is no greater. -/
namespace Authorization.Levels

variable {α : Type} {levels : Levels α} {edges : List (α × α)} {seed a b node : α} {level n : Nat}

/-- The nodes of a shortest walk after its seed are targets of edges, each of another distance. -/
theorem exists_targets (h : Distance (fun a b => (a, b) ∈ edges) seed n a) :
    ∃ targets : List α, targets.length = n ∧ targets.Nodup ∧ targets ⊆ edges.map (·.2) ∧
      ∀ b ∈ targets, ∃ m ≤ n, Distance (fun a b => (a, b) ∈ edges) seed m b := by
  induction n generalizing a with
  | zero => exact ⟨[], rfl, List.nodup_nil, List.nil_subset _, fun b hb => nomatch hb⟩
  | succ n ih =>
    obtain ⟨b, hb, hedge⟩ := h.pred
    obtain ⟨targets, hlength, hnodup, hsubset, hnear⟩ := ih hb
    refine ⟨a :: targets, by rw [List.length_cons, hlength], ?_, ?_, fun c hc => ?_⟩
    · refine List.nodup_cons.mpr ⟨fun hmem => ?_, hnodup⟩
      -- The new target would be at two distances if it were among the earlier ones.
      obtain ⟨m, hm, ha⟩ := hnear a hmem
      have heq := ha.unique h
      omega
    · exact List.cons_subset.mpr ⟨List.mem_map.mpr ⟨_, hedge, rfl⟩, hsubset⟩
    · rcases List.mem_cons.mp hc with rfl | hc
      · exact ⟨n + 1, Nat.le_refl _, h⟩
      · obtain ⟨m, hm, hc⟩ := hnear c hc
        exact ⟨m, by omega, hc⟩

/-- No distance is greater than the number of edges. -/
theorem distance_le_length (h : Distance (fun a b => (a, b) ∈ edges) seed n a) :
    n ≤ edges.length := by
  obtain ⟨targets, hlength, hnodup, hsubset, _⟩ := exists_targets h
  have hle := (List.subperm_of_subset hnodup hsubset).length_le
  rw [List.length_map] at hle
  omega

variable [DecidableEq α]

theorem lookup_assign (node : α) (level : Nat) (levels : Levels α) (a : α) :
    (levels.assign node level).lookup a = if a = node then some level else levels.lookup a := by
  induction levels with
  | nil => rw [assign, KeyedList.lookup_cons_eq]
  | cons entry levels ih =>
    obtain ⟨key, value⟩ := entry
    rw [assign]
    split
    · next hkey =>
      obtain rfl : key = node := hkey
      rw [KeyedList.lookup_cons_eq, KeyedList.lookup_cons_eq]
      split <;> rfl
    · next hkey =>
      rw [KeyedList.lookup_cons_eq, KeyedList.lookup_cons_eq, ih]
      by_cases h : a = key
      · rw [if_pos h, if_pos h, if_neg (h ▸ hkey)]
      · rw [if_neg h, if_neg h]

theorem mem_keys_assign : b ∈ (levels.assign node level).map (·.1) ↔
    b = node ∨ b ∈ levels.map (·.1) := by
  induction levels with
  | nil => simp [assign]
  | cons entry levels ih =>
    simp only [assign]
    split
    · next h => simp [h]
    · simp only [List.map_cons, List.mem_cons, ih]
      exact or_left_comm

theorem nodup_keys_assign (h : (levels.map (·.1)).Nodup) :
    ((levels.assign node level).map (·.1)).Nodup := by
  induction levels with
  | nil => simp [assign]
  | cons entry levels ih =>
    obtain ⟨hentry, hlevels⟩ := List.nodup_cons.mp h
    simp only [assign]
    split
    · next hkey => exact List.nodup_cons.mpr ⟨by rwa [← hkey], hlevels⟩
    · next hkey =>
      refine List.nodup_cons.mpr ⟨fun hmem => ?_, ih hlevels⟩
      rcases mem_keys_assign.mp hmem with heq | hmem
      · exact hkey heq
      · exact hentry hmem

/-- Levels that come from walks: one level for each node, no level without a walk of that length,
and the seed at level zero. -/
structure FromWalks (edges : List (α × α)) (seed : α) (levels : Levels α) : Prop where
  nodup : (levels.map (·.1)).Nodup
  walk : ∀ {a n}, levels.lookup a = some n → Walk (fun a b => (a, b) ∈ edges) seed n a
  seed : levels.lookup seed = some 0

/-- A node has a level of at most `n`. -/
def Within (levels : Levels α) (n : Nat) (a : α) : Prop :=
  ∃ level ≤ n, levels.lookup a = some level

theorem fromWalks_seed (edges : List (α × α)) (seed : α) : FromWalks edges seed [(seed, 0)] := by
  refine ⟨List.nodup_singleton _, fun {a n} h => ?_, by simp⟩
  rw [KeyedList.lookup_cons_eq] at h
  split at h
  · next ha =>
    cases h
    exact ha ▸ .start
  · cases h

/-- An edge is let through only with a level for its source, and it then assigns the next level or
leaves one that is no greater. -/
theorem relax_cases (levels : Levels α) (a b : α) :
    levels.lookup a = none ∧ levels.relax (a, b) = levels ∨
    ∃ level, levels.lookup a = some level ∧
      (levels.Within (level + 1) b ∧ levels.relax (a, b) = levels ∨
        (∀ current, levels.lookup b = some current → level + 1 < current) ∧
          levels.relax (a, b) = levels.assign b (level + 1)) := by
  unfold relax
  cases ha : levels.lookup a with
  | none => exact Or.inl ⟨rfl, rfl⟩
  | some level =>
    refine Or.inr ⟨level, rfl, ?_⟩
    cases hb : levels.lookup b with
    | none => exact Or.inr ⟨nofun, rfl⟩
    | some current =>
      by_cases hlt : level + 1 < current
      · refine Or.inr ⟨fun other hother => ?_, by simp [hlt]⟩
        cases hother
        exact hlt
      · exact Or.inl ⟨⟨current, Nat.not_lt.mp hlt, hb⟩, by simp [hlt]⟩

theorem FromWalks.relax (h : FromWalks edges seed levels) (hedge : (a, b) ∈ edges) :
    FromWalks edges seed (levels.relax (a, b)) := by
  obtain ⟨_, heq⟩ | ⟨level, ha, ⟨_, heq⟩ | ⟨hcloser, heq⟩⟩ := relax_cases levels a b
  · rwa [heq]
  · rwa [heq]
  · rw [heq]
    refine ⟨nodup_keys_assign h.nodup, fun {c n} hc => ?_, ?_⟩
    · rw [lookup_assign] at hc
      split at hc
      · next hcb =>
        cases hc
        exact hcb ▸ (h.walk ha).step hedge
      · exact h.walk hc
    · rw [lookup_assign]
      split
      · next hseed =>
        -- No level is less than that of the seed.
        have hlt := hcloser 0 (hseed ▸ h.seed)
        omega
      · exact h.seed

theorem Within.relax (h : levels.Within n node) (edge : α × α) :
    (levels.relax edge).Within n node := by
  obtain ⟨a, b⟩ := edge
  obtain ⟨_, heq⟩ | ⟨level, ha, ⟨_, heq⟩ | ⟨hcloser, heq⟩⟩ := relax_cases levels a b
  · rwa [heq]
  · rwa [heq]
  · obtain ⟨current, hle, hnode⟩ := h
    rw [heq, Within, lookup_assign]
    split
    · next hb =>
      -- The node gets a new level only because that is less than the one it has.
      subst hb
      have hlt := hcloser current hnode
      exact ⟨level + 1, by omega, rfl⟩
    · exact ⟨current, hle, hnode⟩

theorem Within.relax_target (h : levels.Within n a) (b : α) :
    (levels.relax (a, b)).Within (n + 1) b := by
  obtain ⟨current, hle, hcurrent⟩ := h
  obtain ⟨hnone, _⟩ | ⟨level, ha, ⟨hwithin, heq⟩ | ⟨_, heq⟩⟩ := relax_cases levels a b
  · rw [hnone] at hcurrent
    cases hcurrent
  · obtain rfl : current = level := Option.some.inj (hcurrent.symm.trans ha)
    obtain ⟨found, hfound, hb⟩ := hwithin
    rw [heq]
    exact ⟨found, by omega, hb⟩
  · obtain rfl : current = level := Option.some.inj (hcurrent.symm.trans ha)
    rw [heq]
    exact ⟨current + 1, by omega, by rw [lookup_assign, if_pos rfl]⟩

theorem FromWalks.foldl_relax {chosen : List (α × α)} (hchosen : chosen ⊆ edges)
    (h : FromWalks edges seed levels) :
    FromWalks edges seed (chosen.foldl Levels.relax levels) := by
  induction chosen generalizing levels with
  | nil => exact h
  | cons edge chosen ih =>
    obtain ⟨hedge, hchosen⟩ := List.cons_subset.mp hchosen
    exact ih hchosen (h.relax hedge)

theorem Within.round (h : levels.Within n node) (edges : List (α × α)) :
    (Levels.round edges levels).Within n node := by
  unfold Levels.round
  induction edges generalizing levels with
  | nil => exact h
  | cons edge edges ih => exact ih (h.relax edge)

theorem Within.round_target (h : levels.Within n a) (hedge : (a, b) ∈ edges) :
    (Levels.round edges levels).Within (n + 1) b := by
  obtain ⟨before, after, rfl⟩ := List.append_of_mem hedge
  -- The edges before and after this one can only bring its ends closer.
  have hbefore := h.round before
  have hafter := (hbefore.relax_target b).round after
  simpa [Levels.round, List.foldl_append] using hafter

theorem FromWalks.iterate_round (h : FromWalks edges seed levels) (rounds : Nat) :
    FromWalks edges seed ((round edges)^[rounds] levels) := by
  induction rounds generalizing levels with
  | zero => exact h
  | succ rounds ih => exact ih (h.foldl_relax (List.Subset.refl edges))

theorem Within.iterate_round (h : levels.Within n node) (edges : List (α × α)) (rounds : Nat) :
    ((Levels.round edges)^[rounds] levels).Within n node := by
  induction rounds generalizing levels with
  | zero => exact h
  | succ rounds ih => exact ih (h.round edges)

/-- After some rounds, the ends of all walks of so many hops are within that distance. -/
theorem within_iterate_round (h : Walk (fun a b => (a, b) ∈ edges) seed n a) :
    ((round edges)^[n] [(seed, 0)]).Within n a := by
  induction h with
  | start => exact ⟨0, Nat.le_refl 0, by simp⟩
  | step _ last ih =>
    -- The last hop is an edge of the last round.
    rw [Function.iterate_succ_apply']
    exact Within.round_target ih last

/-- Stopping early at levels that a round leaves alone is no different from going on. -/
theorem settle_eq_iterate (edges : List (α × α)) (rounds : Nat) (levels : Levels α) :
    settle edges rounds levels = (round edges)^[rounds] levels := by
  induction rounds generalizing levels with
  | zero => rfl
  | succ rounds ih =>
    rw [settle, Function.iterate_succ_apply]
    split
    · next hfixed => rw [hfixed, Function.iterate_fixed hfixed]
    · exact ih _

/-- As many rounds as there are edges settle every level at the distance. -/
theorem lookup_settle_iff {rounds : Nat} (hrounds : edges.length ≤ rounds) :
    (settle edges rounds [(seed, 0)]).lookup a = some n ↔
      Distance (fun a b => (a, b) ∈ edges) seed n a := by
  have hwalks := (fromWalks_seed edges seed).iterate_round rounds
  -- A level is never less than the distance, and in the end no greater.
  have hsettled : ∀ {m}, Distance (fun a b => (a, b) ∈ edges) seed m a →
      ((round edges)^[rounds] [(seed, 0)]).lookup a = some m := by
    intro m hm
    have hle := distance_le_length hm
    have hwithin : ((round edges)^[rounds] [(seed, 0)]).Within m a := by
      have hrounds' : rounds = rounds - m + m := by omega
      rw [hrounds', Function.iterate_add_apply]
      exact (within_iterate_round hm.walk).iterate_round edges _
    obtain ⟨level, hlevel, hlookup⟩ := hwithin
    rwa [Nat.le_antisymm hlevel (hm.least (hwalks.walk hlookup))] at hlookup
  rw [settle_eq_iterate]
  constructor
  · intro hlookup
    obtain ⟨m, hm⟩ := Distance.of_reachable (hwalks.walk hlookup).reachable
    have heq : m = n := Option.some.inj ((hsettled hm).symm.trans hlookup)
    exact heq ▸ hm
  · exact hsettled

theorem nodup_settle (edges : List (α × α)) (rounds : Nat) (seed : α) :
    ((settle edges rounds [(seed, 0)]).map (·.1)).Nodup := by
  rw [settle_eq_iterate]
  exact ((fromWalks_seed edges seed).iterate_round rounds).nodup

end Authorization.Levels
