import Authorization.Hierarchy.Search
import Authorization.Proofs.Hierarchy.Distance
import Authorization.Proofs.Lookup

/-! The search computes closures. The invariant is that it stands at a distance: it has visited the
nodes up to there, and its frontier is made of those just there. -/
namespace Authorization.Neighbours

variable {α : Type} {neighbours : Neighbours α} {hop : α → α → Prop} {seed : α}

/-- Asking for neighbours always succeeds, and the answer is where the hops lead. -/
def Follows (neighbours : Neighbours α) (hop : α → α → Prop) : Prop :=
  ∀ frontier, ∃ found, neighbours.next frontier = .ok found ∧
    ∀ {b}, b ∈ found ↔ ∃ a ∈ frontier, hop a b

theorem steps_eq_ok (step : α → Option α) (frontier : List α) :
    steps (fun a => .ok (step a)) frontier = .ok (frontier.flatMap fun a => (step a).toList) := by
  induction frontier with
  | nil => rfl
  | cons a frontier ih =>
    rw [steps, ih]
    rfl

theorem follows_ofEdges [DecidableEq α] (edges : List (α × α)) :
    (ofEdges edges).Follows fun a b => (a, b) ∈ edges := by
  intro frontier
  refine ⟨_, rfl, fun {b} => ?_⟩
  simp only [List.mem_map, List.mem_filter, decide_eq_true_eq]
  constructor
  · rintro ⟨⟨a, _⟩, ⟨hedge, ha⟩, rfl⟩
    exact ⟨a, ha, hedge⟩
  · rintro ⟨a, ha, hedge⟩
    exact ⟨(a, b), ⟨hedge, ha⟩, rfl⟩

/-- Neighbours in ascending order are the same neighbours. -/
theorem Follows.distinct [LT α] [DecidableLT α] [DecidableEq α] (h : neighbours.Follows hop) :
    neighbours.distinct.Follows hop := by
  intro frontier
  obtain ⟨found, hnext, hfound⟩ := h frontier
  refine ⟨sortDistinct found, congrArg (Except.map sortDistinct) hnext, fun {b} => ?_⟩
  rw [mem_sortDistinct, hfound]

/-- A gate that lets every question pass changes nothing. -/
theorem Follows.guarded {gate : List α → Except Error Unit} (h : neighbours.Follows hop)
    (hgate : ∀ frontier, gate frontier = .ok ()) : (neighbours.guarded gate).Follows hop := by
  intro frontier
  obtain ⟨found, hnext, hfound⟩ := h frontier
  exact ⟨found, bind_eq_ok (hgate frontier) hnext, hfound⟩

/-- A search that stands at a distance from its seed. -/
structure StandsAt (hop : α → α → Prop) (seed : α) (n : Nat) (visited frontier : List α) :
    Prop where
  visited_iff : ∀ {a}, a ∈ visited ↔ ∃ m ≤ n, Distance hop seed m a
  frontier_iff : ∀ {a}, a ∈ frontier ↔ Distance hop seed n a

theorem standsAt_seed (hop : α → α → Prop) (seed : α) : StandsAt hop seed 0 [seed] [seed] := by
  constructor
  · intro a
    rw [List.mem_singleton, ← @Distance.zero_iff α hop]
    constructor
    · exact fun h => ⟨0, Nat.le_refl 0, h⟩
    · rintro ⟨m, hm, h⟩
      rwa [Nat.le_zero.mp hm] at h
  · intro a
    rw [List.mem_singleton, Distance.zero_iff]

variable [LT α] [DecidableLT α] [DecidableEq α] {visited frontier found : List α} {n level : Nat}

/-- The new neighbours of a frontier are the nodes one hop farther away. -/
theorem StandsAt.mem_fresh_iff (h : StandsAt hop seed n visited frontier)
    (hfound : ∀ {b}, b ∈ found ↔ ∃ a ∈ frontier, hop a b) {b : α} :
    b ∈ fresh visited found ↔ Distance hop seed (n + 1) b := by
  simp only [mem_fresh, hfound, h.frontier_iff, h.visited_iff, Distance.succ_iff]

/-- A round of the search takes it one hop farther. -/
theorem StandsAt.next (h : StandsAt hop seed n visited frontier)
    (hfound : ∀ {b}, b ∈ found ↔ ∃ a ∈ frontier, hop a b) :
    StandsAt hop seed (n + 1) (visited ++ fresh visited found) (fresh visited found) := by
  refine ⟨fun {a} => ?_, h.mem_fresh_iff hfound⟩
  rw [List.mem_append, h.visited_iff, h.mem_fresh_iff hfound]
  constructor
  · rintro (⟨m, hm, ha⟩ | ha)
    · exact ⟨m, by omega, ha⟩
    · exact ⟨n + 1, Nat.le_refl _, ha⟩
  · rintro ⟨m, hm, ha⟩
    rcases Nat.lt_or_eq_of_le hm with hlt | rfl
    · exact Or.inl ⟨m, by omega, ha⟩
    · exact Or.inr ha

variable [LE α] [Std.IsLinearOrder α] [Std.LawfulOrderLT α]

theorem pairwise_fresh (level : Nat) (visited found : List α) :
    ((fresh visited found).map (⟨level, ·⟩ : α → Ranked α)).Pairwise Ranked.Before := by
  have hsorted : (fresh visited found).Pairwise (· < ·) :=
    (ascending_sortDistinct found).sublist List.filter_sublist
  exact List.pairwise_map.mpr (hsorted.imp fun hlt => Or.inr ⟨rfl, hlt⟩)

/-- From where the search stands, it lists all that is farther away. -/
theorem StandsAt.beyond_spec (hfollows : neighbours.Follows hop)
    (h : StandsAt hop seed n visited frontier) (hlevel : level = n + 1) :
    ∃ rest, neighbours.beyond visited frontier level = .ok rest ∧
      (∀ {entry}, entry ∈ rest ↔ n < entry.level ∧ Distance hop seed entry.level entry.node) ∧
      rest.Pairwise Ranked.Before := by
  -- The induction is on the search itself; each round stands one hop farther away.
  fun_induction Neighbours.beyond neighbours visited frontier level generalizing n with
  | case1 visited frontier level error hnext =>
    obtain ⟨found, hok, _⟩ := hfollows frontier
    rw [hok] at hnext
    cases hnext
  | case2 visited frontier level found hnext hfresh =>
    obtain ⟨found', hok, hfound⟩ := hfollows frontier
    obtain rfl : found' = found := Except.ok.inj (hok.symm.trans hnext)
    refine ⟨[], rfl, fun {entry} => ⟨nofun, fun ⟨hfar, hentry⟩ => ?_⟩, List.Pairwise.nil⟩
    -- A node farther away would have one just beyond the frontier before it.
    obtain ⟨b, hb⟩ := hentry.exists_at (m := n + 1) hfar
    rw [← h.mem_fresh_iff hfound, hfresh] at hb
    exact absurd hb List.not_mem_nil
  | case3 visited frontier level found hnext hfresh ih =>
    obtain ⟨found', hok, hfound⟩ := hfollows frontier
    obtain rfl : found' = found := Except.ok.inj (hok.symm.trans hnext)
    obtain ⟨rest, hrest, hmem, hordered⟩ := ih (h.next hfound) (by omega)
    refine ⟨_, congrArg (Except.map _) hrest, fun {entry} => ?_, ?_⟩
    · rw [List.mem_append, hmem, List.mem_map]
      constructor
      · rintro (⟨b, hb, rfl⟩ | ⟨hfar, hentry⟩)
        · rw [h.mem_fresh_iff hfound, ← hlevel] at hb
          exact ⟨by simp only; omega, hb⟩
        · exact ⟨by omega, hentry⟩
      · rintro ⟨hfar, hentry⟩
        rcases Nat.lt_or_eq_of_le (Nat.succ_le_of_lt hfar) with hlt | heq
        · exact Or.inr ⟨hlt, hentry⟩
        · obtain ⟨_, node⟩ := entry
          obtain rfl : n + 1 = _ := heq
          exact Or.inl ⟨node, (h.mem_fresh_iff hfound).mpr hentry, by rw [hlevel]⟩
    · refine List.pairwise_append.mpr ⟨pairwise_fresh _ _ _, hordered, fun a ha b hb => ?_⟩
      -- What later rounds find is at a greater level.
      obtain ⟨node, _, rfl⟩ := List.mem_map.mp ha
      have hfar := (hmem.mp hb).1
      exact Or.inl (by simp only; omega)

/-- A search whose questions are all answered gives the closure of its seed. -/
theorem Follows.closure_spec (h : neighbours.Follows hop) (seed : α) :
    ∃ entries, neighbours.closure seed = .ok entries ∧ IsClosure hop seed entries := by
  obtain ⟨rest, hrest, hmem, hordered⟩ :=
    (standsAt_seed hop seed).beyond_spec h (show 1 = 0 + 1 from rfl)
  refine ⟨⟨0, seed⟩ :: rest, by rw [Neighbours.closure, hrest]; rfl, fun {entry} => ?_, ?_⟩
  · rw [List.mem_cons, hmem]
    constructor
    · rintro (rfl | ⟨_, hentry⟩)
      · exact Distance.zero_iff.mpr rfl
      · exact hentry
    · obtain ⟨level, node⟩ := entry
      intro hentry
      rcases Nat.eq_zero_or_pos level with rfl | hpos
      · obtain rfl : node = seed := Distance.zero_iff.mp hentry
        exact Or.inl rfl
      · exact Or.inr ⟨hpos, hentry⟩
  · exact List.pairwise_cons.mpr ⟨fun entry hentry => Or.inl (hmem.mp hentry).1, hordered⟩

end Authorization.Neighbours
