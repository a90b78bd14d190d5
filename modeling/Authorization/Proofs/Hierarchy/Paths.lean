import Authorization.Hierarchy.Paths
import Authorization.Proofs.Hierarchy.Closure

namespace Authorization

namespace Paths

variable {α : Type} [DecidableEq α] {edges : List (α × α)} {path : List α} {seed node a : α}
  {level k : Nat} {edge : α × α} {entry : Ranked α}

theorem mem_onward_iff :
    edge ∈ onward edges path node ↔ edge ∈ edges ∧ edge.1 = node ∧ edge.2 ∉ path := by
  rw [onward, List.mem_filter, decide_eq_true_eq]

/-- What is listed from the end of a path is that end, or listed from one that goes on from it. -/
theorem mem_rows_iff : entry ∈ rows edges path level node ↔
    entry = ⟨level, node⟩ ∨ ∃ next, (node, next) ∈ edges ∧ next ∉ path ∧
      entry ∈ rows edges (next :: path) (level + 1) next := by
  rw [rows, List.mem_cons, List.mem_flatMap]
  apply or_congr_right
  constructor
  · rintro ⟨⟨⟨source, next⟩, hedge⟩, _, hentry⟩
    obtain ⟨hmem, rfl, hnew⟩ := mem_onward_iff.mp hedge
    exact ⟨next, hmem, hnew, hentry⟩
  · rintro ⟨next, hmem, hnew, hentry⟩
    have hedge : (node, next) ∈ onward edges path node := mem_onward_iff.mpr ⟨hmem, rfl, hnew⟩
    exact ⟨⟨_, hedge⟩, List.mem_attach _ _, hentry⟩

/-- Every listed path is a walk. -/
theorem walk_of_mem_rows (hwalk : Walk (fun a b => (a, b) ∈ edges) seed level node)
    (h : entry ∈ rows edges path level node) :
    Walk (fun a b => (a, b) ∈ edges) seed entry.level entry.node := by
  induction path, level, node using rows.induct edges with
  | case1 path level node ih =>
    rcases mem_rows_iff.mp h with rfl | ⟨next, hedge, hnew, hentry⟩
    · exact hwalk
    · have honward : (node, next) ∈ onward edges path node :=
        mem_onward_iff.mpr ⟨hedge, rfl, hnew⟩
      exact ih ⟨_, honward⟩ (hwalk.step hedge) hentry

/-- From a path whose end is as far away as it is long, all that lies on shortest walks through its
end is listed. -/
theorem mem_rows_of_walk (hnear : ∀ b ∈ path, ∃ m ≤ level,
      Distance (fun a b => (a, b) ∈ edges) seed m b)
    (hnode : Distance (fun a b => (a, b) ∈ edges) seed level node)
    (hwalk : Walk (fun a b => (a, b) ∈ edges) node k a)
    (hdistance : Distance (fun a b => (a, b) ∈ edges) seed (level + k) a) :
    ⟨level + k, a⟩ ∈ rows edges path level node := by
  induction k generalizing path level node with
  | zero =>
    cases hwalk
    exact mem_rows_iff.mpr (Or.inl rfl)
  | succ k ih =>
    obtain ⟨next, hedge, hrest⟩ := hwalk.head
    have hsum : level + 1 + k = level + (k + 1) := by omega
    have hnext : Distance (fun a b => (a, b) ∈ edges) seed (level + 1) next := by
      refine ⟨hnode.walk.step hedge, fun {m} hother => ?_⟩
      -- A shorter walk to the next node would make the whole walk shorter.
      have hle := hdistance.least (hother.trans hrest)
      omega
    have hnew : next ∉ path := by
      intro hmem
      obtain ⟨m, hm, hother⟩ := hnear next hmem
      have hsame := hnext.unique hother
      omega
    apply mem_rows_iff.mpr
    refine Or.inr ⟨next, hedge, hnew, ?_⟩
    rw [← hsum] at hdistance ⊢
    refine ih (fun b hb => ?_) hnext hrest hdistance
    rcases List.mem_cons.mp hb with rfl | hold
    · exact ⟨level + 1, Nat.le_refl _, hnext⟩
    · obtain ⟨m, hm, hother⟩ := hnear b hold
      exact ⟨m, Nat.le_succ_of_le hm, hother⟩

theorem mem_rows_of_distance (h : Distance (fun a b => (a, b) ∈ edges) seed k a) :
    ⟨k, a⟩ ∈ rows edges [seed] 0 seed := by
  have hseed : Distance (fun a b => (a, b) ∈ edges) seed 0 seed := Distance.zero_iff.mpr rfl
  have hnear : ∀ b ∈ [seed], ∃ m ≤ 0, Distance (fun a b => (a, b) ∈ edges) seed m b := by
    intro b hb
    rw [List.mem_singleton.mp hb]
    exact ⟨0, Nat.le_refl _, hseed⟩
  rw [← Nat.zero_add k] at h ⊢
  exact mem_rows_of_walk hnear hseed (Nat.zero_add k ▸ h.walk) h

/-- The listed paths cover the closure of the seed. -/
theorem covers_rows (edges : List (α × α)) (seed : α) :
    Ranked.Covers (fun a b => (a, b) ∈ edges) seed (rows edges [seed] 0 seed) :=
  ⟨mem_rows_of_distance, fun _ hentry => Distance.of_walk (walk_of_mem_rows .start hentry)⟩

theorem isClosure_closure [LE α] [DecidableLE α] [LT α] [Std.IsLinearOrder α]
    [Std.LawfulOrderLT α] (edges : List (α × α)) (seed : α) :
    IsClosure (fun a b => (a, b) ∈ edges) seed (closure edges seed) :=
  (covers_rows edges seed).isClosure (Ranked.condenses_firsts_sort _)

end Paths

end Authorization
