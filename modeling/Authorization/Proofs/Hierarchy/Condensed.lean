import Authorization.Proofs.Hierarchy.Distance

/-! Condensed answers. Sorting brings the least level of each node to the front, where it stays. -/
namespace Authorization

namespace Ranked

section Firsts

variable {α : Type} [DecidableEq α] {entries : List (Ranked α)} {seen : List α} {entry : Ranked α}

theorem firsts_sublist (seen : List α) (entries : List (Ranked α)) :
    (firsts seen entries).Sublist entries := by
  induction entries generalizing seen with
  | nil => exact List.Sublist.refl _
  | cons first entries ih =>
    rw [firsts]
    split
    · exact (ih seen).cons first
    · exact (ih _).cons_cons first

theorem nodup_nodes_firsts (seen : List α) (entries : List (Ranked α)) :
    ((firsts seen entries).map (·.node)).Nodup ∧
      ∀ entry ∈ firsts seen entries, entry.node ∉ seen := by
  induction entries generalizing seen with
  | nil => exact ⟨List.nodup_nil, List.forall_mem_nil _⟩
  | cons first entries ih =>
    rw [firsts]
    split
    · exact ih seen
    · next hnew =>
      obtain ⟨hnodup, hunseen⟩ := ih (first.node :: seen)
      constructor
      · rw [List.map_cons, List.nodup_cons]
        refine ⟨fun hmem => ?_, hnodup⟩
        obtain ⟨other, hother, hnode⟩ := List.mem_map.mp hmem
        exact hunseen other hother (hnode ▸ List.mem_cons_self)
      · intro entry hentry
        rcases List.mem_cons.mp hentry with rfl | hrest
        · exact hnew
        · exact fun hseen => hunseen entry hrest (List.mem_cons_of_mem _ hseen)

/-- Of sorted entries the least one of every new node is kept. -/
theorem exists_firsts [LE α] [DecidableLE α]
    (hsorted : entries.Pairwise fun a b => notAfter a b = true) (hentry : entry ∈ entries)
    (hnew : entry.node ∉ seen) :
    ∃ first ∈ firsts seen entries, first.node = entry.node ∧ first.level ≤ entry.level := by
  induction entries generalizing seen with
  | nil => cases hentry
  | cons first entries ih =>
    obtain ⟨hbefore, hrest⟩ := List.pairwise_cons.mp hsorted
    have hlevel : first.level ≤ entry.level := by
      rcases List.mem_cons.mp hentry with rfl | hlater
      · exact Nat.le_refl _
      · have hnot := hbefore entry hlater
        simp only [notAfter, Bool.or_eq_true, Bool.and_eq_true, decide_eq_true_eq] at hnot
        omega
    rw [firsts]
    by_cases hsame : entry.node = first.node
    · rw [← hsame, if_neg hnew]
      exact ⟨first, List.mem_cons_self, hsame.symm, hlevel⟩
    · have hlater : entry ∈ entries := by
        rcases List.mem_cons.mp hentry with rfl | hlater
        · exact absurd rfl hsame
        · exact hlater
      split
      · exact ih hrest hlater hnew
      · have hnew' : entry.node ∉ first.node :: seen := by
          rw [List.mem_cons]
          exact not_or.mpr ⟨hsame, hnew⟩
        obtain ⟨kept, hkept, hleast⟩ := ih hrest hlater hnew'
        exact ⟨kept, List.mem_cons_of_mem _ hkept, hleast⟩

end Firsts

variable {α : Type} [LT α] {hop : α → α → Prop} {seed : α} {answer closure : List (Ranked α)}

/-- Each node of an answer once, at the least level that the answer gives it, in the order of
closures. -/
structure Condenses (answer closure : List (Ranked α)) : Prop where
  nodes : ∀ {node}, node ∈ closure.map (·.node) ↔ node ∈ answer.map (·.node)
  once : (closure.map (·.node)).Nodup
  least : ∀ entry ∈ closure, entry ∈ answer ∧
    ∀ other ∈ answer, other.node = entry.node → entry.level ≤ other.level
  ordered : closure.Pairwise Before

/-- An answer that has every reachable node at its distance, and otherwise only reachable nodes at
greater levels. -/
structure Covers (hop : α → α → Prop) (seed : α) (answer : List (Ranked α)) : Prop where
  distance : ∀ {n a}, Distance hop seed n a → ⟨n, a⟩ ∈ answer
  beyond : ∀ entry ∈ answer, ∃ n ≤ entry.level, Distance hop seed n entry.node

/-- What is condensed from an answer that covers a closure is that closure. -/
theorem Covers.isClosure (h : Covers hop seed answer) (hcondenses : Condenses answer closure) :
    IsClosure hop seed closure := by
  -- The entry of a node has its distance: no level is smaller, and the distance is reported.
  have hleast : ∀ entry ∈ closure, Distance hop seed entry.level entry.node := by
    intro entry hentry
    obtain ⟨hmem, hmin⟩ := hcondenses.least entry hentry
    obtain ⟨n, hn, hdistance⟩ := h.beyond entry hmem
    have hle : entry.level ≤ n := hmin ⟨n, entry.node⟩ (h.distance hdistance) rfl
    rwa [Nat.le_antisymm hle hn]
  refine ⟨fun {entry} => ⟨hleast entry, fun hdistance => ?_⟩, hcondenses.ordered⟩
  have hnode : entry.node ∈ closure.map (·.node) :=
    hcondenses.nodes.mpr (List.mem_map.mpr ⟨_, h.distance hdistance, rfl⟩)
  obtain ⟨⟨level, node⟩, hmem, rfl⟩ := List.mem_map.mp hnode
  have hlevel : level = entry.level := (hleast _ hmem).unique hdistance
  rwa [hlevel] at hmem

variable [LE α] [DecidableLE α] [DecidableEq α] [Std.IsLinearOrder α] [Std.LawfulOrderLT α]

theorem pairwise_sort (entries : List (Ranked α)) :
    (sort entries).Pairwise fun a b => notAfter a b = true := by
  refine List.pairwise_mergeSort (fun a b c hab hbc => ?_) (fun a b => ?_) entries
  · rw [notAfter_iff] at hab hbc ⊢
    rcases hab with hab | rfl
    · rcases hbc with hbc | rfl
      · exact Or.inl (hab.trans hbc)
      · exact Or.inl hab
    · exact hbc
  · rw [Bool.or_eq_true, notAfter_iff, notAfter_iff]
    rcases before_trichotomy a b with h | h | h
    · exact Or.inl (Or.inl h)
    · exact Or.inl (Or.inr h)
    · exact Or.inr (Or.inl h)

theorem condenses_firsts_sort (answer : List (Ranked α)) :
    Condenses answer (firsts [] (sort answer)) := by
  have hsublist := firsts_sublist [] (sort answer)
  have hsorted := pairwise_sort answer
  have honce := (nodup_nodes_firsts [] (sort answer)).1
  have hmem : ∀ entry ∈ firsts [] (sort answer), entry ∈ answer :=
    fun entry hentry => List.mem_mergeSort.mp (hsublist.subset hentry)
  have hfirst : ∀ entry ∈ answer, ∃ first ∈ firsts [] (sort answer),
      first.node = entry.node ∧ first.level ≤ entry.level :=
    fun entry hentry =>
      exists_firsts hsorted (List.mem_mergeSort.mpr hentry) List.not_mem_nil
  refine ⟨fun {node} => ⟨?_, ?_⟩, honce, fun entry hentry => ⟨hmem entry hentry, ?_⟩, ?_⟩
  · intro hnode
    obtain ⟨entry, hentry, rfl⟩ := List.mem_map.mp hnode
    exact List.mem_map.mpr ⟨entry, hmem entry hentry, rfl⟩
  · intro hnode
    obtain ⟨entry, hentry, rfl⟩ := List.mem_map.mp hnode
    obtain ⟨first, hkept, hsame, _⟩ := hfirst entry hentry
    exact List.mem_map.mpr ⟨first, hkept, hsame⟩
  · intro other hother hsame
    obtain ⟨first, hkept, hnode, hle⟩ := hfirst other hother
    -- Only one entry of the node was kept.
    have heq : first = entry :=
      List.inj_on_of_nodup_map honce hkept hentry (hnode.trans hsame)
    rwa [heq] at hle
  · have hdistinct : (firsts [] (sort answer)).Nodup := List.Nodup.of_map _ honce
    apply ((hsorted.sublist hsublist).and hdistinct).imp
    rintro a b ⟨hnot, hne⟩
    exact (notAfter_iff.mp hnot).resolve_right hne

/-- An answer that covers a closure has it accepted. -/
theorem Covers.exists_normalize (h : Covers hop seed answer) (unseeded : Error) :
    ∃ entries, normalize seed unseeded answer = .ok entries ∧ IsClosure hop seed entries := by
  have hclosure := h.isClosure (condenses_firsts_sort answer)
  refine ⟨firsts [] (sort answer), ?_, hclosure⟩
  rw [normalize, if_pos hclosure.head?_eq]

end Ranked

/-- A closure covers itself. -/
theorem IsClosure.covers {α : Type} [LT α] {hop : α → α → Prop} {seed : α}
    {entries : List (Ranked α)} (h : IsClosure hop seed entries) :
    Ranked.Covers hop seed entries :=
  ⟨fun hdistance => h.mem_iff.mpr hdistance,
    fun entry hentry => ⟨entry.level, Nat.le_refl _, h.mem_iff.mp hentry⟩⟩

end Authorization
