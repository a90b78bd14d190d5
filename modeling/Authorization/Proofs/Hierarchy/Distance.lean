import Authorization.Hierarchy.Ranked
import Mathlib.Logic.Relation
import Mathlib.Data.Nat.Find
import Mathlib.Data.List.Nodup
import Mathlib.Data.List.Perm.Basic

/-! Distances along hops, and the closure of a seed as a specification. There is only one such list,
so whatever computes a closure may be exchanged for anything else that does. -/
namespace Authorization

section Distance

variable {α : Type} {hop : α → α → Prop} {seed a b : α} {n m : Nat}

/-- A walk from a seed, by its number of hops and its end. Hops may be repeated. -/
inductive Walk (hop : α → α → Prop) (seed : α) : Nat → α → Prop
  | start : Walk hop seed 0 seed
  | step {n : Nat} {a b : α} (walk : Walk hop seed n a) (last : hop a b) : Walk hop seed (n + 1) b

/-- A node is at a distance if a shortest walk to it has that many hops. -/
structure Distance (hop : α → α → Prop) (seed : α) (n : Nat) (a : α) : Prop where
  walk : Walk hop seed n a
  least : ∀ {m}, Walk hop seed m a → n ≤ m

theorem Walk.reachable (h : Walk hop seed n a) : Relation.ReflTransGen hop seed a := by
  induction h with
  | start => exact .refl
  | step _ last ih => exact ih.tail last

theorem exists_walk (h : Relation.ReflTransGen hop seed a) : ∃ n, Walk hop seed n a := by
  induction h with
  | refl => exact ⟨0, .start⟩
  | tail _ last ih =>
    obtain ⟨n, walk⟩ := ih
    exact ⟨n + 1, walk.step last⟩

namespace Distance

theorem unique (hn : Distance hop seed n a) (hm : Distance hop seed m a) : n = m :=
  Nat.le_antisymm (hn.least hm.walk) (hm.least hn.walk)

theorem of_reachable (h : Relation.ReflTransGen hop seed a) : ∃ n, Distance hop seed n a := by
  classical
  have hwalk := exists_walk h
  exact ⟨Nat.find hwalk, Nat.find_spec hwalk, fun other => Nat.find_min' hwalk other⟩

theorem of_walk (h : Walk hop seed n a) : ∃ m ≤ n, Distance hop seed m a := by
  obtain ⟨m, hm⟩ := of_reachable h.reachable
  exact ⟨m, hm.least h, hm⟩

theorem zero_iff : Distance hop seed 0 a ↔ a = seed := by
  constructor
  · intro h
    cases h.walk
    rfl
  · rintro rfl
    exact ⟨.start, fun _ => Nat.zero_le _⟩

theorem pred (h : Distance hop seed (n + 1) b) : ∃ a, Distance hop seed n a ∧ hop a b := by
  cases h.walk with
  | @step _ a _ walk last =>
    refine ⟨a, ⟨walk, fun other => ?_⟩, last⟩
    have hle := h.least (other.step last)
    omega

/-- A node that is far away has nodes at every lesser distance before it. -/
theorem exists_at (h : Distance hop seed n a) (hm : m ≤ n) : ∃ b, Distance hop seed m b := by
  induction n generalizing a with
  | zero => exact ⟨a, by rwa [Nat.le_zero.mp hm]⟩
  | succ n ih =>
    rcases Nat.lt_or_ge m (n + 1) with hlt | hge
    · obtain ⟨b, hb, _⟩ := h.pred
      exact ih hb (by omega)
    · exact ⟨a, by rwa [Nat.le_antisymm hm hge]⟩

/-- A node is one hop beyond a distance if a hop from there leads to it and no walk as short does.
-/
theorem succ_iff : Distance hop seed (n + 1) b ↔
    (∃ a, Distance hop seed n a ∧ hop a b) ∧ ¬∃ m ≤ n, Distance hop seed m b := by
  constructor
  · intro h
    refine ⟨h.pred, fun ⟨m, hm, hnear⟩ => ?_⟩
    have heq := h.unique hnear
    omega
  · rintro ⟨⟨a, ha, last⟩, hfar⟩
    obtain ⟨m, hm, hb⟩ := of_walk (ha.walk.step last)
    have hne : ¬m ≤ n := fun hle => hfar ⟨m, hle, hb⟩
    rwa [Nat.le_antisymm hm (by omega)] at hb

theorem one_iff : Distance hop seed 1 a ↔ hop seed a ∧ a ≠ seed := by
  simp only [succ_iff, zero_iff, exists_eq_left, Nat.le_zero]

end Distance

/-- Hops that are the same from every node that can be reached make the same walks. -/
theorem walk_congr {hop' : α → α → Prop}
    (hhop : ∀ {a}, Relation.ReflTransGen hop seed a → ∀ b, hop' a b ↔ hop a b) :
    Walk hop' seed n a ↔ Walk hop seed n a := by
  constructor
  · intro h
    induction h with
    | start => exact .start
    | step _ last ih => exact ih.step ((hhop ih.reachable _).mp last)
  · intro h
    induction h with
    | start => exact .start
    | step walk last ih => exact ih.step ((hhop walk.reachable _).mpr last)

theorem distance_congr {hop' : α → α → Prop}
    (hhop : ∀ {a}, Relation.ReflTransGen hop seed a → ∀ b, hop' a b ↔ hop a b) :
    Distance hop' seed n a ↔ Distance hop seed n a := by
  constructor
  · exact fun h => ⟨(walk_congr hhop).mp h.walk, fun walk => h.least ((walk_congr hhop).mpr walk)⟩
  · exact fun h => ⟨(walk_congr hhop).mpr h.walk, fun walk => h.least ((walk_congr hhop).mp walk)⟩

theorem Walk.trans {c : α} (h : Walk hop a n b) (h' : Walk hop b m c) : Walk hop a (n + m) c := by
  induction h' with
  | start => exact h
  | step _ last ih => exact ih.step last

/-- A walk that is not empty starts with a hop. -/
theorem Walk.head (h : Walk hop a (n + 1) b) : ∃ c, hop a c ∧ Walk hop c n b := by
  induction n generalizing b with
  | zero =>
    cases h with
    | step walk last =>
      cases walk
      exact ⟨b, last, .start⟩
  | succ n ih =>
    cases h with
    | step walk last =>
      obtain ⟨c, first, rest⟩ := ih walk
      exact ⟨c, first, rest.step last⟩

theorem Walk.cons {c : α} (h : Walk hop b n c) (first : hop a b) : Walk hop a (n + 1) c := by
  induction h with
  | start => exact Walk.start.step first
  | step _ last ih => exact ih.step last

theorem Walk.reverse (h : Walk hop a n b) : Walk (fun b a => hop a b) b n a := by
  induction h with
  | start => exact .start
  | step _ last ih => exact ih.cons last

theorem Distance.reverse (h : Distance hop a n b) : Distance (fun b a => hop a b) b n a :=
  ⟨h.walk.reverse, fun other => h.least other.reverse⟩

theorem Distance.reverse_iff : Distance (fun b a => hop a b) b n a ↔ Distance hop a n b :=
  ⟨fun h => h.reverse, fun h => h.reverse⟩

end Distance

namespace Ranked

variable {α : Type} [LT α]

/-- The strict order of a closure: by level, then by node. -/
def Before (a b : Ranked α) : Prop :=
  a.level < b.level ∨ a.level = b.level ∧ a.node < b.node

theorem Before.level_le {a b : Ranked α} (h : Before a b) : a.level ≤ b.level := by
  rcases h with hlt | ⟨heq, _⟩
  · exact Nat.le_of_lt hlt
  · exact Nat.le_of_eq heq

variable [LE α] [Std.IsLinearOrder α] [Std.LawfulOrderLT α] {a b : Ranked α}

theorem Before.trans {c : Ranked α} (hab : Before a b) (hbc : Before b c) :
    Before a c := by
  rcases hab with hab | ⟨hab, hlt⟩ <;> rcases hbc with hbc | ⟨hbc, hlt'⟩
  · exact Or.inl (by omega)
  · exact Or.inl (by omega)
  · exact Or.inl (by omega)
  · exact Or.inr ⟨by omega, Std.lt_trans hlt hlt'⟩

theorem Before.asymm (hab : Before a b) (hba : Before b a) : False := by
  rcases hab with hab | ⟨heq, hab⟩
  · rcases hba with hba | ⟨heq', _⟩ <;> omega
  · rcases hba with hba | ⟨_, hba⟩
    · omega
    · exact Std.lt_irrefl (Std.lt_trans hab hba)

theorem Before.ne (h : Before a b) : a ≠ b := by
  rintro rfl
  exact h.asymm h

theorem before_trichotomy [DecidableLE α] (a b : Ranked α) : Before a b ∨ a = b ∨ Before b a := by
  obtain ⟨n, a⟩ := a
  obtain ⟨m, b⟩ := b
  rcases Nat.lt_trichotomy n m with h | rfl | h
  · exact Or.inl (Or.inl h)
  · by_cases hab : a ≤ b
    · rcases Std.le_iff_lt_or_eq.mp hab with hlt | rfl
      · exact Or.inl (Or.inr ⟨rfl, hlt⟩)
      · exact Or.inr (Or.inl rfl)
    · exact Or.inr (Or.inr (Or.inr ⟨rfl, Std.not_le.mp hab⟩))
  · exact Or.inr (Or.inr (Or.inl h))

/-- The order by which closures are sorted is the strict one and equality. -/
theorem notAfter_iff [DecidableLE α] [DecidableEq α] :
    notAfter a b = true ↔ Before a b ∨ a = b := by
  obtain ⟨n, a⟩ := a
  obtain ⟨m, b⟩ := b
  simp only [notAfter, Before, Bool.or_eq_true, Bool.and_eq_true, decide_eq_true_eq, mk.injEq,
    Std.le_iff_lt_or_eq (a := a), and_or_left, or_assoc]

end Ranked

/-- The specification of a closure. -/
structure IsClosure {α : Type} [LT α] (hop : α → α → Prop) (seed : α) (entries : List (Ranked α)) :
    Prop where
  /-- Exactly the nodes at some distance are listed, with that distance. -/
  mem_iff : ∀ {entry}, entry ∈ entries ↔ Distance hop seed entry.level entry.node
  /-- The entries are in strict order, so that none is repeated. -/
  ordered : entries.Pairwise Ranked.Before

namespace IsClosure

variable {α : Type} [LT α] {hop : α → α → Prop} {seed : α} {entries others : List (Ranked α)}

theorem exists_mem_iff (h : IsClosure hop seed entries) {a : α} :
    (∃ entry ∈ entries, entry.node = a) ↔ Relation.ReflTransGen hop seed a := by
  constructor
  · rintro ⟨entry, hmem, rfl⟩
    exact (h.mem_iff.mp hmem).walk.reachable
  · intro hreach
    obtain ⟨n, hn⟩ := Distance.of_reachable hreach
    exact ⟨⟨n, a⟩, h.mem_iff.mpr hn, rfl⟩

/-- A closure is one for all hops that are the same from the nodes in it. -/
theorem congr {hop' : α → α → Prop}
    (hhop : ∀ {a}, Relation.ReflTransGen hop seed a → ∀ b, hop' a b ↔ hop a b)
    (h : IsClosure hop seed entries) : IsClosure hop' seed entries :=
  ⟨h.mem_iff.trans (distance_congr hhop).symm, h.ordered⟩

variable [LE α] [Std.LawfulOrderLT α]

/-- A closure starts at its seed. -/
theorem head?_eq (h : IsClosure hop seed entries) : entries.head? = some ⟨0, seed⟩ := by
  have hseed : (⟨0, seed⟩ : Ranked α) ∈ entries := h.mem_iff.mpr (Distance.zero_iff.mpr rfl)
  cases entries with
  | nil => cases hseed
  | cons first rest =>
    rcases List.mem_cons.mp hseed with heq | hrest
    · rw [List.head?_cons, heq]
    · -- Nothing comes before the seed, which alone is at distance zero.
      exfalso
      rcases List.rel_of_pairwise_cons h.ordered hrest with hlt | ⟨hlevel, hlt⟩
      · exact Nat.not_lt_zero _ hlt
      · have hfirst := h.mem_iff.mp List.mem_cons_self
        rw [hlevel, Distance.zero_iff] at hfirst
        exact Std.lt_irrefl (hfirst ▸ hlt)

variable [Std.IsLinearOrder α]

theorem nodup (h : IsClosure hop seed entries) : entries.Nodup :=
  h.ordered.imp Ranked.Before.ne

theorem nodup_nodes (h : IsClosure hop seed entries) : (entries.map (·.node)).Nodup := by
  refine List.Nodup.map_on (fun a ha b hb hnode => ?_) h.nodup
  obtain ⟨n, a⟩ := a
  obtain ⟨m, b⟩ := b
  obtain rfl : a = b := hnode
  obtain rfl : n = m := (h.mem_iff.mp ha).unique (h.mem_iff.mp hb)
  rfl

/-- A seed has only one closure. -/
theorem unique (h : IsClosure hop seed entries) (h' : IsClosure hop seed others) :
    entries = others := by
  have hperm : entries.Perm others :=
    (List.perm_ext_iff_of_nodup h.nodup h'.nodup).mpr fun _ => h.mem_iff.trans h'.mem_iff.symm
  exact hperm.eq_of_pairwise (fun _ _ _ _ hab hba => (hab.asymm hba).elim) h.ordered h'.ordered

end IsClosure

end Authorization
