import Authorization.Gather
import Mathlib.Data.List.Nodup

namespace Authorization

theorem of_find?_eq_some {α κ : Type} [DecidableEq κ] {key : α → κ} {entries : List α} {k : κ}
    {entry : α} (h : entries.find? (fun other => key other = k) = some entry) :
    entry ∈ entries ∧ key entry = k := by
  have hkey := List.find?_some h
  exact ⟨List.mem_of_find?_eq_some h, of_decide_eq_true hkey⟩

theorem find?_eq_some_iff_of_nodup {α κ : Type} [DecidableEq κ] {key : α → κ} {entries : List α}
    (hunique : (entries.map key).Nodup) {k : κ} {entry : α} :
    entries.find? (fun other => key other = k) = some entry ↔ entry ∈ entries ∧ key entry = k := by
  constructor
  · exact of_find?_eq_some
  · rintro ⟨hmem, rfl⟩
    cases hfind : entries.find? (fun other => key other = key entry) with
    | none =>
      have hnone := List.find?_eq_none.mp hfind entry hmem
      exact absurd (decide_eq_true rfl) hnone
    | some first =>
      obtain ⟨hfirst, hkey⟩ := of_find?_eq_some hfind
      exact congrArg some (List.inj_on_of_nodup_map hunique hfirst hmem hkey)

/-- Where keys are unique, the order of the entries does not matter to a lookup. -/
theorem find?_eq_of_perm {α κ : Type} [DecidableEq κ] {key : α → κ} {entries others : List α}
    (hperm : entries.Perm others) (hunique : (entries.map key).Nodup) (k : κ) :
    entries.find? (fun other => key other = k) = others.find? (fun other => key other = k) := by
  have hunique' : (others.map key).Nodup := (hperm.map key).nodup_iff.mp hunique
  apply Option.ext
  intro entry
  rw [find?_eq_some_iff_of_nodup hunique, find?_eq_some_iff_of_nodup hunique', hperm.mem_iff]

/-- An entry with a new key keeps keys unique. -/
theorem nodup_map_append {α κ : Type} {key : α → κ} {entries : List α} {entry : α}
    (hunique : (entries.map key).Nodup) (hnew : ∀ other ∈ entries, key other ≠ key entry) :
    ((entries ++ [entry]).map key).Nodup := by
  rw [List.map_append]
  refine hunique.append (List.nodup_singleton _) fun k hk hlast => ?_
  obtain ⟨other, hother, rfl⟩ := List.mem_map.mp hk
  exact hnew other hother (List.mem_singleton.mp hlast)

/-- Entries sorted by a key that tells them apart stand in strict order. -/
theorem pairwise_mergeSort_key {α κ : Type} [LE κ] [DecidableLE κ] [LT κ] [Std.IsLinearOrder κ]
    [Std.LawfulOrderLT κ] (key : α → κ) {entries : List α} (hunique : (entries.map key).Nodup) :
    (entries.mergeSort fun a b => decide (key a ≤ key b)).Pairwise fun a b => key a < key b := by
  have hsorted : (entries.mergeSort fun a b => decide (key a ≤ key b)).Pairwise
      fun a b => decide (key a ≤ key b) = true := by
    apply List.pairwise_mergeSort
    · intro a b c hab hbc
      exact decide_eq_true (Std.le_trans (of_decide_eq_true hab) (of_decide_eq_true hbc))
    · intro a b
      rw [Bool.or_eq_true, decide_eq_true_eq, decide_eq_true_eq]
      exact Std.le_total
  have hperm := List.mergeSort_perm entries fun a b => decide (key a ≤ key b)
  have hdistinct := List.pairwise_map.mp ((hperm.map key).nodup_iff.mpr hunique)
  apply (hsorted.and hdistinct).imp
  rintro a b ⟨hle, hne⟩
  exact Std.lt_of_le_of_ne (of_decide_eq_true hle) hne

theorem orFail_eq_ok_iff {α : Type} {missing : Error} {found : Option α} {a : α} :
    orFail missing found = .ok a ↔ found = some a := by
  cases found <;> simp [orFail]

theorem bind_eq_ok_iff {ε α β : Type} {first : Except ε α} {next : α → Except ε β} {b : β} :
    (first >>= next) = .ok b ↔ ∃ a, first = .ok a ∧ next a = .ok b := by
  cases first with
  | error error => exact ⟨nofun, fun ⟨_, h, _⟩ => nomatch h⟩
  | ok a =>
    constructor
    · exact fun h => ⟨a, rfl, h⟩
    · rintro ⟨_, hfirst, h⟩
      cases hfirst
      exact h

theorem bind_eq_ok {ε α β : Type} {first : Except ε α} {next : α → Except ε β} {a : α} {b : β}
    (hfirst : first = .ok a) (hnext : next a = .ok b) : (first >>= next) = .ok b :=
  bind_eq_ok_iff.mpr ⟨a, hfirst, hnext⟩

theorem bind_eq_error_iff {α β : Type} {first : Except Error α} {next : α → Except Error β}
    {error : Error} : (first >>= next) = .error error ↔
      first = .error error ∨ ∃ a, first = .ok a ∧ next a = .error error := by
  cases first with
  | error refused =>
    constructor
    · intro h
      cases h
      exact Or.inl rfl
    · rintro (hfirst | ⟨_, hfirst, _⟩)
      · cases hfirst
        rfl
      · cases hfirst
  | ok a =>
    constructor
    · exact fun h => Or.inr ⟨a, rfl, h⟩
    · rintro (hfirst | ⟨_, hfirst, h⟩)
      · cases hfirst
      · cases hfirst
        exact h

/-- A question that has been answered leaves the rest. -/
theorem bind_of_eq_ok {ε α β : Type} {first : Except ε α} {next : α → Except ε β} {a : α}
    (h : first = .ok a) : (first >>= next) = next a := by
  rw [h]
  rfl

/-- Where everything passes, a list does. -/
theorem checkAll_eq_ok {α : Type} (as : List α) : checkAll (fun _ => .ok ()) as = .ok () :=
  checkAll_eq_ok_iff.mpr fun _ _ => rfl

/-- The second part of a list is checked if the first part passes. -/
theorem checkAll_append {α : Type} (check : α → Except Error Unit) (first second : List α) :
    checkAll check (first ++ second) = (do
      checkAll check first
      checkAll check second) := by
  induction first with
  | nil => rfl
  | cons a first ih =>
    rw [List.cons_append, checkAll, checkAll, ih]
    cases check a with
    | error error => rfl
    | ok _ => rfl

/-- When every element of a list is answered by itself or by nothing, the answers are those of its
elements that are kept, in the same order. -/
theorem gather_eq_filter {α : Type} {ask : α → Except Error (List α)} {kept : α → Prop}
    {as : List α} (h : ∀ a ∈ as, kept a ∧ ask a = .ok [a] ∨ ¬kept a ∧ ask a = .ok []) :
    ∃ found, gather ask as = .ok found ∧ found.Sublist as ∧
      ∀ a, a ∈ found ↔ a ∈ as ∧ kept a := by
  induction as with
  | nil => exact ⟨[], rfl, List.Sublist.refl _, fun a => by simp⟩
  | cons first as ih =>
    obtain ⟨hfirst, hrest⟩ := List.forall_mem_cons.mp h
    obtain ⟨found, hfound, hsublist, hmem⟩ := ih hrest
    -- The first element is either the whole first answer or no part of the answers at all.
    rcases hfirst with ⟨hkept, hask⟩ | ⟨hdropped, hask⟩
    · refine ⟨first :: found, ?_, hsublist.cons_cons first, fun a => ?_⟩
      · exact bind_eq_ok hask (bind_eq_ok hfound rfl)
      · rw [List.mem_cons, List.mem_cons, hmem, or_and_right]
        apply or_congr_left
        constructor
        · rintro rfl
          exact ⟨rfl, hkept⟩
        · exact And.left
    · refine ⟨found, ?_, hsublist.cons first, fun a => ?_⟩
      · exact bind_eq_ok hask (bind_eq_ok hfound rfl)
      · rw [List.mem_cons, hmem, or_and_right]
        constructor
        · exact Or.inr
        · rintro (⟨rfl, hkept⟩ | hlater)
          · exact absurd hkept hdropped
          · exact hlater

end Authorization
