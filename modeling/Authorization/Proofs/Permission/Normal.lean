import Authorization.Proofs.Permission.Summary

namespace Authorization.EffectivePermission

variable {π : Type} [Permission π]

/-- Entries in the order of the written permissions. -/
def InOrder (entries : List (EffectivePermission π)) : Prop :=
  entries.Pairwise fun a b => toString a.permission ≤ toString b.permission

instance (entries : List (EffectivePermission π)) : Decidable (InOrder entries) :=
  inferInstanceAs (Decidable (entries.Pairwise _))

theorem written_le_trans {a b c : EffectivePermission π}
    (hab : decide (toString a.permission ≤ toString b.permission) = true)
    (hbc : decide (toString b.permission ≤ toString c.permission) = true) :
    decide (toString a.permission ≤ toString c.permission) = true :=
  decide_eq_true (Std.le_trans (of_decide_eq_true hab) (of_decide_eq_true hbc))

theorem written_le_total (a b : EffectivePermission π) :
    (decide (toString a.permission ≤ toString b.permission) ||
      decide (toString b.permission ≤ toString a.permission)) = true := by
  rw [Bool.or_eq_true, decide_eq_true_eq, decide_eq_true_eq]
  exact Std.le_total

variable [DecidableEq π] {entries collected : List (EffectivePermission π)}
  {candidate : EffectivePermission π}

theorem inOrder_merge (collected : List (EffectivePermission π)) : InOrder (merge collected) := by
  have hsorted : (merge collected).Pairwise fun a b =>
      decide (toString a.permission ≤ toString b.permission) = true := by
    apply List.pairwise_mergeSort
    · intro a b c hab hbc
      exact written_le_trans hab hbc
    · exact written_le_total
  exact hsorted.imp of_decide_eq_true

/-- An entry for a permission that is not there yet goes to the end. -/
theorem absorb_of_notMem (h : Permission.plain candidate.permission ∉
    entries.map fun entry => Permission.plain entry.permission) :
    absorb candidate entries = entries ++ [candidate] := by
  induction entries with
  | nil => rfl
  | cons first entries ih =>
    rw [List.map_cons, List.mem_cons, not_or] at h
    have hdiffer : ¬Permission.equalIgnoringGrantOption first.permission candidate.permission =
        true := fun hequal => h.1 (of_decide_eq_true hequal).symm
    rw [absorb, if_neg hdiffer, ih h.2, List.cons_append]

theorem foldl_absorb_of_nodup (h : ((entries ++ collected).map fun entry =>
    Permission.plain entry.permission).Nodup) :
    collected.foldl (fun entries candidate => absorb candidate entries) entries =
      entries ++ collected := by
  induction collected generalizing entries with
  | nil => rw [List.foldl_nil, List.append_nil]
  | cons candidate collected ih =>
    have hnew : Permission.plain candidate.permission ∉
        entries.map fun entry => Permission.plain entry.permission := by
      intro hold
      rw [List.map_append, List.map_cons] at h
      exact (List.nodup_append.mp h).2.2 _ hold _ List.mem_cons_self rfl
    have hassoc : entries ++ candidate :: collected = entries ++ [candidate] ++ collected := by
      simp
    rw [hassoc] at h ⊢
    rw [List.foldl_cons, absorb_of_notMem hnew, ih h]

/-- A merged list is left as it is. -/
theorem merge_eq_self
    (honce : (entries.map fun entry => Permission.plain entry.permission).Nodup)
    (horder : InOrder entries) : merge entries = entries := by
  have hcollapse : collapse entries = entries := foldl_absorb_of_nodup honce
  have hsorted : entries.Pairwise fun a b =>
      decide (toString a.permission ≤ toString b.permission) = true :=
    horder.imp fun hab => decide_eq_true hab
  rw [merge, hcollapse, List.mergeSort_of_pairwise hsorted]

theorem merge_merge (collected : List (EffectivePermission π)) :
    merge (merge collected) = merge collected :=
  merge_eq_self (nodup_plain_merge collected) (inOrder_merge collected)

/-- Entries that are merged beforehand leave the same as if they had not been. -/
theorem summarizes_merge_append (first rest : List (EffectivePermission π)) :
    Summarizes (merge (merge first ++ rest)) fun entry => entry ∈ first ++ rest := by
  apply summarizes_of_atLeast (nodup_plain_merge _)
  · intro entry hentry
    rcases List.mem_append.mp (mem_of_mem_merge hentry) with hfirst | hrest
    · exact List.mem_append_left _ (mem_of_mem_merge hfirst)
    · exact List.mem_append_right _ hrest
  · intro other hother
    -- The better of the first is beaten, if at all, by one that is better still.
    obtain ⟨middle, hmiddle, hleast⟩ : ∃ middle ∈ merge first ++ rest, middle.AtLeast other := by
      rcases List.mem_append.mp hother with hfirst | hrest
      · obtain ⟨middle, hmiddle, hleast⟩ := exists_atLeast_merge hfirst
        exact ⟨middle, List.mem_append_left _ hmiddle, hleast⟩
      · exact ⟨other, List.mem_append_right _ hrest, AtLeast.refl other⟩
    obtain ⟨better, hbetter, hmore⟩ := exists_atLeast_merge hmiddle
    exact ⟨better, hbetter, hmore.trans hleast⟩

/-- What merging does to the entries of a family of permissions. -/
structure Normalizes (π : Type) [Permission π] [DecidableEq π] : Prop where
  inOrder : ∀ collected : List (EffectivePermission π), InOrder (merge collected)
  /-- One entry for each permission, of which no copy is better. -/
  summarizes : ∀ collected : List (EffectivePermission π),
    Summarizes (merge collected) fun entry => entry ∈ collected
  mem_iff_of_perm : ∀ {collected other : List (EffectivePermission π)}, collected.Perm other →
    ∀ entry, entry ∈ merge collected ↔ entry ∈ merge other
  mem_append_iff : ∀ (first rest : List (EffectivePermission π)) (entry : EffectivePermission π),
    entry ∈ merge (merge first ++ rest) ↔ entry ∈ merge (first ++ rest)
  merge_merge : ∀ collected : List (EffectivePermission π),
    merge (merge collected) = merge collected

theorem normalizes_of_lawful [LawfulPermission π] : Normalizes π where
  inOrder := inOrder_merge
  summarizes := summarizes_merge
  mem_iff_of_perm h _ := (merge_perm h).mem_iff
  mem_append_iff first rest _ :=
    ((summarizes_merge_append first rest).perm (summarizes_merge (first ++ rest))).mem_iff
  merge_merge := EffectivePermission.merge_merge

/-- In every family merging leaves, in the order of the written permissions, one entry for each
permission up to its grant option: one of those that were collected, with the grant option if some
copy has it, and as close as the closest copy that is as good. Which entries these are does not
depend on the order of what was collected nor on whether a part of it was merged before, and what
is merged stays as it is. -/
theorem merge_normalizes : Normalizes ResourcePermission ∧ Normalizes ResourceCreatePermission ∧
    Normalizes DomainPermission ∧ Normalizes DomainCreatePermission :=
  ⟨normalizes_of_lawful, normalizes_of_lawful, normalizes_of_lawful, normalizes_of_lawful⟩

end Authorization.EffectivePermission
