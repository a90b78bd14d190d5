import Authorization.Effective
import Authorization.Proofs.Permission.Order

namespace Authorization

theorem Proximity.closerThan_iff {a b : Proximity} : a.closerThan b = true ↔
    a.inheritLevel < b.inheritLevel ∨
      a.inheritLevel = b.inheritLevel ∧ a.domainLevel < b.domainLevel := by
  simp [closerThan]

namespace EffectivePermission

variable {π : Type} [Permission π]

/-- An entry is at least as good as another for the same permission if that one would not take its
place. -/
def AtLeast (entry other : EffectivePermission π) : Prop :=
  Permission.plain entry.permission = Permission.plain other.permission ∧
    other.outranks entry = false

variable {entry other third candidate : EffectivePermission π}

/-- One entry does not take the place of another if it has no grant option that the other lacks,
and is no closer when both have the same. -/
theorem outranks_eq_false_iff : other.outranks entry = false ↔
    (Permission.withGrantOption other.permission = true →
      Permission.withGrantOption entry.permission = true) ∧
    (Permission.withGrantOption other.permission = Permission.withGrantOption entry.permission →
      other.proximity.closerThan entry.proximity = false) := by
  unfold outranks
  cases Permission.withGrantOption other.permission <;>
    cases Permission.withGrantOption entry.permission <;> simp

theorem AtLeast.refl (entry : EffectivePermission π) : entry.AtLeast entry := by
  refine ⟨rfl, outranks_eq_false_iff.mpr ⟨id, fun _ => ?_⟩⟩
  rw [← Bool.not_eq_true, Proximity.closerThan_iff]
  omega

theorem AtLeast.trans (h : entry.AtLeast other) (h' : other.AtLeast third) :
    entry.AtLeast third := by
  obtain ⟨hplain, hrank⟩ := h
  obtain ⟨hplain', hrank'⟩ := h'
  rw [outranks_eq_false_iff] at hrank hrank'
  refine ⟨hplain.trans hplain', outranks_eq_false_iff.mpr ⟨fun h => hrank.1 (hrank'.1 h), ?_⟩⟩
  intro hsame
  -- The one in between has the grant option if and only if the outer ones do.
  have hmiddle : Permission.withGrantOption other.permission =
      Permission.withGrantOption entry.permission := by
    cases hentry : Permission.withGrantOption entry.permission with
    | false =>
      cases hother : Permission.withGrantOption other.permission with
      | false => rfl
      | true => exact absurd (hrank.1 hother) (by simp [hentry])
    | true => exact hrank'.1 (hsame.trans hentry)
  have hclose := hrank.2 hmiddle
  have hclose' := hrank'.2 (hsame.trans hmiddle.symm)
  rw [← Bool.not_eq_true, Proximity.closerThan_iff] at hclose hclose' ⊢
  omega

theorem atLeast_of_outranks (hplain : Permission.plain entry.permission =
    Permission.plain other.permission) (h : entry.outranks other = true) : entry.AtLeast other := by
  refine ⟨hplain, outranks_eq_false_iff.mpr ?_⟩
  unfold outranks at h
  split at h
  · next hsame =>
    refine ⟨fun hother => hsame.trans hother, fun _ => ?_⟩
    rw [← Bool.not_eq_true, Proximity.closerThan_iff]
    rw [Proximity.closerThan_iff] at h
    omega
  · next hdiffer => exact ⟨fun _ => h, fun hsame => absurd hsame.symm hdiffer⟩

variable [DecidableEq π] {entries collected : List (EffectivePermission π)}

/-- What is at least as good as an entry satisfies all that the entry satisfies. -/
theorem AtLeast.isSatisfiedBy [LawfulPermission π] (h : entry.AtLeast other) :
    Permission.isSatisfiedBy other.permission entry.permission = true := by
  obtain ⟨hplain, hrank⟩ := h
  have hgrant := (outranks_eq_false_iff.mp hrank).1
  exact Permission.isSatisfiedBy_of_plain_eq hplain.symm hgrant

theorem mem_absorb (h : entry ∈ absorb candidate entries) :
    entry = candidate ∨ entry ∈ entries := by
  induction entries with
  | nil => exact Or.inl (List.mem_singleton.mp h)
  | cons first entries ih =>
    rw [absorb] at h
    split at h
    · rcases List.mem_cons.mp h with rfl | hrest
      · split
        · exact Or.inl rfl
        · exact Or.inr List.mem_cons_self
      · exact Or.inr (List.mem_cons_of_mem _ hrest)
    · rcases List.mem_cons.mp h with rfl | hrest
      · exact Or.inr List.mem_cons_self
      · exact (ih hrest).imp_right (List.mem_cons_of_mem _)

theorem exists_atLeast_absorb (candidate : EffectivePermission π)
    (entries : List (EffectivePermission π)) :
    ∃ entry ∈ absorb candidate entries, entry.AtLeast candidate := by
  induction entries with
  | nil => exact ⟨candidate, List.mem_singleton_self _, AtLeast.refl _⟩
  | cons first entries ih =>
    rw [absorb]
    split
    · next hequal =>
      refine ⟨_, List.mem_cons_self, ?_⟩
      split
      · exact AtLeast.refl _
      · next hkept => exact ⟨of_decide_eq_true hequal, by simpa using hkept⟩
    · obtain ⟨entry, hmem, hentry⟩ := ih
      exact ⟨entry, List.mem_cons_of_mem _ hmem, hentry⟩

/-- Absorbing an entry makes nothing worse. -/
theorem exists_atLeast_absorb_of_mem (h : entry ∈ entries) (candidate : EffectivePermission π) :
    ∃ better ∈ absorb candidate entries, better.AtLeast entry := by
  induction entries with
  | nil => cases h
  | cons first entries ih =>
    rw [absorb]
    split
    · next hequal =>
      rcases List.mem_cons.mp h with rfl | hrest
      · refine ⟨_, List.mem_cons_self, ?_⟩
        split
        · next houtranks => exact atLeast_of_outranks (of_decide_eq_true hequal).symm houtranks
        · exact AtLeast.refl _
      · exact ⟨entry, List.mem_cons_of_mem _ hrest, AtLeast.refl _⟩
    · rcases List.mem_cons.mp h with rfl | hrest
      · exact ⟨entry, List.mem_cons_self, AtLeast.refl _⟩
      · obtain ⟨better, hmem, hbetter⟩ := ih hrest
        exact ⟨better, List.mem_cons_of_mem _ hmem, hbetter⟩

theorem mem_foldl_absorb
    (h : entry ∈ collected.foldl (fun entries candidate => absorb candidate entries) entries) :
    entry ∈ entries ∨ entry ∈ collected := by
  induction collected generalizing entries with
  | nil => exact Or.inl h
  | cons candidate collected ih =>
    rcases ih h with hentries | hcollected
    · rcases mem_absorb hentries with rfl | hold
      · exact Or.inr List.mem_cons_self
      · exact Or.inl hold
    · exact Or.inr (List.mem_cons_of_mem _ hcollected)

/-- For whatever was there or is absorbed, something at least as good is there in the end. -/
theorem exists_atLeast_foldl (h : entry ∈ entries ∨ entry ∈ collected) :
    ∃ better ∈ collected.foldl (fun entries candidate => absorb candidate entries) entries,
      better.AtLeast entry := by
  induction collected generalizing entries entry with
  | nil =>
    rcases h with hentries | hnone
    · exact ⟨entry, hentries, AtLeast.refl _⟩
    · cases hnone
  | cons candidate collected ih =>
    obtain ⟨next, hnext, hbetter⟩ : ∃ next,
        (next ∈ absorb candidate entries ∨ next ∈ collected) ∧ next.AtLeast entry := by
      rcases h with hentries | hcollected
      · obtain ⟨next, hmem, hnext⟩ := exists_atLeast_absorb_of_mem hentries candidate
        exact ⟨next, Or.inl hmem, hnext⟩
      · rcases List.mem_cons.mp hcollected with rfl | hrest
        · obtain ⟨next, hmem, hnext⟩ := exists_atLeast_absorb entry entries
          exact ⟨next, Or.inl hmem, hnext⟩
        · exact ⟨entry, Or.inr hrest, AtLeast.refl _⟩
    obtain ⟨better, hmem, hlast⟩ := ih hnext
    exact ⟨better, hmem, hlast.trans hbetter⟩

/-- Merging makes nothing up. -/
theorem mem_of_mem_merge (h : entry ∈ merge collected) : entry ∈ collected := by
  rw [merge, List.mem_mergeSort] at h
  exact (mem_foldl_absorb h).resolve_left List.not_mem_nil

theorem exists_atLeast_merge (h : entry ∈ collected) :
    ∃ better ∈ merge collected, better.AtLeast entry := by
  have hsome : entry ∈ ([] : List (EffectivePermission π)) ∨ entry ∈ collected := Or.inr h
  obtain ⟨better, hmem, hbetter⟩ := exists_atLeast_foldl hsome
  exact ⟨better, List.mem_mergeSort.mpr hmem, hbetter⟩

end EffectivePermission

end Authorization
