import Authorization.Proofs.Permission.Merge
import Mathlib.Data.List.Nodup
import Mathlib.Data.List.Perm.Basic

/-! Merging as a specification: whatever is left of the same copies is the same up to order. -/
namespace Authorization

namespace Proximity

/-- One distance is no farther than another: by inheritance hops, and then by domain hops. -/
def AtMost (a b : Proximity) : Prop :=
  a.inheritLevel < b.inheritLevel ∨
    a.inheritLevel = b.inheritLevel ∧ a.domainLevel ≤ b.domainLevel

variable {a b c : Proximity}

theorem closerThan_eq_false_iff : b.closerThan a = false ↔ a.AtMost b := by
  rw [← Bool.not_eq_true, closerThan_iff, AtMost]
  omega

theorem AtMost.refl (a : Proximity) : a.AtMost a :=
  Or.inr ⟨rfl, Nat.le_refl _⟩

theorem AtMost.trans (hab : a.AtMost b) (hbc : b.AtMost c) : a.AtMost c := by
  unfold AtMost at hab hbc ⊢
  omega

theorem AtMost.antisymm (hab : a.AtMost b) (hba : b.AtMost a) : a = b := by
  cases a
  cases b
  simp only [AtMost] at hab hba
  rw [mk.injEq]
  omega

end Proximity

namespace EffectivePermission

variable {π : Type} [Permission π]

/-- What is left of copies. `copy` tells which entries are copies of what is granted. -/
structure Summarizes (effective : List (EffectivePermission π))
    (copy : EffectivePermission π → Prop) : Prop where
  /-- No two entries differ at most in their grant option and in how they were come by. -/
  once : (effective.map fun entry => Permission.plain entry.permission).Nodup
  /-- Every entry is one of the copies, so its distance is that of a grant. -/
  of_mem : ∀ {entry}, entry ∈ effective → copy entry
  /-- Every copy has its entry. -/
  exists_mem : ∀ {other}, copy other →
    ∃ entry ∈ effective, Permission.plain entry.permission = Permission.plain other.permission
  grantOption_iff : ∀ {entry}, entry ∈ effective →
    (Permission.withGrantOption entry.permission = true ↔ ∃ other, copy other ∧
      Permission.plain other.permission = Permission.plain entry.permission ∧
        Permission.withGrantOption other.permission = true)
  /-- No copy with the same grant option is closer. -/
  closest : ∀ {entry other}, entry ∈ effective → copy other →
    Permission.plain other.permission = Permission.plain entry.permission →
    Permission.withGrantOption other.permission = Permission.withGrantOption entry.permission →
    entry.proximity.AtMost other.proximity

omit [Permission π] in
theorem eq_of_proximity_eq {a b : EffectivePermission π} (hpermission : a.permission = b.permission)
    (hproximity : a.proximity = b.proximity) : a = b := by
  cases a
  cases b
  rw [mk.injEq]
  exact ⟨hpermission, congrArg Proximity.inheritLevel hproximity,
    congrArg Proximity.domainLevel hproximity⟩

/-- Copies of which no two are for one permission are all that is left if for every copy one that is
at least as good is among them. -/
theorem summarizes_of_atLeast {effective : List (EffectivePermission π)}
    {copy : EffectivePermission π → Prop}
    (honce : (effective.map fun entry => Permission.plain entry.permission).Nodup)
    (hcopy : ∀ entry, entry ∈ effective → copy entry)
    (hbest : ∀ other, copy other → ∃ better ∈ effective, better.AtLeast other) :
    Summarizes effective copy := by
  have hatLeast {entry other : EffectivePermission π} (hentry : entry ∈ effective)
      (hother : copy other)
      (hplain : Permission.plain other.permission = Permission.plain entry.permission) :
      entry.AtLeast other := by
    -- What is at least as good as the copy is for the same permission, so it is the entry.
    obtain ⟨better, hbetter, hatLeast⟩ := hbest other hother
    have hsame : better = entry :=
      List.inj_on_of_nodup_map honce hbetter hentry (hatLeast.1.trans hplain)
    rwa [hsame] at hatLeast
  constructor
  · exact honce
  · exact fun {entry} => hcopy entry
  · intro other hother
    obtain ⟨better, hbetter, hbest⟩ := hbest other hother
    exact ⟨better, hbetter, hbest.1⟩
  · intro entry hentry
    constructor
    · intro hgrant
      exact ⟨entry, hcopy entry hentry, rfl, hgrant⟩
    · rintro ⟨other, hother, hplain, hgrant⟩
      exact (outranks_eq_false_iff.mp (hatLeast hentry hother hplain).2).1 hgrant
  · intro entry other hentry hother hplain hgrant
    have hclose := (outranks_eq_false_iff.mp (hatLeast hentry hother hplain).2).2 hgrant
    exact Proximity.closerThan_eq_false_iff.mp hclose

section Merge

variable [DecidableEq π] {entries collected : List (EffectivePermission π)}
  {candidate : EffectivePermission π}

/-- Absorbing an entry adds what it is for at the end, unless that is there already. -/
theorem map_plain_absorb (candidate : EffectivePermission π)
    (entries : List (EffectivePermission π)) :
    (absorb candidate entries).map (fun entry => Permission.plain entry.permission) =
      if Permission.plain candidate.permission ∈
          entries.map (fun entry => Permission.plain entry.permission) then
        entries.map fun entry => Permission.plain entry.permission
      else entries.map (fun entry => Permission.plain entry.permission) ++
        [Permission.plain candidate.permission] := by
  induction entries with
  | nil => rfl
  | cons first entries ih =>
    rw [absorb]
    by_cases hsame : Permission.plain first.permission = Permission.plain candidate.permission
    · -- The better of the two stays at the place of the one that was there.
      have hequal : Permission.equalIgnoringGrantOption first.permission candidate.permission =
          true := decide_eq_true hsame
      rw [if_pos hequal, List.map_cons, List.map_cons, ← hsame, if_pos List.mem_cons_self]
      split
      · rw [hsame]
      · rfl
    · have hdiffer : ¬Permission.equalIgnoringGrantOption first.permission
          candidate.permission = true := fun h => hsame (of_decide_eq_true h)
      have hmem : Permission.plain candidate.permission ∈ Permission.plain first.permission ::
            entries.map (fun entry => Permission.plain entry.permission) ↔
          Permission.plain candidate.permission ∈
            entries.map fun entry => Permission.plain entry.permission := by
        rw [List.mem_cons]
        exact or_iff_right (Ne.symm hsame)
      rw [if_neg hdiffer, List.map_cons, List.map_cons, ih]
      simp only [hmem]
      split
      · rfl
      · rfl

theorem nodup_plain_absorb
    (h : (entries.map fun entry => Permission.plain entry.permission).Nodup) :
    ((absorb candidate entries).map fun entry => Permission.plain entry.permission).Nodup := by
  rw [map_plain_absorb]
  split
  · exact h
  · next hnew =>
    apply h.append (List.nodup_singleton _)
    intro plain hold hcandidate
    rw [List.mem_singleton.mp hcandidate] at hold
    exact hnew hold

theorem nodup_plain_merge (collected : List (EffectivePermission π)) :
    ((merge collected).map fun entry => Permission.plain entry.permission).Nodup := by
  have hfoldl : ∀ entries : List (EffectivePermission π),
      (entries.map fun entry => Permission.plain entry.permission).Nodup →
      ((collected.foldl (fun entries candidate => absorb candidate entries) entries).map
        fun entry => Permission.plain entry.permission).Nodup := by
    induction collected with
    | nil => exact fun entries h => h
    | cons candidate collected ih => exact fun entries h => ih _ (nodup_plain_absorb h)
  have hsorted := List.mergeSort_perm (collapse collected)
    fun a b => decide (toString a.permission ≤ toString b.permission)
  have hperm := hsorted.map fun entry => Permission.plain entry.permission
  exact hperm.nodup_iff.mpr (hfoldl [] List.nodup_nil)

theorem summarizes_merge (collected : List (EffectivePermission π)) :
    Summarizes (merge collected) fun entry => entry ∈ collected :=
  summarizes_of_atLeast (nodup_plain_merge collected) (fun _ => mem_of_mem_merge)
    fun _ => exists_atLeast_merge

end Merge

/-- Entries of which no two are for one permission are all that is left of them. -/
theorem summarizes_self {entries : List (EffectivePermission π)}
    (h : (entries.map fun entry => Permission.plain entry.permission).Nodup) :
    Summarizes entries fun entry => entry ∈ entries :=
  summarizes_of_atLeast h (fun _ => id) fun other hother => ⟨other, hother, AtLeast.refl other⟩

namespace Summarizes

variable {effective other : List (EffectivePermission π)}
  {copy copy' : EffectivePermission π → Prop}

theorem congr (h : Summarizes effective copy) (hcopy : ∀ entry, copy entry ↔ copy' entry) :
    Summarizes effective copy' := by
  obtain rfl : copy = copy' := funext fun entry => propext (hcopy entry)
  exact h

theorem nodup (h : Summarizes effective copy) : effective.Nodup :=
  List.Nodup.of_map _ h.once

/-- There are entries if and only if there are copies. -/
theorem ne_nil_iff (h : Summarizes effective copy) : effective ≠ [] ↔ ∃ entry, copy entry := by
  constructor
  · intro hne
    obtain ⟨entry, hentry⟩ := List.exists_mem_of_ne_nil _ hne
    exact ⟨entry, h.of_mem hentry⟩
  · rintro ⟨copied, hcopied⟩ hnil
    obtain ⟨entry, hentry, _⟩ := h.exists_mem hcopied
    rw [hnil] at hentry
    exact List.not_mem_nil hentry

variable [LawfulPermission π]

/-- Two entries for one permission, each left of the same copies, are the same. -/
theorem eq_of_plain_eq (h : Summarizes effective copy) (h' : Summarizes other copy)
    {a b : EffectivePermission π} (ha : a ∈ effective) (hb : b ∈ other)
    (hplain : Permission.plain a.permission = Permission.plain b.permission) : a = b := by
  have hgrant : Permission.withGrantOption a.permission =
      Permission.withGrantOption b.permission := by
    rw [Bool.eq_iff_iff, h.grantOption_iff ha, h'.grantOption_iff hb, hplain]
  have hpermission : a.permission = b.permission :=
    LawfulPermission.eq_of_plain_eq hplain hgrant
  have hab := h.closest ha (h'.of_mem hb) hplain.symm hgrant.symm
  have hba := h'.closest hb (h.of_mem ha) hplain hgrant
  exact eq_of_proximity_eq hpermission (hab.antisymm hba)

theorem subset (h : Summarizes effective copy) (h' : Summarizes other copy) :
    effective ⊆ other := by
  intro a ha
  obtain ⟨b, hb, hplain⟩ := h'.exists_mem (h.of_mem ha)
  rwa [h.eq_of_plain_eq h' ha hb hplain.symm]

/-- What is left of the same copies is the same up to order. -/
theorem perm (h : Summarizes effective copy) (h' : Summarizes other copy) :
    effective.Perm other :=
  (List.perm_ext_iff_of_nodup h.nodup h'.nodup).mpr fun _ =>
    ⟨fun ha => h.subset h' ha, fun hb => h'.subset h hb⟩

variable [DecidableEq π]

/-- A permission of a sort that is kept when grant options are added is among the entries if and
only if it is among the copies. -/
theorem exists_iff (h : Summarizes effective copy) {q : π → Prop}
    (hq : ∀ {a b}, Permission.isSatisfiedBy a b = true → q a → q b) :
    (∃ entry ∈ effective, q entry.permission) ↔ ∃ entry, copy entry ∧ q entry.permission := by
  constructor
  · rintro ⟨entry, hentry, hsort⟩
    exact ⟨entry, h.of_mem hentry, hsort⟩
  · rintro ⟨copied, hcopied, hsort⟩
    obtain ⟨entry, hentry, hplain⟩ := h.exists_mem hcopied
    have hgrant : Permission.withGrantOption copied.permission = true →
        Permission.withGrantOption entry.permission = true := by
      intro hgrant
      exact (h.grantOption_iff hentry).mpr ⟨copied, hcopied, hplain.symm, hgrant⟩
    exact ⟨entry, hentry, hq (Permission.isSatisfiedBy_of_plain_eq hplain.symm hgrant) hsort⟩

end Summarizes

theorem merge_perm [DecidableEq π] [LawfulPermission π]
    {collected collected' : List (EffectivePermission π)} (h : collected.Perm collected') :
    (merge collected).Perm (merge collected') :=
  (summarizes_merge collected).perm ((summarizes_merge collected').congr fun _ => h.mem_iff.symm)

end EffectivePermission

end Authorization
