import Authorization.Proofs.Permission.Spelling

/-! The arrangement of a merged list. Sorting is stable, so entries that are written alike stand in
the order in which they were collected. -/
namespace Authorization.EffectivePermission

variable {π : Type} [Permission π] [DecidableEq π]
  {collected other rest : List (EffectivePermission π)} {a b : EffectivePermission π}

/-- Merging gives one list, in whatever order the entries were collected. -/
def OrderFree (collected : List (EffectivePermission π)) : Prop :=
  ∀ other : List (EffectivePermission π), other.Perm collected → merge other = merge collected

/-- No two entries are written alike. -/
def Legible (entries : List (EffectivePermission π)) : Prop :=
  ∀ a ∈ entries, ∀ b ∈ entries, toString a.permission = toString b.permission → a = b

/-- What an entry is for keeps its place when others are absorbed. -/
theorem isPrefix_foldl_absorb (entries collected : List (EffectivePermission π)) :
    (entries.map fun entry => Permission.plain entry.permission) <+:
      (collected.foldl (fun entries candidate => absorb candidate entries) entries).map
        fun entry => Permission.plain entry.permission := by
  induction collected generalizing entries with
  | nil => exact List.prefix_rfl
  | cons candidate collected ih =>
    have hstep : (entries.map fun entry => Permission.plain entry.permission) <+:
        (absorb candidate entries).map fun entry => Permission.plain entry.permission := by
      rw [map_plain_absorb]
      split
      · exact List.prefix_rfl
      · exact List.prefix_append _ _
    exact hstep.trans (ih _)

/-- Two entries that are collected first and are left stand first before sorting. -/
theorem isPrefix_collapse (ha : a ∈ merge (a :: b :: rest)) (hb : b ∈ merge (a :: b :: rest))
    (hplain : Permission.plain b.permission ≠ Permission.plain a.permission) :
    [a, b] <+: collapse (a :: b :: rest) := by
  have hnew : Permission.plain b.permission ∉
      [a].map fun entry => Permission.plain entry.permission := by
    simpa using hplain
  have hpair : absorb b (absorb a []) = [a, b] := absorb_of_notMem hnew
  have hstart : collapse (a :: b :: rest) =
      rest.foldl (fun entries candidate => absorb candidate entries) [a, b] := by
    rw [collapse, List.foldl_cons, List.foldl_cons, hpair]
  -- The first two entries are for what the two are for, and nothing else is.
  obtain ⟨tail, htail⟩ := isPrefix_foldl_absorb [a, b] rest
  rw [← hstart] at htail
  obtain ⟨first, others, hcollapse, hfirst, hothers⟩ := List.map_eq_cons_iff.mp htail.symm
  obtain ⟨second, others', hcons, hsecond, _⟩ := List.map_eq_cons_iff.mp hothers
  rw [hcons] at hcollapse
  have hleft (entry : EffectivePermission π) (hentry : entry ∈ first :: second :: others') :
      entry ∈ merge (a :: b :: rest) := by
    rw [merge, List.mem_mergeSort, hcollapse]
    exact hentry
  have honce := nodup_plain_merge (a :: b :: rest)
  have hfirst_eq : first = a :=
    List.inj_on_of_nodup_map honce (hleft first (by simp)) ha hfirst
  have hsecond_eq : second = b :=
    List.inj_on_of_nodup_map honce (hleft second (by simp)) hb hsecond
  rw [hcollapse, hfirst_eq, hsecond_eq]
  exact List.prefix_append [a, b] others'

/-- Of two entries that are left and are written alike, the one that was collected first stands
first. -/
theorem pair_sublist_merge (ha : a ∈ merge (a :: b :: rest)) (hb : b ∈ merge (a :: b :: rest))
    (hplain : Permission.plain b.permission ≠ Permission.plain a.permission)
    (halike : toString a.permission = toString b.permission) :
    [a, b].Sublist (merge (a :: b :: rest)) := by
  have hle : decide (toString a.permission ≤ toString b.permission) = true :=
    decide_eq_true (Std.le_of_eq halike)
  have hcollapse : [a, b].Sublist (collapse (a :: b :: rest)) :=
    (isPrefix_collapse ha hb hplain).sublist
  rw [merge]
  exact List.pair_sublist_mergeSort (fun _ _ _ hab hbc => written_le_trans hab hbc)
    written_le_total hle hcollapse

theorem not_sublist_swap {α : Type} {a b : α} {as : List α} (hunique : as.Nodup)
    (hab : [a, b].Sublist as) : ¬[b, a].Sublist as := by
  intro hba
  obtain ⟨front, back, rfl, ha, hb⟩ := List.cons_sublist_iff.mp hab
  have hdisjoint := List.disjoint_of_nodup_append hunique
  -- The pair the other way round would begin in the front, where its first element is not, or lie
  -- in the back, where its second is not.
  obtain ⟨start, stop, hsplit, hstart, hstop⟩ := List.sublist_append_iff.mp hba
  cases start with
  | nil =>
    rw [List.nil_append] at hsplit
    rw [← hsplit] at hstop
    exact hdisjoint ha (hstop.subset (by simp))
  | cons first start =>
    obtain ⟨rfl, _⟩ := List.cons.inj hsplit
    exact hdisjoint (hstart.subset List.mem_cons_self) (hb.subset List.mem_cons_self)

/-- If two entries of a merged list are written alike, they change places when they change places
among what is collected. -/
theorem OrderFree.legible (h : OrderFree collected) : Legible (merge collected) := by
  intro a ha b hb halike
  by_contra hne
  have honce := nodup_plain_merge collected
  have hplain : Permission.plain a.permission ≠ Permission.plain b.permission :=
    fun hsame => hne (List.inj_on_of_nodup_map honce ha hb hsame)
  -- What is collected besides the two, in any order.
  obtain ⟨rest, hrest⟩ : ∃ rest, (a :: b :: rest).Perm collected := by
    have hba : b ∈ collected.erase a := by
      rw [List.mem_erase_of_ne (Ne.symm hne)]
      exact mem_of_mem_merge hb
    refine ⟨(collected.erase a).erase b, ?_⟩
    calc
      List.Perm (a :: b :: (collected.erase a).erase b) (a :: collected.erase a) :=
        (List.perm_cons_erase hba).symm.cons a
      List.Perm (a :: collected.erase a) collected :=
        (List.perm_cons_erase (mem_of_mem_merge ha)).symm
  have hforth := h _ hrest
  have hback := h _ ((List.Perm.swap a b rest).trans hrest)
  have hab : [a, b].Sublist (merge collected) := by
    rw [← hforth] at ha hb ⊢
    exact pair_sublist_merge ha hb hplain.symm halike
  have hba : [b, a].Sublist (merge collected) := by
    rw [← hback] at ha hb ⊢
    exact pair_sublist_merge hb ha hplain halike.symm
  exact not_sublist_swap (List.Nodup.of_map _ honce) hab hba

variable [LawfulPermission π]

/-- The written permissions stand in one order, in whatever order the entries were collected. -/
theorem map_toString_merge (h : other.Perm collected) :
    (merge other).map (fun entry => toString entry.permission) =
      (merge collected).map fun entry => toString entry.permission := by
  have hperm := (merge_perm h).map fun entry => toString entry.permission
  have hsorted (entries : List (EffectivePermission π)) :
      ((merge entries).map fun entry => toString entry.permission).Pairwise (· ≤ ·) :=
    List.pairwise_map.mpr (inOrder_merge entries)
  apply List.Perm.eq_of_pairwise _ (hsorted other) (hsorted collected) hperm
  intro s t _ _ hst hts
  exact Std.le_antisymm hst hts

theorem Legible.orderFree (h : Legible (merge collected)) : OrderFree collected := by
  intro other hother
  have hperm := merge_perm hother
  apply List.Perm.eq_of_pairwise _ (inOrder_merge other) (inOrder_merge collected) hperm
  intro a b ha hb hab hba
  exact h a (hperm.mem_iff.mp ha) b hb (Std.le_antisymm hab hba)

theorem orderFree_iff : OrderFree collected ↔ Legible (merge collected) :=
  ⟨OrderFree.legible, Legible.orderFree⟩

/-- How what is collected is arranged when it is merged; `Mimics` tells which permissions are
written like others. -/
structure Arranges (Mimics : π → π → Prop) (collected : List (EffectivePermission π)) : Prop where
  map_toString_merge : ∀ {other : List (EffectivePermission π)}, other.Perm collected →
    (merge other).map (fun entry => toString entry.permission) =
      (merge collected).map fun entry => toString entry.permission
  /-- The order of what was collected shows only in entries that mimic others. -/
  orderFree_iff : OrderFree collected ↔
    ∀ a ∈ merge collected, ∀ b ∈ merge collected, ¬Mimics a.permission b.permission

theorem arranges_of_toString_eq_iff {Mimics : π → π → Prop}
    (halike : ∀ {a b : π}, toString a = toString b ↔ a = b ∨ Mimics a b ∨ Mimics b a)
    (hirrefl : ∀ a : π, ¬Mimics a a) (collected : List (EffectivePermission π)) :
    Arranges Mimics collected := by
  refine ⟨map_toString_merge, ?_⟩
  rw [orderFree_iff]
  constructor
  · intro hlegible a ha b hb hmimics
    have hsame : a = b := hlegible a ha b hb (halike.mpr (Or.inr (Or.inl hmimics)))
    rw [hsame] at hmimics
    exact hirrefl _ hmimics
  · intro hnone a ha b hb hwritten
    have hpermission : a.permission = b.permission := by
      rcases halike.mp hwritten with hsame | hmimics | hmimics
      · exact hsame
      · exact absurd hmimics (hnone a ha b hb)
      · exact absurd hmimics (hnone b hb a ha)
    have honce := nodup_plain_merge collected
    exact List.inj_on_of_nodup_map honce ha hb (congrArg Permission.plain hpermission)

theorem orderFree_of_injective (hinjective : ∀ {a b : π}, toString a = toString b → a = b)
    (collected : List (EffectivePermission π)) : OrderFree collected := by
  have harranges : Arranges (fun _ _ => False) collected := by
    apply arranges_of_toString_eq_iff
    · intro a b
      rw [or_self, or_false]
      exact ⟨hinjective, congrArg toString⟩
    · exact fun _ => id
  exact harranges.orderFree_iff.mpr fun _ _ _ _ => id

/-- The written permissions of a merged list stand in one order, in whatever order the entries were
collected, and the entries themselves do so, too, if and only if none of them mimics another. In the
families of domain permissions that never happens. -/
theorem merge_arranges (onResources : List (EffectivePermission ResourcePermission))
    (onCreation : List (EffectivePermission ResourceCreatePermission))
    (onDomains : List (EffectivePermission DomainPermission))
    (onDomainCreation : List (EffectivePermission DomainCreatePermission)) :
    Arranges ResourcePermission.Mimics onResources ∧
      Arranges ResourceCreatePermission.Mimics onCreation ∧ OrderFree onDomains ∧
      OrderFree onDomainCreation := by
  refine ⟨?_, ?_, ?_, ?_⟩
  · exact arranges_of_toString_eq_iff ResourcePermission.toString_eq_iff
      ResourcePermission.not_mimics_self onResources
  · exact arranges_of_toString_eq_iff ResourceCreatePermission.toString_eq_iff
      ResourceCreatePermission.not_mimics_self onCreation
  · exact orderFree_of_injective DomainPermission.toString_injective onDomains
  · exact orderFree_of_injective DomainCreatePermission.toString_injective onDomainCreation

/-- A custom name that ends like a grant option is accepted, and the permission of that name is left
before or behind the one that it mimics, as they were collected. -/
theorem merge_keeps_mimic_place : ∃ mimic edit : ResourcePermission,
    ResourcePermission.ofName "edit /G" false = .ok mimic ∧
    ResourcePermission.ofName "edit" true = .ok edit ∧
    [direct edit, direct mimic].Perm [direct mimic, direct edit] ∧
    merge [direct mimic, direct edit] = [direct mimic, direct edit] ∧
    merge [direct edit, direct mimic] = [direct edit, direct mimic] ∧ mimic ≠ edit := by
  refine ⟨⟨.custom ⟨⟨"edit /G", by decide, by decide⟩, by decide⟩, false⟩,
    ⟨.custom ⟨⟨"edit", by decide, by decide⟩, by decide⟩, true⟩, rfl, rfl, List.Perm.swap _ _ _,
    ?_, ?_, by decide⟩
  · exact merge_eq_self (by decide) (by decide)
  · exact merge_eq_self (by decide) (by decide)

end Authorization.EffectivePermission
