import Authorization.Proofs.Permission.Summary
import Authorization.Proofs.Service.Resolve

/-! No verdict depends on an entry that merging leaves out. -/
namespace Authorization.EffectivePermission

variable {π : Type} [Permission π] [DecidableEq π] [LawfulPermission π]

theorem exists_satisfies_merge_iff (collected : List (EffectivePermission π)) (wanted : π) :
    (∃ entry ∈ merge collected, Permission.isSatisfiedBy wanted entry.permission = true) ↔
      ∃ entry ∈ collected, Permission.isSatisfiedBy wanted entry.permission = true := by
  -- What is left out is satisfied by what is kept in its place, so that one is enough, too.
  have henough : ∀ {held more : π}, Permission.isSatisfiedBy held more = true →
      Permission.isSatisfiedBy wanted held = true →
        Permission.isSatisfiedBy wanted more = true :=
    fun hmore hheld => Permission.isSatisfiedBy_trans hheld hmore
  exact (summarizes_merge collected).exists_iff henough

theorem exists_grants_merge_iff (collected : List (EffectivePermission π)) (wanted : π) :
    (∃ entry ∈ merge collected, Permission.isGrantableFrom wanted entry.permission = true) ↔
      ∃ entry ∈ collected, Permission.isGrantableFrom wanted entry.permission = true := by
  have henough : ∀ {held more : π}, Permission.isSatisfiedBy held more = true →
      Permission.isGrantableFrom wanted held = true →
        Permission.isGrantableFrom wanted more = true :=
    fun hmore hheld => Permission.isGrantableFrom_trans hheld hmore
  exact (summarizes_merge collected).exists_iff henough

/-- Different merged entries that satisfy one request differ in the grant option of what they wrap.
-/
theorem eq_of_satisfies {collected : List (EffectivePermission π)} {a b : EffectivePermission π}
    (ha : a ∈ merge collected) (hb : b ∈ merge collected) {wanted : π}
    (hwanted : Permission.isSatisfiedBy wanted a.permission = true)
    (hwanted' : Permission.isSatisfiedBy wanted b.permission = true)
    (hwrapped : Permission.postCreateGrantOption a.permission =
      Permission.postCreateGrantOption b.permission) : a = b := by
  have hbare : Permission.bare a.permission = Permission.bare b.permission := by
    calc
      Permission.bare a.permission = Permission.bare wanted :=
        (Permission.isSatisfiedBy_iff.mp hwanted).1.symm
      Permission.bare wanted = Permission.bare b.permission :=
        (Permission.isSatisfiedBy_iff.mp hwanted').1
  -- Identity and the grant option of what is wrapped are all that merging tells entries by.
  have hplain : Permission.plain a.permission = Permission.plain b.permission :=
    LawfulPermission.plain_eq_iff.mpr ⟨hbare, hwrapped⟩
  exact List.inj_on_of_nodup_map (nodup_plain_merge collected) ha hb hplain

theorem covers_merge (collected : List (EffectivePermission π)) :
    Service.covers (merge collected) = Service.covers collected := by
  funext wanted
  rw [Bool.eq_iff_iff, Service.covers_iff, Service.covers_iff]
  exact exists_satisfies_merge_iff collected wanted

theorem allGrantable_merge (collected : List (EffectivePermission π)) (requested : List π) :
    (requested.all fun wanted =>
        (merge collected).any fun held => Permission.isGrantableFrom wanted held.permission) =
      requested.all fun wanted =>
        collected.any fun held => Permission.isGrantableFrom wanted held.permission := by
  have hgrants : ∀ wanted : π,
      ((merge collected).any fun held => Permission.isGrantableFrom wanted held.permission) =
        collected.any fun held => Permission.isGrantableFrom wanted held.permission := by
    intro wanted
    rw [Bool.eq_iff_iff, List.any_eq_true, List.any_eq_true]
    exact exists_grants_merge_iff collected wanted
  simp only [hgrants]

/-- What merging leaves of what is collected of a family, as far as verdicts go. -/
structure KeepsVerdicts (π : Type) [Permission π] [DecidableEq π] : Prop where
  satisfies_iff : ∀ (collected : List (EffectivePermission π)) (wanted : π),
    (∃ entry ∈ merge collected, Permission.isSatisfiedBy wanted entry.permission = true) ↔
      ∃ entry ∈ collected, Permission.isSatisfiedBy wanted entry.permission = true
  grants_iff : ∀ (collected : List (EffectivePermission π)) (wanted : π),
    (∃ entry ∈ merge collected, Permission.isGrantableFrom wanted entry.permission = true) ↔
      ∃ entry ∈ collected, Permission.isGrantableFrom wanted entry.permission = true
  /-- The check that answers says the same before and after. -/
  allSatisfied_eq : ∀ (collected : List (EffectivePermission π)) (requested : List π),
    Service.allSatisfied requested (merge collected) = Service.allSatisfied requested collected
  /-- The check that passes or fails does so, too, and with the same message. -/
  demand_eq : ∀ (collected : List (EffectivePermission π)) (requested : List π)
    (forbidden : List String → Error), Service.demand requested (merge collected) forbidden =
      Service.demand requested collected forbidden
  /-- And so does the check of what may be passed on. -/
  allGrantable_eq : ∀ (collected : List (EffectivePermission π)) (requested : List π),
    (requested.all fun wanted =>
        (merge collected).any fun held => Permission.isGrantableFrom wanted held.permission) =
      requested.all fun wanted =>
        collected.any fun held => Permission.isGrantableFrom wanted held.permission
  /-- At most one entry satisfies a request, or one for each grant option of what is wrapped. -/
  eq_of_satisfies : ∀ {collected : List (EffectivePermission π)} {a b : EffectivePermission π},
    a ∈ merge collected → b ∈ merge collected → ∀ {wanted : π},
    Permission.isSatisfiedBy wanted a.permission = true →
    Permission.isSatisfiedBy wanted b.permission = true →
    Permission.postCreateGrantOption a.permission =
      Permission.postCreateGrantOption b.permission → a = b

theorem keepsVerdicts_of_lawful : KeepsVerdicts π where
  satisfies_iff := exists_satisfies_merge_iff
  grants_iff := exists_grants_merge_iff
  allSatisfied_eq collected := Service.allSatisfied_congr (covers_merge collected)
  demand_eq collected := Service.demand_congr (covers_merge collected)
  allGrantable_eq := allGrantable_merge
  eq_of_satisfies := eq_of_satisfies

/-- In every family whatever is requested is satisfied by, or may be passed on from, some entry of
what is merged if and only if it is so for some entry of what was collected. So no check tells the
two apart, although at most one entry that satisfies a request is left for each grant option of what
is wrapped. -/
theorem merge_keeps_verdicts : KeepsVerdicts ResourcePermission ∧
    KeepsVerdicts ResourceCreatePermission ∧ KeepsVerdicts DomainPermission ∧
    KeepsVerdicts DomainCreatePermission :=
  ⟨keepsVerdicts_of_lawful, keepsVerdicts_of_lawful, keepsVerdicts_of_lawful,
    keepsVerdicts_of_lawful⟩

/-- Permissions to create that wrap the same one with different grant options are both left, for
each of them satisfies a request that the other does not. -/
example :
    let onward : ResourceCreatePermission := ⟨.postCreate ⟨.system .query, true⟩, false⟩
    let regrantable : ResourceCreatePermission := ⟨.postCreate ⟨.system .query, false⟩, true⟩
    collapse [direct onward, direct regrantable] = [direct onward, direct regrantable] := by
  decide

end Authorization.EffectivePermission
