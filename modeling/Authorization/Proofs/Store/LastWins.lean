import Authorization.Store.GrantTables
import Mathlib.Data.List.Pairwise

namespace Authorization

section LastOfEach

variable {π : Type} [Permission π] [DecidableEq π]

open Permission (equalIgnoringGrantOption)

theorem Permission.equalIgnoringGrantOption_iff {a b : π} :
    equalIgnoringGrantOption a b = true ↔ Permission.plain a = Permission.plain b :=
  decide_eq_true_iff

theorem Permission.equalIgnoringGrantOption_comm (a b : π) :
    equalIgnoringGrantOption a b = equalIgnoringGrantOption b a := by
  rw [Bool.eq_iff_iff, equalIgnoringGrantOption_iff, equalIgnoringGrantOption_iff, eq_comm]

/-- Whether some permission of a batch differs from a given one at most in the grant option. -/
def replacedBy (batch : List π) (permission : π) : Bool :=
  batch.any fun other => equalIgnoringGrantOption permission other

theorem replacedBy_iff {batch : List π} {permission : π} : replacedBy batch permission = true ↔
    ∃ other ∈ batch, equalIgnoringGrantOption permission other = true :=
  List.any_eq_true

theorem replacedBy_eq_false_iff {batch : List π} {permission : π} :
    replacedBy batch permission = false ↔
      ∀ other ∈ batch, equalIgnoringGrantOption permission other = false := by
  simp [replacedBy]

theorem replacedBy_of_mem {batch : List π} {permission : π} (h : permission ∈ batch) :
    replacedBy batch permission = true :=
  replacedBy_iff.mpr ⟨permission, h, Permission.equalIgnoringGrantOption_iff.mpr rfl⟩

/-- The last of all permissions of a batch that differ at most in their own grant options, for each
of them, in the order in which these last ones stand. -/
def lastOfEach : List π → List π
  | [] => []
  | permission :: batch =>
    if replacedBy batch permission then lastOfEach batch else permission :: lastOfEach batch

/-- Those are left that nothing replaces that comes later. -/
theorem mem_lastOfEach_iff {batch : List π} {permission : π} :
    permission ∈ lastOfEach batch ↔ ∃ before after, batch = before ++ permission :: after ∧
      replacedBy after permission = false := by
  constructor
  · intro h
    induction batch with
    | nil => cases h
    | cons first batch ih =>
      have hfirst : permission = first ∧ replacedBy batch first = false ∨
          permission ∈ lastOfEach batch := by
        rw [lastOfEach] at h
        split at h
        · exact Or.inr h
        · next hkept =>
          have hkept' : replacedBy batch first = false := Bool.eq_false_iff.mpr hkept
          exact (List.mem_cons.mp h).imp_left fun heq => ⟨heq, hkept'⟩
      rcases hfirst with ⟨rfl, hkept⟩ | hrest
      · exact ⟨[], batch, rfl, hkept⟩
      · obtain ⟨before, after, rfl, hafter⟩ := ih hrest
        exact ⟨first :: before, after, rfl, hafter⟩
  · rintro ⟨before, after, rfl, hafter⟩
    induction before with
    | nil =>
      rw [List.nil_append, lastOfEach, hafter]
      exact List.mem_cons_self
    | cons first before ih =>
      rw [List.cons_append, lastOfEach]
      split
      · exact ih
      · exact List.mem_cons_of_mem first ih

theorem mem_of_mem_lastOfEach {batch : List π} {permission : π}
    (h : permission ∈ lastOfEach batch) : permission ∈ batch := by
  obtain ⟨before, after, rfl, _⟩ := mem_lastOfEach_iff.mp h
  exact List.mem_append.mpr (Or.inr List.mem_cons_self)

/-- No two of those that are left differ only in their grant options. -/
theorem pairwise_lastOfEach (batch : List π) :
    (lastOfEach batch).Pairwise fun a b => equalIgnoringGrantOption a b = false := by
  induction batch with
  | nil => exact List.Pairwise.nil
  | cons first batch ih =>
    rw [lastOfEach]
    split
    · exact ih
    · next hkept =>
      have hkept' : replacedBy batch first = false := Bool.eq_false_iff.mpr hkept
      refine List.pairwise_cons.mpr ⟨?_, ih⟩
      intro other hother
      exact replacedBy_eq_false_iff.mp hkept' other (mem_of_mem_lastOfEach hother)

theorem eq_of_mem_lastOfEach {batch : List π} {a b : π} (ha : a ∈ lastOfEach batch)
    (hb : b ∈ lastOfEach batch) (h : equalIgnoringGrantOption a b = true) : a = b := by
  by_contra hne
  have hsymm : Std.Symm fun a b : π => equalIgnoringGrantOption a b = false := by
    constructor
    intro a b hab
    rw [Permission.equalIgnoringGrantOption_comm, hab]
  have hfalse := (pairwise_lastOfEach batch).forall ha hb hne
  rw [h] at hfalse
  cases hfalse

end LastOfEach

namespace GrantRows

variable {κ ρ : Type} [DecidableEq κ] [Permission ρ] [DecidableEq ρ]

/-- Of the old rows those of other keys stay, and those that no permission of the batch replaces;
behind them comes what is left of the batch. -/
theorem putAll_eq (rows : GrantRows κ ρ) (key : κ) (batch : List ρ) :
    rows.putAll key batch = (rows.filter fun row => !(row.1 = key && replacedBy batch row.2)) ++
      (lastOfEach batch).map fun permission => (key, permission) := by
  induction batch generalizing rows with
  | nil =>
    have hkept : (rows.filter fun row => !(row.1 = key && replacedBy ([] : List ρ) row.2)) = rows :=
      List.filter_eq_self.mpr fun row _ => by simp [replacedBy]
    rw [hkept, lastOfEach, List.map_nil, List.append_nil]
    rfl
  | cons first batch ih =>
    have hstep : rows.putAll key (first :: batch) = (put key rows first).putAll key batch := rfl
    have hnew : ([(key, first)].filter fun row => !(row.1 = key && replacedBy batch row.2)) ++
        (lastOfEach batch).map (fun permission => (key, permission)) =
          (lastOfEach (first :: batch)).map fun permission => (key, permission) := by
      rw [lastOfEach]
      split
      · next hreplaced => simp [hreplaced]
      · next hkept => simp [hkept]
    have hold : ∀ row : κ × ρ, (!(row.1 = key && replacedBy batch row.2) &&
        !(row.1 = key && Permission.equalIgnoringGrantOption row.2 first)) =
          !(row.1 = key && replacedBy (first :: batch) row.2) := by
      intro row
      by_cases hkey : row.1 = key
      · simp [hkey, replacedBy, Bool.and_comm]
      · simp [hkey]
    rw [hstep, ih, put, List.filter_append, List.filter_filter, List.append_assoc, hnew]
    simp only [hold]

theorem held_putAll (rows : GrantRows κ ρ) (key : κ) (batch : List ρ) :
    (rows.putAll key batch).held key =
      (rows.held key).filter (fun old => !replacedBy batch old) ++ lastOfEach batch := by
  have hold : ((rows.filter fun row => !(row.1 = key && replacedBy batch row.2)).filter fun row =>
      row.1 = key) = (rows.filter fun row => row.1 = key).filter fun row =>
        !replacedBy batch row.2 := by
    rw [List.filter_filter, List.filter_filter]
    apply List.filter_congr
    intro row _
    by_cases hkey : row.1 = key
    · simp [hkey]
    · simp [hkey]
  have hnew : ((lastOfEach batch).map fun permission => (key, permission)).filter
      (fun row => row.1 = key) = (lastOfEach batch).map fun permission => (key, permission) := by
    rw [List.filter_eq_self]
    intro row hrow
    obtain ⟨permission, _, rfl⟩ := List.mem_map.mp hrow
    exact decide_eq_true rfl
  rw [putAll_eq, held, List.filter_append, hold, hnew, List.map_append, held, List.filter_map,
    List.map_map]
  congr 1
  exact List.map_id' _

/-- Putting a batch once more changes nothing. -/
theorem putAll_putAll (rows : GrantRows κ ρ) (key : κ) (batch : List ρ) :
    (rows.putAll key batch).putAll key batch = rows.putAll key batch := by
  have hnew : ((lastOfEach batch).map fun permission => (key, permission)).filter
      (fun row => !(row.1 = key && replacedBy batch row.2)) = [] := by
    rw [List.filter_eq_nil_iff]
    intro row hrow
    obtain ⟨permission, hmem, rfl⟩ := List.mem_map.mp hrow
    simp [replacedBy_of_mem (mem_of_mem_lastOfEach hmem)]
  rw [putAll_eq, putAll_eq, List.filter_append, hnew, List.append_nil, List.filter_filter]
  simp only [Bool.and_self]

end GrantRows

end Authorization
