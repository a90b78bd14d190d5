import Authorization.Proofs.Hierarchy.Forest
import Authorization.Proofs.Service.SuperUser

/-! What is effective when it is looked at from farther below. Levels are only compared, so with all
of them raised alike the choices come out as before. -/
namespace Authorization

namespace Proximity

/-- As far away when looked at from some domains farther below. -/
def lowered (hops : Nat) (proximity : Proximity) : Proximity :=
  { proximity with domainLevel := proximity.domainLevel + hops }

variable (hops : Nat) (a b : Proximity)

theorem closerThan_lowered : (a.lowered hops).closerThan (b.lowered hops) = a.closerThan b := by
  rw [Bool.eq_iff_iff, closerThan_iff, closerThan_iff]
  simp only [lowered, Nat.add_lt_add_iff_right]

theorem closest_lowered (found : Option Proximity) :
    closest (found.map (lowered hops)) (a.lowered hops) = (closest found a).lowered hops := by
  cases found with
  | none => rfl
  | some current =>
    simp only [closest, Option.map_some, closerThan_lowered, apply_ite (lowered hops)]

theorem foldl_closest_lowered (candidates : List Proximity) (found : Option Proximity) :
    (candidates.map (lowered hops)).foldl (fun found candidate => some (closest found candidate))
        (found.map (lowered hops)) =
      (candidates.foldl (fun found candidate => some (closest found candidate)) found).map
        (lowered hops) := by
  induction candidates generalizing found with
  | nil => rfl
  | cons candidate candidates ih =>
    rw [List.map_cons, List.foldl_cons, List.foldl_cons, closest_lowered]
    exact ih (some (closest found candidate))

end Proximity

namespace EffectivePermission

variable {π : Type}

/-- The same permission when looked at from some domains farther below. -/
def lowered (hops : Nat) (entry : EffectivePermission π) : EffectivePermission π :=
  { entry with domainLevel := entry.domainLevel + hops }

variable (hops : Nat)

theorem proximity_lowered (entry : EffectivePermission π) :
    (entry.lowered hops).proximity = entry.proximity.lowered hops :=
  rfl

variable [Permission π]

theorem outranks_lowered (candidate current : EffectivePermission π) :
    (candidate.lowered hops).outranks (current.lowered hops) = candidate.outranks current := by
  simp only [outranks, proximity_lowered, Proximity.closerThan_lowered]
  rfl

variable [DecidableEq π]

theorem absorb_lowered (candidate : EffectivePermission π)
    (entries : List (EffectivePermission π)) :
    absorb (candidate.lowered hops) (entries.map (lowered hops)) =
      (absorb candidate entries).map (lowered hops) := by
  induction entries with
  | nil => rfl
  | cons entry entries ih =>
    simp only [List.map_cons, absorb, outranks_lowered, ih]
    -- Which of the two entries stays is decided by their permissions and by a comparison of levels.
    by_cases hsame : Permission.equalIgnoringGrantOption entry.permission candidate.permission
    · have hsame' : Permission.equalIgnoringGrantOption (entry.lowered hops).permission
          (candidate.lowered hops).permission = true := hsame
      rw [if_pos hsame, if_pos hsame', List.map_cons, apply_ite (lowered hops)]
    · have hsame' : ¬Permission.equalIgnoringGrantOption (entry.lowered hops).permission
          (candidate.lowered hops).permission = true := hsame
      rw [if_neg hsame, if_neg hsame', List.map_cons]

theorem collapse_lowered (collected : List (EffectivePermission π)) :
    collapse (collected.map (lowered hops)) = (collapse collected).map (lowered hops) := by
  have hfold : ∀ entries : List (EffectivePermission π),
      (collected.map (lowered hops)).foldl (fun entries candidate => absorb candidate entries)
          (entries.map (lowered hops)) =
        (collected.foldl (fun entries candidate => absorb candidate entries) entries).map
          (lowered hops) := by
    induction collected with
    | nil => exact fun _ => rfl
    | cons candidate collected ih =>
      intro entries
      rw [List.map_cons, List.foldl_cons, List.foldl_cons, absorb_lowered]
      exact ih (absorb candidate entries)
  exact hfold []

/-- Merging neither sees how far below it is done nor changes the order for it. -/
theorem merge_lowered (collected : List (EffectivePermission π)) :
    merge (collected.map (lowered hops)) = (merge collected).map (lowered hops) := by
  rw [merge, merge, collapse_lowered]
  symm
  apply List.map_mergeSort
  intro a _ b _
  rfl

end EffectivePermission

theorem Proximity.expand_lowered {π : Type} [Permission π] [DecidableEq π] (hops : Nat)
    (proximity : Proximity) (defined : List π) :
    (proximity.lowered hops).expand defined =
      (proximity.expand defined).map (EffectivePermission.lowered hops) := by
  rw [expand, expand, ← EffectivePermission.merge_lowered, List.map_map]
  rfl

namespace Service

variable {π : Type} {accessors : List (Ranked ResourceId)}
  {lower upper ancestors : List (Ranked DomainId)}

section Resolving

variable [Permission π] [DecidableEq π] (hops : Nat)

theorem resolve_lowered (superUser : Option Proximity) (defined : List π)
    (collected : List (EffectivePermission π)) :
    resolve (superUser.map (Proximity.lowered hops)) defined
        (.ok (collected.map (EffectivePermission.lowered hops))) =
      (resolve superUser defined (.ok collected)).map
        (List.map (EffectivePermission.lowered hops)) := by
  cases superUser with
  | none =>
    show Except.ok _ = Except.ok _
    rw [EffectivePermission.merge_lowered]
  | some proximity =>
    show Except.ok _ = Except.ok _
    rw [Proximity.expand_lowered]

theorem closestSuperUser_lowered (collected : List (EffectivePermission DomainPermission)) :
    closestSuperUser (collected.map (EffectivePermission.lowered hops)) =
      (closestSuperUser collected).map (Proximity.lowered hops) := by
  have hcandidates : ((collected.map (EffectivePermission.lowered hops)).filter
      (·.permission.isSuperUser)).map (·.proximity) =
        ((collected.filter (·.permission.isSuperUser)).map (·.proximity)).map
          (Proximity.lowered hops) := by
    rw [List.filter_map, List.map_map, List.map_map]
    rfl
  rw [closestSuperUser, hcandidates]
  exact Proximity.foldl_closest_lowered hops _ none

end Resolving

/-- Where nothing is granted on the lower domains, what is gathered comes from above them. -/
theorem gathered_lowered {held : ResourceId → DomainId → List π}
    (h : ∀ holder, ∀ ancestor ∈ lower, held holder ancestor.node = []) (hops : Nat) :
    gathered held accessors (lower ++ upper.map (Ranked.farther hops)) =
      (gathered held accessors upper).map (EffectivePermission.lowered hops) := by
  unfold gathered
  rw [List.map_flatMap]
  apply List.flatMap_congr
  intro accessor _
  have hnone : (lower.flatMap fun ancestor =>
      (held accessor.node ancestor.node).map fun permission =>
        (⟨permission, accessor.level, ancestor.level⟩ : EffectivePermission π)) = [] := by
    apply List.flatMap_eq_nil_iff.mpr
    intro ancestor hancestor
    rw [h accessor.node ancestor hancestor, List.map_nil]
  rw [List.flatMap_append, hnone, List.nil_append, List.flatMap_map, List.map_flatMap]
  simp only [List.map_map]
  rfl

theorem firstSuperUser_lowered {held : ResourceId → DomainId → List DomainPermission}
    (h : ∀ holder, ∀ ancestor ∈ lower, held holder ancestor.node = []) (hops : Nat) :
    firstSuperUser held accessors (lower ++ upper.map (Ranked.farther hops)) =
      (firstSuperUser held accessors upper).map (Proximity.lowered hops) := by
  unfold firstSuperUser
  rw [List.map_findSome?]
  congr 1
  funext accessor
  have hnone : (lower.findSome? fun ancestor =>
      if (held accessor.node ancestor.node).any DomainPermission.isSuperUser then
        some (⟨accessor.level, ancestor.level⟩ : Proximity) else none) = none := by
    apply List.findSome?_eq_none_iff.mpr
    intro ancestor hancestor
    rw [h accessor.node ancestor hancestor]
    rfl
  rw [List.findSome?_append, hnone, Option.none_or, List.findSome?_map, Function.comp_apply,
    List.map_findSome?]
  congr 1
  funext ancestor
  simp only [Function.comp_apply, apply_ite (Option.map (Proximity.lowered hops))]
  rfl

end Service

end Authorization
