import Authorization.Proofs.Hierarchy.Distance
import Authorization.Proofs.Permission.Summary
import Authorization.Proofs.Service.Resolve

namespace Authorization

namespace Proximity

variable {candidate proximity : Proximity} {found : Option Proximity}

theorem closest_atMost (found : Option Proximity) (candidate : Proximity) :
    (closest found candidate).AtMost candidate ∧
      ∀ {current}, found = some current → (closest found candidate).AtMost current := by
  cases found with
  | none => exact ⟨AtMost.refl _, nofun⟩
  | some current =>
    simp only [closest]
    split
    · next hcloser =>
      constructor
      · exact AtMost.refl _
      · intro other hother
        cases hother
        rw [closerThan_iff] at hcloser
        unfold AtMost
        omega
    · next hkept =>
      constructor
      · exact closerThan_eq_false_iff.mp (Bool.not_eq_true _ ▸ hkept)
      · intro other hother
        cases hother
        exact AtMost.refl _

theorem closest_eq (found : Option Proximity) (candidate : Proximity) :
    closest found candidate = candidate ∨ found = some (closest found candidate) := by
  cases found with
  | none => exact Or.inl rfl
  | some current =>
    simp only [closest]
    split
    · exact Or.inl rfl
    · exact Or.inr rfl

/-- Keeping the closest of candidates one after the other leaves one of them that is no farther than
any. -/
theorem foldl_closest {candidates : List Proximity}
    (h : candidates.foldl (fun found candidate => some (closest found candidate)) found =
      some proximity) :
    (found = some proximity ∨ proximity ∈ candidates) ∧
      ∀ other, found = some other ∨ other ∈ candidates → proximity.AtMost other := by
  induction candidates generalizing found with
  | nil =>
    refine ⟨Or.inl h, ?_⟩
    rintro other (hother | hnone)
    · cases h.symm.trans hother
      exact AtMost.refl _
    · cases hnone
  | cons candidate candidates ih =>
    -- From here on the closest of what was found and the candidate is what was found.
    obtain ⟨hfrom, hleast⟩ := ih h
    have hclosest := hleast _ (Or.inl rfl)
    constructor
    · rcases hfrom with hfirst | hrest
      · rcases closest_eq found candidate with hnew | hold
        · have hlast : candidate = proximity := hnew.symm.trans (Option.some.inj hfirst)
          exact Or.inr (hlast ▸ List.mem_cons_self)
        · exact Or.inl (hold.trans hfirst)
      · exact Or.inr (List.mem_cons_of_mem _ hrest)
    · rintro other (hfound | hmem)
      · exact hclosest.trans ((closest_atMost found candidate).2 hfound)
      · rcases List.mem_cons.mp hmem with rfl | hrest
        · exact hclosest.trans (closest_atMost found other).1
        · exact hleast other (Or.inr hrest)

/-- Something is kept if there was something, or if there is a candidate. -/
theorem foldl_closest_isSome (found : Option Proximity) (candidates : List Proximity) :
    (candidates.foldl (fun found candidate => some (closest found candidate)) found).isSome =
      true ↔ found.isSome = true ∨ candidates ≠ [] := by
  induction candidates generalizing found with
  | nil => simp
  | cons candidate candidates ih => simp [ih]

/-- The closest of candidates does not depend on their order, nor on how often one comes up. -/
theorem foldl_closest_congr {candidates candidates' : List Proximity}
    (h : ∀ candidate, candidate ∈ candidates ↔ candidate ∈ candidates') :
    candidates.foldl (fun found candidate => some (closest found candidate)) none =
      candidates'.foldl (fun found candidate => some (closest found candidate)) none := by
  apply Option.ext
  intro proximity
  have hone : ∀ {as bs : List Proximity} {a : Proximity}, (∀ b, b ∈ as ↔ b ∈ bs) →
      as.foldl (fun found candidate => some (closest found candidate)) none = some a →
      bs.foldl (fun found candidate => some (closest found candidate)) none = some a := by
    intro as bs a hmem_iff ha
    obtain ⟨hfrom, hleast⟩ := foldl_closest ha
    have hmem := (hmem_iff a).mp (hfrom.resolve_left nofun)
    have hsome := (foldl_closest_isSome none bs).mpr (Or.inr (List.ne_nil_of_mem hmem))
    obtain ⟨b, hb⟩ := Option.isSome_iff_exists.mp hsome
    obtain ⟨hfrom', hleast'⟩ := foldl_closest hb
    have hmem' := (hmem_iff b).mpr (hfrom'.resolve_left nofun)
    -- Each is among the candidates of the other, so neither is farther away.
    rw [hb, (hleast' a (Or.inr hmem)).antisymm (hleast b (Or.inr hmem'))]
  exact ⟨hone h, hone fun candidate => (h candidate).symm⟩

end Proximity

namespace Service

variable {held : ResourceId → DomainId → List DomainPermission}
  {accessors : List (Ranked ResourceId)} {ancestors : List (Ranked DomainId)}

/-- Among some grants a super-user grant at a given distance. -/
def SuperUserAmong (held : ResourceId → DomainId → List DomainPermission)
    (accessors : List (Ranked ResourceId)) (ancestors : List (Ranked DomainId))
    (proximity : Proximity) : Prop :=
  ∃ accessor ∈ accessors, ∃ ancestor ∈ ancestors,
    (∃ permission ∈ held accessor.node ancestor.node, permission.isSuperUser = true) ∧
      proximity = ⟨accessor.level, ancestor.level⟩

/-- The super-user grant that a walk along accessors and the domains of a chain meets first. -/
def firstSuperUser (held : ResourceId → DomainId → List DomainPermission)
    (accessors : List (Ranked ResourceId)) (ancestors : List (Ranked DomainId)) :
    Option Proximity :=
  accessors.findSome? fun accessor => ancestors.findSome? fun ancestor =>
    if (held accessor.node ancestor.node).any DomainPermission.isSuperUser then
      some ⟨accessor.level, ancestor.level⟩ else none

/-- The walk sees of each list only whether a super-user grant is in it. -/
theorem firstSuperUser_congr {held' : ResourceId → DomainId → List DomainPermission}
    (h : ∀ accessor ∈ accessors, ∀ ancestor ∈ ancestors,
      (held accessor.node ancestor.node).any DomainPermission.isSuperUser =
        (held' accessor.node ancestor.node).any DomainPermission.isSuperUser) :
    firstSuperUser held accessors ancestors = firstSuperUser held' accessors ancestors := by
  unfold firstSuperUser
  rw [← List.head?_filterMap, ← List.head?_filterMap]
  apply congrArg
  apply List.filterMap_congr
  intro accessor haccessor
  rw [← List.head?_filterMap, ← List.head?_filterMap]
  apply congrArg
  apply List.filterMap_congr
  intro ancestor hancestor
  rw [h accessor haccessor ancestor hancestor]

theorem findSuperUser_eq_ok {service : Service}
    (hask : ∀ accessor domain,
      service.grants.listDomain accessor domain = .ok (held accessor domain))
    (accessors : List (Ranked ResourceId)) (ancestors : List (Ranked DomainId)) :
    service.findSuperUser accessors ancestors = .ok (firstSuperUser held accessors ancestors) := by
  apply firstAnswer_eq_ok
  intro accessor _
  apply firstAnswer_eq_ok
  intro ancestor _
  rw [hask]
  rfl

theorem firstSuperUser_eq_none (h : firstSuperUser held accessors ancestors = none)
    (proximity : Proximity) : ¬SuperUserAmong held accessors ancestors proximity := by
  rintro ⟨accessor, haccessor, ancestor, hancestor, hsuper, _⟩
  have hholder := List.findSome?_eq_none_iff.mp h accessor haccessor
  have hgrant := List.findSome?_eq_none_iff.mp hholder ancestor hancestor
  rw [if_pos (List.any_eq_true.mpr hsuper)] at hgrant
  cases hgrant

/-- Along sorted lists no holder that comes earlier has a super-user grant on the chain, and the
holder where the walk stops has none on a lower domain. -/
theorem firstSuperUser_eq_some {proximity : Proximity}
    (haccessors : accessors.Pairwise Ranked.Before) (hancestors : ancestors.Pairwise Ranked.Before)
    (h : firstSuperUser held accessors ancestors = some proximity) :
    ∃ accessor ∈ accessors, ∃ ancestor ∈ ancestors,
      (∃ permission ∈ held accessor.node ancestor.node, permission.isSuperUser = true) ∧
      proximity = ⟨accessor.level, ancestor.level⟩ ∧
      ∀ other ∈ accessors, ∀ above ∈ ancestors,
        (∃ permission ∈ held other.node above.node, permission.isSuperUser = true) →
          accessor.Before other ∨ accessor = other ∧ ancestor.level ≤ above.level := by
  obtain ⟨earlier, accessor, later, rfl, hholder, hearlier⟩ := List.findSome?_eq_some_iff.mp h
  obtain ⟨lower, ancestor, higher, rfl, hgrant, hlower⟩ :=
    List.findSome?_eq_some_iff.mp hholder
  split at hgrant
  · next hsuper =>
    cases hgrant
    refine ⟨accessor, by simp, ancestor, by simp, List.any_eq_true.mp hsuper, rfl, ?_⟩
    intro other hother above habove hsuper'
    rcases List.mem_append.mp hother with hfirst | hrest
    · -- Nothing was found with a holder that comes earlier.
      have hnone := List.findSome?_eq_none_iff.mp (hearlier other hfirst) above habove
      rw [if_pos (List.any_eq_true.mpr hsuper')] at hnone
      cases hnone
    · rcases List.mem_cons.mp hrest with rfl | hlast
      · right
        refine ⟨rfl, ?_⟩
        rcases List.mem_append.mp habove with hbelow | habove
        · have hnone := hlower above hbelow
          rw [if_pos (List.any_eq_true.mpr hsuper')] at hnone
          cases hnone
        · rcases List.mem_cons.mp habove with rfl | hhigher
          · exact Nat.le_refl _
          · have hbefore :=
              List.rel_of_pairwise_cons (List.pairwise_append.mp hancestors).2.1 hhigher
            exact hbefore.level_le
      · left
        exact List.rel_of_pairwise_cons (List.pairwise_append.mp haccessors).2.1 hlast
  · cases hgrant

/-- A super-user grant is found if there is one, and no other has fewer inheritance hops. -/
theorem findSuperUser_reports {service : Service}
    (hask : ∀ accessor domain,
      service.grants.listDomain accessor domain = .ok (held accessor domain))
    (haccessors : accessors.Pairwise Ranked.Before)
    (hancestors : ancestors.Pairwise Ranked.Before) :
    ∃ found, service.findSuperUser accessors ancestors = .ok found ∧
      (found = none → ∀ proximity, ¬SuperUserAmong held accessors ancestors proximity) ∧
      ∀ {proximity}, found = some proximity →
        SuperUserAmong held accessors ancestors proximity ∧
          ∀ other, SuperUserAmong held accessors ancestors other →
            proximity.inheritLevel ≤ other.inheritLevel := by
  refine ⟨_, findSuperUser_eq_ok hask accessors ancestors, firstSuperUser_eq_none, ?_⟩
  intro proximity hsome
  obtain ⟨accessor, haccessor, ancestor, hancestor, hsuper, rfl, hfirst⟩ :=
    firstSuperUser_eq_some haccessors hancestors hsome
  refine ⟨⟨accessor, haccessor, ancestor, hancestor, hsuper, rfl⟩, ?_⟩
  rintro _ ⟨other, hother, above, habove, hsuper', rfl⟩
  rcases hfirst other hother above habove hsuper' with hbefore | ⟨rfl, _⟩
  · exact hbefore.level_le
  · exact Nat.le_refl _

end Service

end Authorization
