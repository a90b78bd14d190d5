import Authorization.Proofs.Service.Overview
import Authorization.Proofs.Service.Scoped

namespace Authorization

/-- What gives nothing may be left out. -/
theorem flatMap_filter {α β : Type} {kept : α → Bool} {f : α → List β}
    (hdropped : ∀ a, kept a = false → f a = []) (as : List α) :
    (as.filter kept).flatMap f = as.flatMap f := by
  induction as with
  | nil => rfl
  | cons a as ih =>
    cases hkept : kept a with
    | true => rw [List.filter_cons_of_pos hkept, List.flatMap_cons, List.flatMap_cons, ih]
    | false =>
      rw [List.filter_cons_of_neg (by simp [hkept]), List.flatMap_cons, hdropped a hkept,
        List.nil_append, ih]

namespace ClassGrant

variable {π : Type} {a b : ClassGrant π}

/-- Whether a grant may stand before another: by domain, and then by class. -/
def notAfter (a b : ClassGrant π) : Bool :=
  a.domainId < b.domainId || (a.domainId = b.domainId && a.classId ≤ b.classId)

theorem notAfter_iff : notAfter a b = true ↔
    a.domainId < b.domainId ∨ a.domainId = b.domainId ∧ a.classId ≤ b.classId := by
  simp only [notAfter, Bool.or_eq_true, Bool.and_eq_true, decide_eq_true_eq]

theorem notAfter_trans (a b c : ClassGrant π) (hab : notAfter a b = true)
    (hbc : notAfter b c = true) : notAfter a c = true := by
  rw [notAfter_iff] at *
  grind

theorem notAfter_total (a b : ClassGrant π) : (notAfter a b || notAfter b a) = true := by
  rw [Bool.or_eq_true, notAfter_iff, notAfter_iff]
  grind

theorem domainId_le_of_notAfter (h : notAfter a b = true) : a.domainId ≤ b.domainId := by
  rw [notAfter_iff] at h
  grind

end ClassGrant

namespace Memory

variable {memory : Memory} {π : Type} {accessor holder : ResourceId} {domain : DomainId}
  {classId : ResourceClassId} {accessors : List (Ranked ResourceId)}
  {below : DomainId → List (Ranked DomainId)} {rows rows' : GrantRows ClassKey π}

theorem pairwise_sortClassGrants (grants : List (ClassGrant π)) :
    (sortClassGrants grants).Pairwise fun a b => a.domainId ≤ b.domainId := by
  have hsorted : (sortClassGrants grants).Pairwise fun a b => ClassGrant.notAfter a b = true :=
    List.pairwise_mergeSort ClassGrant.notAfter_trans ClassGrant.notAfter_total grants
  exact hsorted.imp ClassGrant.domainId_le_of_notAfter

/-- For one class and one domain a listing over all keys has what is under their key, in order. -/
theorem filter_sortClassGrants (rows : GrantRows ClassKey π) (holder : ResourceId)
    (classId : ResourceClassId) (domain : DomainId) :
    (sortClassGrants (Records.classGrants rows holder)).filter
        (fun grant => grant.domainId = domain ∧ grant.classId = classId) =
      (rows.held ⟨holder, classId, domain⟩).map (⟨classId, domain, ·⟩) := by
  have htied : ∀ {a b : ClassGrant π},
      decide (a.domainId = domain ∧ a.classId = classId) = true →
      decide (b.domainId = domain ∧ b.classId = classId) = true →
      ClassGrant.notAfter a b = true := by
    intro a b ha hb
    obtain ⟨hdomain, hclass⟩ := of_decide_eq_true ha
    obtain ⟨hdomain', hclass'⟩ := of_decide_eq_true hb
    rw [ClassGrant.notAfter_iff, hdomain, hdomain', hclass, hclass']
    exact Or.inr ⟨rfl, Std.le_refl _⟩
  have hstable : (sortClassGrants (Records.classGrants rows holder)).filter
      (fun grant => grant.domainId = domain ∧ grant.classId = classId) =
        (Records.classGrants rows holder).filter
          fun grant => grant.domainId = domain ∧ grant.classId = classId :=
    filter_mergeSort_of_le ClassGrant.notAfter_trans ClassGrant.notAfter_total _ htied
  rw [hstable, Records.classGrants, GrantRows.held, List.filter_map, List.filter_filter,
    List.map_map]
  calc List.map _ _
    _ = (rows.filter fun row => row.1 = ⟨holder, classId, domain⟩).map
          fun row => ⟨row.1.classId, row.1.domainId, row.2⟩ := by
      apply congrArg
      apply List.filter_congr
      rintro ⟨⟨other, classId', domain'⟩, permission⟩ _
      simp only [Function.comp_apply, ClassKey.mk.injEq]
      grind
    _ = _ := by
      apply List.map_congr_left
      rintro ⟨key, permission⟩ hrow
      obtain rfl : key = _ := of_decide_eq_true (List.mem_filter.mp hrow).2
      rfl

/-- Listings have the same for a class and some domains if the same is under each key. -/
theorem filter_sortClassGrants_congr {kept : DomainId → Bool}
    (h : ∀ above, kept above = true →
      rows'.held ⟨holder, classId, above⟩ = rows.held ⟨holder, classId, above⟩) :
    (sortClassGrants (Records.classGrants rows' holder)).filter
        (fun grant => kept grant.domainId ∧ grant.classId = classId) =
      (sortClassGrants (Records.classGrants rows holder)).filter
        fun grant => kept grant.domainId ∧ grant.classId = classId := by
  have hsorted (rows : GrantRows ClassKey π) :=
    (pairwise_sortClassGrants (Records.classGrants rows holder)).filter
      fun grant => decide (kept grant.domainId ∧ grant.classId = classId)
  apply eq_of_filter_key_eq (hsorted rows') (hsorted rows)
  intro above
  have hunder (rows : GrantRows ClassKey π) :
      ((sortClassGrants (Records.classGrants rows holder)).filter
          fun grant => kept grant.domainId ∧ grant.classId = classId).filter
            (fun grant => grant.domainId = above) =
        if kept above then (rows.held ⟨holder, classId, above⟩).map (⟨classId, above, ·⟩)
        else [] := by
    rw [← filter_sortClassGrants, List.filter_filter]
    split
    · next habove =>
      apply List.filter_congr
      intro grant _
      grind
    · next habove =>
      apply List.filter_eq_nil_iff.mpr
      intro grant _
      grind
  rw [hunder, hunder]
  split
  · next habove => rw [h above habove]
  · rfl

/-- What is carried to a domain for a class comes from the keys of that class in the domains in
which it lies. -/
theorem filter_carried_congr (hA : IsClosure memory.Inherits accessor accessors)
    (hbelow : ∀ above entry, entry ∈ below above ↔
      Distance memory.HasParent entry.node entry.level above)
    (h : memory.ThroughAllIn accessor domain fun holder above =>
      rows'.held ⟨holder, classId, above⟩ = rows.held ⟨holder, classId, above⟩) :
    (carried below accessors rows').filter
        (fun grant => grant.domainId = domain ∧ grant.classId = classId) =
      (carried below accessors rows).filter
        fun grant => grant.domainId = domain ∧ grant.classId = classId := by
  rw [carried, carried, List.filter_flatMap, List.filter_flatMap]
  apply List.flatMap_congr
  intro holder hholder
  rw [List.filter_flatMap, List.filter_flatMap]
  -- Of what the holder was granted only this counts.
  let reaches : DomainId → Bool := fun above => (below above).any fun entry => entry.node = domain
  have hdropped : ∀ grant : ClassGrant π,
      decide (reaches grant.domainId ∧ grant.classId = classId) = false →
      ((below grant.domainId).map fun entry =>
        (⟨grant.classId, entry.node, ⟨grant.permission, holder.level, entry.level⟩⟩ :
          ClassGrant (EffectivePermission π))).filter
            (fun grant => grant.domainId = domain ∧ grant.classId = classId) = [] := by
    intro grant hfar
    rw [List.filter_eq_nil_iff]
    intro reached hreached hhere
    obtain ⟨entry, hentry, rfl⟩ := List.mem_map.mp hreached
    obtain ⟨hnode, hclass⟩ := of_decide_eq_true hhere
    have hreaches : reaches grant.domainId = true :=
      List.any_eq_true.mpr ⟨entry, hentry, decide_eq_true hnode⟩
    exact of_decide_eq_false hfar ⟨hreaches, hclass⟩
  rw [← flatMap_filter hdropped (sortClassGrants (Records.classGrants rows' holder.node)),
    ← flatMap_filter hdropped (sortClassGrants (Records.classGrants rows holder.node)),
    filter_sortClassGrants_congr]
  intro above habove
  obtain ⟨entry, hentry, hnode⟩ := List.any_eq_true.mp habove
  have hlies := ((hbelow above entry).mp hentry).walk.reachable
  rw [of_decide_eq_true hnode] at hlies
  exact h holder.node above (hA.exists_mem_iff.mp ⟨holder, hholder, rfl⟩) hlies

end Memory

end Authorization
