import Authorization.Proofs.Permission.Merge
import Authorization.Service.OnDomain
import Mathlib.Data.List.Basic

namespace Authorization.Service

/-- An answer that says whether something holds. -/
def Decides (answer : Except Error Bool) (holds : Prop) : Prop :=
  ∃ decision, answer = .ok decision ∧ (decision = true ↔ holds)

/-- Each of some wanted permissions is satisfied by one that is held. -/
def Satisfied {π : Type} [Permission π] [DecidableEq π] (wanted : List π) (holds : π → Prop) :
    Prop :=
  ∀ permission ∈ wanted, ∃ held, holds held ∧ Permission.isSatisfiedBy permission held = true

/-- Each of some wanted permissions may be granted from one that is held. -/
def Grantable {π : Type} [Permission π] [DecidableEq π] (wanted : List π) (holds : π → Prop) :
    Prop :=
  ∀ permission ∈ wanted, ∃ held, holds held ∧ Permission.isGrantableFrom permission held = true

theorem Decides.eq_true_iff {answer : Except Error Bool} {holds : Prop} (h : Decides answer holds) :
    answer = .ok true ↔ holds := by
  obtain ⟨decision, rfl, hdecision⟩ := h
  rw [← hdecision]
  exact ⟨Except.ok.inj, congrArg Except.ok⟩

/-- A yes to one question is a yes to another that holds whenever the first does. -/
theorem Decides.yes_of_yes {answer answer' : Except Error Bool} {holds holds' : Prop}
    (h : Decides answer holds) (h' : Decides answer' holds') (himp : holds → holds')
    (hyes : answer = .ok true) : answer' = .ok true :=
  h'.eq_true_iff.mpr (himp (h.eq_true_iff.mp hyes))

theorem Decides.congr {answer answer' : Except Error Bool} {holds holds' : Prop}
    (h : Decides answer holds) (h' : Decides answer' holds') (hiff : holds ↔ holds') :
    answer = answer' := by
  obtain ⟨decision, rfl, hdecision⟩ := h
  obtain ⟨decision', rfl, hdecision'⟩ := h'
  have hsame : decision = decision' := by
    rw [Bool.eq_iff_iff, hdecision, hdecision', hiff]
  rw [hsame]

variable {π : Type} {accessors : List (Ranked ResourceId)} {ancestors : List (Ranked DomainId)}

theorem requireRequested_eq_ok_iff {requested : List π} :
    requireRequested requested = .ok () ↔ requested ≠ [] := by
  cases requested with
  | nil => exact iff_of_false nofun fun hne => hne rfl
  | cons permission requested => exact iff_of_true rfl (List.cons_ne_nil _ _)

theorem requireRequested_eq_ok {requested : List π} (h : requested ≠ []) :
    requireRequested requested = .ok () :=
  requireRequested_eq_ok_iff.mpr h

theorem collectHeld_congr {held held' : ResourceId → Except Error (List π)}
    (h : ∀ accessor ∈ accessors, held accessor.node = held' accessor.node) :
    collectHeld accessors held = collectHeld accessors held' := by
  apply gather_congr
  intro accessor haccessor
  rw [h accessor haccessor]

theorem collectScoped_congr {held held' : ResourceId → DomainId → Except Error (List π)}
    (h : ∀ accessor ∈ accessors, ∀ ancestor ∈ ancestors,
      held accessor.node ancestor.node = held' accessor.node ancestor.node) :
    collectScoped accessors ancestors held = collectScoped accessors ancestors held' := by
  apply gather_congr
  intro accessor haccessor
  apply gather_congr
  intro ancestor hancestor
  rw [h accessor haccessor ancestor hancestor]

theorem collectHeld_spec {ask : ResourceId → Except Error (List π)} {held : ResourceId → List π}
    (h : ∀ accessor, ask accessor = .ok (held accessor)) (accessors : List (Ranked ResourceId)) :
    ∃ collected, collectHeld accessors ask = .ok collected ∧ ∀ {entry}, entry ∈ collected ↔
      ∃ accessor ∈ accessors, entry.permission ∈ held accessor.node ∧
        entry.inheritLevel = accessor.level ∧ entry.domainLevel = 0 := by
  refine ⟨_, gather_eq_ok fun accessor _ => by rw [h]; rfl, fun {entry} => ?_⟩
  simp only [List.mem_flatMap, List.mem_map]
  constructor
  · rintro ⟨accessor, hmem, permission, hheld, rfl⟩
    exact ⟨accessor, hmem, hheld, rfl, rfl⟩
  · rintro ⟨accessor, hmem, hheld, hinherit, hdomain⟩
    refine ⟨accessor, hmem, entry.permission, hheld, ?_⟩
    rw [← hinherit, ← hdomain]

/-- What accessors hold on the domains of a chain, each at the levels of the two. -/
def gathered (held : ResourceId → DomainId → List π) (accessors : List (Ranked ResourceId))
    (ancestors : List (Ranked DomainId)) : List (EffectivePermission π) :=
  accessors.flatMap fun accessor => ancestors.flatMap fun ancestor =>
    (held accessor.node ancestor.node).map (⟨·, accessor.level, ancestor.level⟩)

theorem collectScoped_eq_ok {ask : ResourceId → DomainId → Except Error (List π)}
    {held : ResourceId → DomainId → List π}
    (h : ∀ accessor domain, ask accessor domain = .ok (held accessor domain))
    (accessors : List (Ranked ResourceId)) (ancestors : List (Ranked DomainId)) :
    collectScoped accessors ancestors ask = .ok (gathered held accessors ancestors) := by
  apply gather_eq_ok
  intro accessor _
  apply gather_eq_ok
  intro ancestor _
  rw [h]
  rfl

theorem gathered_congr {held held' : ResourceId → DomainId → List π}
    (h : ∀ accessor ∈ accessors, ∀ ancestor ∈ ancestors,
      held accessor.node ancestor.node = held' accessor.node ancestor.node) :
    gathered held accessors ancestors = gathered held' accessors ancestors := by
  apply List.flatMap_congr
  intro accessor haccessor
  apply List.flatMap_congr
  intro ancestor hancestor
  rw [h accessor haccessor ancestor hancestor]

theorem mem_gathered_iff {held : ResourceId → DomainId → List π} {entry : EffectivePermission π} :
    entry ∈ gathered held accessors ancestors ↔ ∃ accessor ∈ accessors, ∃ ancestor ∈ ancestors,
      entry.permission ∈ held accessor.node ancestor.node ∧
        entry.inheritLevel = accessor.level ∧ entry.domainLevel = ancestor.level := by
  simp only [gathered, List.mem_flatMap, List.mem_map]
  constructor
  · rintro ⟨accessor, hmem, ancestor, hmem', permission, hheld, rfl⟩
    exact ⟨accessor, hmem, ancestor, hmem', hheld, rfl, rfl⟩
  · rintro ⟨accessor, hmem, ancestor, hmem', hheld, hinherit, hdomain⟩
    refine ⟨accessor, hmem, ancestor, hmem', entry.permission, hheld, ?_⟩
    rw [← hinherit, ← hdomain]

theorem collectScoped_spec {ask : ResourceId → DomainId → Except Error (List π)}
    {held : ResourceId → DomainId → List π}
    (h : ∀ accessor domain, ask accessor domain = .ok (held accessor domain))
    (accessors : List (Ranked ResourceId)) (ancestors : List (Ranked DomainId)) :
    ∃ collected, collectScoped accessors ancestors ask = .ok collected ∧
      ∀ {entry}, entry ∈ collected ↔ ∃ accessor ∈ accessors, ∃ ancestor ∈ ancestors,
        entry.permission ∈ held accessor.node ancestor.node ∧
          entry.inheritLevel = accessor.level ∧ entry.domainLevel = ancestor.level :=
  ⟨_, collectScoped_eq_ok h accessors ancestors, mem_gathered_iff⟩

variable [Permission π] [DecidableEq π]

theorem satisfied_congr {wanted : List π} {holds holds' : π → Prop}
    (h : ∀ permission, holds permission ↔ holds' permission) :
    Satisfied wanted holds ↔ Satisfied wanted holds' := by
  apply forall₂_congr
  intro permission _
  apply exists_congr
  intro held
  rw [h held]

theorem Satisfied.mono {wanted : List π} {holds holds' : π → Prop}
    (h : ∀ permission, holds permission → holds' permission) (hsatisfied : Satisfied wanted holds) :
    Satisfied wanted holds' := by
  intro permission hmem
  obtain ⟨held, hheld, henough⟩ := hsatisfied permission hmem
  exact ⟨held, h held hheld, henough⟩

theorem Satisfied.singleton {wanted held : π} {holds : π → Prop} (hheld : holds held)
    (henough : Permission.isSatisfiedBy wanted held = true) : Satisfied [wanted] holds := by
  intro permission hmem
  rw [List.mem_singleton.mp hmem]
  exact ⟨held, hheld, henough⟩

theorem covers_iff {effective : List (EffectivePermission π)} {wanted : π} :
    covers effective wanted = true ↔
      ∃ entry ∈ effective, Permission.isSatisfiedBy wanted entry.permission = true :=
  List.any_eq_true

theorem allSatisfied_iff {requested : List π} {effective : List (EffectivePermission π)} :
    allSatisfied requested effective = true ↔ ∀ wanted ∈ requested,
      ∃ entry ∈ effective, Permission.isSatisfiedBy wanted entry.permission = true := by
  simp only [allSatisfied, List.all_eq_true, covers_iff]

/-- A check sees of what is effective only what it covers. -/
theorem allSatisfied_congr {effective effective' : List (EffectivePermission π)}
    (h : covers effective = covers effective') (requested : List π) :
    allSatisfied requested effective = allSatisfied requested effective' := by
  rw [allSatisfied, allSatisfied, h]

/-- What is missing is what is not covered, so messages are the same, too. -/
theorem demand_congr {effective effective' : List (EffectivePermission π)}
    (h : covers effective = covers effective') (requested : List π)
    (forbidden : List String → Error) :
    demand requested effective forbidden = demand requested effective' forbidden := by
  rw [demand, demand, allSatisfied_congr h, missing, missing, h]

end Authorization.Service
