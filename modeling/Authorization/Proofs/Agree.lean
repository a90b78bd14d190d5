import Authorization.Gather
import Authorization.Proofs.Lookup
import Mathlib.Data.List.Forall2

/-! Answers that agree: two questions that fail with the same error, or whose values are related. -/
namespace Authorization

/-- Two answers agree if they are the same error, or values that are related. -/
inductive Agree {α β : Type} (related : α → β → Prop) : Except Error α → Except Error β → Prop
  | error (error : Error) : Agree related (.error error) (.error error)
  | ok {a : α} {b : β} (values : related a b) : Agree related (.ok a) (.ok b)

namespace Agree

variable {α β γ δ : Type} {related : α → β → Prop} {related' : γ → δ → Prop}
  {answer : Except Error α} {answer' : Except Error β}

theorem refl {related : α → α → Prop} (hrefl : ∀ a, related a a) (answer : Except Error α) :
    Agree related answer answer := by
  cases answer with
  | error error => exact .error error
  | ok a => exact .ok (hrefl a)

theorem eq {answer answer' : Except Error α} (h : Agree (· = ·) answer answer') :
    answer = answer' := by
  cases h with
  | error error => rfl
  | ok values => rw [values]

theorem of_eq {answer answer' : Except Error α} (h : answer = answer') :
    Agree (· = ·) answer answer' :=
  h ▸ refl (fun _ => rfl) answer

/-- Answers that agree are the same for whatever does not tell related values apart. -/
theorem map_eq {f : α → γ} {g : β → γ} (h : Agree related answer answer')
    (hsame : ∀ {a b}, related a b → f a = g b) : answer.map f = answer'.map g := by
  cases h with
  | error error => rfl
  | ok values => exact congrArg Except.ok (hsame values)

theorem exists_of_ok {a : α} (h : Agree related (.ok a) answer') :
    ∃ b, answer' = .ok b ∧ related a b := by
  cases h with
  | ok values => exact ⟨_, rfl, values⟩

/-- What comes next may rely on the two answers that were given. -/
theorem bind_of_eq_ok {first : Except Error α} {first' : Except Error β} {next : α → Except Error γ}
    {next' : β → Except Error δ} (h : Agree related first first')
    (hnext : ∀ a b, first = .ok a → first' = .ok b → related a b →
      Agree related' (next a) (next' b)) :
    Agree related' (first >>= next) (first' >>= next') := by
  cases h with
  | error error => exact .error error
  | ok values => exact hnext _ _ rfl rfl values

theorem bind {first : Except Error α} {first' : Except Error β} {next : α → Except Error γ}
    {next' : β → Except Error δ} (h : Agree related first first')
    (hnext : ∀ a b, related a b → Agree related' (next a) (next' b)) :
    Agree related' (first >>= next) (first' >>= next') :=
  h.bind_of_eq_ok fun a b _ _ => hnext a b

/-- After the same question agreement is left to what comes next, for the answer that there is. -/
theorem bind_same_of_eq_ok {first : Except Error α} {next : α → Except Error γ}
    {next' : α → Except Error δ}
    (hnext : ∀ a, first = .ok a → Agree related' (next a) (next' a)) :
    Agree related' (first >>= next) (first >>= next') := by
  cases first with
  | error error => exact .error error
  | ok a => exact hnext a rfl

theorem bind_same {first : Except Error α} {next : α → Except Error γ} {next' : α → Except Error δ}
    (hnext : ∀ a, Agree related' (next a) (next' a)) :
    Agree related' (first >>= next) (first >>= next') :=
  bind_same_of_eq_ok fun a _ => hnext a

theorem mono {weaker : α → β → Prop} (h : Agree related answer answer')
    (hmono : ∀ {a b}, related a b → weaker a b) : Agree weaker answer answer' := by
  cases h with
  | error error => exact .error error
  | ok values => exact .ok (hmono values)

/-- Answers that agree both ways are the same. -/
theorem antisymm {related : α → α → Prop} {answer answer' : Except Error α}
    (h : Agree related answer answer') (h' : Agree related answer' answer)
    (hantisymm : ∀ {a b}, related a b → related b a → a = b) : answer = answer' := by
  cases h with
  | error error => rfl
  | ok values =>
    cases h' with
    | ok values' => rw [hantisymm values values']

/-- Answers stay as they are related when the same is put beside both. -/
theorem paired (h : Agree related answer answer') (c : γ) :
    Agree (fun result result' => result.1 = result'.1 ∧ related result.2 result'.2)
      (answer >>= fun a => pure (c, a)) (answer' >>= fun b => pure (c, b)) := by
  cases h with
  | error error => exact .error error
  | ok values => exact .ok ⟨rfl, values⟩

/-- Questions about the same elements whose answers are related one by one, in a way that does not
mind putting lists together. -/
theorem gather_append {related : List β → List γ → Prop} {ask : α → Except Error (List β)}
    {ask' : α → Except Error (List γ)} {as : List α} (hnil : related [] [])
    (happend : ∀ {bs cs bs' cs'}, related bs cs → related bs' cs' →
      related (bs ++ bs') (cs ++ cs'))
    (h : ∀ a ∈ as, Agree related (ask a) (ask' a)) :
    Agree related (gather ask as) (gather ask' as) := by
  induction as with
  | nil => exact .ok hnil
  | cons a as ih =>
    obtain ⟨hfirst, hothers⟩ := List.forall_mem_cons.mp h
    apply hfirst.bind
    intro first first' hfirst
    apply (ih hothers).bind
    intro others others' hothers
    exact .ok (happend hfirst hothers)

/-- Questions about the same elements with the same answers up to order. -/
theorem gather {ask ask' : α → Except Error (List β)} (h : ∀ a, Agree List.Perm (ask a) (ask' a))
    (as : List α) : Agree List.Perm (gather ask as) (Authorization.gather ask' as) :=
  gather_append (List.Perm.refl _) List.Perm.append fun a _ => h a

/-- Questions about related elements with related answers one by one. -/
theorem gather_forall₂ {ask : α → Except Error (List γ)} {ask' : β → Except Error (List δ)}
    {as : List α} {bs : List β} (has : List.Forall₂ related as bs)
    (h : ∀ a b, related a b → Agree (List.Forall₂ related') (ask a) (ask' b)) :
    Agree (List.Forall₂ related') (Authorization.gather ask as) (Authorization.gather ask' bs) := by
  induction has with
  | nil => exact .ok .nil
  | cons hab _ ih =>
    apply (h _ _ hab).bind
    intro first first' hfirst
    apply ih.bind
    intro others others' hothers
    exact .ok (List.rel_append hfirst hothers)

/-- When all questions are answered, asking in another order changes the order of the answers. -/
theorem gather_perm {ask : α → Except Error (List β)} (h : ∀ a, ∃ answer, ask a = .ok answer)
    {as as' : List α} (has : as.Perm as') :
    Agree List.Perm (Authorization.gather ask as) (Authorization.gather ask as') := by
  choose answer hask using h
  rw [gather_eq_ok fun a _ => hask a, gather_eq_ok fun a _ => hask a]
  exact .ok (has.flatMap_right answer)

end Agree

end Authorization
