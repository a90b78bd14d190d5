import Authorization.Hierarchy.Search
import Authorization.Proofs.Lookup
import Authorization.Store.Row

/-! With what an answer can fail. A chain of questions has no error but that of one of them. -/
namespace Authorization

/-- An answer that fails, if at all, with an error of a sort. -/
def FailsOnly {α : Type} (sort : Error → Prop) (answer : Except Error α) : Prop :=
  ∀ error, answer = .error error → sort error

namespace FailsOnly

variable {α β : Type} {sort sort' : Error → Prop}

theorem of_ok {answer : Except Error α} {a : α} (h : answer = .ok a) : FailsOnly sort answer := by
  intro error herror
  rw [h] at herror
  cases herror

theorem of_error {error : Error} (h : sort error) :
    FailsOnly sort (.error error : Except Error α) := by
  intro other hother
  cases hother
  exact h

theorem mono {answer : Except Error α} (h : FailsOnly sort answer)
    (hsort : ∀ error, sort error → sort' error) : FailsOnly sort' answer :=
  fun error herror => hsort error (h error herror)

theorem bind {first : Except Error α} {next : α → Except Error β} (hfirst : FailsOnly sort first)
    (hnext : ∀ a, first = .ok a → FailsOnly sort (next a)) : FailsOnly sort (first >>= next) := by
  cases first with
  | error error => exact of_error (hfirst error rfl)
  | ok a => exact hnext a rfl

theorem bind_ok {first : Except Error α} {next : α → Except Error β} {a : α}
    (hfirst : first = .ok a) (hnext : FailsOnly sort (next a)) :
    FailsOnly sort (first >>= next) := by
  rw [bind_of_eq_ok hfirst]
  exact hnext

theorem map {answer : Except Error α} (h : FailsOnly sort answer) (f : α → β) :
    FailsOnly sort (answer.map f) := by
  cases answer with
  | error error => exact of_error (h error rfl)
  | ok a => exact of_ok rfl

theorem optionMapM {ask : α → Except Error β} {a? : Option α}
    (h : ∀ a ∈ a?, FailsOnly sort (ask a)) : FailsOnly sort (a?.mapM ask) := by
  cases a? with
  | none => exact of_ok rfl
  | some a =>
    apply (h a rfl).bind
    intro _ _
    exact of_ok rfl

theorem orFail {missing : Error} {found : Option α} (hmissing : found = none → sort missing) :
    FailsOnly sort (orFail missing found) := by
  cases found with
  | some a => exact of_ok rfl
  | none => exact of_error (hmissing rfl)

theorem checkAll {check : α → Except Error Unit} {as : List α}
    (h : ∀ a ∈ as, FailsOnly sort (check a)) : FailsOnly sort (checkAll check as) := by
  induction as with
  | nil => exact of_ok rfl
  | cons a as ih =>
    obtain ⟨hfirst, hrest⟩ := List.forall_mem_cons.mp h
    apply hfirst.bind
    intro _ _
    exact ih hrest

theorem gather {ask : α → Except Error (List β)} {as : List α}
    (h : ∀ a ∈ as, FailsOnly sort (ask a)) : FailsOnly sort (gather ask as) := by
  induction as with
  | nil => exact of_ok rfl
  | cons a as ih =>
    obtain ⟨hfirst, hrest⟩ := List.forall_mem_cons.mp h
    apply hfirst.bind
    intro _ _
    apply (ih hrest).bind
    intro _ _
    exact of_ok rfl

theorem firstAnswer {ask : α → Except Error (Option β)} {as : List α}
    (h : ∀ a ∈ as, FailsOnly sort (ask a)) : FailsOnly sort (firstAnswer ask as) := by
  induction as with
  | nil => exact of_ok rfl
  | cons a as ih =>
    obtain ⟨hfirst, hrest⟩ := List.forall_mem_cons.mp h
    apply hfirst.bind
    intro answer _
    -- The elements behind one with an answer are not asked about.
    cases answer with
    | none => exact ih hrest
    | some b => exact of_ok rfl

theorem decodeRows {decode : α → Except Error β} {rows : List α}
    (h : ∀ row ∈ rows, FailsOnly sort (decode row)) : FailsOnly sort (decodeRows decode rows) := by
  induction rows with
  | nil => exact of_ok rfl
  | cons row rows ih =>
    obtain ⟨hfirst, hrest⟩ := List.forall_mem_cons.mp h
    apply hfirst.bind
    intro _ _
    apply (ih hrest).bind
    intro _ _
    exact of_ok rfl

/-- A search asks for nothing but neighbours. -/
theorem closure [LT α] [DecidableLT α] [DecidableEq α] {neighbours : Neighbours α}
    (h : ∀ frontier, FailsOnly sort (neighbours.next frontier)) (seed : α) :
    FailsOnly sort (neighbours.closure seed) := by
  have hbeyond (visited frontier : List α) (level : Nat) :
      FailsOnly sort (neighbours.beyond visited frontier level) := by
    fun_induction Neighbours.beyond neighbours visited frontier level with
    | case1 visited frontier level error hnext => exact of_error (h frontier error hnext)
    | case2 visited frontier level found hnext hfresh => exact of_ok rfl
    | case3 visited frontier level found hnext hfresh ih => exact ih.map _
  exact (hbeyond [seed] [seed] 1).map _

end FailsOnly

end Authorization
