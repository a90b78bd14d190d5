import Authorization.Error

namespace Authorization

variable {α β : Type}

/-- The answers for all elements, one after the other. -/
def gather (ask : α → Except Error (List β)) : List α → Except Error (List β)
  | [] => .ok []
  | a :: as => do
    let first ← ask a
    let others ← gather ask as
    return first ++ others

/-- The first answer that is there; later elements are not asked about. -/
def firstAnswer (ask : α → Except Error (Option β)) : List α → Except Error (Option β)
  | [] => .ok none
  | a :: as => do
    match ← ask a with
    | some b => return some b
    | none => firstAnswer ask as

/-- Passes if every element does; the first that does not gives the error. -/
def checkAll (check : α → Except Error Unit) : List α → Except Error Unit
  | [] => .ok ()
  | a :: as => do
    check a
    checkAll check as

/-- What was looked up, or an error if there is nothing. -/
def orFail (missing : Error) : Option α → Except Error α
  | some a => .ok a
  | none => .error missing

/-- Only the answers for elements of the list count. -/
theorem gather_congr {ask ask' : α → Except Error (List β)} {as : List α}
    (h : ∀ a ∈ as, ask a = ask' a) : gather ask as = gather ask' as := by
  induction as with
  | nil => rfl
  | cons a as ih =>
    obtain ⟨hfirst, hothers⟩ := List.forall_mem_cons.mp h
    rw [gather, gather, hfirst, ih hothers]

/-- When every question has an answer, the answers follow each other in order. -/
theorem gather_eq_ok {ask : α → Except Error (List β)} {answer : α → List β} {as : List α}
    (h : ∀ a ∈ as, ask a = .ok (answer a)) : gather ask as = .ok (as.flatMap answer) := by
  induction as with
  | nil => rfl
  | cons a as ih =>
    have hfirst := h a List.mem_cons_self
    have hothers := ih fun b hb => h b (List.mem_cons_of_mem a hb)
    rw [gather, hfirst, hothers, List.flatMap_cons]
    rfl

/-- When every question has an answer, the first that is there is found. -/
theorem firstAnswer_eq_ok {ask : α → Except Error (Option β)} {answer : α → Option β} {as : List α}
    (h : ∀ a ∈ as, ask a = .ok (answer a)) : firstAnswer ask as = .ok (as.findSome? answer) := by
  induction as with
  | nil => rfl
  | cons a as ih =>
    have hothers := ih fun b hb => h b (List.mem_cons_of_mem a hb)
    rw [firstAnswer, h a List.mem_cons_self, List.findSome?_cons]
    cases answer a with
    | none => exact hothers
    | some b => rfl

/-- A list passes if and only if all its elements do. -/
theorem checkAll_eq_ok_iff {check : α → Except Error Unit} {as : List α} :
    checkAll check as = .ok () ↔ ∀ a ∈ as, check a = .ok () := by
  induction as with
  | nil => simp [checkAll]
  | cons a as ih =>
    rw [checkAll, List.forall_mem_cons, ← ih]
    cases check a with
    | error error => exact ⟨nofun, fun h => nomatch h.1⟩
    | ok _ => exact ⟨fun h => ⟨rfl, h⟩, fun h => h.2⟩

end Authorization
