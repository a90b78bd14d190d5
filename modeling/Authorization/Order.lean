namespace Authorization

variable {α : Type} [LT α] [DecidableLT α] [DecidableEq α]

/-- Puts an element into an ascending list, at its place and only once. -/
def insertDistinct (a : α) : List α → List α
  | [] => [a]
  | b :: bs => if a < b then a :: b :: bs else if a = b then b :: bs else b :: insertDistinct a bs

/-- The members of a list in ascending order, each once. -/
def sortDistinct (as : List α) : List α :=
  as.foldr insertDistinct []

/-- A list is ascending if every element is less than all that follow it. -/
def Ascending (as : List α) : Prop :=
  as.Pairwise (· < ·)

theorem mem_insertDistinct {a b : α} {bs : List α} :
    a ∈ insertDistinct b bs ↔ a = b ∨ a ∈ bs := by
  induction bs with
  | nil => simp [insertDistinct]
  | cons c cs ih =>
    simp only [insertDistinct]
    split
    · simp
    · split
      · next h => simp [h]
      · simp only [List.mem_cons, ih]
        exact or_left_comm

theorem mem_sortDistinct {a : α} {as : List α} : a ∈ sortDistinct as ↔ a ∈ as := by
  induction as with
  | nil => simp [sortDistinct]
  | cons b bs ih =>
    rw [sortDistinct, List.foldr_cons, mem_insertDistinct, List.mem_cons]
    exact or_congr_right ih

variable [LE α] [Std.IsLinearOrder α] [Std.LawfulOrderLT α]

/-- An element goes to its place, so an ascending list stays ascending. -/
theorem ascending_insertDistinct (a : α) {bs : List α} (h : Ascending bs) :
    Ascending (insertDistinct a bs) := by
  induction bs with
  | nil => exact List.pairwise_singleton _ _
  | cons b bs ih =>
    obtain ⟨hb, hbs⟩ := List.pairwise_cons.mp h
    simp only [insertDistinct]
    split
    · next hlt =>
      refine List.pairwise_cons.mpr ⟨fun c hc => ?_, h⟩
      rcases List.mem_cons.mp hc with rfl | hc
      · exact hlt
      · exact Std.lt_trans hlt (hb c hc)
    · split
      · exact h
      · next hlt hne =>
        have hba : b < a := Std.lt_of_le_of_ne (Std.not_lt.mp hlt) (Ne.symm hne)
        refine List.pairwise_cons.mpr ⟨fun c hc => ?_, ih hbs⟩
        rcases mem_insertDistinct.mp hc with rfl | hc
        · exact hba
        · exact hb c hc

theorem ascending_sortDistinct (as : List α) : Ascending (sortDistinct as) := by
  induction as with
  | nil => exact List.Pairwise.nil
  | cons a as ih => exact ascending_insertDistinct a ih

omit [DecidableLT α] [DecidableEq α] [Std.IsLinearOrder α] in
/-- No element stands twice in an ascending list. -/
theorem Ascending.nodup {as : List α} (h : Ascending as) : as.Nodup := by
  apply h.imp
  rintro a _ hlt rfl
  exact Std.lt_irrefl hlt

end Authorization
