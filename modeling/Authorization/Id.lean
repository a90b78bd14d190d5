namespace Authorization

inductive Entity where
  | resource
  | resourceClass
  | domain

/-- The handle of an entity of one sort. -/
structure Id (entity : Entity) where
  value : Int64
  deriving DecidableEq, Repr

abbrev ResourceId := Id .resource
abbrev ResourceClassId := Id .resourceClass
abbrev DomainId := Id .domain

namespace Id

variable {entity : Entity}

/-- Handles that test equal are equal. -/
instance : LawfulBEq (Id entity) := inferInstance

instance : ToString (Id entity) where
  toString id := toString id.value.toInt

instance : LE (Id entity) where
  le a b := a.value ≤ b.value

instance : LT (Id entity) where
  lt a b := a.value < b.value

instance : DecidableLE (Id entity) := fun a b => inferInstanceAs (Decidable (a.value ≤ b.value))

instance : DecidableLT (Id entity) := fun a b => inferInstanceAs (Decidable (a.value < b.value))

/-- Handles are ordered as the numbers that they are. -/
instance : Std.IsLinearOrder (Id entity) where
  le_refl a := Int64.le_refl a.value
  le_trans _ _ _ hab hbc := Int64.le_trans hab hbc
  le_antisymm a b hab hba := by
    cases a; cases b
    exact congrArg Id.mk (Int64.le_antisymm hab hba)
  le_total a b := Int64.le_total a.value b.value

instance : Std.LawfulOrderLT (Id entity) where
  lt_iff a b := Std.LawfulOrderLT.lt_iff a.value b.value

end Id

end Authorization
