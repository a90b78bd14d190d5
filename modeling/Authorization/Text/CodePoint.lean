/-! Sets of characters, as closed ranges of code points. The tables follow Unicode 17.0. -/
namespace Authorization.Text

/-- A character is in a table if one of the ranges holds its code point. -/
def inRanges (ranges : List (Nat × Nat)) (c : Char) : Bool :=
  ranges.any fun range => range.1 ≤ c.toNat && c.toNat ≤ range.2

/-- No range is empty, and a gap parts each from the next. A set has just one such table. -/
def apart : List (Nat × Nat) → Bool
  | [] => true
  | [range] => range.1 ≤ range.2
  | range :: next :: rest =>
    range.1 ≤ range.2 && range.2 + 1 < next.1 && apart (next :: rest)

/-- Being in a table means lying within the ends of one of its ranges. -/
theorem inRanges_iff {ranges : List (Nat × Nat)} {c : Char} :
    inRanges ranges c = true ↔ ∃ range ∈ ranges, range.1 ≤ c.toNat ∧ c.toNat ≤ range.2 := by
  simp [inRanges]

end Authorization.Text
