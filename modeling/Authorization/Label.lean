import Authorization.Text.Blank

namespace Authorization

/-- A trimmed text with at least one character. -/
structure Label where
  text : String
  trimmed : Text.trim text = text
  nonempty : text ≠ ""
  deriving DecidableEq

namespace Label

instance : ToString Label where
  toString label := label.text

/-- The label that a text spells; a blank text spells none. -/
def ofText? (text : String) : Option Label :=
  if h : Text.trim text = "" then none else some ⟨Text.trim text, Text.trim_trim text, h⟩

theorem text_of_ofText? {text : String} {label : Label} (h : ofText? text = some label) :
    label.text = Text.trim text := by
  unfold ofText? at h
  split at h
  · contradiction
  · cases h; rfl

/-- The text of a label spells that label. -/
theorem ofText?_text (label : Label) : ofText? label.text = some label := by
  obtain ⟨text, trimmed, nonempty⟩ := label
  simp [ofText?, trimmed, nonempty]

end Label

end Authorization
