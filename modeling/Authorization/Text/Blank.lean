import Authorization.Text.CodePoint

namespace Authorization.Text

/-- The characters with Unicode's White_Space property, as closed ranges of code points. -/
def blankRanges : List (Nat × Nat) :=
  [(0x09, 0x0D), (0x20, 0x20), (0x85, 0x85), (0xA0, 0xA0), (0x1680, 0x1680), (0x2000, 0x200A),
   (0x2028, 0x2029), (0x202F, 0x202F), (0x205F, 0x205F), (0x3000, 0x3000)]

/-- A character is blank if one of the ranges holds it. -/
def isBlank (c : Char) : Bool :=
  inRanges blankRanges c

/-- Drops the blanks at the end of a list of characters. -/
def trimEndChars (cs : List Char) : List Char :=
  (cs.reverse.dropWhile isBlank).reverse

/-- Drops the blanks at both ends of a list of characters. -/
def trimChars (cs : List Char) : List Char :=
  trimEndChars (cs.dropWhile isBlank)

def trimEnd (text : String) : String :=
  String.ofList (trimEndChars text.toList)

/-- A text without the blanks at its two ends. -/
def trim (text : String) : String :=
  String.ofList (trimChars text.toList)

/-- Dropping stops at the first character that is not blank, so it does nothing the second time.
-/
theorem dropWhile_blank_dropWhile_blank (cs : List Char) :
    (cs.dropWhile isBlank).dropWhile isBlank = cs.dropWhile isBlank := by
  induction cs with
  | nil => rfl
  | cons c cs ih =>
    by_cases h : isBlank c = true
    · simpa [List.dropWhile_cons, h] using ih
    · simp [h]

/-- Trimming the end keeps the first character of a list that does not start with a blank. -/
theorem dropWhile_blank_trimEndChars {cs : List Char} (h : cs.dropWhile isBlank = cs) :
    (trimEndChars cs).dropWhile isBlank = trimEndChars cs := by
  cases cs with
  | nil => rfl
  | cons c cs =>
    have hc : isBlank c = false := by
      cases hb : isBlank c with
      | false => rfl
      | true =>
        have hlen := (List.dropWhile_sublist isBlank (l := cs)).length_le
        rw [List.dropWhile_cons_of_pos hb] at h
        rw [h, List.length_cons] at hlen
        omega
    obtain ⟨front, hfront⟩ : ∃ front, trimEndChars (c :: cs) = c :: front := by
      rw [trimEndChars, List.reverse_cons, List.dropWhile_append]
      split
      · exact ⟨[], by simp [hc]⟩
      · exact ⟨_, by rw [List.reverse_append]; rfl⟩
    rw [hfront, List.dropWhile_cons_of_neg (by simp [hc])]

/-- A trimmed list of characters has no blank left to trim. -/
theorem trimChars_trimChars (cs : List Char) : trimChars (trimChars cs) = trimChars cs := by
  have hstart := dropWhile_blank_trimEndChars (dropWhile_blank_dropWhile_blank cs)
  rw [trimChars, trimChars, hstart, trimEndChars, trimEndChars, List.reverse_reverse,
    dropWhile_blank_dropWhile_blank]

/-- A trimmed text has no blank left to trim. -/
theorem trim_trim (text : String) : trim (trim text) = trim text := by
  rw [trim, trim, String.toList_ofList, trimChars_trimChars]

theorem dropWhile_blank_eq_self {cs : List Char} (h : ∀ c ∈ cs, isBlank c = false) :
    cs.dropWhile isBlank = cs := by
  cases cs with
  | nil => rfl
  | cons c cs =>
    apply List.dropWhile_cons_of_neg
    rw [h c List.mem_cons_self]
    exact Bool.noConfusion

/-- A text without blanks has none to trim. -/
theorem trim_eq_self {text : String} (h : ∀ c ∈ text.toList, isBlank c = false) :
    trim text = text := by
  have hreverse : ∀ c ∈ text.toList.reverse, isBlank c = false :=
    fun c hc => h c (List.mem_reverse.mp hc)
  rw [trim, trimChars, trimEndChars, dropWhile_blank_eq_self h, dropWhile_blank_eq_self hreverse,
    List.reverse_reverse, String.ofList_toList]

/-- A trimmed text has no blank left at its end. -/
theorem trimEnd_trim (text : String) : trimEnd (trim text) = trim text := by
  rw [trimEnd, trim, String.toList_ofList, trimChars, trimEndChars, trimEndChars,
    List.reverse_reverse, dropWhile_blank_dropWhile_blank]

/-- A space at the end of a text is trimmed together with the blanks in front of it. -/
theorem trimEnd_append_space (text : String) : trimEnd (text ++ " ") = trimEnd text := by
  have hspace : isBlank ' ' = true := by decide
  have hreverse : (text ++ " ").toList.reverse = ' ' :: text.toList.reverse := by
    rw [String.toList_append, List.reverse_append]
    rfl
  rw [trimEnd, trimEnd, trimEndChars, trimEndChars, hreverse, List.dropWhile_cons_of_pos hspace]

end Authorization.Text
