import Authorization.Text.Blank
import Authorization.Text.Numeral
import Mathlib.Data.Nat.Notation

namespace Authorization.Text

variable {limit : Nat} {overflow : NumeralError}

theorem digit?_digitChar {digit : Nat} (h : digit < 10) :
    digit? (Nat.digitChar digit) = some digit := by
  revert digit
  decide

/-- The digits of a number are read after those in front of them. -/
theorem readDigits_append {value n : Nat} {front back : List Char}
    (h : readDigits limit overflow value front = .ok n) :
    readDigits limit overflow value (front ++ back) = readDigits limit overflow n back := by
  induction front generalizing value with
  | nil =>
    cases h
    rfl
  | cons c front ih =>
    rw [List.cons_append, readDigits]
    rw [readDigits] at h
    split at h
    · cases h
    · split at h
      · next hfits => rw [if_pos hfits, ih h]
      · cases h

theorem readDigits_digitChar {value digit : Nat} (hdigit : digit < 10)
    (hfits : value * 10 + digit ≤ limit) :
    readDigits limit overflow value [Nat.digitChar digit] = .ok (value * 10 + digit) := by
  rw [readDigits, digit?_digitChar hdigit]
  exact if_pos hfits

/-- A number within the limit is read from its digits. -/
theorem readDigits_toDigits {n : Nat} (h : n ≤ limit) :
    readDigits limit overflow 0 (Nat.toDigits 10 n) = .ok n := by
  induction n using Nat.strongRecOn with
  | ind n ih =>
    by_cases hsmall : n < 10
    · rw [Nat.toDigits_of_lt_base hsmall, readDigits_digitChar hsmall (by omega)]
      simp
    · -- All digits but the last one are those of a tenth of the number.
      have hlast : n % 10 < 10 := by omega
      have hfront := ih (n / 10) (by omega) (by omega)
      have hsplit : Nat.toDigits 10 n = Nat.toDigits 10 (n / 10) ++ [Nat.digitChar (n % 10)] := by
        rw [← Nat.toDigits_of_lt_base hlast,
          Nat.toDigits_append_toDigits (by omega) (by omega) hlast, Nat.div_add_mod]
      calc
        readDigits limit overflow 0 (Nat.toDigits 10 n)
        _ = readDigits limit overflow (n / 10) [Nat.digitChar (n % 10)] := by
          rw [hsplit, readDigits_append hfront]
        _ = .ok (n / 10 * 10 + n % 10) := readDigits_digitChar hlast (by omega)
        _ = .ok n := by rw [Nat.div_add_mod']

theorem readSigned_toDigits {n : Nat} (h : n ≤ limit) :
    readSigned limit overflow (Nat.toDigits 10 n) = .ok n := by
  have hdigits : ¬(Nat.toDigits 10 n).isEmpty = true := by
    rw [List.isEmpty_iff]
    exact Nat.toDigits_ne_nil
  rw [readSigned, if_neg hdigits, readDigits_toDigits h]

theorem isDigit_of_mem_toDigits {n : Nat} {c : Char} (h : c ∈ Nat.toDigits 10 n) :
    c.isDigit = true :=
  Nat.isDigit_of_mem_toDigits (by decide) (by decide) h

/-- The digits of a number do not start with a sign. -/
theorem toDigits_ne_cons {n : Nat} {sign : Char} (h : sign.isDigit = false) {cs : List Char} :
    Nat.toDigits 10 n ≠ sign :: cs := by
  intro hdigits
  have hmem : sign ∈ Nat.toDigits 10 n := hdigits ▸ List.mem_cons_self
  rw [isDigit_of_mem_toDigits hmem] at h
  cases h

/-- A number that is not negative is written without a sign. -/
theorem toList_toString_ofNat (n : Nat) : (toString (n : Int)).toList = Nat.toDigits 10 n :=
  Nat.toList_repr

theorem toList_toString_negSucc (n : Nat) :
    (toString (Int.negSucc n)).toList = '-' :: Nat.toDigits 10 (n + 1) := by
  have hwritten : toString (Int.negSucc n) = "-" ++ (n + 1).repr := rfl
  rw [hwritten, String.toList_append, Nat.toList_repr]
  rfl

/-- Every number is read back from how it is written. -/
theorem readInt64_toString (n : Int64) : readInt64 (toString n.toInt) = .ok n := by
  have hlower := n.le_toInt
  have hupper := n.toInt_lt
  have hsame := n.ofInt_toInt
  cases hsign : n.toInt with
  | ofNat m =>
    rw [hsign, Int.ofNat_eq_natCast] at hupper hsame
    have hfits : m ≤ maxInt64 := by
      rw [maxInt64]
      omega
    have hread : readDigits maxInt64 .tooLarge 0 (Nat.toDigits 10 m) = .ok m :=
      readDigits_toDigits hfits
    rw [Int.ofNat_eq_natCast, readInt64, toList_toString_ofNat]
    -- The first digit is taken neither for the end of the text nor for a sign.
    split
    · next hnil => exact absurd hnil Nat.toDigits_ne_nil
    · next hsigned => exact absurd hsigned (toDigits_ne_cons (by decide))
    · next hsigned => exact absurd hsigned (toDigits_ne_cons (by decide))
    · simp only [hread]
      exact congrArg Except.ok hsame
  | negSucc m =>
    rw [hsign] at hlower hsame
    have hfits : m + 1 ≤ maxInt64 + 1 := by
      rw [maxInt64]
      omega
    have hread : readSigned (maxInt64 + 1) .tooSmall (Nat.toDigits 10 (m + 1)) = .ok (m + 1) :=
      readSigned_toDigits hfits
    rw [readInt64, toList_toString_negSucc]
    simp only [hread]
    exact congrArg Except.ok hsame

theorem isBlank_eq_false_of_isDigit {c : Char} (h : c.isDigit = true) : isBlank c = false := by
  have hdigit : 48 ≤ c.toNat ∧ c.toNat ≤ 57 := by
    rw [Char.isDigit, Bool.and_eq_true, decide_eq_true_eq, decide_eq_true_eq] at h
    exact h
  have hapart : ∀ range ∈ blankRanges, range.2 < 48 ∨ 57 < range.1 := by decide
  rw [← Bool.not_eq_true, isBlank, inRanges_iff]
  rintro ⟨range, hrange, hfirst, hlast⟩
  have hside := hapart range hrange
  omega

/-- No numeral has blanks around it. -/
theorem trim_toString (n : Int) : trim (toString n) = toString n := by
  apply trim_eq_self
  intro c hc
  cases n with
  | ofNat m =>
    rw [Int.ofNat_eq_natCast, toList_toString_ofNat] at hc
    exact isBlank_eq_false_of_isDigit (isDigit_of_mem_toDigits hc)
  | negSucc m =>
    rw [toList_toString_negSucc, List.mem_cons] at hc
    rcases hc with rfl | hc
    · decide
    · exact isBlank_eq_false_of_isDigit (isDigit_of_mem_toDigits hc)

end Authorization.Text
