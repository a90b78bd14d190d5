namespace Authorization.Text

/-- Why a text is no numeral of a given width. -/
inductive NumeralError where
  | empty
  | invalidDigit
  | tooLarge
  | tooSmall
  deriving DecidableEq, Repr

namespace NumeralError

/-- The wording of a refused numeral. -/
def message : NumeralError → String
  | empty => "cannot parse integer from empty string"
  | invalidDigit => "invalid digit found in string"
  | tooLarge => "number too large to fit in target type"
  | tooSmall => "number too small to fit in target type"

end NumeralError

def digit? (c : Char) : Option Nat :=
  if '0' ≤ c ∧ c ≤ '9' then some (c.toNat - '0'.toNat) else none

/-- Reads digits after those that make up `value`, while the number stays within `limit`. -/
def readDigits (limit : Nat) (overflow : NumeralError) (value : Nat) :
    List Char → Except NumeralError Nat
  | [] => .ok value
  | c :: cs =>
    match digit? c with
    | none => .error .invalidDigit
    | some digit =>
      if value * 10 + digit ≤ limit then readDigits limit overflow (value * 10 + digit) cs
      else .error overflow

/-- Reads the digits that follow a sign; there must be one. -/
def readSigned (limit : Nat) (overflow : NumeralError) (cs : List Char) :
    Except NumeralError Nat :=
  if cs.isEmpty then .error .invalidDigit else readDigits limit overflow 0 cs

/-- The greatest 64-bit signed number; the least one is by one larger in size. -/
def maxInt64 : Nat := 9223372036854775807

def maxUInt32 : Nat := 4294967295

/-- Reads a 64-bit signed numeral, with an optional sign. -/
def readInt64 (text : String) : Except NumeralError Int64 :=
  match text.toList with
  | [] => .error .empty
  | '+' :: cs => (readSigned maxInt64 .tooLarge cs).map fun n => Int64.ofInt n
  | '-' :: cs => (readSigned (maxInt64 + 1) .tooSmall cs).map fun n => Int64.ofInt (-n)
  | cs => (readDigits maxInt64 .tooLarge 0 cs).map fun n => Int64.ofInt n

/-- Reads a 32-bit unsigned numeral, with an optional plus sign. -/
def readUInt32 (text : String) : Except NumeralError UInt32 :=
  match text.toList with
  | [] => .error .empty
  | '+' :: cs => (readSigned maxUInt32 .tooLarge cs).map UInt32.ofNat
  | cs => (readDigits maxUInt32 .tooLarge 0 cs).map UInt32.ofNat

end Authorization.Text
