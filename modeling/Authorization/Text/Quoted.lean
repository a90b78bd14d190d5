import Authorization.Text.Blank
import Authorization.Text.Extender
import Authorization.Text.Invisible
import Authorization.Text.Unassigned

namespace Authorization.Text

/-- A character prints if it has a form of its own to show: it is assigned, neither blank nor
invisible, and no mark on the character before it. In ASCII that leaves the space and what follows
it up to the tilde. -/
def isPrintable (c : Char) : Bool :=
  if c.toNat < 0x80 then 0x20 ≤ c.toNat && c.toNat < 0x7F
  else !(isBlank c || isInvisible c || isExtender c || isUnassigned c)

/-- The hexadecimal digits of a number, lower case and without leading zeros. -/
def hexDigits (n : Nat) : String :=
  String.ofList (Nat.toDigits 16 n)

/-- A character as it stands inside a quoted text. -/
def quotedChar (c : Char) : String :=
  if c = '"' then "\\\""
  else if c = '\\' then "\\\\"
  else if c = '\n' then "\\n"
  else if c = '\r' then "\\r"
  else if c = '\t' then "\\t"
  else if c = Char.ofNat 0 then "\\0"
  else if isPrintable c then c.toString
  else "\\u\x7b" ++ hexDigits c.toNat ++ "\x7d"

def quoted (text : String) : String :=
  "\"" ++ String.join (text.toList.map quotedChar) ++ "\""

end Authorization.Text
