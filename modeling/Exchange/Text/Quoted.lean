import Exchange.Text.UnprintableTable

/-! # Quoted texts

A text between double quotes, in which the quote, the backslash and the usual controls have
backslash escapes and every other character that would not show on its own is spelt by its number.
-/

namespace Exchange.Text

/-- Lower-case hexadecimal digits. -/
def hexDigits (n : Nat) : List Char := Nat.toDigits 16 n

/-- Must the character be spelt by its number? -/
def isHidden (c : Char) : Bool :=
  unprintable.contains c.toNat || graphemeExtend.contains c.toNat

/-- How one character is written between the quotes. -/
def escapeChar (c : Char) : List Char :=
  if c = '\x00' then ['\\', '0']
  else if c = '\t' then ['\\', 't']
  else if c = '\r' then ['\\', 'r']
  else if c = '\n' then ['\\', 'n']
  else if c = '"' then ['\\', '"']
  else if c = '\\' then ['\\', '\\']
  else if isHidden c then ['\\', 'u', '\x7b'] ++ hexDigits c.toNat ++ ['\x7d']
  else [c]

/-- The text in quotes. -/
def quoted (s : String) : String :=
  String.ofList ('"' :: s.toList.flatMap escapeChar ++ ['"'])

end Exchange.Text
