/-! # Letter case of ASCII

Names of headers, character encodings and media types are compared without regard to the case of
the letters `A` to `Z`; all other characters count as written.
-/

namespace Exchange.Text

/-- Lower case of an ASCII letter; any other character is left alone. -/
def asciiLowerChar (c : Char) : Char :=
  if 'A' ≤ c ∧ c ≤ 'Z' then Char.ofNat (c.toNat + 32) else c

/-- Upper case of an ASCII letter; any other character is left alone. -/
def asciiUpperChar (c : Char) : Char :=
  if 'a' ≤ c ∧ c ≤ 'z' then Char.ofNat (c.toNat - 32) else c

/-- The text with its ASCII letters in lower case. -/
def asciiLower (s : String) : String := String.ofList (s.toList.map asciiLowerChar)

/-- The text with its ASCII letters in upper case. -/
def asciiUpper (s : String) : String := String.ofList (s.toList.map asciiUpperChar)

/-- Equality up to the case of ASCII letters. -/
def sameIgnoringCase (a b : String) : Bool := asciiLower a == asciiLower b

end Exchange.Text
