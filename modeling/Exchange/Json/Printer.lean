import Exchange.Json.Value
import Exchange.Text.Shown

/-! # JSON text

`Json.text` writes a value without blanks, its members in their order. `shown` writes a value for a
message, where its kind is spelt out.
-/

namespace Exchange

/-- The text of a number. -/
def JsonNumber.text : JsonNumber → String
  | .int n => shown n
  | .float x => Number.Layout.json.write x

namespace Json

/-- Four hexadecimal digits. -/
def hex4 (n : Nat) : List Char :=
  let digits := Text.hexDigits n
  List.replicate (4 - digits.length) '0' ++ digits

/-- How a character is written in a JSON string. -/
def escape (c : Char) : List Char :=
  if c = '"' then ['\\', '"']
  else if c = '\\' then ['\\', '\\']
  else if c = '\x08' then ['\\', 'b']
  else if c = '\t' then ['\\', 't']
  else if c = '\n' then ['\\', 'n']
  else if c = '\x0c' then ['\\', 'f']
  else if c = '\r' then ['\\', 'r']
  else if c.toNat < 0x20 then '\\' :: 'u' :: hex4 c.toNat
  else [c]

/-- A JSON string. -/
def stringChars (s : String) : List Char := '"' :: s.toList.flatMap escape ++ ['"']

mutual
/-- The characters of a value. -/
def chars : Json → List Char
  | .null => ['n', 'u', 'l', 'l']
  | .bool true => ['t', 'r', 'u', 'e']
  | .bool false => ['f', 'a', 'l', 's', 'e']
  | .number n => n.text.toList
  | .string s => stringChars s
  | .array items => '[' :: itemChars items ++ [']']
  | .object members => '\x7b' :: memberChars members ++ ['\x7d']

/-- The items of an array with commas between them. -/
def itemChars : List Json → List Char
  | [] => []
  | [item] => item.chars
  | item :: rest => item.chars ++ ',' :: itemChars rest

/-- The members of an object with commas between them. -/
def memberChars : List (String × Json) → List Char
  | [] => []
  | [(name, value)] => stringChars name ++ ':' :: value.chars
  | (name, value) :: rest => stringChars name ++ ':' :: value.chars ++ ',' :: memberChars rest
end

/-- The compact text of a value. -/
def text (j : Json) : String := String.ofList j.chars

mutual
/-- A value in a message. -/
def inMessage : Json → String
  | .null => "Null"
  | .bool b => "Bool(" ++ shown b ++ ")"
  | .number n => "Number(" ++ n.text ++ ")"
  | .string s => "String(" ++ shown s ++ ")"
  | .array items => "Array " ++ Text.bracketed (itemsInMessage items)
  | .object members => "Object \x7b" ++ Text.commaSeparated (membersInMessage members) ++ "\x7d"

/-- Items in a message. -/
def itemsInMessage : List Json → List String
  | [] => []
  | item :: rest => item.inMessage :: itemsInMessage rest

/-- Members in a message. -/
def membersInMessage : List (String × Json) → List String
  | [] => []
  | (name, value) :: rest => (shown name ++ ": " ++ value.inMessage) :: membersInMessage rest
end

instance : Shown Json := ⟨inMessage⟩

end Json

end Exchange
