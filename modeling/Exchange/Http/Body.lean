import Exchange.Text.AsciiCase
import Exchange.Text.Shown
import Exchange.Text.Utf8

/-! # Bodies and character encodings

A body is a list of bytes, read as a text in the character encoding that is declared for it. The
encodings are UTF-8, ISO-8859-1 and US-ASCII, each under a few names in any letter case.
-/

namespace Exchange

/-- The character encodings. -/
inductive Encoding where
  | utf8
  | latin1
  | ascii
  deriving Repr, DecidableEq

namespace Encoding

/-- The encoding of a name. -/
def ofName? (name : String) : Option Encoding :=
  match Text.asciiUpper name with
  | "UTF-8" | "UTF8" => some utf8
  | "ISO-8859-1" | "ISO8859-1" | "LATIN1" => some latin1
  | "US-ASCII" | "ASCII" => some ascii
  | _ => none

end Encoding

namespace Body

/-- Why a body is no text. -/
inductive Fault where
  /-- It is not UTF-8. -/
  | utf8 (fault : Text.Utf8.Fault)
  /-- There is a byte beyond ASCII at this offset. -/
  | notAscii (offset : Nat)
  /-- The declared encoding is not known. -/
  | unsupported (encoding : String)
  deriving Repr, DecidableEq

/-- What the body was expected to be. -/
def Fault.format : Fault → String
  | utf8 _ => "UTF-8"
  | notAscii _ => "US-ASCII"
  | unsupported _ => "text"

/-- The fault in words. -/
def Fault.message : Fault → String
  | utf8 fault => fault.message
  | notAscii offset => "non-ASCII byte at offset " ++ shown offset
  | unsupported encoding => "unsupported character encoding '" ++ encoding ++ "'"

/-- One character for every byte. -/
def byteChars (bytes : List UInt8) : String :=
  String.ofList (bytes.map fun b => Char.ofNat b.toNat)

/-- Read bytes in an encoding. -/
def decodeAs (encoding : Encoding) (bytes : List UInt8) : Except Fault String :=
  match encoding with
  | .utf8 => (Text.Utf8.decode bytes).mapError .utf8
  | .latin1 => .ok (byteChars bytes)
  | .ascii => match bytes.findIdx? fun b => 0x80 ≤ b with
    | some offset => .error (.notAscii offset)
    | none => .ok (byteChars bytes)

/-- Read bytes in the encoding of a name. -/
def decode (bytes : List UInt8) (encoding : String) : Except Fault String :=
  match Encoding.ofName? encoding with
  | some e => decodeAs e bytes
  | none => .error (.unsupported encoding)

end Body

end Exchange
