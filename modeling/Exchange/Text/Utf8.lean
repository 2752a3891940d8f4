/-! # UTF-8

Bytes of a text and text of bytes. A sequence that is no UTF-8 is refused at the first character
that cannot be read, with the number of bytes that no continuation could mend, or as incomplete
where the bytes end inside a character that might still have become one.
-/

namespace Exchange.Text.Utf8

/-- The UTF-8 bytes of a text. -/
def encode (s : String) : List UInt8 := s.toList.flatMap String.utf8EncodeChar

/-- Why bytes are not UTF-8. -/
inductive Fault where
  /-- `length` bytes at `index` begin no character, whatever follows. -/
  | invalid (length index : Nat)
  /-- The bytes end inside the character that begins at `index`. -/
  | incomplete (index : Nat)
  deriving Repr, DecidableEq

/-- How many bytes a character has after its first byte, and which second bytes are allowed. -/
structure Lead where
  tail : Nat
  low : UInt8
  high : UInt8
  deriving Repr, DecidableEq

/-- What a first byte from 0x80 up announces; `none` where no character starts with it. -/
def lead (a : UInt8) : Option Lead :=
  if 0xC2 ≤ a ∧ a ≤ 0xDF then some ⟨1, 0x80, 0xBF⟩
  else if a = 0xE0 then some ⟨2, 0xA0, 0xBF⟩
  else if a = 0xED then some ⟨2, 0x80, 0x9F⟩
  else if 0xE1 ≤ a ∧ a ≤ 0xEF then some ⟨2, 0x80, 0xBF⟩
  else if a = 0xF0 then some ⟨3, 0x90, 0xBF⟩
  else if 0xF1 ≤ a ∧ a ≤ 0xF3 then some ⟨3, 0x80, 0xBF⟩
  else if a = 0xF4 then some ⟨3, 0x80, 0x8F⟩
  else none

/-- A byte that may stand third or fourth in a character. -/
def isContinuation (b : UInt8) : Bool := 0x80 ≤ b && b ≤ 0xBF

/-- The six low bits of a continuation byte. -/
def payload (b : UInt8) : Nat := b.toNat % 64

/-- Read bytes as UTF-8; `index` counts the bytes read so far. -/
def decodeFrom (index : Nat) : List UInt8 → Except Fault (List Char)
  | [] => .ok []
  | a :: rest =>
    if a < 0x80 then (decodeFrom (index + 1) rest).map (Char.ofNat a.toNat :: ·)
    else match lead a with
      | none => .error (.invalid 1 index)
      | some l => match rest with
        | [] => .error (.incomplete index)
        | b :: rest =>
          if b < l.low || l.high < b then .error (.invalid 1 index)
          else if l.tail = 1 then
            (decodeFrom (index + 2) rest).map (Char.ofNat (a.toNat % 32 * 64 + payload b) :: ·)
          else match rest with
            | [] => .error (.incomplete index)
            | c :: rest =>
              if !isContinuation c then .error (.invalid 2 index)
              else if l.tail = 2 then
                (decodeFrom (index + 3) rest).map
                  (Char.ofNat ((a.toNat % 16 * 64 + payload b) * 64 + payload c) :: ·)
              else match rest with
                | [] => .error (.incomplete index)
                | d :: rest =>
                  if !isContinuation d then .error (.invalid 3 index)
                  else
                    (decodeFrom (index + 4) rest).map (Char.ofNat
                      (((a.toNat % 8 * 64 + payload b) * 64 + payload c) * 64 + payload d) :: ·)

/-- The text of UTF-8 bytes. -/
def decode (bytes : List UInt8) : Except Fault String :=
  (decodeFrom 0 bytes).map String.ofList

/-- The fault in words. -/
def Fault.message : Fault → String
  | .invalid length index => s!"invalid utf-8 sequence of {length} bytes from index {index}"
  | .incomplete index => s!"incomplete utf-8 byte sequence from index {index}"

end Exchange.Text.Utf8
