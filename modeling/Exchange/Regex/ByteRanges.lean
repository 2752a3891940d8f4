import Exchange.Text.CodeRanges

/-! # Ranges of characters as ranges of bytes

A range of characters is cut into parts whose UTF-8 bytes are independent of each other: a part is a
row of byte ranges, and its characters are all rows of one byte from each.
-/

namespace Exchange.Regex

open Exchange.Text (CodeRanges)

/-- A closed range of bytes. -/
structure ByteRange where
  low : Nat
  high : Nat
  deriving Repr, DecidableEq

/-- The UTF-8 bytes of a code point. -/
def utf8Bytes (n : Nat) : List Nat :=
  let tail (k : Nat) : Nat := 0x80 + n / Nat.pow 64 k % 64
  if n < 0x80 then [n]
  else if n < 0x800 then [0xC0 + n / 64, tail 0]
  else if n < 0x10000 then [0xE0 + n / 4096, tail 1, tail 0]
  else [0xF0 + n / 262144, tail 2, tail 1, tail 0]

/-- The part of a range between two ends, if there is one. -/
def clip (low high : Nat) (range : Nat × Nat) : List (Nat × Nat) :=
  let l := max low range.1
  let h := min high range.2
  if l ≤ h then [(l, h)] else []

/-- The parts of a range of characters whose UTF-8 has the same number of bytes. -/
def sameLengthParts (range : Nat × Nat) : List (Nat × Nat) :=
  [(0, 0x7F), (0x80, 0x7FF), (0x800, 0xD7FF), (0xE000, 0xFFFF), (0x10000, CodeRanges.greatest)
    ].flatMap fun (low, high) => clip low high range

/-- Cut a range that lies in more than one block of a size into what stands in front of the whole
    blocks, the whole blocks, and what follows them. -/
def alignedParts (block : Nat) (range : Nat × Nat) : List (Nat × Nat) :=
  let (low, high) := range
  if low / block = high / block then [range]
  else
    let first := (low + block - 1) / block * block
    let last := (high + 1) / block * block
    clip low (first - 1) range ++ clip first (last - 1) range ++ clip last high range

/-- The rows of byte ranges of a range of characters, in ascending order. -/
def byteRows (range : Nat × Nat) : List (List ByteRange) :=
  (sameLengthParts range).flatMap fun part =>
    let parts :=
      if part.2 < 0x80 then [part]
      else
        [64, 4096, 262144].foldl (fun parts block => parts.flatMap (alignedParts block)) [part]
    parts.map fun (low, high) => List.zipWith ByteRange.mk (utf8Bytes low) (utf8Bytes high)

end Exchange.Regex
