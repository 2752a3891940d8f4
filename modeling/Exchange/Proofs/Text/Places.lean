import Mathlib
import Exchange.Proofs.Text.Utf8

/-! # Places in texts

A place counts the bytes in front of it. A text can be cut where a character begins or the text
ends, and nowhere else. In front of an ASCII byte and behind it are always such places, as no byte
of a longer character is ASCII.
-/

namespace Exchange.Text

open Utf8 (encode)

variable {text piece : String} {start stop i : Nat} {b : UInt8}

/-- Does a character begin here, or the text end? -/
def IsPlace (text : String) (i : Nat) : Prop := (String.Pos.Raw.mk i).IsValid text

instance : Decidable (IsPlace text i) :=
  inferInstanceAs (Decidable ((String.Pos.Raw.mk i).IsValid text))

/-- The text from one place to another; `none` where it cannot be cut so. -/
def cut? (text : String) (start stop : Nat) : Option String :=
  if places : IsPlace text start ∧ IsPlace text stop ∧ start ≤ stop then
    some (text.extract (text.pos ⟨start⟩ places.1) (text.pos ⟨stop⟩ places.2.1))
  else none

theorem encode_append (front back : String) :
    encode (front ++ back) = encode front ++ encode back := by
  rw [encode, String.toList_append, List.flatMap_append, encode, encode]

theorem length_encode (text : String) : (encode text).length = text.utf8ByteSize := by
  rw [encode, ← String.size_toByteArray, ← String.utf8Encode_toList, List.utf8Encode,
    List.size_toByteArray]

theorem lt_of_getElem? (here : (encode text)[i]? = some b) : i < text.utf8ByteSize := by
  have inside := (List.getElem?_eq_some_iff.mp here).1
  rwa [length_encode] at inside

theorem encodeChar_of_ascii_byte (ascii : b < 0x80) :
    String.utf8EncodeChar (Char.ofNat b.toNat) = [b] := (Utf8.Sequence.one ascii).encodeChar

theorem encode_singleton (ascii : b < 0x80) :
    encode (String.singleton (Char.ofNat b.toNat)) = [b] := by
  rw [encode, String.toList_singleton, List.flatMap_singleton, encodeChar_of_ascii_byte ascii]

/-- Where an ASCII byte stands among the bytes of characters, its character stands among them. -/
theorem exists_split_of_ascii {cs : List Char} (ascii : b < 0x80)
    (here : (cs.flatMap String.utf8EncodeChar)[i]? = some b) :
    ∃ before after, cs = before ++ Char.ofNat b.toNat :: after ∧
      (before.flatMap String.utf8EncodeChar).length = i := by
  induction cs generalizing i with
  | nil => cases here
  | cons c cs ih =>
      rw [List.flatMap_cons] at here
      rcases Nat.lt_or_ge i (String.utf8EncodeChar c).length with inside | beyond
      · rw [List.getElem?_append_left inside] at here
        have one : c.toNat < 0x80 := by
          by_contra more
          have listed := List.mem_of_getElem? here
          have above := Utf8.le_of_mem_encodeChar (Nat.le_of_not_lt more) listed
          exact absurd ascii (UInt8.not_lt.mpr above)
        rw [Utf8.encodeChar_of_ascii one] at inside here
        obtain rfl : i = 0 := by simpa using inside
        obtain rfl : UInt8.ofNat c.toNat = b := Option.some.inj here
        have same : (UInt8.ofNat c.toNat).toNat = c.toNat := by
          rw [UInt8.toNat_ofNat']
          omega
        exact ⟨[], cs, by rw [same, Char.ofNat_toNat, List.nil_append], rfl⟩
      · rw [List.getElem?_append_right beyond] at here
        obtain ⟨before, after, rfl, length⟩ := ih here
        refine ⟨c :: before, after, rfl, ?_⟩
        rw [List.flatMap_cons, List.length_append, length]
        omega

theorem mem_encode_iff_of_ascii (ascii : b < 0x80) :
    b ∈ encode text ↔ Char.ofNat b.toNat ∈ text.toList := by
  constructor
  · intro listed
    obtain ⟨i, here⟩ := List.mem_iff_getElem?.mp listed
    obtain ⟨before, after, chars, -⟩ := exists_split_of_ascii ascii here
    rw [chars]
    exact List.mem_append_right before List.mem_cons_self
  · intro listed
    refine List.mem_flatMap.mpr ⟨_, listed, ?_⟩
    rw [encodeChar_of_ascii_byte ascii]
    exact List.mem_singleton_self b

theorem findIdx?_eq_none {bytes : List UInt8} (absent : b ∉ bytes) :
    bytes.findIdx? (· == b) = none := by
  rw [List.findIdx?_eq_none_iff]
  intro a listed
  rw [beq_eq_false_iff_ne]
  rintro rfl
  exact absent listed

theorem findIdx?_encode (ascii : b < 0x80) : (encode text).findIdx? (· == b) =
    (text.find? (Char.ofNat b.toNat)).map fun place => place.offset.byteIdx := by
  cases found : text.find? (Char.ofNat b.toNat) with
  | none =>
      rw [String.find?_eq_find?_toSlice, Option.map_eq_none_iff, String.Slice.find?_eq_none_iff,
        String.Slice.contains_char_eq, String.copy_toSlice, decide_eq_false_iff_not,
        ← mem_encode_iff_of_ascii ascii] at found
      exact findIdx?_eq_none found
  | some place =>
      obtain ⟨front, back, splits, absent⟩ := String.find?_char_eq_some_iff_splits.mp found
      have offset : place.offset.byteIdx = (encode front).length := by
        rw [splits.offset_eq_rawEndPos, length_encode, String.byteIdx_rawEndPos]
      rw [← mem_encode_iff_of_ascii ascii] at absent
      rw [Option.map_some, offset, splits.eq_append, encode_append, encode_append,
        encode_singleton ascii, List.findIdx?_append, findIdx?_eq_none absent]
      simp [List.findIdx?_cons]

theorem isPlace_iff : IsPlace text i ↔
    ∃ front back : String, text = front ++ back ∧ front.utf8ByteSize = i := by
  rw [IsPlace, String.Pos.Raw.isValid_iff_exists_append]
  simp [String.Pos.Raw.ext_iff, eq_comm]

theorem IsPlace.le (place : IsPlace text i) : i ≤ text.utf8ByteSize := place.le_utf8ByteSize

theorem isPlace_zero (text : String) : IsPlace text 0 := String.Pos.Raw.isValid_zero

theorem isPlace_end (text : String) : IsPlace text text.utf8ByteSize :=
  String.Pos.Raw.isValid_rawEndPos

theorem isPlace_behind {before after : List Char} (chars : text.toList = before ++ after) :
    IsPlace text (before.flatMap String.utf8EncodeChar).length := by
  refine isPlace_iff.mpr ⟨String.ofList before, String.ofList after, ?_, ?_⟩
  · rw [← String.ofList_append, ← chars, String.ofList_toList]
  · rw [← length_encode, encode, String.toList_ofList]

theorem isPlace_of_ascii (ascii : b < 0x80) (here : (encode text)[i]? = some b) :
    IsPlace text i ∧ IsPlace text (i + 1) := by
  obtain ⟨before, after, chars, rfl⟩ := exists_split_of_ascii ascii here
  refine ⟨isPlace_behind chars, ?_⟩
  rw [List.append_cons] at chars
  have behind := isPlace_behind chars
  rwa [List.flatMap_append, List.length_append, List.flatMap_singleton,
    encodeChar_of_ascii_byte ascii] at behind

theorem exists_cut (first : IsPlace text start) (last : IsPlace text stop) (le : start ≤ stop) :
    ∃ piece, cut? text start stop = some piece := ⟨_, dif_pos ⟨first, last, le⟩⟩

theorem extract_eq_iff_splits {p q : text.Pos} (le : p ≤ q) : text.extract p q = piece ↔
    ∃ front back, p.Splits front (piece ++ back) ∧ q.Splits (front ++ piece) back := by
  rw [String.extract_eq_copy_slice p q le, ← String.copy_slice_eq_iff_splits,
    exists_prop_of_true le]

theorem cut?_eq_some_iff : cut? text start stop = some piece ↔ ∃ front back : String,
    text = front ++ piece ++ back ∧ front.utf8ByteSize = start ∧
      (front ++ piece).utf8ByteSize = stop := by
  constructor
  · intro made
    rw [cut?] at made
    split at made
    · rename_i places
      obtain ⟨front, back, first, last⟩ :=
        (extract_eq_iff_splits places.2.2).mp (Option.some.inj made)
      exact ⟨front, back, last.eq_append, (congrArg (·.byteIdx) first.offset_eq_rawEndPos).symm,
        (congrArg (·.byteIdx) last.offset_eq_rawEndPos).symm⟩
    · cases made
  · rintro ⟨front, back, same, rfl, rfl⟩
    have behind : text = front ++ (piece ++ back) := same.trans (String.append_assoc ..)
    have le : front.utf8ByteSize ≤ (front ++ piece).utf8ByteSize := by
      rw [String.utf8ByteSize_append]
      exact Nat.le_add_right _ _
    have places : IsPlace text front.utf8ByteSize ∧ IsPlace text (front ++ piece).utf8ByteSize ∧
        front.utf8ByteSize ≤ (front ++ piece).utf8ByteSize :=
      ⟨isPlace_iff.mpr ⟨front, _, behind, rfl⟩, isPlace_iff.mpr ⟨_, back, same, rfl⟩, le⟩
    rw [cut?, dif_pos places, Option.some.injEq, extract_eq_iff_splits places.2.2]
    exact ⟨front, back, ⟨behind, rfl⟩, ⟨same, rfl⟩⟩

/-- Within a character there is nowhere to cut. -/
example : cut? "né:a" 1 3 = some "é" ∧ cut? "né:a" 2 3 = none := by decide

theorem slice_encode_of_cut (made : cut? text start stop = some piece) :
    ((encode text).take stop).drop start = encode piece := by
  obtain ⟨front, back, rfl, rfl, rfl⟩ := cut?_eq_some_iff.mp made
  rw [encode_append, ← length_encode, ← length_encode, List.take_left, encode_append,
    List.drop_left]

end Exchange.Text
