import Mathlib
import Exchange.Proofs.Ruling
import Exchange.Text.Utf8

/-! # UTF-8 read and written

Bytes are read as a text if they are the bytes of that text, and only then. Both directions go by
the sequences of bytes that stand for one character each. The bytes of texts are in the order of the
texts.
-/

namespace Exchange.Text.Utf8

variable {index : Nat} {a b : UInt8} {rest bytes : List UInt8}

/-- What a first byte announces, by the number of bytes that it asks for. The bounds on the second
    byte leave out longer forms than needed, surrogates, and what lies beyond the last character. -/
theorem lead_cases {l : Lead} (announced : lead a = some l) :
    (l.tail = 1 ∧ 0xC2 ≤ a.toNat ∧ a.toNat ≤ 0xDF ∧ l.low.toNat = 0x80 ∧ l.high.toNat = 0xBF) ∨
    (l.tail = 2 ∧ 0xE0 ≤ a.toNat ∧ a.toNat ≤ 0xEF ∧
      (a.toNat = 0xE0 ∧ l.low.toNat = 0xA0 ∨ a.toNat ≠ 0xE0 ∧ l.low.toNat = 0x80) ∧
      (a.toNat = 0xED ∧ l.high.toNat = 0x9F ∨ a.toNat ≠ 0xED ∧ l.high.toNat = 0xBF)) ∨
    (l.tail = 3 ∧ 0xF0 ≤ a.toNat ∧ a.toNat ≤ 0xF4 ∧
      (a.toNat = 0xF0 ∧ l.low.toNat = 0x90 ∨ a.toNat ≠ 0xF0 ∧ l.low.toNat = 0x80) ∧
      (a.toNat = 0xF4 ∧ l.high.toNat = 0x8F ∨ a.toNat ≠ 0xF4 ∧ l.high.toNat = 0xBF)) := by
  simp only [lead, UInt8.le_iff_toNat_le, ← UInt8.toNat_inj, UInt8.reduceToNat] at announced
  split_ifs at announced <;>
    · obtain rfl := Option.some.inj announced
      simp only [UInt8.reduceToNat]
      grind

theorem exists_lead (low : 0xC2 ≤ a.toNat) (high : a.toNat ≤ 0xF4) : ∃ l, lead a = some l := by
  cases announced : lead a with
  | some l => exact ⟨l, rfl⟩
  | none =>
      simp only [lead, UInt8.le_iff_toNat_le, ← UInt8.toNat_inj, UInt8.reduceToNat] at announced
      split_ifs at announced
      omega

theorem not_ascii_of_lead {l : Lead} (announced : lead a = some l) : ¬ a < 0x80 := by
  have bounds := lead_cases announced
  simp only [UInt8.lt_iff_toNat_lt, UInt8.reduceToNat]
  omega

theorem encodeChar_ofNat {n : Nat} (valid : n.isValidChar) :
    String.utf8EncodeChar (Char.ofNat n) =
      if n ≤ 0x7F then [UInt8.ofNat n]
      else if n ≤ 0x7FF then [UInt8.ofNat (n / 64 % 32 + 192), UInt8.ofNat (n % 64 + 128)]
      else if n ≤ 0xFFFF then
        [UInt8.ofNat (n / 4096 % 16 + 224), UInt8.ofNat (n / 64 % 64 + 128),
          UInt8.ofNat (n % 64 + 128)]
      else
        [UInt8.ofNat (n / 262144 % 8 + 240), UInt8.ofNat (n / 4096 % 64 + 128),
          UInt8.ofNat (n / 64 % 64 + 128), UInt8.ofNat (n % 64 + 128)] := by
  have number : (Char.ofNat n).val.toNat = n := by
    have := Char.toNat_ofNat n
    rwa [if_pos valid] at this
  simp only [String.utf8EncodeChar, number]

theorem encodeChar_of_ascii {c : Char} (ascii : c.toNat < 0x80) :
    String.utf8EncodeChar c = [UInt8.ofNat c.toNat] := by
  have bytes := encodeChar_ofNat (n := c.toNat) c.valid
  rwa [Char.ofNat_toNat, if_pos (by omega)] at bytes

theorem le_of_mem_encodeChar {c : Char} (beyond : 0x80 ≤ c.toNat)
    (mem : b ∈ String.utf8EncodeChar c) : 0x80 ≤ b := by
  have bytes := encodeChar_ofNat (n := c.toNat) c.valid
  rw [Char.ofNat_toNat, if_neg (by omega)] at bytes
  rw [bytes] at mem
  have above {k : Nat} (low : 128 ≤ k % 256) : 0x80 ≤ UInt8.ofNat k := by
    rwa [UInt8.le_iff_toNat_le, UInt8.toNat_ofNat']
  split_ifs at mem <;> simp only [List.mem_cons, List.not_mem_nil, or_false] at mem
  · rcases mem with rfl | rfl <;> exact above (by omega)
  · rcases mem with rfl | rfl | rfl <;> exact above (by omega)
  · rcases mem with rfl | rfl | rfl | rfl <;> exact above (by omega)

/-- The bytes that stand for the character of a number. -/
inductive Sequence : List UInt8 → Nat → Prop where
  | one {a : UInt8} (ascii : a < 0x80) : Sequence [a] a.toNat
  | two {a b : UInt8} {l : Lead} (announced : lead a = some l) (tail : l.tail = 1)
      (low : l.low ≤ b) (high : b ≤ l.high) : Sequence [a, b] (a.toNat % 32 * 64 + payload b)
  | three {a b c : UInt8} {l : Lead} (announced : lead a = some l) (tail : l.tail = 2)
      (low : l.low ≤ b) (high : b ≤ l.high) (third : isContinuation c) :
      Sequence [a, b, c] ((a.toNat % 16 * 64 + payload b) * 64 + payload c)
  | four {a b c d : UInt8} {l : Lead} (announced : lead a = some l) (tail : l.tail = 3)
      (low : l.low ≤ b) (high : b ≤ l.high) (third : isContinuation c) (fourth : isContinuation d) :
      Sequence [a, b, c, d] (((a.toNat % 8 * 64 + payload b) * 64 + payload c) * 64 + payload d)

theorem isContinuation_iff : isContinuation b ↔ 0x80 ≤ b.toNat ∧ b.toNat ≤ 0xBF := by
  simp [isContinuation, UInt8.le_iff_toNat_le]

theorem eq_ofNat_iff {n : Nat} : UInt8.ofNat n = a ↔ n % 256 = a.toNat := by
  rw [← UInt8.toNat_inj, UInt8.toNat_ofNat']

theorem Sequence.encodeChar {n : Nat} (sequence : Sequence bytes n) :
    String.utf8EncodeChar (Char.ofNat n) = bytes := by
  cases sequence with
  | @one a ascii =>
      have below : a.toNat < 0x80 := ascii
      rw [encodeChar_ofNat (.inl (by omega)), if_pos (by omega)]
      simp
  | two announced tail low high =>
      have bounds := lead_cases announced
      simp only [UInt8.le_iff_toNat_le] at low high
      simp only [payload]
      rw [encodeChar_ofNat (.inl (by omega)), if_neg (by omega), if_pos (by omega)]
      simp only [List.cons.injEq, eq_ofNat_iff, and_true]
      omega
  | @three a b c l announced tail low high third =>
      have bounds := lead_cases announced
      have third := isContinuation_iff.mp third
      simp only [UInt8.le_iff_toNat_le] at low high
      have second : 0x80 ≤ b.toNat ∧ b.toNat ≤ 0xBF := by omega
      simp only [payload]
      rw [encodeChar_ofNat (by unfold Nat.isValidChar; omega), if_neg (by omega), if_neg (by omega),
        if_pos (by omega)]
      simp only [List.cons.injEq, eq_ofNat_iff, and_true]
      omega
  | @four a b c d l announced tail low high third fourth =>
      have bounds := lead_cases announced
      have third := isContinuation_iff.mp third
      have fourth := isContinuation_iff.mp fourth
      simp only [UInt8.le_iff_toNat_le] at low high
      have second : 0x80 ≤ b.toNat ∧ b.toNat ≤ 0xBF := by omega
      simp only [payload]
      rw [encodeChar_ofNat (by unfold Nat.isValidChar; omega), if_neg (by omega), if_neg (by omega),
        if_neg (by omega)]
      simp only [List.cons.injEq, eq_ofNat_iff, and_true]
      omega

theorem sequence_encodeChar (c : Char) : Sequence (String.utf8EncodeChar c) c.toNat := by
  have valid : c.toNat.isValidChar := c.valid
  have bytes := encodeChar_ofNat valid
  rw [Char.ofNat_toNat] at bytes
  rw [bytes]
  generalize c.toNat = n at valid
  simp only [Nat.isValidChar] at valid
  have byte (k : Nat) : (UInt8.ofNat k).toNat = k % 256 := UInt8.toNat_ofNat'
  split_ifs with one two three
  · have ascii : UInt8.ofNat n < 0x80 := by
      rw [UInt8.lt_iff_toNat_lt, byte]
      simp only [UInt8.reduceToNat]
      omega
    have sequence := Sequence.one ascii
    rwa [byte, Nat.mod_eq_of_lt (by omega)] at sequence
  · obtain ⟨l, announced⟩ := exists_lead (a := UInt8.ofNat (n / 64 % 32 + 192))
      (by rw [byte]; omega) (by rw [byte]; omega)
    have bounds := lead_cases announced
    rw [byte] at bounds
    have sequence := Sequence.two (b := UInt8.ofNat (n % 64 + 128)) announced (by omega)
      (by rw [UInt8.le_iff_toNat_le, byte]; omega) (by rw [UInt8.le_iff_toNat_le, byte]; omega)
    convert sequence using 1
    simp only [payload, byte]
    omega
  · obtain ⟨l, announced⟩ := exists_lead (a := UInt8.ofNat (n / 4096 % 16 + 224))
      (by rw [byte]; omega) (by rw [byte]; omega)
    have bounds := lead_cases announced
    rw [byte] at bounds
    have sequence := Sequence.three (b := UInt8.ofNat (n / 64 % 64 + 128))
      (c := UInt8.ofNat (n % 64 + 128)) announced (by omega)
      (by rw [UInt8.le_iff_toNat_le, byte]; omega) (by rw [UInt8.le_iff_toNat_le, byte]; omega)
      (by rw [isContinuation_iff, byte]; omega)
    convert sequence using 1
    simp only [payload, byte]
    omega
  · obtain ⟨l, announced⟩ := exists_lead (a := UInt8.ofNat (n / 262144 % 8 + 240))
      (by rw [byte]; omega) (by rw [byte]; omega)
    have bounds := lead_cases announced
    rw [byte] at bounds
    have sequence := Sequence.four (b := UInt8.ofNat (n / 4096 % 64 + 128))
      (c := UInt8.ofNat (n / 64 % 64 + 128)) (d := UInt8.ofNat (n % 64 + 128)) announced (by omega)
      (by rw [UInt8.le_iff_toNat_le, byte]; omega) (by rw [UInt8.le_iff_toNat_le, byte]; omega)
      (by rw [isContinuation_iff, byte]; omega) (by rw [isContinuation_iff, byte]; omega)
    convert sequence using 1
    simp only [payload, byte]
    omega

theorem Sequence.decodeFrom {n : Nat} (sequence : Sequence bytes n) (index : Nat) :
    Utf8.decodeFrom index (bytes ++ rest) =
      (Utf8.decodeFrom (index + bytes.length) rest).map (Char.ofNat n :: ·) := by
  cases sequence with
  | one ascii => simp [Utf8.decodeFrom, ascii]
  | @two a b l announced tail low high =>
      have above := not_ascii_of_lead announced
      have below := UInt8.not_lt.mpr low
      have beyond := UInt8.not_lt.mpr high
      simp [Utf8.decodeFrom, above, announced, tail, below, beyond]
  | @three a b c l announced tail low high third =>
      have above := not_ascii_of_lead announced
      have below := UInt8.not_lt.mpr low
      have beyond := UInt8.not_lt.mpr high
      simp [Utf8.decodeFrom, above, announced, tail, below, beyond, third]
  | @four a b c d l announced tail low high third fourth =>
      have above := not_ascii_of_lead announced
      have below := UInt8.not_lt.mpr low
      have beyond := UInt8.not_lt.mpr high
      simp [Utf8.decodeFrom, above, announced, tail, below, beyond, third, fourth]

/-- Where the bytes behind a sequence are those of what they are read as, all the bytes are. -/
theorem Sequence.eq_flatMap {n : Nat} {cs : List Char} (sequence : Sequence bytes n)
    (read : (Utf8.decodeFrom index rest).map (Char.ofNat n :: ·) = .ok cs)
    (behind : ∀ {cs}, Utf8.decodeFrom index rest = .ok cs →
      rest = cs.flatMap String.utf8EncodeChar) :
    bytes ++ rest = cs.flatMap String.utf8EncodeChar := by
  obtain ⟨later, readLater, rfl⟩ := map_eq_ok_iff.mp read
  rw [List.flatMap_cons, sequence.encodeChar, ← behind readLater]

theorem eq_flatMap_of_decodeFrom {cs : List Char} (read : decodeFrom index bytes = .ok cs) :
    bytes = cs.flatMap String.utf8EncodeChar := by
  fun_induction Utf8.decodeFrom index bytes generalizing cs with
  | case1 =>
      cases read
      rfl
  | case2 index a rest ascii ih => exact (Sequence.one ascii).eq_flatMap read ih
  | case6 index a above l announced b rest inside tail ih =>
      simp only [Bool.or_eq_true, decide_eq_true_eq, not_or, UInt8.not_lt] at inside
      exact (Sequence.two announced tail inside.1 inside.2).eq_flatMap read ih
  | case9 index a above l announced b inside more c rest third tail ih =>
      simp only [Bool.or_eq_true, decide_eq_true_eq, not_or, UInt8.not_lt] at inside
      exact (Sequence.three announced tail inside.1 inside.2 (by simpa using third)).eq_flatMap
        read ih
  | case12 index a above l announced b inside more c third most d rest fourth ih =>
      simp only [Bool.or_eq_true, decide_eq_true_eq, not_or, UInt8.not_lt] at inside
      have tail : l.tail = 3 := by
        have bounds := lead_cases announced
        omega
      exact (Sequence.four announced tail inside.1 inside.2 (by simpa using third)
        (by simpa using fourth)).eq_flatMap read ih
  | _ => cases read

/-- Bytes are read as the characters whose bytes they are, and as nothing else. -/
theorem decodeFrom_eq_ok_iff {cs : List Char} :
    decodeFrom index bytes = .ok cs ↔ bytes = cs.flatMap String.utf8EncodeChar := by
  constructor
  · exact eq_flatMap_of_decodeFrom
  · rintro rfl
    induction cs generalizing index with
    | nil => simp [decodeFrom]
    | cons c cs ih =>
        rw [List.flatMap_cons, (sequence_encodeChar c).decodeFrom, ih, Char.ofNat_toNat]
        rfl

theorem decode_eq_ok_iff {s : String} : decode bytes = .ok s ↔ bytes = encode s := by
  unfold decode encode
  constructor
  · intro read
    obtain ⟨cs, readChars, rfl⟩ := map_eq_ok_iff.mp read
    rw [String.toList_ofList]
    exact decodeFrom_eq_ok_iff.mp readChars
  · intro same
    rw [decodeFrom_eq_ok_iff.mpr same]
    simp [Except.map]

theorem encode_inj {s t : String} : encode s = encode t ↔ s = t := by
  refine ⟨fun same => ?_, congrArg encode⟩
  have read : decode (encode s) = .ok t := decode_eq_ok_iff.mpr same
  rw [decode_eq_ok_iff.mpr rfl] at read
  exact Except.ok.inj read

/-- The first bytes that differ put one sequence before the other, whatever follows. -/
inductive Before : List UInt8 → List UInt8 → Prop where
  | here {a b : UInt8} {as bs : List UInt8} (less : a < b) : Before (a :: as) (b :: bs)
  | later {a : UInt8} {as bs : List UInt8} (before : Before as bs) : Before (a :: as) (a :: bs)

theorem before_cons_iff {a b : UInt8} {as bs : List UInt8} :
    Before (a :: as) (b :: bs) ↔ a.toNat < b.toNat ∨ a.toNat = b.toNat ∧ Before as bs := by
  rw [UInt8.toNat_inj]
  constructor
  · rintro (less | before)
    · exact .inl less
    · exact .inr ⟨rfl, before⟩
  · rintro (less | ⟨rfl, before⟩)
    · exact .here less
    · exact .later before

/-- The bytes of characters are in the order of the characters, and none are the first bytes of
    another. -/
theorem before_encodeChar {c d : Char} (less : c < d) :
    Before (String.utf8EncodeChar c) (String.utf8EncodeChar d) := by
  have first := encodeChar_ofNat (n := c.toNat) c.valid
  have second := encodeChar_ofNat (n := d.toNat) d.valid
  have less : c.toNat < d.toNat := less
  have valid : d.toNat.isValidChar := d.valid
  rw [Char.ofNat_toNat] at first second
  rw [first, second]
  generalize c.toNat = m at less
  generalize d.toNat = n at less valid
  simp only [Nat.isValidChar] at valid
  -- Six bits at a time, so that the digits in front come from the same quotients.
  have twice (k : Nat) : k / 4096 = k / 64 / 64 := by omega
  have thrice (k : Nat) : k / 262144 = k / 64 / 64 / 64 := by omega
  split_ifs <;>
    · simp only [before_cons_iff, UInt8.toNat_ofNat', twice, thrice]
      omega

theorem Before.append_lt {as bs : List UInt8} (before : Before as bs) (more other : List UInt8) :
    as ++ more < bs ++ other := by
  induction before with
  | here less => exact List.Lex.rel less
  | later _ ih => exact List.Lex.cons ih

theorem flatMap_encodeChar_lt {cs ds : List Char} (less : cs < ds) :
    cs.flatMap String.utf8EncodeChar < ds.flatMap String.utf8EncodeChar := by
  induction less with
  | @nil d ds =>
      obtain ⟨b, more, bytes⟩ := List.exists_cons_of_ne_nil (String.utf8EncodeChar_ne_nil (c := d))
      rw [List.flatMap_nil, List.flatMap_cons, bytes]
      exact List.Lex.nil
  | @rel c cs d ds less => exact (before_encodeChar less).append_lt _ _
  | @cons c cs ds _ ih =>
      rw [List.flatMap_cons, List.flatMap_cons]
      induction String.utf8EncodeChar c with
      | nil => exact ih
      | cons b bytes ih => exact List.Lex.cons ih

theorem encode_lt_encode_iff {s t : String} : encode s < encode t ↔ s < t := by
  constructor
  · intro less
    rcases lt_trichotomy s t with below | rfl | above
    · exact below
    · exact absurd less (List.lt_irrefl _)
    · exact absurd less (List.lt_asymm (flatMap_encodeChar_lt above))
  · exact fun less => flatMap_encodeChar_lt less

end Exchange.Text.Utf8
