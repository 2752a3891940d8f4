import Mathlib
import Exchange.Proofs.Json.NumberText
import Exchange.Proofs.Number.NumeralValue
import Exchange.Proofs.Text.AsciiCase

/-! # How numerals are written

A sign, digits with a point before, among or after them, and a power of ten, where sign, point and
power may be missing: texts of this form are read as numerals, each in the parts that it is written
in, and no other text is. The words for infinity are no numerals but are read as numbers.
-/

namespace Exchange.Number

variable {cs sign digits whole fraction rest : List Char} {negative : Bool} {i exponent : Int}
  {n : Numeral}

/-- Decimal digits. -/
def AllDigits (cs : List Char) : Prop := ∀ c ∈ cs, isDigit c = true

/-- An optional sign. -/
inductive SpellsSign : List Char → Bool → Prop where
  | none : SpellsSign [] false
  | plus : SpellsSign ['+'] false
  | minus : SpellsSign ['-'] true

/-- An optional sign and digits, at least one. -/
inductive SpellsInteger : List Char → Int → Prop where
  | signed {sign digits : List Char} {negative : Bool} (signs : SpellsSign sign negative)
      (all : AllDigits digits) (given : digits ≠ []) :
      SpellsInteger (sign ++ digits)
        (if negative then -(digitsValue digits : Int) else digitsValue digits)

/-- Digits with at most one point among them. -/
inductive SpellsDigits : List Char → List Char → List Char → Prop where
  | whole {whole : List Char} (all : AllDigits whole) : SpellsDigits whole whole []
  | pointed {whole fraction : List Char} (all : AllDigits whole) (all' : AllDigits fraction) :
      SpellsDigits (whole ++ '.' :: fraction) whole fraction

/-- An optional power of ten. -/
inductive SpellsExponent : List Char → Int → Prop where
  | none : SpellsExponent [] 0
  | power {letter : Char} {cs : List Char} {exponent : Int} (letters : letter = 'e' ∨ letter = 'E')
      (spells : SpellsInteger cs exponent) : SpellsExponent (letter :: cs) exponent

/-- A numeral: a sign, at least one digit, and a power of ten. -/
inductive Spells : List Char → Numeral → Prop where
  | numeral {sign digits power whole fraction : List Char} {negative : Bool} {exponent : Int}
      (signs : SpellsSign sign negative) (spells : SpellsDigits digits whole fraction)
      (given : ¬(whole = [] ∧ fraction = [])) (powers : SpellsExponent power exponent) :
      Spells (sign ++ (digits ++ power)) ⟨negative, whole, fraction, exponent⟩

theorem spellsSign_takeSign (cs : List Char) :
    ∃ sign, SpellsSign sign (takeSign cs).1 ∧ cs = sign ++ (takeSign cs).2 := by
  unfold takeSign
  split
  · exact ⟨['-'], .minus, rfl⟩
  · exact ⟨['+'], .plus, rfl⟩
  · exact ⟨[], .none, rfl⟩

/-- No sign follows a sign. -/
def Unsigned (cs : List Char) : Prop := ∀ c ∈ cs.head?, c ≠ '-' ∧ c ≠ '+'

theorem SpellsSign.takeSign_append (signs : SpellsSign sign negative) (unsigned : Unsigned rest) :
    takeSign (sign ++ rest) = (negative, rest) := by
  cases signs with
  | plus | minus => rfl
  | none =>
      cases rest with
      | nil => rfl
      | cons c rest =>
          obtain ⟨minus, plus⟩ := unsigned c rfl
          simp [takeSign, minus, plus]

theorem AllDigits.unsigned (all : AllDigits digits) (given : digits ≠ []) (rest : List Char) :
    Unsigned (digits ++ rest) := by
  obtain ⟨c, cs, rfl⟩ := List.exists_cons_of_ne_nil given
  intro d first
  obtain rfl : c = d := by simpa using first
  have digit := all c List.mem_cons_self
  refine ⟨?_, ?_⟩ <;>
    · rintro rfl
      cases digit

theorem readInt?_eq_some_iff : readInt? cs = some i ↔ SpellsInteger cs i := by
  constructor
  · intro read
    obtain ⟨sign, signs, split⟩ := spellsSign_takeSign cs
    simp only [readInt?] at read
    split at read
    · rename_i shape
      cases read
      have spells := SpellsInteger.signed signs (List.all_eq_true.mp shape.2) shape.1
      rwa [← split] at spells
    · cases read
  · rintro ⟨signs, all, given⟩
    rename_i sign digits negative
    have unsigned := all.unsigned given []
    rw [List.append_nil] at unsigned
    simp only [readInt?, signs.takeSign_append unsigned]
    rw [if_pos ⟨given, List.all_eq_true.mpr all⟩]

theorem readExponent?_eq_some_iff : readExponent? cs = some exponent ↔ SpellsExponent cs exponent := by
  constructor
  · intro read
    cases cs with
    | nil =>
        cases read
        exact .none
    | cons letter rest =>
        rw [readExponent?] at read
        split at read
        · rename_i letters
          exact .power letters (readInt?_eq_some_iff.mp read)
        · cases read
  · intro spells
    cases spells with
    | none => rfl
    | power letters spells =>
        rw [readExponent?, if_pos letters]
        exact readInt?_eq_some_iff.mpr spells

/-- Cut the digits off a text. -/
def takeDigits (cs : List Char) : List Char × List Char × List Char :=
  let afterWhole := cs.dropWhile isDigit
  let (fraction, rest) := match afterWhole with
    | '.' :: more => (more.takeWhile isDigit, more.dropWhile isDigit)
    | more => ([], more)
  (cs.takeWhile isDigit, fraction, rest)

theorem readNumeral?_eq (cs : List Char) : readNumeral? cs =
    let (whole, fraction, rest) := takeDigits (takeSign cs).2
    if whole = [] ∧ fraction = [] then none
    else (readExponent? rest).map fun exponent => ⟨(takeSign cs).1, whole, fraction, exponent⟩ := rfl

theorem allDigits_takeWhile (cs : List Char) : AllDigits (cs.takeWhile isDigit) :=
  fun _ => List.mem_takeWhile_imp

theorem spellsDigits_takeDigits (cs : List Char) : ∃ digits,
    SpellsDigits digits (takeDigits cs).1 (takeDigits cs).2.1 ∧ cs = digits ++ (takeDigits cs).2.2 := by
  have split : cs = cs.takeWhile isDigit ++ cs.dropWhile isDigit :=
    List.takeWhile_append_dropWhile.symm
  unfold takeDigits
  dsimp only
  split
  · rename_i more pointed
    refine ⟨_, .pointed (allDigits_takeWhile cs) (allDigits_takeWhile more), ?_⟩
    rw [List.append_assoc, List.cons_append, List.takeWhile_append_dropWhile, ← pointed]
    exact split
  · exact ⟨_, .whole (allDigits_takeWhile cs), split⟩

/-- Neither a digit nor a point follows the digits. -/
def EndsDigits (rest : List Char) : Prop := ∀ c ∈ rest.head?, isDigit c = false ∧ c ≠ '.'

theorem takeWhile_digits_append (all : AllDigits digits)
    (ends : ∀ c ∈ rest.head?, isDigit c = false) :
    (digits ++ rest).takeWhile isDigit = digits ∧ (digits ++ rest).dropWhile isDigit = rest := by
  rw [takeWhile_append_of_head? ends, dropWhile_append_of_head? ends,
    List.takeWhile_eq_self_iff.mpr all, List.dropWhile_eq_nil_iff.mpr all]
  exact ⟨rfl, rfl⟩

theorem SpellsDigits.takeDigits_append (spells : SpellsDigits digits whole fraction)
    (ends : EndsDigits rest) : takeDigits (digits ++ rest) = (whole, fraction, rest) := by
  have stops : ∀ c ∈ rest.head?, isDigit c = false := fun c first => (ends c first).1
  cases spells with
  | whole all =>
      obtain ⟨taken, dropped⟩ := takeWhile_digits_append all stops
      simp only [takeDigits, taken, dropped]
      split
      · exact absurd rfl (ends _ rfl).2
      · rfl
  | pointed all all' =>
      have point : ∀ c ∈ ('.' :: (fraction ++ rest)).head?, isDigit c = false := by
        rintro c ⟨⟩
        rfl
      obtain ⟨taken, dropped⟩ := takeWhile_digits_append all point
      obtain ⟨taken', dropped'⟩ := takeWhile_digits_append all' stops
      rw [List.append_assoc, List.cons_append]
      simp only [takeDigits, taken, dropped, taken', dropped']

theorem SpellsDigits.unsigned (spells : SpellsDigits digits whole fraction)
    (given : ¬(whole = [] ∧ fraction = [])) : Unsigned (digits ++ rest) := by
  cases spells with
  | whole all => exact all.unsigned (fun none => given ⟨none, rfl⟩) rest
  | pointed all all' =>
      rw [List.append_assoc]
      by_cases none : whole = []
      · subst none
        rintro c ⟨⟩
        exact ⟨by decide, by decide⟩
      · exact all.unsigned none _

theorem SpellsExponent.endsDigits (spells : SpellsExponent cs exponent) : EndsDigits cs := by
  cases spells with
  | none => rintro c ⟨⟩
  | power letters spells =>
      rintro c ⟨⟩
      rcases letters with rfl | rfl <;> exact ⟨rfl, by decide⟩

theorem readNumeral?_eq_some_iff : readNumeral? cs = some n ↔ Spells cs n := by
  rw [readNumeral?_eq]
  constructor
  · intro read
    obtain ⟨sign, signs, signed⟩ := spellsSign_takeSign cs
    obtain ⟨digits, spells, split⟩ := spellsDigits_takeDigits (takeSign cs).2
    dsimp only at read
    split at read
    · cases read
    · rename_i given
      obtain ⟨exponent, power, rfl⟩ := Option.map_eq_some_iff.mp read
      have numeral := Spells.numeral signs spells given (readExponent?_eq_some_iff.mp power)
      rwa [← split, ← signed] at numeral
  · rintro ⟨signs, spells, given, powers⟩
    rw [signs.takeSign_append (spells.unsigned given)]
    simp only [spells.takeDigits_append powers.endsDigits, if_neg given,
      readExponent?_eq_some_iff.mpr powers, Option.map_some]

/-- A text is a decimal numeral. -/
def IsDecimal (cs : List Char) : Prop := ∃ n, Spells cs n

theorem readNumeral?_eq_none_iff : readNumeral? cs = none ↔ ¬IsDecimal cs := by
  rw [Option.eq_none_iff_forall_ne_some, IsDecimal, not_exists]
  exact forall_congr' fun n => not_congr readNumeral?_eq_some_iff

/-- The words for infinity, in lower case. -/
def infinityWords : List (List Char) := ["inf".toList, "infinity".toList]

/-- A text is a word for infinity, in any letter case and with an optional sign. -/
inductive IsInfinity : List Char → Prop where
  | word {sign word : List Char} {negative : Bool} (signs : SpellsSign sign negative)
      (listed : word.map Text.asciiLowerChar ∈ infinityWords) : IsInfinity (sign ++ word)

theorem first_of_infinityWord {word : List Char}
    (listed : word.map Text.asciiLowerChar ∈ infinityWords) :
    ∀ c ∈ word.head?, c = 'i' ∨ c = 'I' := by
  have starts : ∀ w ∈ infinityWords, w.head? = some 'i' := by decide
  have first := starts _ listed
  rw [List.head?_map, Option.map_eq_some_iff] at first
  obtain ⟨c, head, letter⟩ := first
  intro d head'
  obtain rfl : c = d := Option.some_inj.mp (head.symm.trans head')
  have place := Text.toNat_asciiLowerChar c
  rw [letter] at place
  change 105 = _ at place
  rw [← Char.toNat_inj, ← Char.toNat_inj]
  change c.toNat = 105 ∨ c.toNat = 73
  split at place <;> omega

theorem unsigned_of_infinityWord {word : List Char}
    (listed : word.map Text.asciiLowerChar ∈ infinityWords) : Unsigned word := by
  intro c head
  rcases first_of_infinityWord listed c head with rfl | rfl <;> exact ⟨by decide, by decide⟩

theorem IsInfinity.not_isDecimal (infinity : IsInfinity cs) : ¬IsDecimal cs := by
  obtain ⟨signs, listed⟩ := infinity
  rename_i sign word negative
  have ends : EndsDigits word := by
    intro c head
    rcases first_of_infinityWord listed c head with rfl | rfl <;> exact ⟨rfl, by decide⟩
  have nothing : takeDigits word = ([], [], word) :=
    SpellsDigits.takeDigits_append (.whole (List.forall_mem_nil _)) ends
  rw [← readNumeral?_eq_none_iff, readNumeral?_eq,
    signs.takeSign_append (unsigned_of_infinityWord listed), nothing]
  rfl

/-- What a word without a sign stands for. -/
def wordValue? (word : List Char) : Option Float :=
  match String.ofList (word.map Text.asciiLowerChar) with
  | "inf" | "infinity" => some (1.0 / 0.0)
  | "nan" => some (0.0 / 0.0)
  | _ => none

theorem readNumberWord?_eq (cs : List Char) : readNumberWord? cs =
    (wordValue? (takeSign cs).2).map fun x => if (takeSign cs).1 then -x else x := rfl

theorem wordValue?_cases (word : List Char) :
    word.map Text.asciiLowerChar ∈ infinityWords ∧ wordValue? word = some (1.0 / 0.0) ∨
      word.map Text.asciiLowerChar ∉ infinityWords ∧
        (wordValue? word = some (0.0 / 0.0) ∨ wordValue? word = none) := by
  have known {text : String} (same : String.ofList (word.map Text.asciiLowerChar) = text) :
      word.map Text.asciiLowerChar = text.toList := by rw [← same, String.toList_ofList]
  unfold wordValue?
  split
  · rename_i same
    exact .inl ⟨known same ▸ by decide, rfl⟩
  · rename_i same
    exact .inl ⟨known same ▸ by decide, rfl⟩
  · rename_i same
    exact .inr ⟨known same ▸ by decide, .inl rfl⟩
  · rename_i short long _
    refine .inr ⟨fun listed => ?_, .inr rfl⟩
    rcases List.mem_pair.mp listed with same | same
    · exact short (by rw [same, String.ofList_toList])
    · exact long (by rw [same, String.ofList_toList])

theorem isNaN_signed_notNumber (negative : Bool) :
    (if negative then -((0.0 : Float) / 0.0) else 0.0 / 0.0).isNaN = true := by
  cases negative <;> decide +kernel

/-- Infinity, with a sign. -/
def signedInfinity (negative : Bool) : Float := if negative then -(1.0 / 0.0) else 1.0 / 0.0

theorem isInf_signedInfinity (negative : Bool) : (signedInfinity negative).isInf = true := by
  cases negative <;> decide +kernel

theorem isNaN_signedInfinity (negative : Bool) : (signedInfinity negative).isNaN = false := by
  cases negative <;> decide +kernel

theorem IsInfinity.readNumberWord? (infinity : IsInfinity cs) :
    ∃ negative, Number.readNumberWord? cs = some (signedInfinity negative) := by
  obtain ⟨signs, listed⟩ := infinity
  rename_i sign word negative
  rcases wordValue?_cases word with ⟨-, value⟩ | ⟨other, -⟩
  · rw [readNumberWord?_eq, signs.takeSign_append (unsigned_of_infinityWord listed), value]
    exact ⟨negative, rfl⟩
  · exact absurd listed other

theorem exists_readNumberWord?_iff :
    (∃ x, readNumberWord? cs = some x ∧ x.isNaN = false) ↔ IsInfinity cs := by
  constructor
  · rintro ⟨x, read, number⟩
    obtain ⟨sign, signs, signed⟩ := spellsSign_takeSign cs
    rw [readNumberWord?_eq] at read
    rcases wordValue?_cases (takeSign cs).2 with ⟨listed, -⟩ | ⟨-, value | value⟩
    · rw [signed]
      exact .word signs listed
    · rw [value] at read
      cases read
      exact absurd number (ne_false_of_eq_true (isNaN_signed_notNumber _))
    · rw [value] at read
      cases read
  · intro infinity
    obtain ⟨negative, read⟩ := infinity.readNumberWord?
    exact ⟨_, read, isNaN_signedInfinity negative⟩

/-- A text is a decimal numeral or a word for infinity. -/
def IsNumeric (cs : List Char) : Prop := IsDecimal cs ∨ IsInfinity cs

theorem IsInfinity.readFloat? {s : String} (infinity : IsInfinity s.toList) :
    ∃ negative, Number.readFloat? s = some (signedInfinity negative) := by
  obtain ⟨negative, read⟩ := infinity.readNumberWord?
  refine ⟨negative, ?_⟩
  rw [Number.readFloat?, readNumeral?_eq_none_iff.mpr infinity.not_isDecimal]
  exact read

/-- Decimal numerals and the words for infinity are what is read as a number. -/
theorem exists_readFloat?_iff {s : String} :
    (∃ x, readFloat? s = some x ∧ x.isNaN = false) ↔ IsNumeric s.toList := by
  unfold readFloat?
  cases read : readNumeral? s.toList with
  | some n =>
      have decimal : IsDecimal s.toList := ⟨n, readNumeral?_eq_some_iff.mp read⟩
      exact iff_of_true ⟨n.value, rfl, n.isNaN_value⟩ (.inl decimal)
  | none =>
      dsimp only
      rw [exists_readNumberWord?_iff, IsNumeric, or_iff_right (readNumeral?_eq_none_iff.mp read)]

end Exchange.Number
