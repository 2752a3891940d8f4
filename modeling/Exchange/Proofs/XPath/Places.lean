import Mathlib
import Exchange.Proofs.Text.Places
import Exchange.Proofs.XPath.Prefixes

/-! # Where the scan for prefixes cuts

The scan counts bytes, yet it only stands where a character begins or the text ends, and it cuts the
text at such places alone. Each step ends in front of an ASCII byte, behind one or at the end, as
every byte of a longer character is one of a name. A scan that fails where it cannot cut therefore
never fails, and it finds the same prefixes.
-/

namespace Exchange.XPath

open Text (IsPlace cut?)
open Text.Utf8 (encode)

variable {text behind : String} {b quote : UInt8} {i start stop steps : Nat} {step : ScanStep}

/-- Where a literal ends, found in the text behind its quote. -/
def literalEndIn (text behind : String) (quote : UInt8) (i : Nat) : Nat :=
  match behind.find? (Char.ofNat quote.toNat) with
  | some place => i + place.offset.byteIdx + 1
  | none => text.utf8ByteSize

/-- One step of the scan, at a byte `b` that stands at `i`: where the next one starts, and the
    prefix it has found. It fails where the text cannot be cut. -/
def cutStep? (text : String) (i : Nat) (b : UInt8) : Option (Nat × Option String) :=
  if isQuote b then
    (cut? text (i + 1) text.utf8ByteSize).map fun behind =>
      (literalEndIn text behind b (i + 1), none)
  else
    let step := scanStep (encode text) i b
    match step.found with
    | some place => (cut? text place.1 place.2).map fun p => (step.next, some p)
    | none => some (step.next, none)

/-- The prefixes that are found from a place on. It fails where a step does, and where so many
    steps do not reach the end. -/
def cutScan? (text : String) : (steps i : Nat) → Option (List String)
  | 0, i => if i < text.utf8ByteSize then none else some []
  | steps + 1, i =>
    match (encode text)[i]? with
    | none => some []
    | some b => do
      let step ← cutStep? text i b
      let later ← cutScan? text steps step.1
      return step.2.toList ++ later

/-- What a step keeps to that is taken at `i`. -/
structure KeepsPlaces (text : String) (i : Nat) (step : ScanStep) : Prop where
  /-- It is taken at a place in front of the end. -/
  place : IsPlace text i
  inside : i < text.utf8ByteSize
  /-- The next one is taken at a place further on, if only at the end. -/
  forward : i < step.next
  next : IsPlace text step.next
  next_le : step.next ≤ text.utf8ByteSize
  /-- Where a literal opens, its inside begins at a place. -/
  literal {b : UInt8} : (encode text)[i]? = some b → isQuote b = true → IsPlace text (i + 1)
  /-- A prefix that is found begins here, and it ends at a place. -/
  found {start stop : Nat} : step.found = some (start, stop) →
    start = i ∧ start < stop ∧ stop ≤ step.next ∧ IsPlace text stop

attribute [local grind =] isNameStart isNameByte

theorem ascii_of_isNameStart (plain : isNameStart b = false) : b < 0x80 := by grind

theorem ascii_of_isNameByte (unnamed : isNameByte b = false) : b < 0x80 :=
  ascii_of_isNameStart (by grind)

theorem ascii_of_isQuote (opens : isQuote b = true) : b < 0x80 :=
  ascii_of_isNameByte (isNameByte_of_isQuote opens)

theorem isPlace_literalEnd (opens : isQuote quote = true) :
    IsPlace text (literalEnd (encode text) quote i) := by
  unfold literalEnd
  split
  · rename_i k found
    obtain ⟨inside, isQuote, -⟩ := List.findIdx?_eq_some_iff_getElem.mp found
    have here : (encode text)[i + k]? = some quote := by
      rw [← List.getElem?_drop, List.getElem?_eq_getElem inside, beq_iff_eq.mp isQuote]
    exact (Text.isPlace_of_ascii (ascii_of_isQuote opens) here).2
  · rw [Text.length_encode]
    exact Text.isPlace_end text

theorem runEnd_le (inside : i ≤ text.utf8ByteSize) :
    runEnd (encode text) i ≤ text.utf8ByteSize := by
  have run := (List.takeWhile_prefix (p := isNameByte) (l := (encode text).drop i)).length_le
  rw [List.length_drop, Text.length_encode] at run
  unfold runEnd
  omega

theorem isPlace_runEnd (inside : i ≤ text.utf8ByteSize) :
    IsPlace text (runEnd (encode text) i) := by
  cases here : (encode text)[runEnd (encode text) i]? with
  | none =>
      rw [List.getElem?_eq_none_iff, Text.length_encode] at here
      rw [le_antisymm (runEnd_le inside) here]
      exact Text.isPlace_end text
  | some b => exact (Text.isPlace_of_ascii (ascii_of_isNameByte (isNameByte_of_runEnd here)) here).1

theorem isPlace_behind_colon (here : (encode text)[i]? = some colon) : IsPlace text (i + 1) :=
  (Text.isPlace_of_ascii (by decide) here).2

theorem isPlace_scanName (place : IsPlace text stop) :
    IsPlace text (scanName (encode text) start stop).next := by
  unfold scanName
  split
  · rename_i first
    split
    · rename_i b second
      split
      · rename_i again
        exact isPlace_behind_colon (again ▸ second)
      · split <;> exact isPlace_behind_colon first
    · exact isPlace_behind_colon first
  · exact place

theorem found_scanName {bytes : List UInt8} {place : Nat × Nat}
    (found : (scanName bytes start stop).found = some place) : place = (start, stop) := by
  unfold scanName at found
  split at found
  · split at found
    · split at found
      · cases found
      · split at found <;> cases found
        rfl
    · cases found
  · cases found

/-- A step ends at a place, wherever it is taken. -/
theorem isPlace_scanStep (here : (encode text)[i]? = some b) :
    IsPlace text (scanStep (encode text) i b).next := by
  have inside := Text.lt_of_getElem? here
  unfold scanStep
  split
  · rename_i opens
    exact isPlace_literalEnd (isQuote_iff.mpr opens)
  · split
    · exact isPlace_scanName (isPlace_runEnd inside.le)
    · -- A single byte that starts no name is passed by.
      rename_i plain
      exact (Text.isPlace_of_ascii (ascii_of_isNameStart (by simpa using plain)) here).2

theorem found_scanStep (here : (encode text)[i]? = some b)
    (found : (scanStep (encode text) i b).found = some (start, stop)) :
    start = i ∧ start < stop ∧ stop ≤ (scanStep (encode text) i b).next ∧ IsPlace text stop := by
  have inside := Text.lt_of_getElem? here
  unfold scanStep at found ⊢
  split at found
  · cases found
  · rename_i noQuote
    split at found
    · rename_i starts
      obtain ⟨rfl, rfl⟩ := Prod.mk.inj (found_scanName found)
      rw [if_neg noQuote, if_pos starts]
      exact ⟨rfl, lt_runEnd here starts, le_scanName _ _ _, isPlace_runEnd inside.le⟩
    · cases found

theorem keepsPlaces_scanStep (place : IsPlace text i) (here : (encode text)[i]? = some b) :
    KeepsPlaces text i (scanStep (encode text) i b) where
  place := place
  inside := Text.lt_of_getElem? here
  forward := lt_scanStep here
  next := isPlace_scanStep here
  next_le := (isPlace_scanStep here).le
  literal stands opens := (Text.isPlace_of_ascii (ascii_of_isQuote opens) stands).2
  found := found_scanStep here

theorem keepsPlaces_of_mem_scanFrom (place : IsPlace text i)
    (taken : (start, step) ∈ scanFrom (encode text) i) : KeepsPlaces text start step := by
  generalize listed : encode text = bytes at taken
  fun_induction scanFrom bytes i with
  | case1 i beyond => cases taken
  | case2 i b here next ih =>
    subst listed
    rcases List.mem_cons.mp taken with first | later
    · obtain ⟨rfl, same⟩ := Prod.mk.inj first
      exact same ▸ keepsPlaces_scanStep place here
    · exact ih (isPlace_scanStep here) later

theorem literalEnd_eq (opens : isQuote b = true)
    (cut : cut? text i text.utf8ByteSize = some behind) :
    literalEnd (encode text) b i = literalEndIn text behind b i := by
  have bytes := Text.slice_encode_of_cut cut
  rw [← Text.length_encode, List.take_length] at bytes
  rw [literalEnd, bytes, Text.findIdx?_encode (ascii_of_isQuote opens), literalEndIn]
  cases behind.find? (Char.ofNat b.toNat) with
  | none => exact Text.length_encode text
  | some place => rfl

theorem textBetween_of_cut {p : String} (cut : cut? text start stop = some p) :
    textBetween (encode text) start stop = p := by
  rw [textBetween, Text.slice_encode_of_cut cut, Text.Utf8.decode_eq_ok_iff.mpr rfl]

theorem cutStep?_eq (place : IsPlace text i) (here : (encode text)[i]? = some b) :
    cutStep? text i b = some ((scanStep (encode text) i b).next,
      (scanStep (encode text) i b).found.map fun (start, stop) =>
        textBetween (encode text) start stop) := by
  have keeps := keepsPlaces_scanStep place here
  unfold cutStep?
  split
  · rename_i opens
    obtain ⟨behind, cut⟩ := Text.exists_cut (keeps.literal here opens) (Text.isPlace_end text)
      keeps.inside
    rw [cut, scanStep, if_pos (isQuote_iff.mp opens), literalEnd_eq opens cut]
    rfl
  · simp only
    split
    · rename_i place found
      obtain ⟨start, stop⟩ := place
      obtain ⟨rfl, lt, -, last⟩ := keeps.found found
      obtain ⟨p, cut⟩ := Text.exists_cut keeps.place last lt.le
      rw [cut, found, Option.map_some, Option.map_some, textBetween_of_cut cut]
    · rename_i found
      rw [found]
      rfl

theorem scanFrom_eq_nil {bytes : List UInt8} (beyond : bytes[i]? = none) :
    scanFrom bytes i = [] := by
  rw [scanFrom]
  split
  · rfl
  · rename_i here
    cases beyond.symm.trans here

theorem scanFrom_eq_cons {bytes : List UInt8} (here : bytes[i]? = some b) :
    scanFrom bytes i = (i, scanStep bytes i b) :: scanFrom bytes (scanStep bytes i b).next := by
  rw [scanFrom]
  split
  · rename_i beyond
    cases beyond.symm.trans here
  · rename_i here'
    obtain rfl := Option.some.inj (here.symm.trans here')
    rfl

/-- As every step goes forward, one for each byte is enough. -/
theorem cutScan?_eq (place : IsPlace text i) (enough : text.utf8ByteSize ≤ i + steps) :
    cutScan? text steps i = some (((scanFrom (encode text) i).filterMap fun s => s.2.found).map
      fun (start, stop) => textBetween (encode text) start stop) := by
  induction steps generalizing i with
  | zero =>
      rw [Nat.add_zero] at enough
      have beyond : (encode text)[i]? = none := by
        rwa [List.getElem?_eq_none_iff, Text.length_encode]
      rw [cutScan?, if_neg (Nat.not_lt.mpr enough), scanFrom_eq_nil beyond]
      rfl
  | succ steps ih =>
      rw [cutScan?]
      split
      · rename_i beyond
        rw [scanFrom_eq_nil beyond]
        rfl
      · rename_i b here
        have forward := lt_scanStep here
        rw [cutStep?_eq place here, scanFrom_eq_cons here, List.filterMap_cons]
        simp only [Option.bind_eq_bind, Option.bind_some]
        rw [ih (isPlace_scanStep here) (by omega)]
        cases (scanStep (encode text) i b).found <;> rfl

/-- Where the scan for the prefixes of an expression stands and cuts. -/
structure CutsAtPlaces (text : String) : Prop where
  /-- Every step keeps to places. -/
  steps : ∀ s ∈ scanFrom (encode text) 0, KeepsPlaces text s.1 s.2
  /-- The scan that may fail ends with the prefixes. -/
  succeeds : ∃ found, cutScan? text text.utf8ByteSize 0 = some found ∧
    prefixes text = Table.names (Table.ofList (found.map fun p => (p, ())))
  /-- Each prefix is a part of the expression. -/
  part : ∀ p ∈ prefixes text, ∃ front back : String, text = front ++ p ++ back

/-- The scan for prefixes goes forward from place to place of every expression, and cuts it at
    places alone. -/
theorem cutsAtPlaces (text : String) : CutsAtPlaces text where
  steps s taken := keepsPlaces_of_mem_scanFrom (Text.isPlace_zero text) taken
  succeeds := ⟨_, cutScan?_eq (Text.isPlace_zero text) (Nat.zero_add _).ge, rfl⟩
  part p listed := by
    rw [prefixes, Table.mem_names_ofList] at listed
    simp only [List.map_map, List.mem_map, List.mem_filterMap, Function.comp_apply] at listed
    obtain ⟨⟨start, stop⟩, ⟨⟨i, step⟩, taken, found⟩, rfl⟩ := listed
    have keeps := keepsPlaces_of_mem_scanFrom (Text.isPlace_zero text) taken
    obtain ⟨rfl, lt, -, last⟩ := keeps.found found
    obtain ⟨p, cut⟩ := Text.exists_cut keeps.place last lt.le
    obtain ⟨front, back, same, -⟩ := Text.cut?_eq_some_iff.mp cut
    exact ⟨front, back, by rwa [textBetween_of_cut cut]⟩

example : prefixes "é:ü['«b:c']" = ["é"] := by cbv

end Exchange.XPath
