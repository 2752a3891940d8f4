import Mathlib
import Exchange.Proofs.Data.Table
import Exchange.Proofs.Text.Utf8
import Exchange.XPath.Prefixes

/-! # The scan for prefixes, one character at a time

The scan goes over bytes by their places. Here it is an automaton that holds the run of name
characters in front of it, or the quote of the literal that it is in, and it may as well go over
characters: the prefixes of an expression are the runs that it finds in them.
-/

namespace Exchange.XPath

/-- What the scan tells apart. -/
inductive Mark where
  | quote (b : UInt8)
  /-- May start a name. -/
  | start
  /-- May go on in a name, but not start one. -/
  | inner
  | colon
  | star
  | other
  deriving DecidableEq

/-- Does the mark neither start a name nor open a literal? -/
def Mark.isPlain : Mark → Bool
  | .inner | .colon | .star | .other => true
  | .start | .quote _ => false

/-- Does the mark open a literal? -/
def Mark.isQuote : Mark → Bool
  | .quote _ => true
  | _ => false

/-- Does the mark end every run? -/
def Mark.resets : Mark → Bool
  | .colon | .star | .other => true
  | .start | .inner | .quote _ => false

/-- The mark of a byte. -/
def byteMark (b : UInt8) : Mark :=
  if b = apostrophe ∨ b = doubleQuote then .quote b
  else if isNameStart b then .start
  else if isNameByte b then .inner
  else if b = colon then .colon
  else if b = asterisk then .star
  else .other

/-- The mark of a character, which beyond ASCII is that of each of its bytes. -/
def charMark (c : Char) : Mark := if c.toNat < 0x80 then byteMark (UInt8.ofNat c.toNat) else .start

/-- Where the scan is: behind a run of a name, which may be empty, or in a literal. -/
inductive ScanState (α : Type) where
  | run (name : List α)
  | literal (quote : UInt8)

section Automaton

variable {α : Type} (mark : α → Mark)

/-- The state behind a character. -/
def ScanState.next : ScanState α → α → ScanState α
  | literal quote, a => if mark a = .quote quote then run [] else literal quote
  | run name, a => match mark a with
    | .quote quote => literal quote
    | .start => run (name ++ [a])
    | .inner => if name.isEmpty then run [] else run (name ++ [a])
    | .colon | .star | .other => run []

/-- Does a run go on with this character? -/
def goesOn (a : α) : Bool := mark a = .start || mark a = .inner

/-- Is this what a colon behind a prefix stands in front of? -/
def opensName : List α → Bool
  | a :: _ => mark a = .start || mark a = .star
  | [] => false

/-- The prefix that ends in front of a character. -/
def ScanState.found? : ScanState α → α → List α → Option (List α)
  | run name, a, rest =>
    if mark a = .colon && !name.isEmpty && opensName mark rest then some name else none
  | literal _, _, _ => none

/-- The prefixes that the scan finds from a state on. -/
def runs : ScanState α → List α → List (List α)
  | _, [] => []
  | state, a :: rest => (state.found? mark a rest).toList ++ runs (state.next mark a) rest

variable {mark} {name : List α} {quote : UInt8} {a : α} {as rest : List α} {state : ScanState α}

/-- The state behind some characters. -/
def ScanState.behind (mark : α → Mark) (state : ScanState α) (as : List α) : ScanState α :=
  as.foldl (next mark) state

theorem behind_cons : state.behind mark (a :: as) = (state.next mark a).behind mark as := rfl

theorem behind_append (front back : List α) :
    state.behind mark (front ++ back) = (state.behind mark front).behind mark back :=
  List.foldl_append

/-- What the scan finds behind some characters it finds from in front of them. -/
theorem mem_runs_of_behind (found : name ∈ runs mark (state.behind mark as) rest) :
    name ∈ runs mark state (as ++ rest) := by
  induction as generalizing state with
  | nil => exact found
  | cons a as ih => exact List.mem_append_right _ (ih found)

theorem runs_literal : runs mark (.literal quote) as =
    match as.findIdx? fun a => mark a = .quote quote with
    | some k => runs mark (.run []) (as.drop (k + 1))
    | none => [] := by
  induction as with
  | nil => rfl
  | cons a as ih =>
      by_cases closes : mark a = .quote quote
      · simp [runs, ScanState.found?, ScanState.next, List.findIdx?_cons, closes]
      · simp only [runs, ScanState.found?, ScanState.next, List.findIdx?_cons, closes]
        simp only [Option.toList_none, List.nil_append, decide_false, Bool.false_eq_true,
          if_false, ih]
        cases as.findIdx? fun a => mark a = .quote quote <;> rfl

theorem runs_skip (plain : (mark a).isPlain = true) :
    runs mark (.run []) (a :: as) = runs mark (.run []) as := by
  cases marked : mark a with
  | start | quote => simp [marked, Mark.isPlain] at plain
  | inner | colon | star | other => simp [runs, ScanState.found?, ScanState.next, marked]

theorem runs_run (nonempty : name ≠ []) : runs mark (.run name) as =
    runs mark (.run (name ++ as.takeWhile (goesOn mark))) (as.dropWhile (goesOn mark)) := by
  induction as generalizing name with
  | nil => simp
  | cons a as ih =>
      cases goes : goesOn mark a with
      | true =>
          rw [List.takeWhile_cons_of_pos goes, List.dropWhile_cons_of_pos goes,
            List.append_cons, ← ih (by simp)]
          simp only [goesOn, Bool.or_eq_true, decide_eq_true_eq] at goes
          rcases goes with marked | marked <;>
            simp [runs, ScanState.found?, ScanState.next, marked, nonempty]
      | false =>
          have stops : ¬ goesOn mark a = true := by simp [goes]
          rw [List.takeWhile_cons_of_neg stops, List.dropWhile_cons_of_neg stops, List.append_nil]

theorem runs_end (nonempty : name ≠ []) (stops : ∀ a, as.head? = some a → goesOn mark a = false) :
    runs mark (.run name) as =
      (if (as.head?.any fun a => mark a = .colon) && opensName mark as.tail then [name] else []) ++
        runs mark (.run []) as := by
  cases as with
  | nil => rfl
  | cons a as =>
      have stops := stops a rfl
      cases marked : mark a with
      | start | inner => simp [goesOn, marked] at stops
      | colon =>
          cases opens : opensName mark as <;>
            simp [runs, ScanState.found?, ScanState.next, marked, opens, nonempty]
      | quote | star | other => simp [runs, ScanState.found?, ScanState.next, marked]

end Automaton

section Bytes

variable {b quote : UInt8} {bytes : List UInt8} {i : Nat}

attribute [local grind =] byteMark isNameStart isNameByte apostrophe doubleQuote colon asterisk

theorem isNameByte_of_isNameStart (starts : isNameStart b = true) : isNameByte b = true := by
  simp [isNameByte, starts]

theorem byteMark_eq_quote_iff (isQuote : quote = apostrophe ∨ quote = doubleQuote) :
    byteMark b = .quote quote ↔ b = quote := by grind

theorem byteMark_eq_start_iff : byteMark b = .start ↔ isNameStart b = true := by grind

theorem goesOn_byteMark : goesOn byteMark b = isNameByte b := by grind [goesOn]

theorem byteMark_eq_colon_iff : byteMark b = .colon ↔ b = colon := by grind

theorem byteMark_eq_star_iff : byteMark b = .star ↔ b = asterisk := by grind

theorem opensName_byteMark {rest : List UInt8} : opensName byteMark (b :: rest) =
    (isNameStart b || b == asterisk) := by
  rw [Bool.eq_iff_iff]
  simp [opensName, byteMark_eq_start_iff, byteMark_eq_star_iff]

/-- The bytes between two places. -/
def slice (bytes : List UInt8) (place : Nat × Nat) : List UInt8 :=
  (bytes.take place.2).drop place.1

theorem slice_runEnd :
    slice bytes (i, runEnd bytes i) = (bytes.drop i).takeWhile isNameByte := by
  rw [slice, runEnd, List.drop_take, Nat.add_sub_cancel_left]
  exact List.prefix_iff_eq_take.mp (List.takeWhile_prefix _) |>.symm

theorem drop_runEnd :
    bytes.drop (runEnd bytes i) = (bytes.drop i).dropWhile isNameByte := by
  rw [runEnd, ← List.drop_drop]
  conv_lhs => arg 2; rw [← List.takeWhile_append_dropWhile (p := isNameByte) (l := bytes.drop i)]
  exact List.drop_left

theorem isNameByte_of_runEnd (here : bytes[runEnd bytes i]? = some b) : isNameByte b = false := by
  have stops := List.head?_dropWhile_not isNameByte (bytes.drop i)
  rwa [← drop_runEnd, List.head?_drop, here] at stops

theorem drop_of_getElem? (here : bytes[i]? = some b) : bytes.drop i = b :: bytes.drop (i + 1) := by
  obtain ⟨inside, rfl⟩ := List.getElem?_eq_some_iff.mp here
  exact List.drop_eq_getElem_cons inside

theorem runs_colon (here : bytes[i]? = some colon) :
    runs byteMark (.run []) (bytes.drop i) = runs byteMark (.run []) (bytes.drop (i + 1)) := by
  rw [drop_of_getElem? here]
  exact runs_skip rfl

theorem runs_scanName {start stop : Nat} (nonempty : slice bytes (start, stop) ≠ [])
    (stops : ∀ b, bytes[stop]? = some b → isNameByte b = false) :
    runs byteMark (.run (slice bytes (start, stop))) (bytes.drop stop) =
      ((scanName bytes start stop).found.map (slice bytes)).toList ++
        runs byteMark (.run []) (bytes.drop (scanName bytes start stop).next) := by
  have stops (b : UInt8) (here : (bytes.drop stop).head? = some b) : goesOn byteMark b = false := by
    rw [List.head?_drop] at here
    rw [goesOn_byteMark]
    exact stops b here
  rw [runs_end nonempty stops, List.head?_drop, List.tail_drop]
  unfold scanName
  cases here : bytes[stop]? with
  | none => simp
  | some b =>
      by_cases isColon : b = colon
      · subst isColon
        rw [runs_colon here]
        cases next : bytes[stop + 1]? with
        | none =>
            have beyond : bytes.drop (stop + 1) = [] := by simpa using next
            simp [beyond, opensName]
        | some c =>
            have tail := drop_of_getElem? next
            by_cases again : c = colon
            · subst again
              rw [runs_colon next, tail, opensName_byteMark]
              simp [show isNameStart colon = false by decide, show colon ≠ asterisk by decide]
            · rw [tail, opensName_byteMark, ← tail]
              cases opens : isNameStart c || c == asterisk <;>
                simp [again, opens, byteMark_eq_colon_iff, slice]
      · simp [isColon, byteMark_eq_colon_iff]

theorem runs_scanStep (here : bytes[i]? = some b) : runs byteMark (.run []) (bytes.drop i) =
    ((scanStep bytes i b).found.map (slice bytes)).toList ++
      runs byteMark (.run []) (bytes.drop (scanStep bytes i b).next) := by
  rw [drop_of_getElem? here]
  unfold scanStep
  split
  · rename_i isQuote
    have opens : byteMark b = .quote b := (byteMark_eq_quote_iff isQuote).mpr rfl
    have closes : (fun a => decide (byteMark a = .quote b)) = (· == b) := by
      funext a
      rw [Bool.eq_iff_iff, decide_eq_true_eq, beq_iff_eq, byteMark_eq_quote_iff isQuote]
    simp only [runs, ScanState.found?, ScanState.next, opens, runs_literal, literalEnd, closes]
    cases (bytes.drop (i + 1)).findIdx? (· == b) with
    | none => simp [runs]
    | some k => simp [Nat.add_assoc]
  · rename_i noQuote
    split
    · rename_i starts
      have first : runs byteMark (.run []) (b :: bytes.drop (i + 1)) =
          runs byteMark (.run [b]) (bytes.drop (i + 1)) := by
        simp [runs, ScanState.found?, ScanState.next, byteMark_eq_start_iff.mpr starts]
      have goes := isNameByte_of_isNameStart starts
      have name : slice bytes (i, runEnd bytes i) =
          b :: (bytes.drop (i + 1)).takeWhile isNameByte := by
        rw [slice_runEnd, drop_of_getElem? here, List.takeWhile_cons_of_pos goes]
      have behind : bytes.drop (runEnd bytes i) = (bytes.drop (i + 1)).dropWhile isNameByte := by
        rw [drop_runEnd, drop_of_getElem? here, List.dropWhile_cons_of_pos goes]
      rw [first, runs_run (List.cons_ne_nil b []), funext fun b => goesOn_byteMark (b := b),
        List.singleton_append, ← name, ← behind]
      exact runs_scanName (by simp [name]) fun c next => isNameByte_of_runEnd next
    · rename_i noStart
      exact runs_skip (by grind [Mark.isPlain])

theorem runs_scanFrom (bytes : List UInt8) (i : Nat) :
    ((scanFrom bytes i).filterMap fun s => s.2.found).map (slice bytes) =
      runs byteMark (.run []) (bytes.drop i) := by
  fun_induction scanFrom bytes i with
  | case1 i beyond =>
    have beyond : bytes.drop i = [] := by simpa using beyond
    rw [beyond]
    rfl
  | case2 i b here step ih =>
    rw [runs_scanStep here, ← ih]
    cases found : step.found <;> simp [step, found]

end Bytes

/-- A state with the bytes of its run. -/
def ScanState.encoded : ScanState Char → ScanState UInt8
  | run name => run (name.flatMap String.utf8EncodeChar)
  | literal quote => literal quote

section Characters

variable {c : Char} {cs : List Char} {state : ScanState Char}

theorem charMark_of_ascii (ascii : c.toNat < 0x80) :
    charMark c = byteMark (UInt8.ofNat c.toNat) := if_pos ascii

theorem charMark_of_beyond (beyond : 0x80 ≤ c.toNat) : charMark c = .start :=
  if_neg (Nat.not_lt.mpr beyond)

theorem byteMark_of_beyond {b : UInt8} (beyond : 0x80 ≤ b) : byteMark b = .start := by
  rw [byteMark_eq_start_iff]
  simp [isNameStart, beyond]

theorem exists_encodeChar (c : Char) : ∃ b more, String.utf8EncodeChar c = b :: more ∧
    byteMark b = charMark c := by
  rcases Nat.lt_or_ge c.toNat 0x80 with ascii | beyond
  · exact ⟨_, [], Text.Utf8.encodeChar_of_ascii ascii, (charMark_of_ascii ascii).symm⟩
  · obtain ⟨b, more, bytes⟩ := List.exists_cons_of_ne_nil (String.utf8EncodeChar_ne_nil (c := c))
    have first : b ∈ String.utf8EncodeChar c := bytes ▸ List.mem_cons_self
    have marked := byteMark_of_beyond (Text.Utf8.le_of_mem_encodeChar beyond first)
    exact ⟨b, more, bytes, marked.trans (charMark_of_beyond beyond).symm⟩

theorem opensName_encoded :
    opensName byteMark (cs.flatMap String.utf8EncodeChar) = opensName charMark cs := by
  cases cs with
  | nil => rfl
  | cons c cs =>
      obtain ⟨b, more, bytes, same⟩ := exists_encodeChar c
      rw [List.flatMap_cons, bytes, List.cons_append, opensName, opensName, same]

theorem isEmpty_encoded : (cs.flatMap String.utf8EncodeChar).isEmpty = cs.isEmpty := by
  cases cs with
  | nil => rfl
  | cons c cs => simp

theorem next_encoded (ascii : c.toNat < 0x80) :
    state.encoded.next byteMark (UInt8.ofNat c.toNat) = (state.next charMark c).encoded := by
  have bytes := Text.Utf8.encodeChar_of_ascii ascii
  cases state with
  | literal quote =>
      simp only [ScanState.encoded, ScanState.next, charMark_of_ascii ascii]
      split <;> simp
  | run name =>
      simp only [ScanState.encoded, ScanState.next, charMark_of_ascii ascii, isEmpty_encoded]
      cases byteMark (UInt8.ofNat c.toNat) with
      | start => simp [bytes]
      | inner => cases name.isEmpty <;> simp [bytes]
      | quote | colon | star | other => rfl

theorem found?_encoded (ascii : c.toNat < 0x80) :
    state.encoded.found? byteMark (UInt8.ofNat c.toNat) (cs.flatMap String.utf8EncodeChar) =
      (state.found? charMark c cs).map (·.flatMap String.utf8EncodeChar) := by
  cases state with
  | literal quote => rfl
  | run name =>
      simp only [ScanState.encoded, ScanState.found?, charMark_of_ascii ascii, isEmpty_encoded,
        opensName_encoded]
      split <;> rfl

theorem runs_starts {bytes rest : List UInt8} (starts : ∀ b ∈ bytes, byteMark b = .start) :
    (∀ name, runs byteMark (.run name) (bytes ++ rest) =
      runs byteMark (.run (name ++ bytes)) rest) ∧
    ∀ quote, runs byteMark (.literal quote) (bytes ++ rest) =
      runs byteMark (.literal quote) rest := by
  induction bytes with
  | nil => simp
  | cons b bytes ih =>
      obtain ⟨first, later⟩ := List.forall_mem_cons.mp starts
      obtain ⟨run, literal⟩ := ih later
      constructor
      · intro name
        rw [List.append_cons, ← run]
        simp [runs, ScanState.found?, ScanState.next, first]
      · intro quote
        rw [← literal]
        simp [runs, ScanState.found?, ScanState.next, first]

/-- A scan over the bytes of characters finds the bytes of what one over the characters finds. -/
theorem runs_encoded (state : ScanState Char) (cs : List Char) :
    runs byteMark state.encoded (cs.flatMap String.utf8EncodeChar) =
      (runs charMark state cs).map (·.flatMap String.utf8EncodeChar) := by
  induction cs generalizing state with
  | nil => rfl
  | cons c cs ih =>
      rw [List.flatMap_cons]
      rcases Nat.lt_or_ge c.toNat 0x80 with ascii | beyond
      · rw [Text.Utf8.encodeChar_of_ascii ascii, List.singleton_append, runs, runs,
          found?_encoded ascii, next_encoded ascii, ih, List.map_append]
        cases state.found? charMark c cs <;> rfl
      · have starts (b : UInt8) (mem : b ∈ String.utf8EncodeChar c) : byteMark b = .start :=
          byteMark_of_beyond (Text.Utf8.le_of_mem_encodeChar beyond mem)
        have marked := charMark_of_beyond beyond
        cases state with
        | run name =>
            have longer := ih (.run (name ++ [c]))
            simp only [ScanState.encoded, List.flatMap_append, List.flatMap_singleton] at longer
            rw [ScanState.encoded, (runs_starts starts).1, longer]
            simp [runs, ScanState.found?, ScanState.next, marked]
        | literal quote =>
            have within := ih (.literal quote)
            rw [ScanState.encoded] at within ⊢
            rw [(runs_starts starts).2, within]
            simp [runs, ScanState.found?, ScanState.next, marked]

theorem map_textBetween {bytes : List UInt8} {places : List (Nat × Nat)} {names : List (List Char)}
    (same : places.map (slice bytes) = names.map (·.flatMap String.utf8EncodeChar)) :
    places.map (fun (start, stop) => textBetween bytes start stop) = names.map String.ofList := by
  induction places generalizing names with
  | nil =>
      cases List.map_eq_nil_iff.mp same.symm
      rfl
  | cons place places ih =>
      cases names with
      | nil => cases same
      | cons name names =>
          obtain ⟨start, stop⟩ := place
          obtain ⟨first, later⟩ := List.cons.inj same
          have read : Text.Utf8.decode ((bytes.take stop).drop start) =
              .ok (String.ofList name) := by
            rw [Text.Utf8.decode_eq_ok_iff, Text.Utf8.encode, String.toList_ofList]
            exact first
          rw [List.map_cons, List.map_cons, ih later]
          simp only [textBetween, read]

theorem prefixes_eq (text : String) : prefixes text = Table.names (Table.ofList
    ((runs charMark (.run []) text.toList).map fun name => (String.ofList name, ()))) := by
  have found := runs_encoded (.run []) text.toList
  have scanned := runs_scanFrom (Text.Utf8.encode text) 0
  rw [ScanState.encoded, List.flatMap_nil] at found
  rw [List.drop_zero, Text.Utf8.encode, found] at scanned
  rw [prefixes, Text.Utf8.encode, map_textBetween scanned, List.map_map]
  rfl

/-- The prefixes of an expression are what the scan finds in its characters. -/
theorem mem_prefixes_iff {text p : String} :
    p ∈ prefixes text ↔ p.toList ∈ runs charMark (.run []) text.toList := by
  rw [prefixes_eq, Table.mem_names_ofList]
  simp only [List.map_map, List.mem_map, Function.comp_apply]
  constructor
  · rintro ⟨name, found, rfl⟩
    rwa [String.toList_ofList]
  · exact fun found => ⟨_, found, String.ofList_toList⟩

end Characters

end Exchange.XPath
