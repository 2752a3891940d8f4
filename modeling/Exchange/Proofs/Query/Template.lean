import Mathlib
import Exchange.Proofs.Ruling
import Exchange.Query.Template

/-! # Templates filled in

A template without faults is a number of texts, their per cent signs doubled, with places between
them: its outline. Of any other template, what stands before the first per cent sign that does not
go with the character behind it has an outline. An outline is filled in by putting the arguments
between its texts, one for each place.
-/

namespace Exchange.Query

/-- A text with each per cent sign written twice. -/
def doubled (text : List Char) : List Char :=
  text.flatMap fun c => if c = '%' then ['%', '%'] else [c]

/-- The two ways to write a place. -/
inductive PlaceMark where
  | s
  | d
  deriving Repr, DecidableEq

def PlaceMark.char : PlaceMark → Char
  | s => 's'
  | d => 'd'

/-- A first text, and each place with the text behind it. -/
structure Outline where
  first : List Char := []
  places : List (PlaceMark × List Char) := []
  deriving Repr, DecidableEq

namespace Outline

/-- The template that has an outline. -/
def written (o : Outline) : List Char :=
  doubled o.first ++ o.places.flatMap fun place => '%' :: place.1.char :: doubled place.2

/-- The texts of an outline with arguments between them. -/
def filled (o : Outline) (arguments : List String) : List Char :=
  o.first ++
    (List.zipWith (fun argument place => argument.toList ++ place.2) arguments o.places).flatten

def parts (o : Outline) : List TemplatePart :=
  o.first.map .char ++ o.places.flatMap fun place => .place :: place.2.map .char

end Outline

/-- A per cent sign goes with another one and with the marks of places. -/
def Goes (c : Char) : Prop := c = '%' ∨ c = 's' ∨ c = 'd'

/-- What a template gives with arguments. A per cent sign that does not go with what is behind it
    is the fault, the first of them if there are more; only then are the arguments counted. -/
inductive Filling (template : List Char) (arguments : List String) :
    Except TemplateFault String → Prop where
  | unknown {o : Outline} {c : Char} {rest : List Char}
      (split : template = o.written ++ '%' :: c :: rest) (wrong : ¬ Goes c) :
      Filling template arguments (.error (.unknownDirective c))
  | dangling {o : Outline} (split : template = o.written ++ ['%']) :
      Filling template arguments (.error .dangling)
  | miscounted {o : Outline} (split : template = o.written)
      (count : o.places.length ≠ arguments.length) :
      Filling template arguments (.error (.argumentCount o.places.length arguments.length))
  | filled {o : Outline} (split : template = o.written)
      (count : o.places.length = arguments.length) :
      Filling template arguments (.ok (String.ofList (o.filled arguments)))

section

variable {c : Char} {mark : PlaceMark} {o : Outline} {rest text after : List Char}
  {parts more : List TemplatePart} {arguments others : List String}
  {template following a b : String}

theorem readTemplate_cons (plain : c ≠ '%') :
    readTemplate (c :: rest) = (readTemplate rest).map (.char c :: ·) := by
  rw [readTemplate.eq_def]
  simp [plain]

theorem readTemplate_place :
    readTemplate ('%' :: mark.char :: rest) = (readTemplate rest).map (.place :: ·) := by
  cases mark <;> rfl

theorem readTemplate_unknown (wrong : ¬ Goes c) :
    readTemplate ('%' :: c :: rest) = .error (.unknownDirective c) := by
  simp only [Goes, not_or] at wrong
  rw [readTemplate.eq_def]
  simp [wrong]

/-- In front of anything, a text is read as parts. -/
def Reads (text : List Char) (parts : List TemplatePart) : Prop :=
  ∀ rest, readTemplate (text ++ rest) = (readTemplate rest).map (parts ++ ·)

theorem reads_nil : Reads [] [] := by
  intro rest
  rw [List.nil_append]
  cases readTemplate rest <;> rfl

theorem Reads.append (reads : Reads text parts) (reads' : Reads after more) :
    Reads (text ++ after) (parts ++ more) := by
  intro rest
  rw [List.append_assoc, reads, reads']
  cases readTemplate rest with
  | error fault => rfl
  | ok last => simp [Except.map]

theorem Reads.eq_ok (reads : Reads text parts) : readTemplate text = .ok parts := by
  have read := reads []
  rwa [List.append_nil, readTemplate, Except.map, List.append_nil] at read

theorem reads_doubled (text : List Char) : Reads (doubled text) (text.map .char) := by
  induction text with
  | nil => exact reads_nil
  | cons c text ih =>
      have first : Reads (if c = '%' then ['%', '%'] else [c]) [.char c] := by
        intro rest
        split
        · rename_i sign
          subst sign
          rfl
        · rename_i plain
          exact readTemplate_cons plain
      exact first.append ih

theorem reads_written (o : Outline) : Reads o.written o.parts := by
  refine (reads_doubled o.first).append ?_
  induction o.places with
  | nil => exact reads_nil
  | cons place places ih =>
      have opened : Reads ['%', place.1.char] [.place] := fun rest => readTemplate_place
      exact (opened.append (reads_doubled place.2)).append ih

/-- Every template has an outline up to its first fault. -/
theorem exists_outline (template : List Char) : ∃ (o : Outline) (rest : List Char),
    template = o.written ++ rest ∧
      (rest = [] ∨ rest = ['%'] ∨ ∃ c after, rest = '%' :: c :: after ∧ ¬ Goes c) := by
  have text (c : Char) {o : Outline} {rest : List Char} :
      (doubled [c] ++ (o.written ++ rest)) = (Outline.mk (c :: o.first) o.places).written ++ rest := by
    simp [Outline.written, doubled]
  have place (mark : PlaceMark) {o : Outline} {rest : List Char} :
      '%' :: mark.char :: (o.written ++ rest) =
        (Outline.mk [] ((mark, o.first) :: o.places)).written ++ rest := by
    simp [Outline.written, doubled]
  -- The cases of the reader: what it reads goes in front of the outline of what is left.
  induction template using readTemplate.induct with
  | case1 => exact ⟨{}, [], rfl, .inl rfl⟩
  | case2 _ ih =>
      obtain ⟨o, rest, rfl, ends⟩ := ih
      exact ⟨_, rest, text '%', ends⟩
  | case3 _ ih =>
      obtain ⟨o, rest, rfl, ends⟩ := ih
      exact ⟨_, rest, place .s, ends⟩
  | case4 _ ih =>
      obtain ⟨o, rest, rfl, ends⟩ := ih
      exact ⟨_, rest, place .d, ends⟩
  | case5 c rest notSign notS notD =>
      refine ⟨{}, _, rfl, .inr (.inr ⟨c, rest, rfl, ?_⟩)⟩
      rintro (rfl | rfl | rfl)
      · exact notSign rfl
      · exact notS rfl
      · exact notD rfl
  | case6 => exact ⟨{}, ['%'], rfl, .inr (.inl rfl)⟩
  | case7 c rest _ _ _ notBefore notLast ih =>
      have plain : c ≠ '%' := by
        intro sign
        cases rest with
        | nil => exact notLast sign rfl
        | cons next rest => exact notBefore next rest sign rfl
      obtain ⟨o, rest, rfl, ends⟩ := ih
      refine ⟨⟨c :: o.first, o.places⟩, rest, ?_, ends⟩
      rw [← text, doubled, List.flatMap_singleton, if_neg plain]
      rfl

theorem Reads.of_eq_ok (read : readTemplate template.toList = .ok parts) :
    Reads template.toList parts := by
  obtain ⟨o, rest, split, ends⟩ := exists_outline template.toList
  have reads := reads_written o
  rw [split, reads] at read
  rcases ends with rfl | rfl | ⟨c, after, rfl, wrong⟩
  · cases read
    rw [split]
    exact reads.append reads_nil
  · cases read
  · rw [readTemplate_unknown wrong] at read
    cases read

theorem places_append : places (parts ++ more) = places parts + places more :=
  List.countP_append

theorem places_chars : places (text.map .char) = 0 := by
  simp [places, List.countP_eq_zero]

theorem places_parts (o : Outline) : places o.parts = o.places.length := by
  rw [Outline.parts, places_append, places_chars, Nat.zero_add]
  induction o.places with
  | nil => rfl
  | cons place rest ih =>
      have opened : places [.place] = 1 := rfl
      rw [List.flatMap_cons, ← List.singleton_append, List.append_assoc, places_append, opened,
        places_append, places_chars, ih, List.length_cons]
      omega

theorem fill_append (count : places parts = arguments.length) :
    fill (parts ++ more) (arguments ++ others) = fill parts arguments ++ fill more others := by
  induction parts generalizing arguments with
  | nil =>
      obtain rfl := List.length_eq_zero_iff.mp count.symm
      rfl
  | cons part parts ih =>
      cases part with
      | char c =>
          have count : places parts = arguments.length := by simpa [places] using count
          simp only [List.cons_append, fill]
          rw [ih count]
      | place =>
          cases arguments with
          | nil => simp [places] at count
          | cons argument arguments =>
              have count : places parts = arguments.length := by simpa [places] using count
              simp only [List.cons_append, fill, List.append_assoc]
              rw [ih count]

theorem fill_chars : fill (text.map .char ++ more) arguments = text ++ fill more arguments := by
  induction text with
  | nil => rfl
  | cons c text ih => rw [List.map_cons, List.cons_append, fill, ih, List.cons_append]

theorem fill_parts (count : o.places.length = arguments.length) :
    fill o.parts arguments = o.filled arguments := by
  obtain ⟨first, places⟩ := o
  rw [Outline.parts, fill_chars, Outline.filled]
  congr 1
  induction places generalizing arguments with
  | nil => cases arguments <;> rfl
  | cons place places ih =>
      cases arguments with
      | nil => cases count
      | cons argument arguments =>
          rw [List.flatMap_cons, List.cons_append, fill, fill_chars, ih (Nat.succ.inj count)]
          simp

theorem format_of_read (read : readTemplate template.toList = .ok parts) :
    format template arguments = if places parts = arguments.length
      then .ok (String.ofList (fill parts arguments))
      else .error (.argumentCount (places parts) arguments.length) := by
  rw [format, read]
  rfl

theorem format_of_fault {fault : TemplateFault}
    (read : readTemplate template.toList = .error fault) :
    format template arguments = .error fault := by
  rw [format, read]
  rfl

theorem Filling.format_eq {result : Except TemplateFault String}
    (filling : Filling template.toList arguments result) :
    format template arguments = result := by
  cases filling with
  | unknown split wrong =>
      apply format_of_fault
      rw [split, reads_written, readTemplate_unknown wrong]
      rfl
  | dangling split =>
      apply format_of_fault
      rw [split, reads_written]
      rfl
  | @miscounted o split count =>
      rw [format_of_read (split ▸ (reads_written o).eq_ok), places_parts, if_neg count]
  | @filled o split count =>
      rw [format_of_read (split ▸ (reads_written o).eq_ok), places_parts, if_pos count,
        fill_parts count]

theorem exists_filling (template : List Char) (arguments : List String) :
    ∃ result, Filling template arguments result := by
  obtain ⟨o, rest, split, ends⟩ := exists_outline template
  rcases ends with rfl | rfl | ⟨c, after, rfl, wrong⟩
  · rw [List.append_nil] at split
    by_cases count : o.places.length = arguments.length
    · exact ⟨_, .filled split count⟩
    · exact ⟨_, .miscounted split count⟩
  · exact ⟨_, .dangling split⟩
  · exact ⟨_, .unknown split wrong⟩

theorem format_eq_iff {result : Except TemplateFault String} :
    format template arguments = result ↔ Filling template.toList arguments result := by
  constructor
  · rintro rfl
    obtain ⟨result, filling⟩ := exists_filling template.toList arguments
    exact filling.format_eq ▸ filling
  · exact Filling.format_eq

theorem format_eq_ok_iff : format template arguments = .ok a ↔
    ∃ parts, readTemplate template.toList = .ok parts ∧ places parts = arguments.length ∧
      a = String.ofList (fill parts arguments) := by
  rw [format, bind_eq_ok_iff]
  refine exists_congr fun parts => and_congr_right fun _ => ?_
  split
  · rename_i count
    simp [count, eq_comm]
  · rename_i count
    simp [count]

theorem format_doubled (text : String) :
    format (String.ofList (doubled text.toList)) [] = .ok text := by
  rw [format_eq_ok_iff]
  refine ⟨text.toList.map .char, ?_, places_chars, ?_⟩
  · rw [String.toList_ofList]
    exact (reads_doubled text.toList).eq_ok
  · have filled : fill (text.toList.map .char ++ []) [] = text.toList ++ fill [] [] := fill_chars
    rw [List.append_nil] at filled
    rw [filled, fill, List.append_nil, String.ofList_toList]

theorem format_append (first : format template arguments = .ok a)
    (second : format following others = .ok b) :
    format (template ++ following) (arguments ++ others) = .ok (a ++ b) := by
  obtain ⟨parts, read, count, rfl⟩ := format_eq_ok_iff.mp first
  obtain ⟨more, read', count', rfl⟩ := format_eq_ok_iff.mp second
  rw [format_eq_ok_iff]
  refine ⟨parts ++ more, ?_, ?_, ?_⟩
  · rw [String.toList_append, Reads.of_eq_ok read, read']
    rfl
  · rw [places_append, count, count', List.length_append]
  · rw [fill_append count, String.ofList_append]

/-- What is known of filling in a template. -/
structure FilledIn (template : String) (arguments : List String) : Prop where
  exact (result : Except TemplateFault String) :
    format template arguments = result ↔ Filling template.toList arguments result
  /-- Once its per cent signs are doubled, it stands for itself as a text. -/
  literal : format (String.ofList (doubled template.toList)) [] = .ok template
  /-- Templates with their arguments may stand one behind the other. -/
  joined (following : String) (others : List String) (a b : String) :
    format template arguments = .ok a → format following others = .ok b →
    format (template ++ following) (arguments ++ others) = .ok (a ++ b)

theorem filledIn (template : String) (arguments : List String) : FilledIn template arguments where
  exact _ := format_eq_iff
  literal := format_doubled template
  joined _ _ _ _ := format_append

/-- Arguments are put in as they are, per cent signs and all. -/
theorem filledIn_joined :
    format ("%s%%" ++ "d: %d") (["%s%%"] ++ ["7"]) = .ok ("%s%%%" ++ "d: 7") ∧
      Filling "%s%%d: %d".toList ["%s%%"] (.error (.argumentCount 2 1)) := by
  have first : format "%s%%" ["%s%%"] = .ok "%s%%%" := by decide +kernel
  have second : format "d: %d" ["7"] = .ok "d: 7" := by decide +kernel
  exact ⟨(filledIn _ _).joined _ _ _ _ first second,
    ((filledIn _ _).exact _).mp (by decide +kernel)⟩

end

end Exchange.Query
