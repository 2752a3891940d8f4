import Mathlib
import Exchange.Text.Blank
import Exchange.Text.Split

/-! # Pieces of texts

A text is cut where the separator stands first, or at every place where it stands, and put together
again from its pieces. Trimming finds the one part without blanks at its ends that has nothing but
blanks around it, and such blanks do not change where a text is cut.
-/

namespace Exchange.Text

variable {separator : Char} {cs before after padded core front back : List Char}

theorem splitOnce?_of_not_mem (absent : separator ∉ cs) : splitOnce? separator cs = none := by
  induction cs with
  | nil => rfl
  | cons c rest ih =>
      rw [List.mem_cons, not_or] at absent
      rw [splitOnce?, if_neg (Ne.symm absent.1), ih absent.2]
      rfl

theorem splitOnce?_append (absent : separator ∉ before) :
    splitOnce? separator (before ++ separator :: after) = some (before, after) := by
  induction before with
  | nil => simp [splitOnce?]
  | cons c rest ih =>
      rw [List.mem_cons, not_or] at absent
      rw [List.cons_append, splitOnce?, if_neg (Ne.symm absent.1), ih absent.2]
      rfl

theorem splitOnce?_eq_some_iff : splitOnce? separator cs = some (before, after) ↔
    cs = before ++ separator :: after ∧ separator ∉ before := by
  constructor
  · intro cut
    by_cases mem : separator ∈ cs
    · obtain ⟨first, rest, rfl, absent⟩ := List.eq_append_cons_of_mem mem
      rw [splitOnce?_append absent] at cut
      cases cut
      exact ⟨rfl, absent⟩
    · rw [splitOnce?_of_not_mem mem] at cut
      cases cut
  · rintro ⟨rfl, absent⟩
    exact splitOnce?_append absent

theorem splitOnce?_padded (core : List Char) (absent : separator ∉ front) (absent' : separator ∉ back) :
    splitOnce? separator (front ++ core ++ back) =
      (splitOnce? separator core).map fun cut => (front ++ cut.1, cut.2 ++ back) := by
  by_cases mem : separator ∈ core
  · obtain ⟨first, rest, rfl, absent''⟩ := List.eq_append_cons_of_mem mem
    have together : front ++ (first ++ separator :: rest) ++ back =
        (front ++ first) ++ separator :: (rest ++ back) := by simp
    rw [together, splitOnce?_append absent'', splitOnce?_append (by simp [absent, absent''])]
    rfl
  · rw [splitOnce?_of_not_mem mem, splitOnce?_of_not_mem (by simp [absent, absent', mem])]
    rfl

theorem splitAll_of_not_mem (absent : separator ∉ cs) : splitAll separator cs = [cs] := by
  induction cs with
  | nil => rfl
  | cons c rest ih =>
      rw [List.mem_cons, not_or] at absent
      rw [splitAll, if_neg (Ne.symm absent.1), ih absent.2]

theorem splitAll_append (absent : separator ∉ before) :
    splitAll separator (before ++ separator :: after) = before :: splitAll separator after := by
  induction before with
  | nil => simp [splitAll]
  | cons c rest ih =>
      rw [List.mem_cons, not_or] at absent
      rw [List.cons_append, splitAll, if_neg (Ne.symm absent.1), ih absent.2]

theorem splitAll_joined {piece : List Char} {pieces : List (List Char)}
    (absent : ∀ p ∈ piece :: pieces, separator ∉ p) :
    splitAll separator (piece ++ pieces.flatMap (separator :: ·)) = piece :: pieces := by
  induction pieces generalizing piece with
  | nil =>
      rw [List.flatMap_nil, List.append_nil]
      exact splitAll_of_not_mem (absent piece List.mem_cons_self)
  | cons next pieces ih =>
      rw [List.flatMap_cons, List.cons_append, splitAll_append (absent piece List.mem_cons_self)]
      rw [ih fun p listed => absent p (List.mem_cons_of_mem piece listed)]

theorem exists_pieces (separator : Char) (cs : List Char) : ∃ piece pieces,
    cs = piece ++ pieces.flatMap (separator :: ·) ∧ ∀ p ∈ piece :: pieces, separator ∉ p := by
  induction cs with
  | nil => exact ⟨[], [], rfl, by simp⟩
  | cons c rest ih =>
      obtain ⟨piece, pieces, rfl, absent⟩ := ih
      by_cases same : c = separator
      · subst same
        refine ⟨[], piece :: pieces, rfl, ?_⟩
        rw [List.forall_mem_cons]
        exact ⟨List.not_mem_nil, absent⟩
      · refine ⟨c :: piece, pieces, rfl, ?_⟩
        rw [List.forall_mem_cons] at absent ⊢
        refine ⟨?_, absent.2⟩
        rw [List.mem_cons, not_or]
        exact ⟨Ne.symm same, absent.1⟩

theorem occursIn_iff {needle : List Char} : occursIn needle cs = true ↔ needle <:+: cs := by
  induction cs with
  | nil => simp [occursIn]
  | cons c rest ih => simp [occursIn, ih, List.infix_cons_iff]

theorem endsWith_iff {ending : List Char} : endsWith cs ending = true ↔ ending <:+ cs := by
  rw [endsWith, List.isPrefixOf_iff_prefix, List.reverse_prefix]

/-- A text without the blanks at its ends. -/
structure Trims (padded core : List Char) : Prop where
  around : ∃ front back, padded = front ++ core ++ back ∧ (∀ c ∈ front, isBlank c = true) ∧
    ∀ c ∈ back, isBlank c = true
  head : ∀ c ∈ core.head?, isBlank c = false
  last : ∀ c ∈ core.getLast?, isBlank c = false

theorem trimLeft_append (blank : ∀ c ∈ front, isBlank c = true) :
    trimLeft (front ++ cs) = trimLeft cs :=
  List.dropWhile_append_of_pos blank

theorem trimLeft_of_head (head : ∀ c ∈ cs.head?, isBlank c = false) : trimLeft cs = cs := by
  cases cs with
  | nil => rfl
  | cons c rest => exact List.dropWhile_cons_of_neg (by simp [head c rfl])

theorem trimRight_append (blank : ∀ c ∈ back, isBlank c = true) :
    trimRight (cs ++ back) = trimRight cs := by
  have flipped : ∀ c ∈ back.reverse, isBlank c = true := by simpa using blank
  rw [trimRight, List.reverse_append]
  exact congrArg List.reverse (trimLeft_append flipped)

theorem trimRight_of_last (last : ∀ c ∈ cs.getLast?, isBlank c = false) : trimRight cs = cs := by
  have flipped : ∀ c ∈ cs.reverse.head?, isBlank c = false := by simpa using last
  rw [trimRight]
  exact (congrArg List.reverse (trimLeft_of_head flipped)).trans (List.reverse_reverse cs)

theorem Trims.eq (trims : Trims padded core) : trimChars padded = core := by
  obtain ⟨front, back, rfl, blank, blank'⟩ := trims.around
  rw [trimChars, List.append_assoc, trimLeft_append blank]
  cases core with
  | nil =>
      have nothing : trimLeft back = [] := List.dropWhile_eq_nil_iff.mpr blank'
      rw [List.nil_append, nothing]
      rfl
  | cons c rest =>
      have start : trimLeft (c :: rest ++ back) = c :: rest ++ back := trimLeft_of_head trims.head
      rw [start, trimRight_append blank', trimRight_of_last trims.last]

theorem exists_trimLeft (cs : List Char) :
    ∃ front, cs = front ++ trimLeft cs ∧ ∀ c ∈ front, isBlank c = true :=
  ⟨cs.takeWhile isBlank, List.takeWhile_append_dropWhile.symm, fun _ => List.mem_takeWhile_imp⟩

theorem exists_trimRight (cs : List Char) :
    ∃ back, cs = trimRight cs ++ back ∧ ∀ c ∈ back, isBlank c = true := by
  obtain ⟨front, split, blank⟩ := exists_trimLeft cs.reverse
  refine ⟨front.reverse, ?_, by simpa using blank⟩
  have flipped := congrArg List.reverse split
  rwa [List.reverse_reverse, List.reverse_append] at flipped

theorem head_trimLeft {c : Char} (head : c ∈ (trimLeft cs).head?) : isBlank c = false := by
  have first := List.head?_dropWhile_not isBlank cs
  rw [show (cs.dropWhile isBlank).head? = some c from head] at first
  exact first

theorem trims_trimChars (padded : List Char) : Trims padded (trimChars padded) := by
  obtain ⟨front, split, blank⟩ := exists_trimLeft padded
  obtain ⟨back, split', blank'⟩ := exists_trimRight (trimLeft padded)
  refine ⟨⟨front, back, ?_, blank, blank'⟩, ?_, ?_⟩
  · rw [List.append_assoc, trimChars, ← split', ← split]
  · intro c head
    have first : c ∈ (trimLeft padded).head? := by
      rw [split', List.head?_append, show (trimRight (trimLeft padded)).head? = some c from head]
      rfl
    exact head_trimLeft first
  · intro c last
    rw [trimChars, trimRight, List.getLast?_reverse] at last
    exact head_trimLeft last

theorem trims_iff : Trims padded core ↔ trimChars padded = core :=
  ⟨Trims.eq, fun same => same ▸ trims_trimChars padded⟩

theorem trims_of_ends (head : ∀ c ∈ cs.head?, isBlank c = false)
    (last : ∀ c ∈ cs.getLast?, isBlank c = false) : Trims cs cs :=
  ⟨⟨[], [], by simp, by simp, by simp⟩, head, last⟩

theorem Trims.subset (trims : Trims padded core) : core ⊆ padded := by
  obtain ⟨front, back, rfl, -, -⟩ := trims.around
  intro c inner
  simp [inner]

theorem Trims.length_le (trims : Trims padded core) : core.length ≤ padded.length := by
  obtain ⟨front, back, rfl, -, -⟩ := trims.around
  simp only [List.length_append]
  omega

theorem Trims.eq_of_length (trims : Trims padded core) (same : core.length = padded.length) :
    padded = core := by
  obtain ⟨front, back, rfl, -, -⟩ := trims.around
  simp only [List.length_append] at same
  have nothing : front = [] ∧ back = [] := by
    rw [← List.length_eq_zero_iff, ← List.length_eq_zero_iff]
    omega
  rw [nothing.1, nothing.2, List.nil_append, List.append_nil]

theorem trimChars_eq_nil_iff : trimChars cs = [] ↔ ∀ c ∈ cs, isBlank c = true := by
  constructor
  · intro nothing
    obtain ⟨front, back, split, blank, blank'⟩ := (trims_iff.mpr nothing).around
    rw [split, List.append_nil, List.forall_mem_append]
    exact ⟨blank, blank'⟩
  · intro blank
    refine Trims.eq ⟨⟨cs, [], by simp, blank, by simp⟩, by simp, by simp⟩

theorem trimChars_padded (core : List Char) (blank : ∀ c ∈ front, isBlank c = true)
    (blank' : ∀ c ∈ back, isBlank c = true) :
    trimChars (front ++ core ++ back) = trimChars core := by
  obtain ⟨⟨front', back', split, inner, inner'⟩, head, last⟩ := trims_trimChars core
  refine Trims.eq ⟨⟨front ++ front', back' ++ back, ?_, ?_, ?_⟩, head, last⟩
  · have outer := congrArg (fun cs => front ++ cs ++ back) split
    simpa using outer
  · simpa [or_imp, forall_and] using ⟨blank, inner⟩
  · simpa [or_imp, forall_and] using ⟨inner', blank'⟩

/-- Where a text is cut, and what is left of the pieces without blanks, does not depend on blanks
    around it. -/
theorem splitOnce?_trimChars (separator : Char) (mark : isBlank separator = false)
    (cs : List Char) :
    (splitOnce? separator (trimChars cs)).map (fun cut => (trimChars cut.1, trimChars cut.2)) =
      (splitOnce? separator cs).map fun cut => (trimChars cut.1, trimChars cut.2) := by
  obtain ⟨front, back, split, blank, blank'⟩ := (trims_trimChars cs).around
  have absent {around : List Char} (blank : ∀ c ∈ around, isBlank c = true) :
      separator ∉ around := by
    intro mem
    rw [blank separator mem] at mark
    cases mark
  have cut := splitOnce?_padded (trimChars cs) (absent blank) (absent blank')
  rw [← split] at cut
  rw [cut, Option.map_map]
  congr 1
  funext pieces
  have left := trimChars_padded pieces.1 blank (List.forall_mem_nil _)
  have right := trimChars_padded pieces.2 (List.forall_mem_nil _) blank'
  rw [List.append_nil] at left
  rw [List.nil_append] at right
  rw [Function.comp_apply, left, right]

end Exchange.Text
