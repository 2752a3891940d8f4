import Mathlib
import Exchange.Proofs.XPath.Scan
import Exchange.XPath.Token

/-! # What the scan finds in front of tokens

The scan for prefixes knows nothing of tokens, and still it finds the prefix of every name test that
is read. Only where the word of an operator is read off the front of a longer run, as `and` off
`anda:b`, it finds the prefix together with the word.
-/

namespace Exchange

namespace Xml

variable {cs rest : List Char}

theorem eq_append_of_dropChars? {word : List Char} (read : dropChars? word cs = some rest) :
    cs = word ++ rest := by
  induction word generalizing cs with
  | nil => exact Option.some.inj read
  | cons w word ih =>
      cases cs with
      | nil => cases read
      | cons c cs =>
          simp only [dropChars?] at read
          split at read
          · rename_i same
            rw [same, ih read, List.cons_append]
          · cases read

theorem eq_append_of_takeWord? {word : String} (read : takeWord? word cs = some rest) :
    cs = word.toList ++ rest :=
  eq_append_of_dropChars? read

theorem eq_append_of_takeUntil? {quote : Char} {before after : List Char}
    (read : takeUntil? [quote] cs = some (before, after)) :
    cs = before ++ quote :: after ∧ quote ∉ before := by
  induction cs generalizing before with
  | nil => cases read
  | cons c cs ih =>
      simp only [takeUntil?] at read
      split at read
      · rename_i closes
        cases read
        simp_all
      · rename_i inside
        simp only [Option.map_eq_some_iff, Prod.exists, Prod.mk.injEq] at read
        obtain ⟨later, after', readLater, rfl, rfl⟩ := read
        obtain ⟨rfl, absent⟩ := ih readLater
        simp_all

/-- A name without a colon. -/
def IsName (name : List Char) : Prop :=
  ∃ c more, name = c :: more ∧ isNameStart c = true ∧ ∀ d ∈ more, isNameChar d = true

/-- No name goes on here. -/
def EndsName (cs : List Char) : Prop := ∀ c, cs.head? = some c → isNameChar c = false

theorem split_of_takeName? {name : String} (read : takeName? cs = some (name, rest)) :
    cs = name.toList ++ rest ∧ IsName name.toList ∧ EndsName rest := by
  unfold takeName? at read
  split at read
  · rename_i c more
    split at read
    · rename_i starts
      cases read
      rw [String.toList_ofList]
      refine ⟨?_, ⟨c, _, rfl, starts, fun d mem => List.mem_takeWhile_imp mem⟩, fun d next => ?_⟩
      · rw [List.cons_append, List.takeWhile_append_dropWhile]
      · have ends := List.head?_dropWhile_not isNameChar more
        rwa [next] at ends
    · cases read
  · cases read

theorem split_of_takeWrittenName? {name : WrittenName}
    (read : takeWrittenName? cs = some (name, rest)) : EndsName rest ∧
    IsName name.localName.toList ∧ match name.label with
      | none => cs = name.localName.toList ++ rest
      | some l => IsName l.toList ∧ cs = l.toList ++ ':' :: (name.localName.toList ++ rest) := by
  simp only [takeWrittenName?, bind, Option.bind_eq_some_iff, Prod.exists] at read
  obtain ⟨first, behind, readFirst, read⟩ := read
  obtain ⟨rfl, isName, ends⟩ := split_of_takeName? readFirst
  split at read
  · rename_i more
    split at read
    · rename_i second rest' readSecond
      cases read
      obtain ⟨rfl, isName', ends'⟩ := split_of_takeName? readSecond
      exact ⟨ends', isName', isName, rfl⟩
    · cases read
      exact ⟨ends, isName, rfl⟩
  · cases read
    exact ⟨ends, isName, rfl⟩

end Xml

namespace XPath

open Xml (IsName EndsName)

section Marks

variable {c : Char}

theorem ascii_marks : ∀ n < 0x80,
    Xml.isNameStart (Char.ofNat n) = decide (charMark (Char.ofNat n) = .start) ∧
    Xml.isNameChar (Char.ofNat n) = goesOn charMark (Char.ofNat n) := by
  decide

theorem charMark_of_isNameStart (starts : Xml.isNameStart c = true) : charMark c = .start := by
  rcases Nat.lt_or_ge c.toNat 0x80 with ascii | beyond
  · have same := (ascii_marks c.toNat ascii).1
    rw [Char.ofNat_toNat, starts] at same
    exact of_decide_eq_true same.symm
  · exact charMark_of_beyond beyond

theorem goesOn_of_isNameChar (named : Xml.isNameChar c = true) : goesOn charMark c = true := by
  rcases Nat.lt_or_ge c.toNat 0x80 with ascii | beyond
  · have same := (ascii_marks c.toNat ascii).2
    rw [Char.ofNat_toNat, named] at same
    exact same.symm
  · simp [goesOn, charMark_of_beyond beyond]

/-- Beyond ASCII the scan takes more characters for those of names than there are. -/
theorem isNameChar_of_goesOn (goes : goesOn charMark c = true)
    (readable : c.toNat < 0x80 ∨ Xml.isNameStart c = true) : Xml.isNameChar c = true := by
  rcases readable with ascii | starts
  · have same := (ascii_marks c.toNat ascii).2
    rwa [Char.ofNat_toNat, goes] at same
  · simp [Xml.isNameChar, starts]

theorem exists_charMark_quote {quote : Char} (isQuote : quote = '"' ∨ quote = '\'') :
    ∃ b, charMark quote = .quote b ∧ ∀ c, charMark c = .quote b → c = quote := by
  have only {b : UInt8} (isQuote : b = apostrophe ∨ b = doubleQuote) (c : Char)
      (marked : charMark c = .quote b) : c.toNat = b.toNat := by
    unfold charMark at marked
    split at marked
    · rw [← (byteMark_eq_quote_iff isQuote).mp marked, UInt8.toNat_ofNat', Nat.mod_eq_of_lt]
      omega
    · cases marked
  rcases isQuote with rfl | rfl
  · exact ⟨doubleQuote, by decide, fun c marked => Char.toNat_inj.mp (only (.inr rfl) c marked)⟩
  · exact ⟨apostrophe, by decide, fun c marked => Char.toNat_inj.mp (only (.inl rfl) c marked)⟩

end Marks

/-- The operators that are words. -/
def operatorWords : List String := ["and", "or", "mod", "div"]

/-- A text that begins with the word of an operator. -/
def IsGlue (glue : List Char) : Prop := ∃ word ∈ operatorWords, word.toList <+: glue

/-- The states in front of a token, which has at most the word of an operator, and signs that are
    no part of a name to the reader, in the same run before it. -/
inductive Clean : ScanState Char → Prop where
  | empty : Clean (.run [])
  | glued {name : List Char} (glue : IsGlue name) : Clean (.run name)

/-- A label that the scan finds by itself or with the word of an operator in front. -/
def Seen (state : ScanState Char) (cs label : List Char) : Prop :=
  ∃ name ∈ runs charMark state cs, name = label ∨ ∃ glue, IsGlue glue ∧ name = glue ++ label

variable {state : ScanState Char} {cs rest name label : List Char}

theorem IsGlue.append (glue : IsGlue name) (more : List Char) : IsGlue (name ++ more) := by
  obtain ⟨word, mem, front⟩ := glue
  exact ⟨word, mem, front.trans (List.prefix_append name more)⟩

theorem Seen.mono {state' : ScanState Char} {cs' : List Char} (seen : Seen state cs label)
    (sub : ∀ name ∈ runs charMark state cs, name ∈ runs charMark state' cs') :
    Seen state' cs' label := by
  obtain ⟨name, found, same⟩ := seen
  exact ⟨name, sub name found, same⟩

theorem Clean.behind_plain {signs : List Char} (clean : Clean state)
    (plain : signs.all fun c => (charMark c).isPlain) : Clean (state.behind charMark signs) := by
  induction signs generalizing state with
  | nil => exact clean
  | cons c signs ih =>
      simp only [List.all_cons, Bool.and_eq_true] at plain
      refine ih ?_ plain.2
      cases marked : charMark c with
      | start | quote => simp [marked, Mark.isPlain] at plain
      | colon | star | other =>
          cases clean <;> simp only [ScanState.next, marked] <;> exact .empty
      | inner =>
          cases clean with
          | empty =>
              simp only [ScanState.next, marked]
              exact .empty
          | @glued name glue =>
              simp only [ScanState.next, marked]
              split
              · exact .empty
              · exact .glued (glue.append [c])

theorem behind_goesOn (nonempty : name ≠ []) (goes : ∀ c ∈ label, goesOn charMark c = true) :
    (ScanState.run name).behind charMark label = .run (name ++ label) := by
  induction label generalizing name with
  | nil => simp [ScanState.behind]
  | cons c label ih =>
      obtain ⟨first, later⟩ := List.forall_mem_cons.mp goes
      have longer : (ScanState.run name).next charMark c = .run (name ++ [c]) := by
        simp only [goesOn, Bool.or_eq_true, decide_eq_true_eq] at first
        rcases first with marked | marked <;> simp [ScanState.next, marked, nonempty]
      have nonempty : name ++ [c] ≠ [] := by simp
      rw [behind_cons, longer, ih nonempty later, ← List.append_cons]

/-- The run goes on over a name. -/
theorem behind_name (isName : IsName label) :
    (ScanState.run name).behind charMark label = .run (name ++ label) := by
  obtain ⟨c, more, rfl, starts, named⟩ := isName
  have longer : (ScanState.run name).next charMark c = .run (name ++ [c]) := by
    simp [ScanState.next, charMark_of_isNameStart starts]
  have nonempty : name ++ [c] ≠ [] := by simp
  have goes (d : Char) (mem : d ∈ more) := goesOn_of_isNameChar (named d mem)
  rw [behind_cons, longer, behind_goesOn nonempty goes, ← List.append_cons]

theorem behind_reset {c : Char} {front : List Char}
    (unquoted : front.all fun d => !(charMark d).isQuote) (resets : (charMark c).resets = true) :
    (ScanState.run name).behind charMark (front ++ [c]) = .run [] := by
  induction front generalizing name with
  | nil =>
      cases marked : charMark c <;>
        simp [ScanState.behind, ScanState.next, marked, Mark.resets] at resets ⊢
  | cons d front ih =>
      simp only [List.all_cons, Bool.and_eq_true] at unquoted
      obtain ⟨name', step⟩ : ∃ name', (ScanState.run name).next charMark d = .run name' := by
        cases marked : charMark d with
        | quote => simp [marked, Mark.isQuote] at unquoted
        | inner =>
            simp only [ScanState.next, marked]
            split <;> exact ⟨_, rfl⟩
        | start | colon | star | other =>
            simp only [ScanState.next, marked]
            exact ⟨_, rfl⟩
      rw [List.cons_append, behind_cons, step]
      exact ih unquoted.2

/-- The label of a name test. -/
def NodeTest.label? : NodeTest → Option String
  | .name n => n.label
  | _ => none

/-- The label of a token that is a name test. -/
def Token.label? : Token → Option String
  | .nodeTest test => test.label?
  | .name n => n.label
  | _ => none

/-- The state in front of a token, or behind a name that ends here. -/
def Settled (state : ScanState Char) (rest : List Char) : Prop :=
  Clean state ∨ (∃ name, state = .run name) ∧ EndsName rest

/-- Does a text begin with a character of some token? -/
def startsToken (word : List Char) : Bool :=
  word.head?.any fun c => c.toNat < 0x80 || Xml.isNameStart c

theorem startsToken_append {word : List Char} (starts : startsToken word = true)
    (more : List Char) : startsToken (word ++ more) = true := by
  cases word with
  | nil => cases starts
  | cons c word => exact starts

/-- Tokens that are read, as the scan comes by them: it finds their labels and is settled again
    behind them. -/
def Reads (cs : List Char) (tokens : List Token) (rest : List Char) : Prop :=
  ∃ word, cs = word ++ rest ∧ startsToken word = true ∧ ∀ state, Clean state →
    (∀ token ∈ tokens, ∀ label, token.label? = some label → Seen state cs label.toList) ∧
    Settled (state.behind charMark word) rest

/-- Is none of the tokens a name test with a prefix? -/
def unlabelled (tokens : List Token) : Bool := tokens.all fun token => token.label?.isNone

/-- Is this a text of signs? -/
def isSigns (word : List Char) : Bool := word.all fun c => (charMark c).isPlain

/-- Is this a text that ends any run? -/
def isClosing (word : List Char) : Bool :=
  (word.getLast?.any fun c => (charMark c).resets) && word.all fun c => !(charMark c).isQuote

variable {tokens : List Token} {word : List Char}

theorem Clean.exists_run (clean : Clean state) : ∃ name, state = .run name := by
  cases clean with
  | empty => exact ⟨_, rfl⟩
  | glued => exact ⟨_, rfl⟩

theorem reads_unlabelled (starts : startsToken word = true) (plain : unlabelled tokens = true)
    (settled : ∀ state, Clean state → Settled (state.behind charMark word) rest) :
    Reads (word ++ rest) tokens rest := by
  refine ⟨word, rfl, starts, fun state clean => ⟨fun token mem label labelled => ?_,
    settled state clean⟩⟩
  have none := List.all_eq_true.mp plain token mem
  rw [labelled] at none
  cases none

theorem reads_signs (starts : startsToken word = true) (plain : unlabelled tokens = true)
    (signs : isSigns word = true) : Reads (word ++ rest) tokens rest :=
  reads_unlabelled starts plain fun _ clean => .inl (clean.behind_plain signs)

theorem behind_closing (clean : Clean state) (closing : isClosing word = true) :
    state.behind charMark word = .run [] := by
  obtain ⟨name, rfl⟩ := clean.exists_run
  simp only [isClosing, Bool.and_eq_true, Option.any_eq_true] at closing
  obtain ⟨⟨last, isLast, resets⟩, unquoted⟩ := closing
  obtain ⟨front, rfl⟩ := List.getLast?_eq_some_iff.mp isLast
  rw [List.all_append, Bool.and_eq_true] at unquoted
  exact behind_reset unquoted.1 resets

theorem reads_closing (starts : startsToken word = true) (plain : unlabelled tokens = true)
    (closing : isClosing word = true) : Reads (word ++ rest) tokens rest :=
  reads_unlabelled starts plain fun _ clean => .inl (behind_closing clean closing ▸ .empty)

theorem isName_of_mem_operatorWords {word : String} (mem : word ∈ operatorWords) :
    IsName word.toList := by
  have letters : operatorWords.all fun word =>
    word.toList.head?.any Xml.isNameStart && word.toList.all Xml.isNameChar := by decide
  have named := List.all_eq_true.mp letters word mem
  cases cs : word.toList with
  | nil => simp [cs] at named
  | cons c more =>
      simp only [cs, List.head?_cons, Option.any_some, List.all_cons, Bool.and_eq_true,
        List.all_eq_true] at named
      exact ⟨c, more, rfl, named.1, named.2.2⟩

theorem startsToken_of_isName (isName : IsName word) : startsToken word = true := by
  obtain ⟨c, more, rfl, starts, -⟩ := isName
  simp [startsToken, starts]

theorem reads_operatorWord {word : String} (mem : word ∈ operatorWords)
    (plain : unlabelled tokens = true) : Reads (word.toList ++ rest) tokens rest := by
  have isName := isName_of_mem_operatorWords mem
  refine reads_unlabelled (startsToken_of_isName isName) plain fun state clean => .inl ?_
  cases clean with
  | empty =>
      rw [behind_name isName, List.nil_append]
      exact .glued ⟨word, mem, List.prefix_rfl⟩
  | glued glue =>
      rw [behind_name isName]
      exact .glued (glue.append _)

section Vocabulary

variable {α : Type} {words : Vocabulary α} {a : α}

theorem exists_of_take? (read : words.take? cs = some (a, rest)) :
    ∃ word, (word, a) ∈ words ∧ cs = word.toList ++ rest := by
  obtain ⟨⟨word, b⟩, mem, found⟩ := List.exists_of_findSome?_eq_some read
  simp only [Option.map_eq_some_iff, Prod.mk.injEq] at found
  obtain ⟨rest', taken, rfl, rfl⟩ := found
  exact ⟨word, mem, Xml.eq_append_of_takeWord? taken⟩

end Vocabulary

theorem reads_vocabulary {words : Vocabulary (List Token)}
    (signs : words.all fun (word, tokens) =>
      startsToken word.toList && unlabelled tokens && isSigns word.toList)
    (read : words.take? cs = some (tokens, rest)) : Reads cs tokens rest := by
  obtain ⟨word, mem, rfl⟩ := exists_of_take? read
  have entry := List.all_eq_true.mp signs _ mem
  simp only [Bool.and_eq_true] at entry
  exact reads_signs entry.1.1 entry.1.2 entry.2

theorem reads_namedOperators (read : namedOperators.take? cs = some (tokens, rest)) :
    Reads cs tokens rest := by
  obtain ⟨word, mem, rfl⟩ := exists_of_take? read
  simp only [namedOperators, List.mem_cons, Prod.mk.injEq, List.not_mem_nil, or_false] at mem
  rcases mem with ⟨rfl, rfl⟩ | ⟨rfl, rfl⟩ | ⟨rfl, rfl⟩ | ⟨rfl, rfl⟩ | ⟨rfl, rfl⟩
  · exact reads_operatorWord (by decide) rfl
  · exact reads_operatorWord (by decide) rfl
  · exact reads_operatorWord (by decide) rfl
  · exact reads_operatorWord (by decide) rfl
  · exact reads_signs (by decide) rfl (by decide)

theorem reads_takeAxis? (read : takeAxis? cs = some (tokens, rest)) : Reads cs tokens rest := by
  simp only [takeAxis?, bind, Option.bind_eq_some_iff, Prod.exists] at read
  obtain ⟨axis, behind, readAxis, colons, readColons, same⟩ := read
  cases same
  obtain ⟨word, mem, rfl⟩ := exists_of_take? readAxis
  have closing : axes.all fun entry => startsToken (entry.1.toList ++ "::".toList) &&
      isClosing (entry.1.toList ++ "::".toList) := by decide
  have entry := List.all_eq_true.mp closing _ mem
  rw [Bool.and_eq_true] at entry
  rw [Xml.eq_append_of_takeWord? readColons, ← List.append_assoc]
  exact reads_closing entry.1 rfl entry.2

theorem split_of_takeLiteral? {text : String} (read : takeLiteral? cs = some (text, rest)) :
    ∃ quote before, (quote = '"' ∨ quote = '\'') ∧ quote ∉ before ∧
      cs = quote :: (before ++ [quote]) ++ rest := by
  unfold takeLiteral? at read
  split at read
  · rename_i quote more
    split at read
    · rename_i isQuote
      simp only [Option.map_eq_some_iff, Prod.exists, Prod.mk.injEq] at read
      obtain ⟨before, after, read, -, rfl⟩ := read
      obtain ⟨rfl, absent⟩ := Xml.eq_append_of_takeUntil? read
      exact ⟨quote, before, isQuote, absent, by simp⟩
    · cases read
  · cases read

theorem behind_literal {quote : Char} {before : List Char} (isQuote : quote = '"' ∨ quote = '\'')
    (absent : quote ∉ before) :
    (ScanState.run name).behind charMark (quote :: (before ++ [quote])) = .run [] := by
  obtain ⟨b, opens, only⟩ := exists_charMark_quote isQuote
  have inside (cs : List Char) (absent : quote ∉ cs) :
      (ScanState.literal b).behind charMark cs = .literal b := by
    induction cs with
    | nil => rfl
    | cons c cs ih =>
        rw [List.mem_cons, not_or] at absent
        have stays : (ScanState.literal b).next charMark c = .literal b :=
          if_neg fun closes => absent.1 (only c closes).symm
        rw [behind_cons, stays]
        exact ih absent.2
  have first : (ScanState.run name).next charMark quote = .literal b := by
    simp [ScanState.next, opens]
  have last : (ScanState.literal b).next charMark quote = .run [] := if_pos opens
  rw [behind_cons, first, behind_append, inside before absent, behind_cons, last]
  rfl

theorem reads_takeLiteral? {text : String} (plain : unlabelled tokens = true)
    (read : takeLiteral? cs = some (text, rest)) : Reads cs tokens rest := by
  obtain ⟨quote, before, isQuote, absent, rfl⟩ := split_of_takeLiteral? read
  have starts : startsToken (quote :: (before ++ [quote])) = true := by
    rcases isQuote with rfl | rfl <;> rfl
  refine reads_unlabelled starts plain fun state clean => .inl ?_
  obtain ⟨name, rfl⟩ := clean.exists_run
  rw [behind_literal isQuote absent]
  exact .empty

/-- Is this a character of numbers? -/
def isNumeric (c : Char) : Bool := Number.isDigit c || c == '.'

theorem plain_of_isNumeric {c : Char} (numeric : isNumeric c = true) :
    c.toNat < 0x80 ∧ (charMark c).isPlain = true := by
  have ascii : c.toNat < 0x80 := by
    simp only [isNumeric, Number.isDigit, Bool.or_eq_true, Bool.and_eq_true, decide_eq_true_eq,
      beq_iff_eq] at numeric
    rcases numeric with digit | rfl
    · exact Nat.lt_of_le_of_lt digit.2 (by decide)
    · decide
  have plain : ∀ n < 0x80, isNumeric (Char.ofNat n) = true →
      (charMark (Char.ofNat n)).isPlain = true := by decide
  have here := plain c.toNat ascii
  rw [Char.ofNat_toNat] at here
  exact ⟨ascii, here numeric⟩

theorem split_of_takeNumber? {x : Float} (read : takeNumber? cs = some (x, rest)) :
    ∃ word, cs = word ++ rest ∧ word ≠ [] ∧ word.all isNumeric = true := by
  have numeric (cs : List Char) : (cs.takeWhile Number.isDigit).all isNumeric = true :=
    List.all_eq_true.mpr fun c mem => by simp [isNumeric, List.mem_takeWhile_imp mem]
  have split : cs.takeWhile Number.isDigit ++ cs.drop (cs.takeWhile Number.isDigit).length = cs :=
    List.prefix_iff_eq_append.mp (List.takeWhile_prefix _)
  have first := numeric cs
  unfold takeNumber? at read
  dsimp only at read
  generalize cs.takeWhile Number.isDigit = whole at read split first
  split at read
  · rename_i more point
    split at read
    · cases read
    · cases read
      refine ⟨whole ++ '.' :: more.takeWhile Number.isDigit, ?_, by simp, ?_⟩
      · rw [List.append_assoc, List.cons_append, List.takeWhile_append_dropWhile, ← point, split]
      · rw [List.all_append, first, List.all_cons, numeric]
        rfl
  · split at read
    · cases read
    · rename_i nonempty
      cases read
      exact ⟨whole, split.symm, fun empty => nonempty ⟨empty, rfl⟩, first⟩

theorem reads_takeNumber? {x : Float} (plain : unlabelled tokens = true)
    (read : takeNumber? cs = some (x, rest)) : Reads cs tokens rest := by
  obtain ⟨word, rfl, nonempty, numeric⟩ := split_of_takeNumber? read
  have signs (c : Char) (mem : c ∈ word) := plain_of_isNumeric (List.all_eq_true.mp numeric c mem)
  refine reads_signs ?_ plain (List.all_eq_true.mpr fun c mem => (signs c mem).2)
  obtain ⟨c, more, rfl⟩ := List.exists_cons_of_ne_nil nonempty
  simp [startsToken, (signs c List.mem_cons_self).1]

theorem reads_takeNodeTest? (read : takeNodeTest? cs = some (tokens, rest)) :
    Reads cs tokens rest := by
  unfold takeNodeTest? at read
  split at read
  · rename_i test behind readTest
    cases read
    obtain ⟨word, mem, rfl⟩ := exists_of_take? readTest
    have closing : nodeTests.all fun (word, test) =>
      startsToken word.toList && isClosing word.toList && test.label?.isNone := by decide
    have entry := List.all_eq_true.mp closing _ mem
    simp only [Bool.and_eq_true] at entry
    refine reads_closing entry.1.1 ?_ entry.1.2
    simpa [unlabelled, Token.label?] using entry.2
  · simp only [bind, Option.bind_eq_some_iff, Prod.exists] at read
    obtain ⟨inner, opens, target, behind, literal, read⟩ := read
    split at read
    · cases read
      rename_i rest
      rw [Xml.eq_append_of_takeWord? opens]
      obtain ⟨quote, before, isQuote, absent, rfl⟩ := split_of_takeLiteral? literal
      rw [← List.append_assoc, List.append_cons]
      refine reads_unlabelled (by simp [startsToken]) rfl fun state clean => .inl ?_
      rw [behind_append, behind_append, behind_closing clean (by decide),
        behind_literal isQuote absent]
      exact .empty
    · cases read

theorem seen_label {more : List Char} (clean : Clean state) (isName : IsName label)
    (opens : opensName charMark more = true) : Seen state (label ++ ':' :: more) label := by
  obtain ⟨name, rfl⟩ := clean.exists_run
  have nonempty : name ++ label ≠ [] := by
    obtain ⟨c, more, rfl, -⟩ := isName
    simp
  have found : name ++ label ∈ runs charMark (.run (name ++ label)) (':' :: more) := by
    have isColon : charMark ':' = .colon := by decide
    simp [runs, ScanState.found?, isColon, opens, nonempty]
  refine ⟨name ++ label, mem_runs_of_behind (behind_name isName ▸ found), ?_⟩
  cases clean with
  | empty => exact .inl rfl
  | glued glue => exact .inr ⟨name, glue, rfl⟩

theorem opensName_of_isName (isName : IsName word) (more : List Char) :
    opensName charMark (word ++ more) = true := by
  obtain ⟨c, later, rfl, starts, -⟩ := isName
  simp [opensName, charMark_of_isNameStart starts]

theorem split_of_takeQName? {q : QName} (read : takeQName? cs = some (q, rest)) : EndsName rest ∧
    IsName q.localName.toList ∧ match q.label with
      | none => cs = q.localName.toList ++ rest
      | some l => IsName l.toList ∧ cs = l.toList ++ ':' :: (q.localName.toList ++ rest) := by
  simp only [takeQName?, Option.map_eq_some_iff, Prod.exists, Prod.mk.injEq] at read
  obtain ⟨written, _, read, rfl, rfl⟩ := read
  exact Xml.split_of_takeWrittenName? read

theorem reads_takeQName? {q : QName} (read : takeQName? cs = some (q, rest)) :
    EndsName rest ∧ ∃ word, cs = word ++ rest ∧ startsToken word = true ∧
      ∀ state, Clean state → (∀ l, q.label = some l → Seen state cs l.toList) ∧
        ∃ name, state.behind charMark word = .run name := by
  obtain ⟨ends, isName, split⟩ := split_of_takeQName? read
  refine ⟨ends, ?_⟩
  cases label : q.label with
  | none =>
      rw [label] at split
      refine ⟨_, split, startsToken_of_isName isName,
        fun state clean => ⟨fun l none => (nomatch none), ?_⟩⟩
      obtain ⟨name, rfl⟩ := clean.exists_run
      exact ⟨_, behind_name isName⟩
  | some l =>
      rw [label] at split
      obtain ⟨isLabel, rfl⟩ := split
      refine ⟨l.toList ++ ':' :: q.localName.toList, by simp,
        startsToken_append (startsToken_of_isName isLabel) _, fun state clean => ⟨?_, ?_⟩⟩
      · rintro _ ⟨⟩
        exact seen_label clean isLabel (opensName_of_isName isName rest)
      · obtain ⟨name, rfl⟩ := clean.exists_run
        have colon : (ScanState.run (name ++ l.toList)).next charMark ':' = .run [] := rfl
        rw [behind_append, behind_name isLabel, behind_cons, colon]
        exact ⟨_, behind_name isName⟩

theorem reads_takeFunction? (read : takeFunction? cs = some (tokens, rest)) :
    Reads cs tokens rest := by
  simp only [takeFunction?, bind, Option.bind_eq_some_iff, Prod.exists] at read
  obtain ⟨q, behind, readName, read⟩ := read
  split at read
  · cases read
    obtain ⟨ends, word, rfl, starts, reads⟩ := reads_takeQName? readName
    exact reads_unlabelled starts rfl fun state clean => .inr ⟨(reads state clean).2, ends⟩
  · cases read

theorem reads_takeVariable? (read : takeVariable? cs = some (tokens, rest)) :
    Reads cs tokens rest := by
  unfold takeVariable? at read
  split at read
  · simp only [Option.map_eq_some_iff, Prod.exists, Prod.mk.injEq] at read
    obtain ⟨q, _, readName, rfl, rfl⟩ := read
    obtain ⟨ends, word, rfl, starts, reads⟩ := reads_takeQName? readName
    rw [← List.cons_append]
    refine reads_unlabelled rfl rfl fun state clean => .inr ⟨?_, ends⟩
    have dollar : Clean (state.behind charMark ['$']) := clean.behind_plain (by decide)
    exact (reads _ dollar).2
  · cases read

theorem reads_takeNameTest? (read : takeNameTest? cs = some (tokens, rest)) :
    Reads cs tokens rest := by
  unfold takeNameTest? at read
  split at read
  · rename_i more
    cases read
    rw [← List.singleton_append]
    exact reads_signs rfl rfl (by decide)
  · simp only [bind, Option.bind_eq_some_iff, Prod.exists] at read
    obtain ⟨q, behind, readName, read⟩ := read
    split at read
    · rename_i rest label
      cases read
      obtain ⟨-, isName, split⟩ := split_of_takeQName? readName
      rw [label] at split
      subst split
      refine ⟨q.localName.toList ++ [':', '*'], by simp,
        startsToken_append (startsToken_of_isName isName) _, fun state clean =>
          ⟨fun token mem l labelled => ?_, .inl ?_⟩⟩
      · rw [List.mem_singleton.mp mem] at labelled
        cases labelled
        exact seen_label clean isName rfl
      · obtain ⟨name, rfl⟩ := clean.exists_run
        rw [behind_append, behind_name isName]
        exact .empty
    · cases read
      obtain ⟨ends, word, rfl, starts, reads⟩ := reads_takeQName? readName
      refine ⟨word, rfl, starts, fun state clean => ⟨?_, .inr ⟨(reads state clean).2, ends⟩⟩⟩
      intro token mem l labelled
      rw [List.mem_singleton.mp mem] at labelled
      exact (reads state clean).1 l labelled

theorem eq_some_of_orElse {α : Type} {a b : Option α} {x : α} (either : (a <|> b) = some x) :
    a = some x ∨ b = some x := by
  cases a with
  | none => exact .inr either
  | some y => exact .inl either

theorem reads_takeTokens? {operators : Bool}
    (read : takeTokens? operators cs = some (tokens, rest)) : Reads cs tokens rest := by
  unfold takeTokens? at read
  rcases eq_some_of_orElse read with read | read
  · exact reads_vocabulary (by decide) read
  rcases eq_some_of_orElse read with read | read
  · simp only [Option.map_eq_some_iff, Prod.exists, Prod.mk.injEq] at read
    obtain ⟨text, _, readText, rfl, rfl⟩ := read
    exact reads_takeLiteral? rfl readText
  rcases eq_some_of_orElse read with read | read
  · simp only [Option.map_eq_some_iff, Prod.exists, Prod.mk.injEq] at read
    obtain ⟨x, _, readNumber, rfl, rfl⟩ := read
    exact reads_takeNumber? rfl readNumber
  rcases eq_some_of_orElse read with read | read
  · exact reads_vocabulary (by decide) read
  rcases eq_some_of_orElse read with read | read
  · simp only [Option.map_eq_some_iff, Prod.mk.injEq] at read
    obtain ⟨_, readDot, rfl, rfl⟩ := read
    rw [Xml.eq_append_of_takeWord? readDot]
    exact reads_signs (by decide) rfl (by decide)
  rcases eq_some_of_orElse read with read | read
  · split at read
    · exact reads_namedOperators read
    · cases read
  rcases eq_some_of_orElse read with read | read
  · exact reads_takeAxis? read
  rcases eq_some_of_orElse read with read | read
  · exact reads_takeNodeTest? read
  rcases eq_some_of_orElse read with read | read
  · exact reads_takeFunction? read
  rcases eq_some_of_orElse read with read | read
  · exact reads_takeNameTest? read
  · exact reads_takeVariable? read

theorem settled_skipSpace (settled : Settled state cs) :
    ∃ state', Settled state' (Xml.skipSpace cs) ∧
      ∀ name ∈ runs charMark state' (Xml.skipSpace cs), name ∈ runs charMark state cs := by
  obtain ⟨name, isRun⟩ : ∃ name, state = .run name := settled.elim Clean.exists_run And.left
  have split : cs.takeWhile Xml.isSpace ++ Xml.skipSpace cs = cs := List.takeWhile_append_dropWhile
  rcases List.eq_nil_or_concat' (cs.takeWhile Xml.isSpace) with none | ⟨front, blank, blanks⟩
  · rw [none, List.nil_append] at split
    rw [split]
    exact ⟨state, settled, fun _ found => found⟩
  · have other (c : Char) (mem : c ∈ cs.takeWhile Xml.isSpace) : charMark c = .other := by
      have space := List.mem_takeWhile_imp mem
      simp only [Xml.isSpace, Bool.or_eq_true, decide_eq_true_eq] at space
      rcases space with ((rfl | rfl) | rfl) | rfl <;> decide
    have behind : state.behind charMark (cs.takeWhile Xml.isSpace) = .run [] := by
      rw [blanks] at other ⊢
      rw [isRun]
      refine behind_reset (List.all_eq_true.mpr fun c mem => ?_) ?_
      · rw [other c (List.mem_append_left _ mem)]
        rfl
      · rw [other blank (List.mem_append_right _ (List.mem_singleton_self blank))]
        rfl
    refine ⟨.run [], .inl .empty, fun name found => ?_⟩
    rw [← split]
    exact mem_runs_of_behind (behind ▸ found)

/-- In front of a token, the scan finds at least what it finds from a clean state: a name that
    ends here ends for the scan as well. -/
theorem exists_clean (settled : Settled state cs) (starts : startsToken cs = true) :
    ∃ state', Clean state' ∧ ∀ name ∈ runs charMark state' cs, name ∈ runs charMark state cs := by
  rcases settled with clean | ⟨⟨name, rfl⟩, ends⟩
  · exact ⟨state, clean, fun _ found => found⟩
  · refine ⟨.run [], .empty, fun name' found => ?_⟩
    have stops (c : Char) (next : cs.head? = some c) : goesOn charMark c = false := by
      simp only [startsToken, next, Option.any_some, Bool.or_eq_true, decide_eq_true_eq] at starts
      have unnamed := ends c next
      by_contra goes
      rw [isNameChar_of_goesOn (by simpa using goes) starts] at unnamed
      cases unnamed
    by_cases nonempty : name = []
    · rwa [nonempty]
    · rw [runs_end nonempty stops]
      exact List.mem_append_right _ found

theorem seen_of_tokensFrom? {fuel : Nat} {operators : Bool}
    (read : tokensFrom? fuel operators cs = some tokens) (settled : Settled state cs)
    {token : Token} (mem : token ∈ tokens) {label : String} (labelled : token.label? = some label) :
    Seen state cs label.toList := by
  induction fuel generalizing operators cs tokens state with
  | zero => cases read
  | succ fuel ih =>
      simp only [tokensFrom?, bind, Option.bind_eq_some_iff, Prod.exists] at read
      obtain ⟨first, rest, readFirst, read⟩ := read
      obtain ⟨state', settled', sub⟩ := settled_skipSpace settled
      obtain ⟨word, split, starts, reads⟩ := reads_takeTokens? readFirst
      have starts : startsToken (Xml.skipSpace cs) = true := split ▸ startsToken_append starts rest
      obtain ⟨clean, isClean, sub'⟩ := exists_clean settled' starts
      obtain ⟨seen, settledRest⟩ := reads clean isClean
      have seenFirst (mem : token ∈ first) : Seen state cs label.toList :=
        (seen token mem label labelled).mono fun name found => sub name (sub' name found)
      split at read
      · cases read
        exact seenFirst mem
      · simp only [Option.bind_eq_some_iff, Option.some.injEq] at read
        obtain ⟨more, readMore, rfl⟩ := read
        rcases List.mem_append.mp mem with mem | mem
        · exact seenFirst mem
        · obtain ⟨later, settledLater, subLater⟩ := settled_skipSpace settledRest
          refine (ih readMore settledLater mem).mono fun name found => ?_
          refine sub name (sub' name ?_)
          rw [split]
          exact mem_runs_of_behind (subLater name found)

/-- The label of every name test in a text is seen. -/
theorem seen_of_tokens? {text : String} (read : tokens? text = some tokens)
    {token : Token} (mem : token ∈ tokens) {label : String} (labelled : token.label? = some label) :
    Seen (.run []) text.toList label.toList := by
  unfold tokens? at read
  split at read
  · cases read
    cases mem
  · exact seen_of_tokensFrom? read (.inl .empty) mem labelled

end XPath

end Exchange
