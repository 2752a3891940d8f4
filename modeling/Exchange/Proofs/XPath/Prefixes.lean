import Mathlib
import Exchange.Proofs.XPath.Evaluation
import Exchange.Proofs.XPath.Scan

/-! # Which prefixes an expression uses

The scan finds the runs of name bytes that a colon and the start of a name or an asterisk follow,
outside of literals. Compiling refuses an expression for the least of these that has no namespace,
whatever its syntax.
-/

namespace Exchange.XPath

open Text.Utf8 (encode)

/-- A byte that opens a literal, which the same byte closes. -/
def isQuote (b : UInt8) : Bool := b == apostrophe || b == doubleQuote

/-- A digit, a hyphen or a full stop. -/
def isInner (b : UInt8) : Bool := (0x30 ≤ b && b ≤ 0x39) || b == 0x2D || b == 0x2E

/-- Bytes behind which a text is outside of every literal. -/
inductive Unquoted : List UInt8 → Prop where
  | nil : Unquoted []
  | byte {b : UInt8} {rest : List UInt8} (plain : isQuote b = false) (unquoted : Unquoted rest) :
      Unquoted (b :: rest)
  /-- A literal runs from a quote to the next same one. -/
  | literal {quote : UInt8} {inside rest : List UInt8} (opens : isQuote quote = true)
      (closes : quote ∉ inside) (unquoted : Unquoted rest) :
      Unquoted (quote :: (inside ++ quote :: rest))

/-- A run of a text and what follows it. Outside of literals, it is a maximal block of name bytes
    without its leading digits, hyphens and full stops. -/
inductive NameRun (bytes : List UInt8) : (name behind : List UInt8) → Prop where
  | intro {front block behind : List UInt8} (here : bytes = front ++ block ++ behind)
      (outside : Unquoted front) (names : ∀ b ∈ block, isNameByte b = true)
      (first : ∀ b ∈ front.getLast?, isNameByte b = false)
      (last : ∀ b ∈ behind.head?, isNameByte b = false) (nonempty : block.dropWhile isInner ≠ []) :
      NameRun bytes (block.dropWhile isInner) behind

/-- A run that is a prefix: a colon and the start of a name or an asterisk follow it. -/
def IsPrefix (bytes name : List UInt8) : Prop :=
  ∃ b rest, NameRun bytes name (colon :: b :: rest) ∧ (isNameStart b = true ∨ b = asterisk)

section Scan

variable {α : Type} {mark : α → Mark} {name : List α} {a : α} {as : List α} {state : ScanState α}

theorem found?_eq_some_iff : state.found? mark a as = some name ↔
    state = .run name ∧ name ≠ [] ∧ mark a = .colon ∧ opensName mark as = true := by
  cases state with
  | literal quote => simp [ScanState.found?]
  | run held =>
      simp only [ScanState.found?, Option.ite_none_right_eq_some, Option.some.injEq,
        ScanState.run.injEq, Bool.and_eq_true, decide_eq_true_eq, Bool.not_eq_true',
        List.isEmpty_eq_false_iff]
      constructor
      · rintro ⟨⟨⟨isColon, nonempty⟩, opens⟩, rfl⟩
        exact ⟨rfl, nonempty, isColon, opens⟩
      · rintro ⟨rfl, nonempty, isColon, opens⟩
        exact ⟨⟨⟨isColon, nonempty⟩, opens⟩, rfl⟩

/-- A prefix is found where the scan has a run behind it and a colon in front of it. -/
theorem mem_runs_iff : name ∈ runs mark state as ↔ ∃ front a rest, as = front ++ a :: rest ∧
    state.behind mark front = .run name ∧ name ≠ [] ∧ mark a = .colon ∧
    opensName mark rest = true := by
  induction as generalizing state with
  | nil => simp [runs]
  | cons a as ih =>
      rw [runs, List.mem_append, Option.mem_toList, found?_eq_some_iff, ih]
      constructor
      · rintro (⟨rfl, found⟩ | ⟨front, b, rest, rfl, found⟩)
        · exact ⟨[], a, as, rfl, rfl, found⟩
        · exact ⟨a :: front, b, rest, rfl, found⟩
      · rintro ⟨_ | ⟨_, front⟩, b, rest, split, found⟩
        · cases split
          exact .inl found
        · cases split
          exact .inr ⟨front, b, rest, rfl, found⟩

end Scan

section Bytes

variable {b quote : UInt8} {bytes front block name behind : List UInt8} {state : ScanState UInt8}

attribute [local grind =] byteMark isNameStart isNameByte apostrophe doubleQuote colon asterisk
  isQuote isInner

theorem isQuote_iff : isQuote b = true ↔ b = apostrophe ∨ b = doubleQuote := by
  simp [isQuote]

theorem byteMark_of_isQuote (opens : isQuote quote = true) : byteMark quote = .quote quote := by
  grind

theorem byteMark_eq_inner_iff : byteMark b = .inner ↔ isInner b = true := by
  grind

theorem isNameByte_of_isQuote (opens : isQuote b = true) : isNameByte b = false := by
  grind

theorem isQuote_of_isNameByte (name : isNameByte b = true) : isQuote b = false := by
  grind

theorem isInner_eq_false (starts : isNameStart b = true) : isInner b = false := by
  grind

theorem isNameByte_iff : isNameByte b = true ↔ isNameStart b = true ∨ isInner b = true := by
  grind

theorem next_of_isNameByte (named : isNameByte b = true) :
    (ScanState.run (block.dropWhile isInner)).next byteMark b =
      .run ((block ++ [b]).dropWhile isInner) := by
  rw [List.dropWhile_append]
  rcases isNameByte_iff.mp named with starts | inner
  · cases empty : (block.dropWhile isInner).isEmpty <;>
      simp [ScanState.next, byteMark_eq_start_iff.mpr starts, isInner_eq_false starts]
    simpa using empty
  · cases empty : (block.dropWhile isInner).isEmpty <;>
      simp [ScanState.next, byteMark_eq_inner_iff.mpr inner, inner, empty]

theorem eq_nil_of_next (unnamed : isNameByte b = false)
    (run : state.next byteMark b = .run name) : name = [] := by
  cases state with
  | literal quote =>
      simp only [ScanState.next] at run
      split at run <;> cases run
      rfl
  | run held =>
      have notStart : byteMark b ≠ .start := by grind
      have notInner : byteMark b ≠ .inner := by grind
      simp only [ScanState.next] at run
      split at run <;> first | contradiction | (cases run; rfl)

theorem next_run_of_isQuote (opens : isQuote b = true) (held : List UInt8) :
    (ScanState.run held).next byteMark b = .literal b := by
  rw [ScanState.next, byteMark_of_isQuote opens]

theorem next_run_of_plain (unnamed : isNameByte b = false) (plain : isQuote b = false)
    (held : List UInt8) : (ScanState.run held).next byteMark b = .run [] := by
  cases result : (ScanState.run held).next byteMark b with
  | run name => rw [eq_nil_of_next unnamed result]
  | literal quote => grind [ScanState.next]

theorem next_literal_self (opens : isQuote quote = true) :
    (ScanState.literal quote).next byteMark quote = .run [] := by
  rw [ScanState.next, if_pos (byteMark_of_isQuote opens)]

theorem next_literal_of_ne (opens : isQuote quote = true) (other : b ≠ quote) :
    (ScanState.literal quote).next byteMark b = .literal quote := by
  rw [ScanState.next, if_neg (mt (byteMark_eq_quote_iff (isQuote_iff.mp opens)).mp other)]

/-- Where the scan is behind some bytes: outside of literals, with the run of the block of name
    bytes that ends there, or in the literal that a quote has opened. -/
inductive Reached : List UInt8 → ScanState UInt8 → Prop where
  | run {front block : List UInt8} (outside : Unquoted front)
      (names : ∀ b ∈ block, isNameByte b = true)
      (first : ∀ b ∈ front.getLast?, isNameByte b = false) :
      Reached (front ++ block) (.run (block.dropWhile isInner))
  | literal {front inside : List UInt8} {quote : UInt8} (outside : Unquoted front)
      (opens : isQuote quote = true) (closes : quote ∉ inside) :
      Reached (front ++ quote :: inside) (.literal quote)

theorem Unquoted.append {more : List UInt8} (unquoted : Unquoted bytes) (also : Unquoted more) :
    Unquoted (bytes ++ more) := by
  induction unquoted with
  | nil => exact also
  | byte plain _ ih => exact .byte plain ih
  | literal opens closes _ ih =>
      rw [List.cons_append, List.append_assoc, List.cons_append]
      exact .literal opens closes ih

theorem Unquoted.of_names (names : ∀ b ∈ block, isNameByte b = true) : Unquoted block := by
  induction block with
  | nil => exact .nil
  | cons b block ih =>
      obtain ⟨first, later⟩ := List.forall_mem_cons.mp names
      exact .byte (isQuote_of_isNameByte first) (ih later)

theorem Reached.next (reached : Reached bytes state) (b : UInt8) :
    Reached (bytes ++ [b]) (state.next byteMark b) := by
  cases reached with
  | @run front block outside names first =>
      have before : Unquoted (front ++ block) := outside.append (.of_names names)
      cases named : isNameByte b with
      | true =>
          rw [next_of_isNameByte named, List.append_assoc]
          refine .run outside (fun c listed => ?_) first
          rcases List.mem_append.mp listed with earlier | last
          · exact names c earlier
          · exact List.mem_singleton.mp last ▸ named
      | false =>
          -- The block ends here, and a quote opens a literal besides.
          cases opens : isQuote b with
          | true =>
              rw [next_run_of_isQuote opens]
              exact .literal before opens List.not_mem_nil
          | false =>
              have outside : Unquoted ((front ++ block) ++ [b]) := before.append (.byte opens .nil)
              rw [next_run_of_plain named opens]
              simpa using @Reached.run _ [] outside (List.forall_mem_nil _) (by simp [named])
  | @literal front inside quote outside opens closes =>
      by_cases same : b = quote
      · subst same
        have outside : Unquoted ((front ++ b :: inside) ++ [b]) := by
          rw [List.append_assoc, List.cons_append]
          exact outside.append (.literal opens closes .nil)
        rw [next_literal_self opens]
        simpa using @Reached.run _ [] outside (List.forall_mem_nil _)
          (by rw [List.getLast?_concat]; simp [isNameByte_of_isQuote opens])
      · rw [next_literal_of_ne opens same, List.append_assoc, List.cons_append]
        exact .literal outside opens (by simp [closes, Ne.symm same])

theorem reached_behind (bytes : List UInt8) :
    Reached bytes ((ScanState.run []).behind byteMark bytes) := by
  induction bytes using List.reverseRecOn with
  | nil => exact @Reached.run _ [] .nil nofun nofun
  | append_singleton bytes b ih =>
      rw [behind_append]
      exact ih.next b

theorem behind_inside (opens : isQuote quote = true) (closes : quote ∉ bytes) :
    (ScanState.literal quote).behind byteMark bytes = .literal quote := by
  induction bytes with
  | nil => rfl
  | cons b bytes ih =>
      obtain ⟨other, later⟩ : quote ≠ b ∧ quote ∉ bytes := by simpa using closes
      rw [behind_cons, next_literal_of_ne opens (Ne.symm other), ih later]

theorem Unquoted.exists_run (unquoted : Unquoted bytes) (held : List UInt8) :
    ∃ name, (ScanState.run held).behind byteMark bytes = .run name := by
  induction unquoted generalizing held with
  | nil => exact ⟨held, rfl⟩
  | @byte b rest plain _ ih =>
      cases next : (ScanState.run held).next byteMark b with
      | run name =>
          rw [behind_cons, next]
          exact ih name
      | literal quote => grind [ScanState.next]
  | @literal quote inside rest opens closes _ ih =>
      rw [behind_cons, next_run_of_isQuote opens, behind_append, behind_inside opens closes,
        behind_cons, next_literal_self opens]
      exact ih []

theorem Unquoted.behind_eq (unquoted : Unquoted bytes)
    (first : ∀ b ∈ bytes.getLast?, isNameByte b = false) :
    (ScanState.run []).behind byteMark bytes = .run [] := by
  obtain ⟨name, behind⟩ := unquoted.exists_run []
  rw [behind]
  rcases List.eq_nil_or_concat bytes with rfl | ⟨before, b, rfl⟩
  · cases behind
    rfl
  · rw [List.concat_eq_append, behind_append] at behind
    rw [eq_nil_of_next (first b (by simp)) behind]

theorem behind_names (names : ∀ b ∈ block, isNameByte b = true) :
    (ScanState.run []).behind byteMark block = .run (block.dropWhile isInner) := by
  induction block using List.reverseRecOn with
  | nil => rfl
  | append_singleton block b ih =>
      obtain ⟨earlier, last⟩ := List.forall_mem_append.mp names
      rw [behind_append, ih earlier]
      exact next_of_isNameByte (last b (List.mem_singleton_self b))

/-- What the scan finds are the runs that are prefixes. -/
theorem mem_runs_iff_isPrefix : name ∈ runs byteMark (.run []) bytes ↔ IsPrefix bytes name := by
  rw [mem_runs_iff]
  constructor
  · rintro ⟨front, a, rest, rfl, behind, nonempty, isColon, opens⟩
    obtain rfl := byteMark_eq_colon_iff.mp isColon
    obtain _ | ⟨b, rest⟩ := rest
    · cases opens
    · have reached := reached_behind front
      rw [behind] at reached
      cases reached with
      | run outside names first =>
          refine ⟨b, rest, .intro rfl outside names first ?_ nonempty, ?_⟩
          · simp [show isNameByte colon = false by decide]
          · simpa [opensName, byteMark_eq_start_iff, byteMark_eq_star_iff] using opens
  · rintro ⟨b, rest, run, opens⟩
    cases run with
    | @intro front block _ here outside names first last nonempty =>
        refine ⟨front ++ block, colon, b :: rest, here, ?_, nonempty, rfl, ?_⟩
        · rw [behind_append, outside.behind_eq first, behind_names names]
        · simpa [opensName, byteMark_eq_start_iff, byteMark_eq_star_iff] using opens

end Bytes

section Expressions

variable {e : Query.Expression} {p text : String} {name : List UInt8}

theorem exists_mem_prefixes_iff :
    (∃ p ∈ prefixes text, encode p = name) ↔ IsPrefix (encode text) name := by
  have found := runs_encoded (.run []) text.toList
  rw [ScanState.encoded, List.flatMap_nil] at found
  rw [← mem_runs_iff_isPrefix, encode, found, List.mem_map]
  constructor
  · rintro ⟨p, listed, rfl⟩
    exact ⟨p.toList, mem_prefixes_iff.mp listed, rfl⟩
  · rintro ⟨cs, found, rfl⟩
    refine ⟨String.ofList cs, mem_prefixes_iff.mpr ?_, ?_⟩
    · rwa [String.toList_ofList]
    · rw [encode, String.toList_ofList]

theorem mem_prefixes_iff_isPrefix : p ∈ prefixes text ↔ IsPrefix (encode text) (encode p) := by
  rw [← exists_mem_prefixes_iff]
  constructor
  · exact fun listed => ⟨p, listed, rfl⟩
  · rintro ⟨q, listed, same⟩
    exact Text.Utf8.encode_inj.mp same ▸ listed

theorem prefixes_ascending (text : String) : (prefixes text).Pairwise (· < ·) := by
  rw [prefixes_eq]
  exact Table.sorted_ofList _

theorem le_of_find? {α : Type} [LinearOrder α] {f : α → Bool} {a b : α} {as : List α}
    (ascending : as.Pairwise (· < ·)) (found : as.find? f = some a) (listed : b ∈ as)
    (meets : f b = true) : a ≤ b := by
  obtain ⟨-, before, after, rfl, earlier⟩ := List.find?_eq_some_iff_append.mp found
  rcases List.mem_append.mp listed with first | later
  · have fails := earlier b first
    rw [meets] at fails
    cases fails
  · rcases List.mem_cons.mp later with rfl | behind
    · exact le_rfl
    · exact ((List.pairwise_cons.mp (List.pairwise_append.mp ascending).2.1).1 b behind).le

/-- A prefix of an expression that has no namespace and is not the one that XML itself binds. -/
def Unbound (e : Query.Expression) (p : String) : Prop :=
  IsPrefix (encode e.text) (encode p) ∧ p ≠ reservedLabel ∧ e.namespaces.find? p = none

theorem unbound_iff : Unbound e p ↔ p ∈ prefixes e.text ∧
    (p != reservedLabel && (e.namespaces.find? p).isNone) = true := by
  simp [Unbound, mem_prefixes_iff_isPrefix]

theorem unboundPrefix?_eq_some_iff : unboundPrefix? e = some p ↔
    Unbound e p ∧ ∀ q, Unbound e q → p ≤ q := by
  have least {p q : String} (found : unboundPrefix? e = some p) (unbound : Unbound e q) : p ≤ q :=
    le_of_find? (prefixes_ascending e.text) found (unbound_iff.mp unbound).1
      (unbound_iff.mp unbound).2
  constructor
  · intro found
    refine ⟨unbound_iff.mpr ?_, fun q => least found⟩
    exact ⟨List.mem_of_find?_eq_some found, (List.find?_eq_some_iff_append.mp found).1⟩
  · rintro ⟨unbound, below⟩
    obtain ⟨listed, meets⟩ := unbound_iff.mp unbound
    cases found : unboundPrefix? e with
    | none => exact absurd meets (List.find?_eq_none.mp found p listed)
    | some q =>
        have also := (List.find?_eq_some_iff_append.mp found).1
        have other := below q (unbound_iff.mpr ⟨List.mem_of_find?_eq_some found, also⟩)
        rw [le_antisymm other (least found unbound)]

theorem exists_unbound_iff : (∃ p, Unbound e p) ↔ ∃ p, unboundPrefix? e = some p := by
  constructor
  · rintro ⟨p, unbound⟩
    obtain ⟨listed, meets⟩ := unbound_iff.mp unbound
    exact Option.isSome_iff_exists.mp (List.find?_isSome.mpr ⟨p, listed, meets⟩)
  · rintro ⟨p, found⟩
    exact ⟨p, (unboundPrefix?_eq_some_iff.mp found).1⟩

theorem head?_append {s : String} {c : Char} (first : s.toList.head? = some c) (t : String) :
    (s ++ t).toList.head? = some c := by
  rw [String.toList_append, List.head?_append, first]
  rfl

/-- The words of a fault say that a prefix is not bound, and which one, only where that is the
    fault. -/
theorem message_eq_iff {fault : Query.CompileFault} :
    fault.message = "namespace prefix '" ++ p ++ "' is not bound" ↔ fault = .unboundPrefix p := by
  constructor
  · intro same
    -- The words of every other fault begin with another letter.
    have first : fault.message.toList.head? = some 'n' :=
      same ▸ head?_append (head?_append (by decide) p) _
    cases fault with
    | unboundPrefix name =>
        rw [(String.append_right_inj _).mp ((String.append_left_inj _).mp same)]
    | template fault =>
        cases fault with
        | unknownDirective c =>
            have other : (Query.TemplateFault.unknownDirective c).message.toList.head? = some 'u' :=
              head?_append (head?_append (by decide) _) _
            exact absurd (first.symm.trans other) (by decide)
        | argumentCount places arguments =>
            have other : (Query.TemplateFault.argumentCount places arguments).message.toList.head? =
                some 'e' :=
              head?_append (head?_append (head?_append (head?_append (by decide) _) _) _) _
            exact absurd (first.symm.trans other) (by decide)
        | dangling => exact absurd first (by decide)
    | empty | valueCheck | malformed => exact absurd first (by decide)
  · rintro rfl
    rfl

theorem compile_of_unbound (found : unboundPrefix? e = some p) :
    compile e = .error (.compile .xpath e.text (.unboundPrefix p)) := by
  simp [compile, compileIn, found]

theorem compile_of_bound (bound : unboundPrefix? e = none) :
    compile e = ((build e.text).map fun _ => ⟨e⟩).mapError (.compile .xpath e.text) := by
  simp only [compile, compileIn, bound, build_nil]
  cases build e.text <;> rfl

theorem build_ne_unboundPrefix : build text ≠ .error (.unboundPrefix p) := by
  unfold build
  split <;> simp

/-- Compiling refuses an expression with the words that a prefix is not bound. -/
def RefusedFor (e : Query.Expression) (p : String) : Prop :=
  ∃ fault, compile e = .error (.compile .xpath e.text fault) ∧
    fault.message = "namespace prefix '" ++ p ++ "' is not bound"

theorem refusedFor_iff : RefusedFor e p ↔ unboundPrefix? e = some p := by
  simp only [RefusedFor, message_eq_iff, exists_eq_right]
  cases found : unboundPrefix? e with
  | some q => simp [compile_of_unbound found]
  | none =>
      rw [compile_of_bound found]
      cases built : build e.text with
      | ok x => simp [Except.map, Except.mapError]
      | error fault =>
          have other : fault ≠ .unboundPrefix p := by
            rintro rfl
            exact build_ne_unboundPrefix built
          simpa [Except.map, Except.mapError] using other

/-- What is known of the prefixes of an expression. -/
structure PrefixesChecked (e : Query.Expression) : Prop where
  /-- They are the runs that are prefixes. -/
  exact (name : List UInt8) :
    (∃ p ∈ prefixes e.text, encode p = name) ↔ IsPrefix (encode e.text) name
  /-- Each is there once, in the order of the bytes. -/
  ascending : (prefixes e.text).Pairwise fun p q => encode p < encode q
  /-- An expression is refused for a prefix if there is one that is not bound. -/
  refused : (∃ p, RefusedFor e p) ↔ ∃ p, Unbound e p
  /-- It is refused for the least in the order of the bytes. -/
  least (p : String) : RefusedFor e p ↔ Unbound e p ∧ ∀ q, Unbound e q → encode p ≤ encode q
  /-- Only where all prefixes are bound does the syntax matter. -/
  bound : (∀ p, ¬ Unbound e p) →
    compile e = ((build e.text).map fun _ => ⟨e⟩).mapError (.compile .xpath e.text)

/-- The prefixes of every expression are found exactly, and checked before its syntax. -/
theorem prefixesChecked (e : Query.Expression) : PrefixesChecked e where
  exact _ := exists_mem_prefixes_iff
  ascending := (prefixes_ascending e.text).imp Text.Utf8.encode_lt_encode_iff.mpr
  refused := by
    rw [exists_unbound_iff]
    exact exists_congr fun _ => refusedFor_iff
  least p := by
    rw [refusedFor_iff, unboundPrefix?_eq_some_iff]
    refine and_congr_right fun _ => forall₂_congr fun q _ => ?_
    rw [← not_lt, ← List.not_lt, Text.Utf8.encode_lt_encode_iff]
  bound all := by
    refine compile_of_bound (Option.eq_none_iff_forall_ne_some.mpr fun p found => ?_)
    exact all p (unboundPrefix?_eq_some_iff.mp found).1

/-- A literal of the one kind of quote may hold quotes of the other kind, and chained colons make
    two prefixes. -/
example : prefixes "p:*['x:y\"'=\"'z:w\"]/1.b:c:d/self::e" = ["b", "c", "p"] := by cbv

end Expressions

end Exchange.XPath
