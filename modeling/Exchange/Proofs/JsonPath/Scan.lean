import Exchange.JsonPath.Definite
import Exchange.JsonPath.Reader

/-! # The scan for definiteness, token by token

What the scan of a path makes of the tokens that the reader takes: blanks, names, integers and
quoted texts leave its verdict alone, whatever characters stand within the quotes. So each token is
described by an equation between the verdict in front of it and the verdict behind it.
-/

namespace Exchange.JsonPath

variable {depth : Nat} {cs rest : List Char}

/-- The characters that the scan reacts to outside quotes. -/
def marks : List Char := ['\'', '"', '[', ']', '*', '?', ',', ':', '.']

theorem definiteFrom_nil : definiteFrom depth none [] = true := rfl

theorem definiteFrom_cons {c : Char} : definiteFrom depth none (c :: cs) =
    if (c = '\'' ∨ c = '"') ∧ 0 < depth then definiteFrom depth (some c) cs
    else if c = '[' then definiteFrom (depth + 1) none cs
    else if c = ']' then definiteFrom (depth - 1) none cs
    else if c = '*' ∨ c = '?' then false
    else if (c = ',' ∨ c = ':') ∧ 0 < depth then false
    else if c = '.' ∧ cs.head? = some '.' then false
    else definiteFrom depth none cs := rfl

theorem definiteFrom_unmarked {c : Char} (unmarked : c ∉ marks) :
    definiteFrom depth none (c :: cs) = definiteFrom depth none cs := by
  simp only [marks, List.mem_cons, List.not_mem_nil, or_false, not_or] at unmarked
  obtain ⟨single, double, opening, closing, star, question, comma, colon, dot⟩ := unmarked
  rw [definiteFrom_cons]
  simp only [single, double, opening, closing, star, question, comma, colon, dot, or_self,
    false_and, ↓reduceIte]

/-- No mark belongs to a class of characters. -/
def Markless (p : Char → Bool) : Prop := marks.any p = false

theorem Markless.unmarked {p : Char → Bool} (markless : Markless p) {c : Char} (hp : p c = true) :
    c ∉ marks := by
  intro member
  have present : marks.any p = true := List.any_eq_true.mpr ⟨c, member, hp⟩
  exact absurd present (ne_true_of_eq_false markless)

theorem markless_blank : Markless Json.isBlank := rfl

theorem markless_digit : Markless Number.isDigit := rfl

theorem markless_nameStart : Markless isNameStart := rfl

theorem markless_nameChar : Markless isNameChar := rfl

theorem definiteFrom_dropWhile {p : Char → Bool} (markless : Markless p) :
    definiteFrom depth none (cs.dropWhile p) = definiteFrom depth none cs := by
  induction cs with
  | nil => rfl
  | cons c cs ih =>
      rw [List.dropWhile_cons]
      split
      · rename_i hp
        rw [ih, definiteFrom_unmarked (markless.unmarked hp)]
      · rfl

@[simp] theorem definiteFrom_skipBlanks :
    definiteFrom depth none (Json.skipBlanks cs) = definiteFrom depth none cs :=
  definiteFrom_dropWhile markless_blank

theorem definiteFrom_opening :
    definiteFrom depth none ('[' :: cs) = definiteFrom (depth + 1) none cs := rfl

theorem definiteFrom_closing :
    definiteFrom (depth + 1) none (']' :: cs) = definiteFrom depth none cs := rfl

theorem definiteFrom_star : definiteFrom depth none ('*' :: cs) = false := rfl

theorem definiteFrom_question : definiteFrom depth none ('?' :: cs) = false := rfl

theorem definiteFrom_comma : definiteFrom (depth + 1) none (',' :: cs) = false := rfl

theorem definiteFrom_colon : definiteFrom (depth + 1) none (':' :: cs) = false := rfl

theorem definiteFrom_dots : definiteFrom depth none ('.' :: '.' :: cs) = false := rfl

theorem definiteFrom_dot (single : cs.head? ≠ some '.') :
    definiteFrom depth none ('.' :: cs) = definiteFrom depth none cs := by
  rw [definiteFrom_cons]
  simp [single]

theorem definiteFrom_takeName? {name : String} (taken : takeName? cs = some (name, rest)) :
    definiteFrom depth none cs = definiteFrom depth none rest := by
  unfold takeName? at taken
  split at taken
  · split at taken
    · cases taken
      exact (definiteFrom_dropWhile markless_nameChar).symm
    · cases taken
  · cases taken

theorem head?_of_takeName? {name : String} (taken : takeName? cs = some (name, rest)) :
    cs.head? ≠ some '.' := by
  unfold takeName? at taken
  split at taken
  · rename_i c tail
    split at taken
    · rename_i start
      intro dot
      cases dot
      exact markless_nameStart.unmarked start (by decide)
    · cases taken
  · cases taken

theorem definiteFrom_takeInt? {i : Int} (taken : takeInt? cs = some (i, rest)) :
    definiteFrom depth none cs = definiteFrom depth none rest := by
  unfold takeInt? at taken
  split at taken
  · cases taken
    exact definiteFrom_unmarked (by decide)
  · split at taken
    rename_i negative digits sign
    have unsigned : definiteFrom depth none cs = definiteFrom depth none digits := by
      split at sign
      · cases sign
        exact definiteFrom_unmarked (by decide)
      · cases sign
        rfl
    dsimp only at taken
    split at taken
    · cases taken
    · cases taken
      rw [unsigned, definiteFrom_dropWhile markless_digit]

@[simp] theorem definiteFrom_takeOptionalInt :
    definiteFrom depth none (takeOptionalInt cs).2 = definiteFrom depth none cs := by
  unfold takeOptionalInt
  split
  · rename_i i rest taken
    exact (definiteFrom_takeInt? taken).symm
  · rfl

section Quoted

/-- The characters that quoted texts can stand between. -/
def IsQuote (c : Char) : Prop := c = '\'' ∨ c = '"'

variable {quote : Char}

theorem definiteFrom_cons_quoted {c : Char} : definiteFrom depth (some quote) (c :: cs) =
    if c = '\\' then definiteFrom depth (some quote) cs.tail
    else definiteFrom depth (if c = quote then none else some quote) cs := by
  cases cs with
  | nil => rfl
  | cons d cs => rfl

theorem definiteFrom_quote (isQuote : IsQuote quote) :
    definiteFrom (depth + 1) none (quote :: cs) = definiteFrom (depth + 1) (some quote) cs := by
  rcases isQuote with rfl | rfl <;> rfl

theorem definiteFrom_unquote (isQuote : IsQuote quote) :
    definiteFrom depth (some quote) (quote :: cs) = definiteFrom depth none cs := by
  have plain : quote ≠ '\\' := by rcases isQuote with rfl | rfl <;> decide
  rw [definiteFrom_cons_quoted, if_neg plain, if_pos rfl]

theorem definiteFrom_within {c : Char} (plain : c ≠ '\\') (inside : c ≠ quote) :
    definiteFrom depth (some quote) (c :: cs) = definiteFrom depth (some quote) cs := by
  rw [definiteFrom_cons_quoted, if_neg plain, if_neg inside]

theorem definiteFrom_escaped {c : Char} :
    definiteFrom depth (some quote) ('\\' :: c :: cs) = definiteFrom depth (some quote) cs := rfl

theorem definiteFrom_hexDigit {c : Char} {n : Nat} (isQuote : IsQuote quote)
    (digit : Json.hexValue? c = some n) :
    definiteFrom depth (some quote) (c :: cs) = definiteFrom depth (some quote) cs := by
  apply definiteFrom_within
  · rintro rfl
    simp [Json.hexValue?] at digit
  · rintro rfl
    rcases isQuote with rfl | rfl <;> simp [Json.hexValue?] at digit

theorem definiteFrom_takeHex4? {n : Nat} (isQuote : IsQuote quote)
    (taken : Json.takeHex4? cs = some (n, rest)) :
    definiteFrom depth (some quote) cs = definiteFrom depth (some quote) rest := by
  unfold Json.takeHex4? at taken
  split at taken
  · simp only [bind, Option.bind_eq_some_iff, Option.some.injEq, Prod.mk.injEq] at taken
    obtain ⟨w, hw, x, hx, y, hy, z, hz, -, rfl⟩ := taken
    rw [definiteFrom_hexDigit isQuote hw, definiteFrom_hexDigit isQuote hx,
      definiteFrom_hexDigit isQuote hy, definiteFrom_hexDigit isQuote hz]
  · cases taken

theorem definiteFrom_takeUnicode? {c : Char} (isQuote : IsQuote quote)
    (taken : Json.takeUnicode? cs = some (c, rest)) :
    definiteFrom depth (some quote) cs = definiteFrom depth (some quote) rest := by
  simp only [Json.takeUnicode?, bind, Option.bind_eq_some_iff, Prod.exists] at taken
  obtain ⟨n, behind, first, taken⟩ := taken
  rw [definiteFrom_takeHex4? isQuote first]
  split at taken
  · split at taken
    · simp only [Option.bind_eq_some_iff, Prod.exists] at taken
      obtain ⟨m, behind, second, taken⟩ := taken
      split at taken
      · simp only [Option.some.injEq, Prod.mk.injEq] at taken
        obtain ⟨-, rfl⟩ := taken
        rw [definiteFrom_escaped, definiteFrom_takeHex4? isQuote second]
      · cases taken
    · cases taken
  · split at taken
    · cases taken
    · cases taken
      rfl

theorem definiteFrom_jsonEscape {c : Char} (isQuote : IsQuote quote)
    (taken : Json.takeEscape? cs = some (c, rest)) :
    definiteFrom depth (some quote) ('\\' :: cs) = definiteFrom depth (some quote) rest := by
  unfold Json.takeEscape? at taken
  split at taken
  case h_9 =>
    rw [definiteFrom_escaped]
    exact definiteFrom_takeUnicode? isQuote taken
  case h_10 => cases taken
  all_goals
    cases taken
    exact definiteFrom_escaped

/-- The escapes of the two grammars of quoted texts are single units of the scan. -/
theorem definiteFrom_takeEscape? {c : Char} (isQuote : IsQuote quote)
    (taken : takeEscape? quote cs = some (c, rest)) :
    definiteFrom depth (some quote) ('\\' :: cs) = definiteFrom depth (some quote) rest := by
  unfold takeEscape? at taken
  split at taken
  · cases taken
  · split at taken
    · cases taken
      exact definiteFrom_escaped
    · split at taken
      · cases taken
      · simp only [bind, Option.bind_eq_some_iff, Prod.exists] at taken
        obtain ⟨d, after, escape, taken⟩ := taken
        split at taken
        · cases taken
        · cases taken
          exact definiteFrom_jsonEscape isQuote escape

/-- Behind a quoted text the scan is outside quotes again, with the verdict it had in front. -/
theorem definiteFrom_takeQuoted? (isQuote : IsQuote quote) {fuel : Nat} {text : List Char}
    (taken : takeQuoted? quote fuel cs = some (text, rest)) :
    definiteFrom depth (some quote) cs = definiteFrom depth none rest := by
  induction fuel generalizing cs text with
  | zero => cases taken
  | succ fuel ih =>
      cases cs with
      | nil => cases taken
      | cons c cs =>
          simp only [takeQuoted?, bind] at taken
          split at taken
          · rename_i closes
            subst closes
            cases taken
            exact definiteFrom_unquote isQuote
          · rename_i inside
            split at taken
            · rename_i escapes
              subst escapes
              simp only [Option.bind_eq_some_iff, Prod.exists] at taken
              obtain ⟨d, behind, escape, ds, rest', tail, same⟩ := taken
              cases same
              rw [definiteFrom_takeEscape? isQuote escape, ih tail]
            · rename_i plain
              split at taken
              · cases taken
              · simp only [Option.bind_eq_some_iff, Prod.exists] at taken
                obtain ⟨ds, rest', tail, same⟩ := taken
                cases same
                rw [definiteFrom_within plain inside, ih tail]

theorem definiteFrom_readQuoted? (isQuote : IsQuote quote) {text : String}
    (read : readQuoted? quote cs = some (text, rest)) :
    definiteFrom (depth + 1) none (quote :: cs) = definiteFrom (depth + 1) none rest := by
  simp only [readQuoted?, bind, Option.bind_eq_some_iff, Prod.exists] at read
  obtain ⟨s, rest', taken, same⟩ := read
  cases same
  rw [definiteFrom_quote isQuote, definiteFrom_takeQuoted? isQuote taken]

end Quoted

end Exchange.JsonPath
