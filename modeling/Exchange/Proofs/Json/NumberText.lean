import Mathlib
import Exchange.Json.Reader
import Exchange.Proofs.Json.Integers

/-! # Texts of numbers

A number is read off the front of a text, and what is behind it matters only if the number could go
on there. The text of an integer of 64 bits is read as this integer.
-/

namespace Exchange

section Scan

variable {α : Type} {p : α → Bool} {rest : List α}

theorem takeWhile_append_of_head? (ends : ∀ a ∈ rest.head?, p a = false) (as : List α) :
    (as ++ rest).takeWhile p = as.takeWhile p := by
  induction as with
  | nil =>
      cases rest with
      | nil => rfl
      | cons a rest => exact List.takeWhile_cons_of_neg (by simp [ends a rfl])
  | cons a as ih => simp only [List.cons_append, List.takeWhile_cons, ih]

theorem dropWhile_append_of_head? (ends : ∀ a ∈ rest.head?, p a = false) (as : List α) :
    (as ++ rest).dropWhile p = as.dropWhile p ++ rest := by
  induction as with
  | nil =>
      cases rest with
      | nil => rfl
      | cons a rest => exact List.dropWhile_cons_of_neg (by simp [ends a rfl])
  | cons a as ih =>
      simp only [List.cons_append, List.dropWhile_cons, ih]
      split <;> rfl

end Scan

namespace JsonNumber

/-- No number goes on with this text. -/
def Ends (rest : List Char) : Prop :=
  ∀ c ∈ rest.head?, Number.isDigit c = false ∧ c ≠ '.' ∧ c ≠ 'e' ∧ c ≠ 'E'

theorem ends_cons {c : Char} {rest : List Char} (other : c = ',' ∨ c = ']' ∨ c = '\x7d') :
    Ends (c :: rest) := by
  intro d first
  obtain rfl : c = d := by simpa using first
  rcases other with rfl | rfl | rfl <;> decide

variable {cs rest left : List Char} {n : JsonNumber}

theorem takeFraction?_of_head? (other : ∀ c ∈ cs.head?, c ≠ '.') :
    takeFraction? cs = some (none, cs) := by
  unfold takeFraction?
  split
  · exact absurd rfl (other _ rfl)
  · rfl

theorem takeFraction?_append {fraction : Option (List Char)} (ends : Ends rest)
    (taken : takeFraction? cs = some (fraction, left)) :
    takeFraction? (cs ++ rest) = some (fraction, left ++ rest) := by
  have digits : ∀ c ∈ rest.head?, Number.isDigit c = false := fun c first => (ends c first).1
  unfold takeFraction? at taken
  split at taken
  · simp only [List.cons_append, takeFraction?, takeWhile_append_of_head? digits,
      dropWhile_append_of_head? digits]
    dsimp only at taken
    split at taken
    · cases taken
    · rename_i given
      cases taken
      rw [if_neg given]
  · rename_i pointless
    cases taken
    refine takeFraction?_of_head? fun c first => ?_
    cases cs with
    | nil => exact (ends c first).2.1
    | cons d cs =>
        rintro rfl
        cases first
        exact pointless cs rfl

theorem takeExponent?_of_ends (ends : Ends rest) : takeExponent? rest = some (none, rest) := by
  cases rest with
  | nil => rfl
  | cons c rest =>
      obtain ⟨-, -, small, large⟩ := ends c rfl
      simp [takeExponent?, small, large]

theorem takeSign_append (given : cs ≠ []) : Number.takeSign (cs ++ rest) =
    ((Number.takeSign cs).1, (Number.takeSign cs).2 ++ rest) := by
  obtain ⟨c, cs, rfl⟩ := List.exists_cons_of_ne_nil given
  by_cases minus : c = '-'
  · subst minus
    rfl
  · by_cases plus : c = '+'
    · subst plus
      rfl
    · simp [Number.takeSign, minus, plus]

theorem takeExponent?_append {exponent : Option Int} (ends : Ends rest)
    (taken : takeExponent? cs = some (exponent, left)) :
    takeExponent? (cs ++ rest) = some (exponent, left ++ rest) := by
  have digits : ∀ c ∈ rest.head?, Number.isDigit c = false := fun c first => (ends c first).1
  cases cs with
  | nil =>
      cases taken
      exact takeExponent?_of_ends ends
  | cons c cs =>
      simp only [List.cons_append, takeExponent?] at taken ⊢
      split at taken
      · rename_i letter
        split at taken
        · cases taken
        · rename_i given
          have signed : cs ≠ [] := by
            rintro rfl
            exact given rfl
          cases taken
          simp only [if_pos letter, takeSign_append signed, takeWhile_append_of_head? digits,
            dropWhile_append_of_head? digits, if_neg given]
      · rename_i other
        cases taken
        rw [if_neg other, List.cons_append]

/-- Read a number whose sign is gone. -/
def readUnsigned? (negative : Bool) (cs : List Char) : Option (JsonNumber × List Char) :=
  let whole := cs.takeWhile Number.isDigit
  if whole = [] ∨ (whole.head? = some '0' ∧ 1 < whole.length) then none
  else do
    let (fraction, cs) ← takeFraction? (cs.dropWhile Number.isDigit)
    let (exponent, cs) ← takeExponent? cs
    let n ← ofNumeral? negative whole fraction exponent
    some (n, cs)

theorem read?_minus (cs : List Char) : read? ('-' :: cs) = readUnsigned? true cs := rfl

theorem read?_of_head? (other : ∀ c ∈ cs.head?, c ≠ '-') : read? cs = readUnsigned? false cs := by
  unfold read?
  split
  · rename_i signed
    split at signed
    · exact absurd rfl (other _ rfl)
    · cases signed
      rfl

theorem readUnsigned?_append {negative : Bool} (ends : Ends rest)
    (read : readUnsigned? negative cs = some (n, left)) :
    readUnsigned? negative (cs ++ rest) = some (n, left ++ rest) := by
  have digits : ∀ c ∈ rest.head?, Number.isDigit c = false := fun c first => (ends c first).1
  simp only [readUnsigned?, takeWhile_append_of_head? digits, dropWhile_append_of_head? digits]
    at read ⊢
  split at read
  · cases read
  · rename_i whole
    simp only [bind, Option.bind_eq_some_iff] at read
    obtain ⟨⟨fraction, more⟩, first, ⟨exponent, more'⟩, second, n', made, same⟩ := read
    cases same
    rw [if_neg whole, takeFraction?_append ends first]
    simp only [bind, Option.bind, takeExponent?_append ends second, made]

/-- A number is read as before where a text is put behind it that it does not go on with. -/
theorem read?_append (ends : Ends rest) (read : read? cs = some (n, left)) :
    read? (cs ++ rest) = some (n, left ++ rest) := by
  cases cs with
  | nil => cases read
  | cons c cs =>
      by_cases minus : c = '-'
      · subst minus
        exact readUnsigned?_append ends read
      · have other : ∀ d ∈ (c :: cs).head?, d ≠ '-' := by simpa using minus
        have other' : ∀ d ∈ (c :: cs ++ rest).head?, d ≠ '-' := by simpa using minus
        rw [read?_of_head? other] at read
        rw [read?_of_head? other']
        exact readUnsigned?_append ends read

theorem exists_first_of_read? (read : read? cs = some (n, left)) :
    ∃ c more, cs = c :: more ∧ (c = '-' ∨ Number.isDigit c = true) := by
  cases cs with
  | nil => cases read
  | cons c cs =>
      refine ⟨c, cs, rfl, or_iff_not_imp_left.mpr fun minus => ?_⟩
      rw [read?_of_head? (by simpa using minus), readUnsigned?] at read
      by_contra other
      rw [List.takeWhile_cons_of_neg other] at read
      cases read

theorem le_ofDigitChars (cs : List Char) (start : Nat) : start ≤ Nat.ofDigitChars 10 cs start := by
  induction cs generalizing start with
  | nil => exact le_rfl
  | cons c cs ih =>
      rw [Nat.ofDigitChars_cons]
      exact le_trans (by omega) (ih _)

theorem keepDigits_eq {start : Nat} (small : Nat.ofDigitChars 10 cs start < 2 ^ 64) :
    keepDigits start cs = ⟨Nat.ofDigitChars 10 cs start, 0⟩ := by
  induction cs generalizing start with
  | nil => rfl
  | cons c cs ih =>
      rw [Nat.ofDigitChars_cons, Nat.mul_comm 10] at small ⊢
      have next : fits (start * 10 + (c.toNat - '0'.toNat)) = true :=
        decide_eq_true (lt_of_le_of_lt (le_ofDigitChars cs _) small)
      rw [keepDigits]
      exact (if_pos next).trans (ih small)

theorem head?_toDigits {m : Nat} (positive : 0 < m) :
    (Nat.toDigits 10 m).head? ≠ some '0' := by
  induction m using Nat.strongRecOn with
  | ind m ih =>
      by_cases small : m < 10
      · rw [Nat.toDigits_of_lt_base small]
        interval_cases m <;> decide
      · rw [Nat.toDigits_of_base_le (by decide) (Nat.le_of_not_lt small)]
        rw [List.head?_append_of_ne_nil _ Nat.toDigits_ne_nil]
        exact ih (m / 10) (by omega) (by omega)

theorem readUnsigned?_toDigits {negative : Bool} {m : Nat}
    (made : ofNumeral? negative (Nat.toDigits 10 m) none none = some n) :
    readUnsigned? negative (Nat.toDigits 10 m) = some (n, []) := by
  have digits : ∀ c ∈ Nat.toDigits 10 m, Number.isDigit c = true := fun c listed =>
    Nat.isDigit_of_mem_toDigits (by decide) (by decide) listed
  have whole : (Nat.toDigits 10 m).takeWhile Number.isDigit = Nat.toDigits 10 m :=
    List.takeWhile_eq_self_iff.mpr digits
  have left : (Nat.toDigits 10 m).dropWhile Number.isDigit = [] :=
    List.dropWhile_eq_nil_iff.mpr digits
  have plain : ¬(Nat.toDigits 10 m = [] ∨
      ((Nat.toDigits 10 m).head? = some '0' ∧ 1 < (Nat.toDigits 10 m).length)) := by
    rintro (none | ⟨zero, long⟩)
    · exact Nat.toDigits_ne_nil none
    · cases m with
      | zero => exact absurd long (by decide)
      | succ m => exact head?_toDigits (Nat.succ_pos m) zero
  rw [readUnsigned?, whole, left, if_neg plain]
  simp only [takeFraction?, takeExponent?, made, bind, Option.bind]

theorem keepDigits_toDigits {m : Nat} (small : m < 2 ^ 64) :
    keepDigits 0 (Nat.toDigits 10 m) = ⟨m, 0⟩ := by
  have value : Nat.ofDigitChars 10 (Nat.toDigits 10 m) 0 = m := Nat.ofDigitChars_ten_toDigits
  rw [keepDigits_eq (by rwa [value]), value]

theorem read?_text_int {m : Int} (bounds : (int m).IsInteger) :
    read? (int m).text.toList = some (int m, []) := by
  obtain ⟨low, high⟩ : -(2 ^ 63) ≤ m ∧ m < 2 ^ 64 := bounds
  have kept : keepDigits 0 (Nat.toDigits 10 m.natAbs) = ⟨m.natAbs, 0⟩ :=
    keepDigits_toDigits (by omega)
  by_cases negative : m < 0
  · have written : (int m).text.toList = '-' :: Nat.toDigits 10 m.natAbs := by
      simp [text, shown, negative]
    have made : ofNumeral? true (Nat.toDigits 10 m.natAbs) none none = some (int m) := by
      have bound : 0 < m.natAbs ∧ m.natAbs ≤ Nat.pow 2 63 := by
        change 0 < m.natAbs ∧ m.natAbs ≤ 2 ^ 63
        omega
      have value : -(m.natAbs : Int) = m := by omega
      simp only [ofNumeral?, kept, bound, value]
      rfl
    rw [written, read?_minus]
    exact readUnsigned?_toDigits made
  · have written : (int m).text.toList = Nat.toDigits 10 m.natAbs := by
      simp [text, shown, negative]
    have made : ofNumeral? false (Nat.toDigits 10 m.natAbs) none none = some (int m) := by
      have value : (m.natAbs : Int) = m := by omega
      simp only [ofNumeral?, kept, value]
      rfl
    have unsigned : ∀ c ∈ (Nat.toDigits 10 m.natAbs).head?, c ≠ '-' := by
      rintro c first rfl
      have digit := Nat.isDigit_of_mem_toDigits (by decide) (by decide) (List.mem_of_head? first)
      exact absurd digit (by decide)
    rw [written, read?_of_head? unsigned]
    exact readUnsigned?_toDigits made

end JsonNumber

end Exchange
