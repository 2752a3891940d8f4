import Mathlib
import Exchange.Proofs.Json.NumberText
import Exchange.Proofs.Text.Quoted
import Exchange.Text.Shown

/-! # Values are told apart by their texts

A value's text ends where the value does, with nothing, a comma or a closing bracket behind it. So
the items of a list are told apart as they are on their own, and the list is told apart by them. No
text is the mark of an absent value.
-/

namespace Exchange

variable {α : Type} [Shown α] {rest more : List Char}

/-- What can stand behind an item: nothing, the next item or the end of the list. -/
def EndsItem (rest : List Char) : Prop := ∀ c ∈ rest.head?, c = ',' ∨ c = ']'

theorem endsItem_nil : EndsItem [] := by
  rintro c ⟨⟩

theorem endsItem_cons {c : Char} (mark : c = ',' ∨ c = ']') : EndsItem (c :: rest) := by
  intro d first
  obtain rfl : c = d := by simpa using first
  exact mark

/-- Different values of the type have different texts. -/
class ToldApart (α : Type) [Shown α] : Prop where
  /-- The text can be read off the front of a list of them. -/
  append_inj {a b : α} {rest more : List Char} (ends : EndsItem rest) (ends' : EndsItem more)
    (same : (shown a).toList ++ rest = (shown b).toList ++ more) : a = b ∧ rest = more
  /-- The text is neither empty nor the end of a list nor the mark of an absent value. -/
  opens (a : α) : ∃ c cs, (shown a).toList = c :: cs ∧ c ≠ ']' ∧ c ≠ '<'

theorem shown_injective [ToldApart α] : Function.Injective (shown : α → String) := by
  intro a b same
  have texts : (shown a).toList ++ [] = (shown b).toList ++ [] := by rw [same]
  exact (ToldApart.append_inj endsItem_nil endsItem_nil texts).1

theorem shown_ne_none [ToldApart α] (a : α) : shown a ≠ "<none>" := by
  intro same
  obtain ⟨c, cs, text, -, other⟩ := ToldApart.opens a
  rw [same] at text
  exact other (List.cons.inj text).1.symm

/-- The text of a value, or the mark of an absent one. -/
def shownOptional : Option α → String
  | some a => shown a
  | none => "<none>"

theorem shownOptional_injective [ToldApart α] :
    Function.Injective (shownOptional : Option α → String) := by
  intro a b same
  cases a with
  | none =>
      cases b with
      | none => rfl
      | some b => exact absurd same.symm (shown_ne_none b)
  | some a =>
      cases b with
      | none => exact absurd same (shown_ne_none a)
      | some b => exact congrArg some (shown_injective same)

instance : ToldApart String where
  append_inj _ _ same := Text.quoted_append_inj same
  opens s := ⟨'"', _, Text.toList_quoted s, by decide, by decide⟩

theorem toDigits_append_inj {m n : Nat} (ends : EndsItem rest) (ends' : EndsItem more)
    (same : Nat.toDigits 10 m ++ rest = Nat.toDigits 10 n ++ more) : m = n ∧ rest = more := by
  have stops {behind : List Char} (ends : EndsItem behind) :
      ∀ c ∈ behind.head?, Char.isDigit c = false := by
    intro c first
    rcases ends c first with rfl | rfl <;> decide
  have digits (k : Nat) : (Nat.toDigits 10 k).takeWhile Char.isDigit = Nat.toDigits 10 k := by
    rw [List.takeWhile_eq_self_iff]
    intro c listed
    exact Nat.isDigit_of_mem_toDigits (by decide) (by decide) listed
  have fronts := congrArg (List.takeWhile Char.isDigit) same
  rw [takeWhile_append_of_head? (stops ends), takeWhile_append_of_head? (stops ends'), digits,
    digits] at fronts
  refine ⟨?_, List.append_cancel_left (fronts ▸ same)⟩
  calc
    m = Nat.ofDigitChars 10 (Nat.toDigits 10 m) 0 := Nat.ofDigitChars_ten_toDigits.symm
    _ = Nat.ofDigitChars 10 (Nat.toDigits 10 n) 0 := by rw [fronts]
    _ = n := Nat.ofDigitChars_ten_toDigits

theorem toDigits_opens (n : Nat) :
    ∃ c cs, Nat.toDigits 10 n = c :: cs ∧ Char.isDigit c = true := by
  obtain ⟨c, cs, digits⟩ := List.exists_cons_of_ne_nil (Nat.toDigits_ne_nil (n := n) (b := 10))
  refine ⟨c, cs, digits, ?_⟩
  exact Nat.isDigit_of_mem_toDigits (by decide) (by decide) (digits ▸ List.mem_cons_self)

theorem toList_shown_nat (n : Nat) : (shown n).toList = Nat.toDigits 10 n := String.toList_ofList

theorem toList_shown_int (i : Int) : (shown i).toList =
    if i < 0 then '-' :: Nat.toDigits 10 i.natAbs else Nat.toDigits 10 i.natAbs := by
  have text : shown i = if i < 0 then "-" ++ shown i.natAbs else shown i.natAbs := rfl
  rw [text]
  split
  · rw [String.toList_append, toList_shown_nat]
    rfl
  · exact toList_shown_nat _

instance : ToldApart Nat where
  append_inj {m n} _ _ ends ends' same := by
    rw [toList_shown_nat, toList_shown_nat] at same
    exact toDigits_append_inj ends ends' same
  opens n := by
    obtain ⟨c, cs, digits, digit⟩ := toDigits_opens n
    refine ⟨c, cs, (toList_shown_nat n).trans digits, ?_, ?_⟩ <;>
      · rintro rfl
        cases digit

instance : ToldApart UInt8 where
  append_inj {a b} rest more ends ends' same := by
    have numbers : (shown a.toNat).toList ++ rest = (shown b.toNat).toList ++ more := same
    obtain ⟨equal, behind⟩ := ToldApart.append_inj ends ends' numbers
    exact ⟨UInt8.toNat_inj.mp equal, behind⟩
  opens b := ToldApart.opens b.toNat

theorem shown_int_opens (i : Int) :
    ∃ c cs, (shown i).toList = c :: cs ∧ (c = '-' ∨ Char.isDigit c = true) := by
  rw [toList_shown_int]
  split
  · exact ⟨'-', _, rfl, .inl rfl⟩
  · obtain ⟨c, cs, digits, digit⟩ := toDigits_opens i.natAbs
    exact ⟨c, cs, digits, .inr digit⟩

theorem minus_ne_toDigits {n : Nat} {cs : List Char} : '-' :: cs ≠ Nat.toDigits 10 n ++ more := by
  obtain ⟨c, ds, digits, digit⟩ := toDigits_opens n
  rw [digits]
  intro same
  rw [← (List.cons.inj same).1] at digit
  cases digit

instance : ToldApart Int where
  append_inj {i j} rest more ends ends' same := by
    rw [toList_shown_int, toList_shown_int] at same
    split_ifs at same with negative negative' negative'
    · obtain ⟨sizes, behind⟩ := toDigits_append_inj ends ends' (List.cons.inj same).2
      exact ⟨by omega, behind⟩
    · exact absurd same minus_ne_toDigits
    · exact absurd same.symm minus_ne_toDigits
    · obtain ⟨sizes, behind⟩ := toDigits_append_inj ends ends' same
      exact ⟨by omega, behind⟩
  opens i := by
    obtain ⟨c, cs, text, sign⟩ := shown_int_opens i
    refine ⟨c, cs, text, ?_, ?_⟩ <;>
      · rintro rfl
        simp at sign

theorem shown_int_ne_shown_string (i : Int) (s : String) : shown i ≠ shown s := by
  intro same
  obtain ⟨c, cs, text, sign⟩ := shown_int_opens i
  have quote : (shown s).toList = '"' :: _ := Text.toList_quoted s
  rw [same, quote] at text
  obtain ⟨rfl, -⟩ := List.cons.inj text
  simp at sign

instance : ToldApart Bool where
  append_inj {a b} rest more _ _ same := by
    cases a <;> cases b
    · exact ⟨rfl, List.append_cancel_left same⟩
    · cases (List.cons.inj same).1
    · cases (List.cons.inj same).1
    · exact ⟨rfl, List.append_cancel_left same⟩
  opens b := by
    cases b
    · exact ⟨'f', "alse".toList, rfl, by decide, by decide⟩
    · exact ⟨'t', "rue".toList, rfl, by decide, by decide⟩

/-- The items of a list behind its first, with the end of the list. -/
def laterItems (xs : List α) (rest : List Char) : List Char :=
  xs.flatMap (fun x => ',' :: ' ' :: (shown x).toList) ++ ']' :: rest

theorem endsItem_laterItems (xs : List α) : EndsItem (laterItems xs rest) := by
  cases xs with
  | nil => exact endsItem_cons (.inr rfl)
  | cons x xs => exact endsItem_cons (.inl rfl)

theorem laterItems_inj [ToldApart α] {xs ys : List α}
    (same : laterItems xs rest = laterItems ys more) : xs = ys ∧ rest = more := by
  induction xs generalizing ys with
  | nil =>
      cases ys with
      | nil => exact ⟨rfl, (List.cons.inj same).2⟩
      | cons y ys => cases (List.cons.inj same).1
  | cons x xs ih =>
      cases ys with
      | nil => cases (List.cons.inj same).1
      | cons y ys =>
          have behind : (shown x).toList ++ laterItems xs rest =
              (shown y).toList ++ laterItems ys more := by simpa [laterItems] using same
          obtain ⟨rfl, tails⟩ :=
            ToldApart.append_inj (endsItem_laterItems xs) (endsItem_laterItems ys) behind
          obtain ⟨rfl, ends⟩ := ih tails
          exact ⟨rfl, ends⟩

theorem toList_commaSeparated_cons (text : String) (texts : List String) :
    (Text.commaSeparated (text :: texts)).toList =
      text.toList ++ texts.flatMap fun t => ',' :: ' ' :: t.toList := by
  induction texts generalizing text with
  | nil => simp [Text.commaSeparated]
  | cons next texts ih =>
      have rest := ih next
      simp only [Text.commaSeparated, String.toList_intercalate, List.map_cons] at rest ⊢
      rw [List.intercalate_cons_cons, rest, List.flatMap_cons]
      simp

/-- A list behind its opening bracket. -/
def items : List α → List Char → List Char
  | [], rest => ']' :: rest
  | x :: xs, rest => (shown x).toList ++ laterItems xs rest

theorem toList_shown_append (xs : List α) (rest : List Char) :
    (shown xs).toList ++ rest = '[' :: items xs rest := by
  have text : shown xs = "[" ++ Text.commaSeparated (xs.map shown) ++ "]" := rfl
  rw [text, String.toList_append, String.toList_append]
  cases xs with
  | nil => simp [Text.commaSeparated, items]
  | cons x xs =>
      rw [List.map_cons, toList_commaSeparated_cons]
      simp [items, laterItems, List.flatMap_map]

theorem items_inj [ToldApart α] {xs ys : List α} (same : items xs rest = items ys more) :
    xs = ys ∧ rest = more := by
  cases xs with
  | nil =>
      cases ys with
      | nil => exact ⟨rfl, (List.cons.inj same).2⟩
      | cons y ys =>
          obtain ⟨c, cs, text, other, -⟩ := ToldApart.opens y
          rw [items, items, text] at same
          exact absurd (List.cons.inj same).1.symm other
  | cons x xs =>
      cases ys with
      | nil =>
          obtain ⟨c, cs, text, other, -⟩ := ToldApart.opens x
          rw [items, items, text] at same
          exact absurd (List.cons.inj same).1 other
      | cons y ys =>
          obtain ⟨rfl, tails⟩ :=
            ToldApart.append_inj (endsItem_laterItems xs) (endsItem_laterItems ys) same
          obtain ⟨rfl, ends⟩ := laterItems_inj tails
          exact ⟨rfl, ends⟩

instance [ToldApart α] : ToldApart (List α) where
  append_inj {xs ys} _ _ _ _ same := by
    rw [toList_shown_append, toList_shown_append] at same
    exact items_inj (List.cons.inj same).2
  opens xs := by
    refine ⟨'[', items xs [], ?_, by decide, by decide⟩
    rw [← toList_shown_append, List.append_nil]

end Exchange
