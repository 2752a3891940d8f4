import Mathlib
import Exchange.Text.LowerCase

/-! # Lower case of a part of a text

In lower case a text keeps its parts apart: each becomes what its own characters become, and only a
capital sigma looks at the characters around it. So a part becomes the same within two texts if each
of its sigmas ends a word within both or within neither.
-/

namespace Exchange.Text

variable {c : Char} {before before' after after' text : List Char}

/-- Does a sigma between two texts end a word? Of the characters that are not case-ignorable, the
    nearest before it has to be a cased one, and the nearest behind it must not. -/
def endsWord (before after : List Char) : Bool := startsCased before.reverse && !startsCased after

/-- Lower case of a character, where a sigma may end a word. -/
def letters (final : Bool) (c : Char) : List Char :=
  if c = 'Σ' then [if final then 'ς' else 'σ'] else lowerChar c

/-- Lower case of a text between two others. -/
def lowerBetween (before after : List Char) : List Char → List Char
  | [] => []
  | c :: rest =>
    letters (endsWord before (rest ++ after)) c ++ lowerBetween (before ++ [c]) after rest

theorem startsCased_cons (c : Char) (cs : List Char) : startsCased (c :: cs) =
    if caseIgnorable.contains c.toNat then startsCased cs else cased.contains c.toNat := by
  by_cases ignorable : caseIgnorable.contains c.toNat = true
  · simp only [startsCased, List.dropWhile_cons, if_pos ignorable]
  · simp only [startsCased, List.dropWhile_cons, if_neg ignorable]

theorem lowerFrom_eq_lowerBetween (before text : List Char) :
    lowerFrom (startsCased before.reverse) text = lowerBetween before [] text := by
  -- The flag of the scan says what `startsCased` says of the text before.
  induction text generalizing before with
  | nil => rfl
  | cons c rest ih =>
      have state := startsCased_cons c before.reverse
      rw [← List.reverse_concat] at state
      rw [lowerFrom, ← state, ih, lowerBetween, List.append_nil]
      rfl

theorem toList_lower (s : String) : (lower s).toList = lowerBetween [] [] s.toList := by
  rw [lower, String.toList_ofList]
  exact lowerFrom_eq_lowerBetween [] s.toList

theorem lowerBetween_append (text more : List Char) :
    lowerBetween before after (text ++ more) =
      lowerBetween before (more ++ after) text ++ lowerBetween (before ++ text) after more := by
  induction text generalizing before with
  | nil => rw [List.append_nil]; rfl
  | cons c rest ih => simp [lowerBetween, ih]

theorem length_letters (final final' : Bool) (c : Char) :
    (letters final c).length = (letters final' c).length := by
  unfold letters
  split <;> rfl

theorem letters_eq_iff {final final' : Bool} :
    letters final c = letters final' c ↔ (c = 'Σ' → final = final') := by
  unfold letters
  split
  · rename_i sigma
    cases final <;> cases final' <;> simp [sigma]
  · rename_i other
    simp [other]

theorem length_lowerBetween (before after before' after' text : List Char) :
    (lowerBetween before after text).length = (lowerBetween before' after' text).length := by
  induction text generalizing before before' with
  | nil => rfl
  | cons c rest ih =>
      simp only [lowerBetween, List.length_append]
      rw [ih (before ++ [c]) (before' ++ [c]), length_letters]

theorem forall_split_cons_iff {α : Type} {x a : α} {rest : List α} {P : List α → List α → Prop} :
    (∀ u v, x :: rest = u ++ a :: v → P u v) ↔
      (x = a → P [] rest) ∧ ∀ u v, rest = u ++ a :: v → P (x :: u) v := by
  constructor
  · intro all
    refine ⟨?_, ?_⟩
    · rintro rfl
      exact all [] rest rfl
    · rintro u v rfl
      exact all (x :: u) v rfl
  · rintro ⟨first, later⟩ u v split
    cases u with
    | nil =>
        obtain ⟨rfl, rfl⟩ := List.cons.inj split
        exact first rfl
    | cons y u =>
        obtain ⟨rfl, rfl⟩ := List.cons.inj split
        exact later u v rfl

theorem lowerBetween_eq_iff : lowerBetween before after text = lowerBetween before' after' text ↔
    ∀ u v, text = u ++ 'Σ' :: v →
      endsWord (before ++ u) (v ++ after) = endsWord (before' ++ u) (v ++ after') := by
  induction text generalizing before before' with
  | nil => simp [lowerBetween]
  | cons c rest ih =>
      have parts : lowerBetween before after (c :: rest) = lowerBetween before' after' (c :: rest) ↔
          letters (endsWord before (rest ++ after)) c = letters (endsWord before' (rest ++ after')) c ∧
          lowerBetween (before ++ [c]) after rest = lowerBetween (before' ++ [c]) after' rest := by
        refine ⟨fun same => List.append_inj same (length_letters _ _ c), ?_⟩
        rintro ⟨first, later⟩
        rw [lowerBetween, lowerBetween, first, later]
      rw [parts, letters_eq_iff, ih, forall_split_cons_iff]
      simp

/-- In a text that stands between two others, each sigma ends a word just if it does so in the text
    alone. -/
def KeepsSigmas (before text after : List Char) : Prop :=
  ∀ u v, text = u ++ 'Σ' :: v → endsWord (before ++ u) (v ++ after) = endsWord u v

theorem keepsSigmas_iff :
    KeepsSigmas before text after ↔ lowerBetween before after text = lowerBetween [] [] text := by
  rw [lowerBetween_eq_iff]
  simp [KeepsSigmas]

end Exchange.Text
