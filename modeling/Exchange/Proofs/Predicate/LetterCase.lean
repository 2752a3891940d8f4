import Mathlib
import Exchange.Predicate.TextCheck
import Exchange.Proofs.Text.LowerCase
import Exchange.Proofs.Text.Pieces

/-! # Checks of texts that disregard letter case

Where a check finds the expected text, it still finds it when letter case does not count, unless a
capital sigma of the expected text ends a word there but not in the expected text alone, or the
other way round. Whole texts are compared alike in both ways, and so is an expected text without a
capital sigma.
-/

namespace Exchange

namespace TextOp

variable {op : TextOp} {text expected : String} {before after : List Char}

/-- What a comparison lets stand before and behind the expected text. -/
def Allows (op : TextOp) (before after : List Char) : Prop :=
  match op with
  | equals => before = [] ∧ after = []
  | contains => True
  | startsWith => before = []
  | endsWith => after = []

theorem holds_iff : op.holds text expected = true ↔ ∃ before after, op.Allows before after ∧
    text.toList = before ++ expected.toList ++ after := by
  cases op with
  | equals => simp [holds, Allows, String.toList_inj]
  | contains =>
      simp only [holds, Allows, true_and, Text.occursIn_iff]
      exact exists₂_congr fun _ _ => eq_comm
  | startsWith =>
      simp only [holds, Allows, List.isPrefixOf_iff_prefix]
      constructor
      · rintro ⟨after, same⟩
        exact ⟨[], after, rfl, same.symm⟩
      · rintro ⟨_, after, rfl, same⟩
        exact ⟨after, same.symm⟩
  | endsWith =>
      simp only [holds, Allows, Text.endsWith_iff]
      constructor
      · rintro ⟨before, same⟩
        refine ⟨before, [], rfl, ?_⟩
        rw [List.append_nil, same]
      · rintro ⟨before, _, rfl, same⟩
        refine ⟨before, ?_⟩
        rw [same, List.append_nil]

/-- The expected text stands in a text, at a place that the comparison allows, with each of its
    sigmas as in the expected text alone. -/
def FindsKept (op : TextOp) (text expected : String) : Prop :=
  ∃ before after, op.Allows before after ∧ text.toList = before ++ expected.toList ++ after ∧
    Text.KeepsSigmas before expected.toList after

theorem Allows.lower {before' after' : List Char} (allowed : op.Allows before after) :
    op.Allows (Text.lowerBetween [] before' before) (Text.lowerBetween after' [] after) := by
  cases op with
  | equals =>
      obtain ⟨rfl, rfl⟩ := allowed
      exact ⟨rfl, rfl⟩
  | contains => trivial
  | startsWith =>
      obtain rfl : before = [] := allowed
      exact rfl
  | endsWith =>
      obtain rfl : after = [] := allowed
      exact rfl

/-- The place of an occurrence is fixed by what is allowed around it. -/
theorem Allows.middle_eq {before' after' middle middle' : List Char}
    (fixed : op ≠ contains) (allowed : op.Allows before after) (allowed' : op.Allows before' after')
    (length : middle.length = middle'.length)
    (same : before ++ middle ++ after = before' ++ middle' ++ after') : middle = middle' := by
  cases op with
  | equals =>
      obtain ⟨rfl, rfl⟩ := allowed
      obtain ⟨rfl, rfl⟩ := allowed'
      simpa using same
  | contains => exact absurd rfl fixed
  | startsWith =>
      obtain rfl : before = [] := allowed
      obtain rfl : before' = [] := allowed'
      exact (List.append_inj same length).1
  | endsWith =>
      obtain rfl : after = [] := allowed
      obtain rfl : after' = [] := allowed'
      simp only [List.append_nil] at same
      exact (List.append_inj' same length).2

end TextOp

namespace CompiledMatcher

variable {op : TextOp} {text expected : String} {before after : List Char}

theorem toList_lower_of_split (split : text.toList = before ++ expected.toList ++ after) :
    (Text.lower text).toList = Text.lowerBetween [] (expected.toList ++ after) before ++
      Text.lowerBetween before after expected.toList ++
      Text.lowerBetween (before ++ expected.toList) [] after := by
  rw [Text.toList_lower, split, Text.lowerBetween_append, Text.lowerBetween_append]
  simp

theorem found_of_kept (kept : op.FindsKept text expected) :
    found op expected text false = true := by
  obtain ⟨before, after, allowed, split, keeps⟩ := kept
  have lowered := toList_lower_of_split split
  rw [Text.keepsSigmas_iff.mp keeps, ← Text.toList_lower] at lowered
  exact TextOp.holds_iff.mpr ⟨_, _, allowed.lower, lowered⟩

theorem kept_of_found (fixed : op ≠ .contains) (exactly : found op expected text true = true)
    (loosely : found op expected text false = true) : op.FindsKept text expected := by
  obtain ⟨before, after, allowed, split⟩ := TextOp.holds_iff.mp exactly
  obtain ⟨before', after', allowed', split'⟩ := TextOp.holds_iff.mp loosely
  refine ⟨before, after, allowed, split, Text.keepsSigmas_iff.mpr ?_⟩
  rw [toList_lower_of_split split] at split'
  refine (allowed.lower.middle_eq fixed allowed' ?_ split').trans ?_
  · rw [Text.toList_lower]
    exact Text.length_lowerBetween ..
  · exact Text.toList_lower expected

/-- A whole text is in no other context, and without sigmas the context does not matter. -/
theorem kept_of_plain (exactly : found op expected text true = true)
    (plain : op = .equals ∨ 'Σ' ∉ expected.toList) : op.FindsKept text expected := by
  obtain ⟨before, after, allowed, split⟩ := TextOp.holds_iff.mp exactly
  refine ⟨before, after, allowed, split, ?_⟩
  intro u v place
  rcases plain with rfl | absent
  · obtain ⟨rfl, rfl⟩ := allowed
    rw [List.nil_append, List.append_nil]
  · refine absurd ?_ absent
    rw [place]
    exact List.mem_append_right u List.mem_cons_self

end CompiledMatcher

/-- The check for which letter case does not count. -/
def TextPredicate.ignoringCase (p : TextPredicate) : TextPredicate :=
  { p with options := { p.options with caseSensitive := false } }

namespace TextOp

variable {op : TextOp} {expected text : String}

/-- What becomes of a text that is found as it is written once letter case does not count. -/
structure LooselyFound (op : TextOp) (expected text : String) : Prop where
  /-- It is still found if it stands somewhere with its sigmas as they are. -/
  kept : op.FindsKept text expected → CompiledMatcher.found op expected text false = true
  /-- Where it has one place to stand, it is found in no other way. -/
  only : op ≠ .contains → CompiledMatcher.found op expected text false = true →
    op.FindsKept text expected
  whole : op = .equals ∨ 'Σ' ∉ expected.toList →
    CompiledMatcher.found op expected text false = true
  checks (p : TextPredicate) : p.matcher = .compare op expected → p.options.negated = false →
    (p.ignoringCase.acceptsOptional (some text) = true ↔
      CompiledMatcher.found op expected text false = true)
  /-- Checks that compare nothing do not ask whether letter case counts. -/
  others (p : TextPredicate) (candidate : Option String) :
    (∀ op expected, p.matcher ≠ .compare op expected) →
    p.ignoringCase.acceptsOptional candidate = p.acceptsOptional candidate

theorem looselyFound (exactly : CompiledMatcher.found op expected text true = true) :
    op.LooselyFound expected text where
  kept := CompiledMatcher.found_of_kept
  only fixed := CompiledMatcher.kept_of_found fixed exactly
  whole plain := CompiledMatcher.found_of_kept (CompiledMatcher.kept_of_plain exactly plain)
  checks p compares straight := by
    simp [TextPredicate.acceptsOptional, TextPredicate.ignoringCase, compares, straight,
      CompiledMatcher.answer]
  others p candidate compares := by
    obtain ⟨matcher, options⟩ := p
    cases matcher with
    | compare op expected => exact absurd rfl (compares op expected)
    | pattern _ _ => cases candidate <;> rfl
    | presence _ => rfl

/-- In the candidate the first word goes on, and so its sigma is not the final one that the expected
    text has in lower case. -/
theorem not_found_where_word_goes_on :
    CompiledMatcher.found .contains "ΑΣ" "ΑΣΑ" true = true ∧
    CompiledMatcher.found .contains "ΑΣ" "ΑΣΑ" false = false := by decide +kernel

/-- Of two occurrences the second has its sigma at the end of a word, behind an apostrophe too. -/
theorem looselyFound_second_word :
    CompiledMatcher.found .contains "ΑΣ" "ΑΣΑ ΑΣ'" true = true ∧
    CompiledMatcher.found .contains "ΑΣ" "ΑΣΑ ΑΣ'" false = true := by
  have exactly : CompiledMatcher.found .contains "ΑΣ" "ΑΣΑ ΑΣ'" true = true := by decide +kernel
  refine ⟨exactly, (looselyFound exactly).kept ?_⟩
  refine ⟨"ΑΣΑ ".toList, "'".toList, trivial, by decide +kernel, ?_⟩
  exact Text.keepsSigmas_iff.mpr (by decide +kernel)

end TextOp

end Exchange
