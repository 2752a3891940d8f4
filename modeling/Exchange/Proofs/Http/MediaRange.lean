import Mathlib
import Exchange.Proofs.Http.MediaType
import Exchange.Proofs.Matcher.Spellings

/-! # Ranges of media types

A media type with wildcards is a range and covers others. What it covers covers no more than it does
itself, and under every range there is a media type without wildcards. So two media types are
compatible if one of them covers the other, which is so if both cover some media type without
wildcards.
-/

namespace Exchange.MediaType

variable {a b c : MediaType} {text text' x y z : String}

/-- A subtype without wildcards. -/
def ConcreteSubtype (subtype : String) : Prop :=
  subtype ≠ "*" ∧ ¬ ['*', '+'] <+: subtype.toList

/-- A media type without wildcards. -/
def Concrete (m : MediaType) : Prop := m.type ≠ "*" ∧ ConcreteSubtype m.subtype

/-- A range that is a star, a plus sign and a suffix covers what ends with them but the star. -/
def CoversEnding (range subtype : String) : Prop :=
  ∃ suffix, range.toList = '*' :: '+' :: suffix ∧ '+' :: suffix <:+ subtype.toList

def CoversSubtype (range subtype : String) : Prop :=
  range = "*" ∨ range = subtype ∨ CoversEnding range subtype

/-- A range covers a media type. -/
def Covers (range m : MediaType) : Prop :=
  range.type = "*" ∨ range.type = m.type ∧ CoversSubtype range.subtype m.subtype

theorem coversSuffix_iff : coversSuffix x y = true ↔ CoversEnding x y := by
  unfold coversSuffix CoversEnding
  split
  · rename_i suffix written
    simp [written, Text.endsWith_iff]
  · rename_i other
    simp only [Bool.false_eq_true, false_iff, not_exists, not_and]
    intro suffix written
    exact absurd written (other suffix)

theorem suffix_of_suffix_cons {suffix rest : List Char} :
    '+' :: suffix <:+ '*' :: rest ↔ '+' :: suffix <:+ rest := by
  rw [List.suffix_cons_iff]
  simp

theorem CoversSubtype.trans (covers : CoversSubtype x y) (covers' : CoversSubtype y z) :
    CoversSubtype x z := by
  rcases covers with rfl | rfl | ⟨suffix, written, ends⟩
  · exact .inl rfl
  · exact covers'
  · refine .inr (.inr ⟨suffix, written, ?_⟩)
    rcases covers' with rfl | rfl | ⟨suffix', written', ends'⟩
    · exact absurd (suffix_of_suffix_cons.mp ends) (by simp)
    · exact ends
    · rw [written', suffix_of_suffix_cons] at ends
      exact ends.trans ends'

theorem coversSubtype_of_concrete (concrete : ConcreteSubtype z) (covers : CoversSubtype x z)
    (covers' : CoversSubtype y z) : CoversSubtype x y ∨ CoversSubtype y x := by
  rcases covers with rfl | rfl | ⟨suffix, written, ends⟩
  · exact .inl (.inl rfl)
  · exact .inr covers'
  · rcases covers' with rfl | rfl | ⟨suffix', written', ends'⟩
    · exact .inr (.inl rfl)
    · exact .inl (.inr (.inr ⟨suffix, written, ends⟩))
    · -- Of two endings of one subtype the longer has the other at its end.
      rcases List.suffix_or_suffix_of_suffix ends ends' with shorter | longer
      · refine .inl (.inr (.inr ⟨suffix, written, ?_⟩))
        rwa [written', suffix_of_suffix_cons]
      · refine .inr (.inr (.inr ⟨suffix', written', ?_⟩))
        rwa [written, suffix_of_suffix_cons]

/-- A star in front of a suffix stands for any text, such as an x. -/
theorem exists_concrete_subtype (lower : Text.asciiLower x = x) :
    ∃ z, Text.asciiLower z = z ∧ ConcreteSubtype z ∧ CoversSubtype x z := by
  by_cases star : x = "*"
  · exact ⟨"x", by decide, ⟨by decide, by decide⟩, .inl star⟩
  · by_cases pattern : ['*', '+'] <+: x.toList
    · obtain ⟨suffix, written⟩ := pattern
      have kept : suffix.map Text.asciiLowerChar = suffix := by
        have chars := congrArg String.toList lower
        rw [Text.asciiLower, String.toList_ofList, ← written, List.map_append] at chars
        exact (List.append_inj' chars (by simp)).2
      have lower' : Text.asciiLower (String.ofList ('x' :: '+' :: suffix)) =
          String.ofList ('x' :: '+' :: suffix) := by
        rw [Text.asciiLower, String.toList_ofList, List.map_cons, List.map_cons, kept]
        rfl
      refine ⟨_, lower', ⟨?_, ?_⟩, .inr (.inr ⟨suffix, written.symm, ?_⟩)⟩
      · rw [ne_eq, ← String.toList_inj, String.toList_ofList]
        simp
      · rw [String.toList_ofList]
        simp
      · rw [String.toList_ofList]
        exact List.suffix_cons 'x' _
    · exact ⟨x, lower, ⟨star, pattern⟩, .inr (.inl rfl)⟩

theorem compatible_iff : a.compatible b = true ↔ a.Covers b ∨ b.Covers a := by
  have types : b.type = a.type ↔ a.type = b.type := eq_comm
  have subtypes : b.subtype = a.subtype ↔ a.subtype = b.subtype := eq_comm
  simp only [compatible, Bool.or_eq_true, Bool.and_eq_true, beq_iff_eq, coversSuffix_iff, Covers,
    CoversSubtype, types, subtypes]
  tauto

theorem Covers.trans (covers : a.Covers b) (covers' : b.Covers c) : a.Covers c := by
  rcases covers with all | ⟨types, subtypes⟩
  · exact .inl all
  · rcases covers' with all | ⟨types', subtypes'⟩
    · exact .inl (types.trans all)
    · exact .inr ⟨types.trans types', subtypes.trans subtypes'⟩

theorem covers_of_concrete (concrete : c.Concrete) (covers : a.Covers c) (covers' : b.Covers c) :
    a.Covers b ∨ b.Covers a := by
  rcases covers with all | ⟨types, subtypes⟩
  · exact .inl (.inl all)
  · rcases covers' with all | ⟨types', subtypes'⟩
    · exact .inr (.inl all)
    · have same := types.trans types'.symm
      refine (coversSubtype_of_concrete concrete.2 subtypes subtypes').imp ?_ ?_
      · exact fun covers => .inr ⟨same, covers⟩
      · exact fun covers => .inr ⟨same.symm, covers⟩

theorem Built.lower (built : Built a) :
    Text.asciiLower a.type = a.type ∧ Text.asciiLower a.subtype = a.subtype := by
  induction built with
  | of type subtype => exact ⟨Text.asciiLower_asciiLower type, Text.asciiLower_asciiLower subtype⟩
  | read read =>
      obtain ⟨type, subtype, given, spells⟩ := exists_spells read
      obtain ⟨-, rfl⟩ := (read_eq_ok_iff spells).mp read
      rw [setAll_essence.1, setAll_essence.2]
      exact ⟨Text.asciiLower_asciiLower type, Text.asciiLower_asciiLower subtype⟩
  | setParameter _ _ _ ih => exact ih

theorem Built.exists_concrete (built : Built a) : ∃ c, Built c ∧ c.Concrete ∧ a.Covers c := by
  obtain ⟨z, lower, concrete, covers⟩ := exists_concrete_subtype built.lower.2
  have subtype (type : String) : (MediaType.of type z).subtype = z := lower
  by_cases all : a.type = "*"
  · have plain : Text.asciiLower "text" ≠ "*" := by decide
    refine ⟨MediaType.of "text" z, .of "text" z, ⟨plain, ?_⟩, .inl all⟩
    rwa [subtype]
  · have type : (MediaType.of a.type z).type = a.type := built.lower.1
    refine ⟨MediaType.of a.type z, .of a.type z, ⟨?_, ?_⟩, .inr ⟨type.symm, ?_⟩⟩
    · rwa [type]
    · rwa [subtype]
    · rwa [subtype]

theorem compatible_iff_exists_concrete (built : Built a) (built' : Built b) :
    a.compatible b = true ↔ ∃ c, Built c ∧ c.Concrete ∧ a.Covers c ∧ b.Covers c := by
  rw [compatible_iff]
  constructor
  · rintro (covers | covers)
    · obtain ⟨c, builtC, concrete, below⟩ := built'.exists_concrete
      exact ⟨c, builtC, concrete, covers.trans below, below⟩
    · obtain ⟨c, builtC, concrete, below⟩ := built.exists_concrete
      exact ⟨c, builtC, concrete, below, covers.trans below⟩
  · rintro ⟨c, -, concrete, covers, covers'⟩
    exact covers_of_concrete concrete covers covers'

theorem compatible_of_same (same : b.same a = true) : a.compatible b = true := by
  simp only [MediaType.same, Bool.and_eq_true, beq_iff_eq] at same
  obtain ⟨⟨⟨types, subtypes⟩, -⟩, -⟩ := same
  exact compatible_iff.mpr (.inl (.inr ⟨types.symm, .inr (.inl subtypes.symm)⟩))

theorem compatible_symm (a b : MediaType) : a.compatible b = b.compatible a := by
  rw [Bool.eq_iff_iff, compatible_iff, compatible_iff, or_comm]

theorem passes_compatible_of_type {o : Outcome} (read : read text = .ok a)
    (passes : Passes o ((ContentMatcher.ofType text).map .content)) :
    Passes o ((ContentMatcher.compatibleWith text).map .content) := by
  have built : ContentMatcher.readMediaType text = .ok a := by
    rw [ContentMatcher.readMediaType, read]
    rfl
  obtain ⟨matcher, made, passed⟩ := passes
  rw [ContentMatcher.ofType, built] at made
  obtain rfl := Except.ok.inj made
  refine ⟨.content (.compatible a), ?_, ?_⟩
  · rw [ContentMatcher.compatibleWith, built]
    rfl
  · rw [Matcher.verify_eq] at passed ⊢
    obtain ⟨⟨raw, actual⟩, found, verdict⟩ := bind_eq_ok_iff.mp passed
    refine bind_eq_ok_iff.mpr ⟨(raw, actual), found, ?_⟩
    refine Ruling.require_eq_pass_iff.mpr (compatible_of_same ?_)
    by_contra different
    simp [different] at verdict

/-- What compatibility says of media types that are read from texts. -/
structure RangeLaw (text : String) (a b : MediaType) : Prop where
  overlap : a.compatible b = true ↔ ∃ c, Built c ∧ c.Concrete ∧ a.Covers c ∧ b.Covers c
  symm : a.compatible b = b.compatible a
  refl : a.compatible a = true
  /-- Parameters do not count. -/
  bare (given given' : Table String) :
    { a with parameters := given }.compatible { b with parameters := given' } = a.compatible b
  /-- A content type that is the one that a text says is compatible with it. -/
  typed (o : Outcome) : Passes o ((ContentMatcher.ofType text).map .content) →
    Passes o ((ContentMatcher.compatibleWith text).map .content)

theorem rangeLaw (read : read text = .ok a) (read' : MediaType.read text' = .ok b) :
    RangeLaw text a b where
  overlap := compatible_iff_exists_concrete (.read read) (.read read')
  symm := compatible_symm a b
  refl := compatible_iff.mpr (.inl (.inr ⟨rfl, .inr (.inl rfl)⟩))
  bare _ _ := rfl
  typed _ := passes_compatible_of_type read

/-- Of two suffixes one ends with the other, so that some media type has both. -/
theorem rangeLaw_suffixes :
    let a : MediaType := of "application" "*+json"
    let b : MediaType := (of "application" "*+ld+json").setParameter "profile" "x"
    read "application/*+json" = .ok a ∧ read "Application/*+LD+JSON; profile=x" = .ok b ∧
      ∃ c, Built c ∧ c.Concrete ∧ a.Covers c ∧ b.Covers c := by
  intro a b
  have read : MediaType.read "application/*+json" = .ok a := by decide +kernel
  have read' : MediaType.read "Application/*+LD+JSON; profile=x" = .ok b := by decide +kernel
  exact ⟨read, read', (rangeLaw read read').overlap.mp (by decide +kernel)⟩

end Exchange.MediaType
