import Mathlib
import Exchange.Http.MediaType
import Exchange.Proofs.Data.Table
import Exchange.Proofs.Ruling
import Exchange.Proofs.Text.AsciiCase
import Exchange.Proofs.Text.Pieces

/-! # Media types as they are written

A text that is read as a media type spells a type, a subtype and parameters in a row, of which the
last of each name counts. Equality of media types is an equivalence. Of two that are read from texts
it says that the texts spell the same up to the letter case of ASCII in types, subtypes, names of
parameters and values of `charset`.
-/

namespace Exchange.MediaType

open Text (Trims trimChars asciiLower sameIgnoringCase)

variable {m a b c : MediaType} {name value type subtype type' subtype' text : String}
  {given given' : List (String × String)}

/-- A value is written within one pair of quotes, or as it is. -/
def Unquotes (written value : List Char) : Prop :=
  written = '"' :: (value ++ ['"']) ∨
    written = value ∧ ∀ inner, written ≠ '"' :: (inner ++ ['"'])

/-- What a piece between semicolons gives. -/
inductive Gives : List Char → List (String × String) → Prop where
  | nothing {piece : List Char} (blank : ∀ c ∈ piece, Text.isBlank c = true) : Gives piece []
  | parameter {before after written : List Char} {name value : String} (first : '=' ∉ before)
      (named : Trims before name.toList) (valued : Trims after written)
      (unquoted : Unquotes written value.toList) :
      Gives (before ++ '=' :: after) [(name, value)]

/-- What pieces give in a row. -/
inductive GivesAll : List (List Char) → List (String × String) → Prop where
  | nil : GivesAll [] []
  | cons {piece : List Char} {pieces : List (List Char)} {first given : List (String × String)}
      (gives : Gives piece first) (rest : GivesAll pieces given) :
      GivesAll (piece :: pieces) (first ++ given)

/-- A text spells a type, a subtype and names with values. -/
inductive Spells (text type subtype : String) (given : List (String × String)) : Prop where
  | intro {before after : List Char} {pieces : List (List Char)}
      (split : text.toList = before ++ '/' :: after ++ pieces.flatMap (';' :: ·))
      (first : '/' ∉ before) (apart : ∀ p ∈ (before ++ '/' :: after) :: pieces, ';' ∉ p)
      (typed : Trims before type.toList) (subtyped : Trims after subtype.toList)
      (gives : GivesAll pieces given)

/-- Set parameters one after the other. -/
def setAll (m : MediaType) (given : List (String × String)) : MediaType :=
  given.foldl (fun m p => m.setParameter p.1 p.2) m

theorem unquote_eq_iff {written value : List Char} :
    unquote written = value ↔ Unquotes written value := by
  have quoted (inner : List Char) : unquote ('"' :: (inner ++ ['"'])) = inner := by
    simp [unquote]
  have plain (written : List Char) (bare : ∀ inner, written ≠ '"' :: (inner ++ ['"'])) :
      unquote written = written := by
    unfold unquote
    split
    · rename_i rest
      split
      · rename_i last
        obtain ⟨inner, rfl⟩ := List.getLast?_eq_some_iff.mp last
        exact absurd rfl (bare inner)
      · rfl
    · rfl
  by_cases pair : ∃ inner, written = '"' :: (inner ++ ['"'])
  · obtain ⟨inner, rfl⟩ := pair
    rw [quoted, Unquotes]
    simp
  · rw [not_exists] at pair
    rw [plain written pair, Unquotes]
    simp [pair]

theorem readParameters_of_blank {piece : List Char} {pieces : List (List Char)}
    (blank : trimChars piece = []) :
    readParameters m (piece :: pieces) = readParameters m pieces := by
  rw [readParameters, if_pos blank]

/-- A piece is cut and then trimmed, as far as what it gives is concerned. -/
theorem readParameters_cons {piece : List Char} {pieces : List (List Char)}
    (written : trimChars piece ≠ []) : readParameters m (piece :: pieces) =
      match (Text.splitOnce? '=' piece).map fun cut => (trimChars cut.1, trimChars cut.2) with
      | none => .error .parameterWithoutValue
      | some (name, value) =>
        readParameters (m.setParameter (String.ofList name) (String.ofList (unquote value)))
          pieces := by
  rw [← Text.splitOnce?_trimChars '=' (by decide), readParameters, if_neg written]
  cases Text.splitOnce? '=' (trimChars piece) <;> rfl

theorem readParameters_of_gives {piece : List Char} {pieces : List (List Char)}
    (gives : Gives piece given) :
    readParameters m (piece :: pieces) = readParameters (m.setAll given) pieces := by
  cases gives with
  | nothing blank => exact readParameters_of_blank (Text.trimChars_eq_nil_iff.mpr blank)
  | @parameter before after written name value first named valued unquoted =>
      have written : trimChars (before ++ '=' :: after) ≠ [] := by
        intro blank
        have mark := Text.trimChars_eq_nil_iff.mp blank '=' (by simp)
        exact absurd mark (by decide)
      rw [readParameters_cons written, Text.splitOnce?_append first]
      simp only [Option.map_some, named.eq, valued.eq, unquote_eq_iff.mpr unquoted,
        String.ofList_toList]
      rfl

theorem exists_gives {piece : List Char} {pieces : List (List Char)}
    (read : readParameters m (piece :: pieces) = .ok a) : ∃ given, Gives piece given := by
  by_cases blank : trimChars piece = []
  · exact ⟨[], .nothing (Text.trimChars_eq_nil_iff.mp blank)⟩
  · rw [readParameters_cons blank] at read
    cases cut : Text.splitOnce? '=' piece with
    | none =>
        rw [cut] at read
        cases read
    | some pair =>
        obtain ⟨before, after⟩ := pair
        obtain ⟨rfl, first⟩ := Text.splitOnce?_eq_some_iff.mp cut
        refine ⟨[(String.ofList (trimChars before), String.ofList (unquote (trimChars after)))],
          .parameter first ?_ (Text.trims_trimChars after) ?_⟩
        · rw [String.toList_ofList]
          exact Text.trims_trimChars before
        · rw [String.toList_ofList]
          exact unquote_eq_iff.mp rfl

theorem readParameters_of_givesAll {pieces : List (List Char)} (gives : GivesAll pieces given) :
    readParameters m pieces = .ok (m.setAll given) := by
  induction gives generalizing m with
  | nil => rfl
  | cons gives _ ih =>
      rw [readParameters_of_gives gives, ih, setAll, setAll, setAll, List.foldl_append]

theorem exists_givesAll {pieces : List (List Char)} (read : readParameters m pieces = .ok a) :
    ∃ given, GivesAll pieces given := by
  induction pieces generalizing m with
  | nil => exact ⟨[], .nil⟩
  | cons piece pieces ih =>
      obtain ⟨first, gives⟩ := exists_gives read
      rw [readParameters_of_gives gives] at read
      obtain ⟨rest, givesAll⟩ := ih read
      exact ⟨first ++ rest, .cons gives givesAll⟩

/-- What a type and a subtype have to be. -/
structure Tokens (type subtype : String) : Prop where
  type_ne : type ≠ ""
  subtype_ne : subtype ≠ ""
  slashless : '/' ∉ subtype.toList
  wildcard : type = "*" → subtype = "*"

theorem tokens_iff : Tokens type subtype ↔
    ¬(type.toList = [] ∨ subtype.toList = [] ∨ subtype.toList.contains '/' = true) ∧
      ¬(type.toList = ['*'] ∧ subtype.toList ≠ ['*']) := by
  have star (s : String) : s.toList = ['*'] ↔ s = "*" := by
    rw [← String.toList_inj]
    rfl
  simp only [String.toList_eq_nil_iff, star, List.contains_iff_mem, ne_eq]
  constructor
  · rintro ⟨typed, subtyped, slashless, wildcard⟩
    exact ⟨by simp [*], fun wild => wild.2 (wildcard wild.1)⟩
  · rintro ⟨apart, whole⟩
    rw [not_or, not_or] at apart
    refine ⟨apart.1, apart.2.1, apart.2.2, fun all => ?_⟩
    by_contra other
    exact whole ⟨all, other⟩

theorem readEssence_eq_ok_iff {before after : List Char} (first : '/' ∉ before)
    (typed : Trims before type.toList) (subtyped : Trims after subtype.toList) :
    readEssence (trimChars (before ++ '/' :: after)) = .ok m ↔
      Tokens type subtype ∧ m = of type subtype := by
  have cut := Text.splitOnce?_trimChars '/' (by decide) (before ++ '/' :: after)
  rw [Text.splitOnce?_append first, Option.map_some, typed.eq, subtyped.eq] at cut
  obtain ⟨⟨x, y⟩, found, same⟩ := Option.map_eq_some_iff.mp cut
  obtain ⟨left, right⟩ := Prod.mk.inj same
  have written : trimChars (before ++ '/' :: after) ≠ [] := by
    intro blank
    rw [blank] at found
    cases found
  rw [tokens_iff, readEssence, if_neg written, found]
  simp only [left, right, String.ofList_toList]
  split
  · rename_i apart
    constructor
    · intro read
      cases read
    · intro tokens
      exact absurd apart tokens.1.1
  · rename_i apart
    split
    · rename_i wild
      constructor
      · intro read
        cases read
      · intro tokens
        exact absurd wild tokens.1.2
    · rename_i wild
      constructor
      · rintro ⟨⟩
        exact ⟨⟨apart, wild⟩, rfl⟩
      · rintro ⟨-, rfl⟩
        rfl

theorem exists_spells (read : read text = .ok m) :
    ∃ type subtype given, Spells text type subtype given := by
  obtain ⟨essence, pieces, split, absent⟩ := Text.exists_pieces ';' text.toList
  rw [MediaType.read, split, Text.splitAll_joined absent] at read
  obtain ⟨m', essenceRead, parametersRead⟩ := bind_eq_ok_iff.mp read
  obtain ⟨given, gives⟩ := exists_givesAll parametersRead
  have cut := Text.splitOnce?_trimChars '/' (by decide) essence
  cases found : Text.splitOnce? '/' essence with
  | none =>
      rw [found, Option.map_none, Option.map_eq_none_iff] at cut
      rw [readEssence, cut] at essenceRead
      split at essenceRead <;> cases essenceRead
  | some pair =>
      obtain ⟨before, after⟩ := pair
      obtain ⟨rfl, first⟩ := Text.splitOnce?_eq_some_iff.mp found
      refine ⟨String.ofList (trimChars before), String.ofList (trimChars after), given,
        .intro split first absent ?_ ?_ gives⟩
      · rw [String.toList_ofList]
        exact Text.trims_trimChars before
      · rw [String.toList_ofList]
        exact Text.trims_trimChars after

theorem read_eq_ok_iff (spells : Spells text type subtype given) :
    read text = .ok m ↔ Tokens type subtype ∧ m = (of type subtype).setAll given := by
  obtain ⟨split, first, apart, typed, subtyped, gives⟩ := spells
  rw [read, split, Text.splitAll_joined apart]
  simp only [bind_eq_ok_iff, readEssence_eq_ok_iff first typed subtyped,
    readParameters_of_givesAll gives, Except.ok.injEq]
  constructor
  · rintro ⟨_, ⟨tokens, rfl⟩, rfl⟩
    exact ⟨tokens, rfl⟩
  · rintro ⟨tokens, rfl⟩
    exact ⟨_, ⟨tokens, rfl⟩, rfl⟩

/-- The last value that is given for a name. -/
def LastGiven (given : List (String × String)) (name value : String) : Prop :=
  ∃ before n after, given = before ++ (n, value) :: after ∧ sameIgnoringCase n name = true ∧
    ∀ p ∈ after, sameIgnoringCase p.1 name = false

/-- Some value is given for a name. -/
def Names (given : List (String × String)) (name : String) : Prop :=
  ∃ p ∈ given, sameIgnoringCase p.1 name = true

theorem lastGiven_concat {p : String × String} : LastGiven (given ++ [p]) name value ↔
    if sameIgnoringCase p.1 name = true then p.2 = value else LastGiven given name value := by
  constructor
  · rintro ⟨before, n, after, split, same, others⟩
    obtain rfl | ⟨after, q, rfl⟩ := after.eq_nil_or_concat'
    · obtain ⟨rfl, last⟩ := List.append_inj' split rfl
      cases last
      rw [if_pos same]
    · rw [← List.cons_append, ← List.append_assoc] at split
      obtain ⟨rfl, last⟩ := List.append_inj' split rfl
      obtain rfl := List.singleton_inj.mp last
      rw [List.forall_mem_append] at others
      rw [if_neg (by simp [others.2])]
      exact ⟨before, n, after, rfl, same, others.1⟩
  · intro last
    split at last
    · rename_i same
      subst last
      exact ⟨given, p.1, [], rfl, same, by simp⟩
    · rename_i different
      obtain ⟨before, n, after, rfl, same, others⟩ := last
      refine ⟨before, n, after ++ [p], by simp, same, ?_⟩
      rw [List.forall_mem_append]
      exact ⟨others, by simpa using different⟩

theorem names_concat {p : String × String} :
    Names (given ++ [p]) name ↔ Names given name ∨ sameIgnoringCase p.1 name = true := by
  simp [Names, or_comm]

theorem not_lastGiven_nil : ¬ LastGiven [] name value := by
  rintro ⟨before, n, after, split, -⟩
  cases before <;> cases split

theorem lastGiven_append {row : List (String × String)} : LastGiven (given ++ row) name value ↔
    LastGiven row name value ∨ ¬ Names row name ∧ LastGiven given name value := by
  induction row using List.reverseRecOn with
  | nil => simp [Names, not_lastGiven_nil]
  | append_singleton row p ih =>
      rw [← List.append_assoc, lastGiven_concat, lastGiven_concat, names_concat, ih]
      by_cases same : sameIgnoringCase p.1 name = true
      · simp [same]
      · simp [same]

theorem lastGiven_cons {p : String × String} : LastGiven (p :: given) name value ↔
    LastGiven given name value ∨
      ¬ Names given name ∧ sameIgnoringCase p.1 name = true ∧ p.2 = value := by
  have single : LastGiven [p] name value ↔ sameIgnoringCase p.1 name = true ∧ p.2 = value := by
    rw [← List.nil_append [p], lastGiven_concat]
    by_cases same : sameIgnoringCase p.1 name = true
    · simp [same]
    · simp [same, not_lastGiven_nil]
  rw [← List.singleton_append, lastGiven_append, single]

theorem setAll_concat {p : String × String} :
    m.setAll (given ++ [p]) = (m.setAll given).setParameter p.1 p.2 := by
  rw [setAll, List.foldl_append]
  rfl

theorem setAll_essence : (m.setAll given).type = m.type ∧ (m.setAll given).subtype = m.subtype := by
  induction given using List.reverseRecOn with
  | nil => exact ⟨rfl, rfl⟩
  | append_singleton given p ih =>
      rw [setAll_concat]
      exact ih

theorem find?_setAll : ((of type subtype).setAll given).parameters.find? (asciiLower name) =
    some value ↔ LastGiven given name value := by
  induction given using List.reverseRecOn with
  | nil =>
      constructor
      · intro found
        cases found
      · intro last
        exact absurd last not_lastGiven_nil
  | append_singleton given p ih =>
      rw [setAll_concat, lastGiven_concat, setParameter]
      split
      · rename_i same
        rw [Text.sameIgnoringCase_iff] at same
        rw [same, Table.find?_insert_self, Option.some.injEq]
      · rename_i different
        rw [Text.sameIgnoringCase_iff] at different
        rw [Table.find?_insert_of_ne (Ne.symm different), ih]

theorem names_iff_exists_lastGiven : Names given name ↔ ∃ value, LastGiven given name value := by
  induction given using List.reverseRecOn with
  | nil => simp [Names, not_lastGiven_nil]
  | append_singleton given p ih =>
      simp only [lastGiven_concat, names_concat]
      by_cases same : sameIgnoringCase p.1 name = true
      · simp [same]
      · simp [same, ih]

theorem find?_setAll_eq_none_iff :
    ((of type subtype).setAll given).parameters.find? (asciiLower name) = none ↔
      ¬ Names given name := by
  rw [names_iff_exists_lastGiven, not_exists, Option.eq_none_iff_forall_ne_some]
  exact forall_congr' fun _ => not_congr find?_setAll

theorem find?_setAll_of_ne (upper : asciiLower name ≠ name) :
    ((of type subtype).setAll given).parameters.find? name = none := by
  induction given using List.reverseRecOn with
  | nil => rfl
  | append_singleton given p ih =>
      have other : name ≠ asciiLower p.1 := by
        rintro rfl
        exact upper (Text.asciiLower_asciiLower p.1)
      rw [setAll_concat, setParameter, Table.find?_insert_of_ne other, ih]

/-- A media type that can be built: from a type and a subtype, by reading, by setting parameters. -/
inductive Built : MediaType → Prop where
  | of (type subtype : String) : Built (of type subtype)
  | read {text : String} {m : MediaType} (read : read text = .ok m) : Built m
  | setParameter {m : MediaType} (built : Built m) (name value : String) :
      Built (m.setParameter name value)

theorem sorted_setAll (sorted : m.parameters.Sorted) : (m.setAll given).parameters.Sorted := by
  induction given generalizing m with
  | nil => exact sorted
  | cons p given ih => exact ih (sorted.insert (asciiLower p.1) p.2)

theorem Built.sorted (built : Built m) : m.parameters.Sorted := by
  induction built with
  | of type subtype => exact List.Pairwise.nil
  | read read =>
      obtain ⟨type, subtype, given, spells⟩ := exists_spells read
      obtain ⟨-, rfl⟩ := (read_eq_ok_iff spells).mp read
      exact sorted_setAll List.Pairwise.nil
  | setParameter _ name value ih => exact ih.insert (asciiLower name) value

/-- A value of a parameter as far as it counts. -/
def canonical (name value : String) : String :=
  if name = "charset" then asciiLower value else value

theorem sameValue_iff {value' : String} :
    sameValue name value value' = true ↔ canonical name value = canonical name value' := by
  unfold sameValue canonical
  split
  · exact Text.sameIgnoringCase_iff
  · exact beq_iff_eq

def canonicalParameters (m : MediaType) : Table String :=
  m.parameters.map fun p => (p.1, canonical p.1 p.2)

theorem find?_canonicalParameters (m : MediaType) (name : String) :
    m.canonicalParameters.find? name = (m.parameters.find? name).map (canonical name) := by
  unfold canonicalParameters
  induction m.parameters with
  | nil => rfl
  | cons p rest ih =>
      rw [List.map_cons, Table.find?, Table.find?]
      split
      · rename_i same
        rw [same]
        rfl
      · exact ih

theorem sorted_canonicalParameters (sorted : m.parameters.Sorted) :
    m.canonicalParameters.Sorted := by
  have names : m.canonicalParameters.names = m.parameters.names := by
    simp [canonicalParameters, Table.names]
  rwa [Table.Sorted, names]

theorem same_iff (sorted : a.parameters.Sorted) (sorted' : b.parameters.Sorted) :
    a.same b = true ↔ a.type = b.type ∧ a.subtype = b.subtype ∧
      a.canonicalParameters = b.canonicalParameters := by
  simp only [same, Bool.and_eq_true, beq_iff_eq, List.all_eq_true, and_assoc]
  refine and_congr_right fun _ => and_congr_right fun _ => ?_
  rw [← Table.pointwise_eq_iff, Table.pointwise_iff (sorted_canonicalParameters sorted)
    (sorted_canonicalParameters sorted')]
  refine and_congr (by simp [canonicalParameters]) ?_
  rw [Table.Found, canonicalParameters, List.forall_mem_map]
  refine forall₂_congr fun p listed => ?_
  rw [find?_canonicalParameters]
  cases theirs : b.parameters.find? p.1 with
  | none => simp
  | some value => simp [sameValue_iff, @eq_comm _ (canonical p.1 value)]

/-- Texts that spell the same as far as it counts. -/
inductive SpellAlike (text text' : String) : Prop where
  | intro {type type' subtype subtype' : String} {given given' : List (String × String)}
      (spells : Spells text type subtype given) (spells' : Spells text' type' subtype' given')
      (types : sameIgnoringCase type type' = true)
      (subtypes : sameIgnoringCase subtype subtype' = true)
      (names : ∀ name, Names given name ↔ Names given' name)
      (values : ∀ name value value', LastGiven given name value → LastGiven given' name value' →
        if sameIgnoringCase name "charset" = true then sameIgnoringCase value value' = true
        else value = value')

theorem canonical_eq_iff {value' : String} :
    canonical (asciiLower name) value = canonical (asciiLower name) value' ↔
      if sameIgnoringCase name "charset" = true then sameIgnoringCase value value' = true
      else value = value' := by
  have charset : asciiLower name = "charset" ↔ sameIgnoringCase name "charset" = true := by
    rw [Text.sameIgnoringCase_iff]
    rfl
  rw [← sameValue_iff]
  unfold sameValue
  simp only [charset]
  split
  · rfl
  · exact beq_iff_eq

theorem find?_canonicalParameters_setAll (last : LastGiven given name value) :
    ((of type subtype).setAll given).canonicalParameters.find? (asciiLower name) =
      some (canonical (asciiLower name) value) := by
  rw [find?_canonicalParameters, find?_setAll.mpr last]
  rfl

theorem find?_canonicalParameters_setAll_eq_none_iff :
    ((of type subtype).setAll given).canonicalParameters.find? (asciiLower name) = none ↔
      ¬ Names given name := by
  rw [find?_canonicalParameters, Option.map_eq_none_iff, find?_setAll_eq_none_iff]

theorem canonicalParameters_eq_iff :
    ((of type subtype).setAll given).canonicalParameters =
        ((of type' subtype').setAll given').canonicalParameters ↔
      (∀ name, Names given name ↔ Names given' name) ∧
        ∀ name value value', LastGiven given name value → LastGiven given' name value' →
          canonical (asciiLower name) value = canonical (asciiLower name) value' := by
  constructor
  · intro same
    refine ⟨fun name => not_iff_not.mp ?_, fun name value value' last last' => ?_⟩
    · rw [← find?_canonicalParameters_setAll_eq_none_iff, same,
        find?_canonicalParameters_setAll_eq_none_iff]
    · have found : ((of type subtype).setAll given).canonicalParameters.find? (asciiLower name) =
          some (canonical (asciiLower name) value) := find?_canonicalParameters_setAll last
      rw [same, find?_canonicalParameters_setAll last'] at found
      exact (Option.some.inj found).symm
  · rintro ⟨names, values⟩
    refine Table.eq_of_find? (sorted_canonicalParameters (sorted_setAll List.Pairwise.nil))
      (sorted_canonicalParameters (sorted_setAll List.Pairwise.nil)) fun name => ?_
    -- Tables have entries for names in lower case only, and there the rows decide.
    by_cases lower : asciiLower name = name
    · rw [← lower]
      by_cases named : Names given name
      · obtain ⟨value, last⟩ := names_iff_exists_lastGiven.mp named
        obtain ⟨value', last'⟩ := names_iff_exists_lastGiven.mp ((names name).mp named)
        rw [find?_canonicalParameters_setAll last, find?_canonicalParameters_setAll last',
          values name value value' last last']
      · rw [find?_canonicalParameters_setAll_eq_none_iff.mpr named,
          find?_canonicalParameters_setAll_eq_none_iff.mpr (mt (names name).mpr named)]
    · rw [find?_canonicalParameters, find?_canonicalParameters, find?_setAll_of_ne lower,
        find?_setAll_of_ne lower]

theorem same_iff_spellAlike {text' : String} (read : read text = .ok a)
    (read' : MediaType.read text' = .ok b) : a.same b = true ↔ SpellAlike text text' := by
  have alike {type type' subtype subtype' : String} {given given' : List (String × String)}
      (spells : Spells text type subtype given) (spells' : Spells text' type' subtype' given') :
      a.same b = true ↔ sameIgnoringCase type type' = true ∧
        sameIgnoringCase subtype subtype' = true ∧
        (∀ name, Names given name ↔ Names given' name) ∧
        ∀ name value value', LastGiven given name value → LastGiven given' name value' →
          if sameIgnoringCase name "charset" = true then sameIgnoringCase value value' = true
          else value = value' := by
    obtain ⟨-, rfl⟩ := (read_eq_ok_iff spells).mp read
    obtain ⟨-, rfl⟩ := (read_eq_ok_iff spells').mp read'
    rw [same_iff (Built.read read).sorted (Built.read read').sorted, canonicalParameters_eq_iff]
    simp only [setAll_essence, Text.sameIgnoringCase_iff, canonical_eq_iff]
    rfl
  constructor
  · intro same
    obtain ⟨type, subtype, given, spells⟩ := exists_spells read
    obtain ⟨type', subtype', given', spells'⟩ := exists_spells read'
    obtain ⟨types, subtypes, names, values⟩ := (alike spells spells').mp same
    exact .intro spells spells' types subtypes names values
  · rintro ⟨spells, spells', types, subtypes, names, values⟩
    exact (alike spells spells').mpr ⟨types, subtypes, names, values⟩

/-- What is given for a name before its last value does not count, and neither does the order of
    the names. -/
theorem setAll_eq_of_lastGiven
    (same : ∀ name value, LastGiven given name value ↔ LastGiven given' name value) :
    (of type subtype).setAll given = (of type subtype).setAll given' := by
  have parameters : ((of type subtype).setAll given).parameters =
      ((of type subtype).setAll given').parameters := by
    refine Table.eq_of_find? (sorted_setAll List.Pairwise.nil) (sorted_setAll List.Pairwise.nil)
      fun name => ?_
    by_cases lower : asciiLower name = name
    · rw [← lower]
      refine Option.ext fun value => ?_
      rw [find?_setAll, find?_setAll, same]
    · rw [find?_setAll_of_ne lower, find?_setAll_of_ne lower]
  rw [MediaType.mk.injEq]
  simp [setAll_essence, parameters]

theorem read_eq_ok_iff_of_lastGiven {text' : String} (spells : Spells text type subtype given)
    (spells' : Spells text' type subtype given')
    (same : ∀ name value, LastGiven given name value ↔ LastGiven given' name value) :
    read text = .ok m ↔ read text' = .ok m := by
  rw [read_eq_ok_iff spells, read_eq_ok_iff spells', setAll_eq_of_lastGiven same]

theorem names_cons {p : String × String} :
    Names (p :: given) name ↔ sameIgnoringCase p.1 name = true ∨ Names given name := by
  simp [Names]

theorem lastGiven_swap {xs ys : List (String × String)} {p q : String × String}
    (different : sameIgnoringCase p.1 q.1 = false) :
    LastGiven (xs ++ p :: q :: ys) name value ↔ LastGiven (xs ++ q :: p :: ys) name value := by
  have apart : ¬(sameIgnoringCase p.1 name = true ∧ sameIgnoringCase q.1 name = true) := by
    rintro ⟨first, second⟩
    rw [Text.sameIgnoringCase_iff] at first second
    rw [Text.sameIgnoringCase_iff.mpr (first.trans second.symm)] at different
    cases different
  simp only [lastGiven_append, lastGiven_cons, names_cons]
  by_cases first : sameIgnoringCase p.1 name = true
  · have second : ¬ sameIgnoringCase q.1 name = true := fun second => apart ⟨first, second⟩
    simp [first, second]
  · simp [first]

theorem lastGiven_drop {xs ys : List (String × String)} {p : String × String}
    (later : Names ys p.1) :
    LastGiven (xs ++ p :: ys) name value ↔ LastGiven (xs ++ ys) name value := by
  have named : sameIgnoringCase p.1 name = true → Names ys name := by
    intro same
    obtain ⟨q, listed, again⟩ := later
    rw [Text.sameIgnoringCase_iff] at same again
    exact ⟨q, listed, Text.sameIgnoringCase_iff.mpr (again.trans same)⟩
  simp only [lastGiven_append, lastGiven_cons, names_cons]
  by_cases again : Names ys name
  · simp [again]
  · simp [again, mt named again]

/-- Equality of media types is an equivalence and takes no notice of how they are spelled. -/
structure EqualityLaw : Prop where
  refl {a : MediaType} : Built a → a.same a = true
  symm {a b : MediaType} : Built a → Built b → a.same b = true → b.same a = true
  trans {a b c : MediaType} : Built a → Built b → Built c → a.same b = true → b.same c = true →
    a.same c = true
  exact {text text' : String} {a b : MediaType} : read text = .ok a → read text' = .ok b →
    (a.same b = true ↔ SpellAlike text text')
  /-- Blanks around anything and blank pieces do not count. -/
  blank {text text' type subtype : String} {given : List (String × String)} :
    Spells text type subtype given → Spells text' type subtype given → ∀ m,
      (read text = .ok m ↔ read text' = .ok m)
  order {text text' type subtype : String} {xs ys : List (String × String)}
      {p q : String × String} : sameIgnoringCase p.1 q.1 = false →
    Spells text type subtype (xs ++ p :: q :: ys) →
    Spells text' type subtype (xs ++ q :: p :: ys) → ∀ m,
      (read text = .ok m ↔ read text' = .ok m)
  earlier {text text' type subtype : String} {xs ys : List (String × String)}
      {p : String × String} : Names ys p.1 →
    Spells text type subtype (xs ++ p :: ys) → Spells text' type subtype (xs ++ ys) → ∀ m,
      (read text = .ok m ↔ read text' = .ok m)

theorem equalityLaw : EqualityLaw where
  refl built := (same_iff built.sorted built.sorted).mpr ⟨rfl, rfl, rfl⟩
  symm built built' same := by
    obtain ⟨types, subtypes, parameters⟩ := (same_iff built.sorted built'.sorted).mp same
    exact (same_iff built'.sorted built.sorted).mpr ⟨types.symm, subtypes.symm, parameters.symm⟩
  trans built built' built'' same same' := by
    obtain ⟨types, subtypes, parameters⟩ := (same_iff built.sorted built'.sorted).mp same
    obtain ⟨types', subtypes', parameters'⟩ := (same_iff built'.sorted built''.sorted).mp same'
    exact (same_iff built.sorted built''.sorted).mpr
      ⟨types.trans types', subtypes.trans subtypes', parameters.trans parameters'⟩
  exact := same_iff_spellAlike
  blank spells spells' _ := read_eq_ok_iff_of_lastGiven spells spells' fun _ _ => Iff.rfl
  order different spells spells' _ :=
    read_eq_ok_iff_of_lastGiven spells spells' fun _ _ => lastGiven_swap different
  earlier later spells spells' _ :=
    read_eq_ok_iff_of_lastGiven spells spells' fun _ _ => lastGiven_drop later

theorem Gives.of_trimmed {before after : List Char} (first : '=' ∉ before)
    (named : trimChars before = name.toList) (valued : unquote (trimChars after) = value.toList) :
    Gives (before ++ '=' :: after) [(name, value)] :=
  .parameter first (Text.trims_iff.mpr named) (Text.trims_trimChars after)
    (unquote_eq_iff.mp valued)

/-- Blanks, a blank piece, quotes, parameters in another order, and letter case. -/
theorem equalityLaw_respelt :
    let sloppy := "a/b; p =1;; charset=\"u\""
    let neat := "a/b;charset=u;p=1"
    let upper := "A/B;P=1;Charset=U"
    ∃ m n, read sloppy = .ok m ∧ read neat = .ok m ∧ read upper = .ok n ∧
      m.same n = true ∧ n.same m = true ∧ SpellAlike sloppy upper := by
  intro sloppy neat upper
  have spells : Spells sloppy "a" "b" [("p", "1"), ("charset", "u")] := by
    have split : sloppy.toList = ['a'] ++ '/' :: ['b'] ++ [" p ".toList ++ '=' :: "1".toList, [],
        " charset".toList ++ '=' :: "\"u\"".toList].flatMap (';' :: ·) := by decide
    exact .intro split (by decide) (by decide) (Text.trims_iff.mpr (by decide))
      (Text.trims_iff.mpr (by decide))
      (.cons (.of_trimmed (by decide) (by decide) (by decide)) (.cons (.nothing (by simp))
        (.cons (.of_trimmed (by decide) (by decide) (by decide)) .nil)))
  have spells' : Spells neat "a" "b" [("charset", "u"), ("p", "1")] := by
    have split : neat.toList = ['a'] ++ '/' :: ['b'] ++ ["charset".toList ++ '=' :: "u".toList,
        "p".toList ++ '=' :: "1".toList].flatMap (';' :: ·) := by decide
    exact .intro split (by decide) (by decide) (Text.trims_iff.mpr (by decide))
      (Text.trims_iff.mpr (by decide)) (.cons (.of_trimmed (by decide) (by decide) (by decide))
        (.cons (.of_trimmed (by decide) (by decide) (by decide)) .nil))
  let m := ((of "a" "b").setParameter "charset" "u").setParameter "p" "1"
  let n := ((of "a" "b").setParameter "charset" "U").setParameter "p" "1"
  have read' : read neat = .ok m := by decide +kernel
  have read'' : read upper = .ok n := by decide +kernel
  have same : m.same n = true := by decide +kernel
  have reordered (other : MediaType) : MediaType.read sloppy = .ok other ↔ read neat = .ok other :=
    equalityLaw.order (by decide) (show Spells sloppy "a" "b" ([] ++ _ :: _ :: []) from spells)
      spells' other
  have read := (reordered m).mpr read'
  exact ⟨m, n, read, read', read'', same, equalityLaw.symm (.read read) (.read read'') same,
    (equalityLaw.exact read read'').mp same⟩

end Exchange.MediaType
