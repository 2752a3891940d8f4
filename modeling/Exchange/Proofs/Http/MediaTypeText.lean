import Mathlib
import Exchange.Matcher.Content
import Exchange.Proofs.Http.MediaType

/-! # Texts of media types

A media type that was read has a text, in which every value of a parameter stands without quotes.
The text is read back as the same media type just where no value needs its quotes. In a text with
quoted values semicolons separate parameters within the quotes too, so that a value is read whole
just where it has none.
-/

namespace Exchange.MediaType

open Text (Trims trimChars asciiLower asciiLowerChar)

variable {m m' : MediaType} {name value type subtype text : String}
  {given given' : List (String × String)} {pieces pieces' : List (List Char)}

/-- A type, a subtype or a name as reading leaves it. -/
structure Part (s : String) : Prop where
  lower : asciiLower s = s
  trimmed : Trims s.toList s.toList
  unbroken : ';' ∉ s.toList

/-- A name and a value as reading leaves them. -/
structure Entry (p : String × String) : Prop where
  name : Part p.1
  unmarked : '=' ∉ p.1.toList
  unbroken : ';' ∉ p.2.toList

/-- A media type as reading leaves it. -/
structure Plain (m : MediaType) : Prop where
  tokens : Tokens m.type m.subtype
  slashless : '/' ∉ m.type.toList
  type : Part m.type
  subtype : Part m.subtype
  sorted : m.parameters.Sorted
  entries : ∀ p ∈ m.parameters, Entry p

theorem Part.of_trims {padded : List Char} {s : String} (trims : Trims padded s.toList)
    (unbroken : ';' ∉ padded) : Part (asciiLower s) where
  lower := Text.asciiLower_asciiLower s
  trimmed := by
    rw [Text.toList_asciiLower]
    refine Text.trims_of_ends ?_ ?_
    · intro c head
      rw [List.head?_map] at head
      obtain ⟨d, first, rfl⟩ := Option.map_eq_some_iff.mp head
      rw [Text.isBlank_asciiLowerChar, trims.head d first]
    · intro c tail
      rw [List.getLast?_map] at tail
      obtain ⟨d, last, rfl⟩ := Option.map_eq_some_iff.mp tail
      rw [Text.isBlank_asciiLowerChar, trims.last d last]
  unbroken := by
    rw [Text.toList_asciiLower, Text.mem_map_asciiLowerChar (by decide)]
    exact fun mem => unbroken (trims.subset mem)

theorem Tokens.lower (tokens : Tokens type subtype) :
    Tokens (asciiLower type) (asciiLower subtype) := by
  have star (cs : List Char) : cs.map asciiLowerChar = ['*'] ↔ cs = ['*'] := by
    rw [List.map_eq_singleton_iff]
    simp only [Text.asciiLowerChar_eq_iff (show '*'.toNat < 65 by decide), exists_eq_right]
  have slash (cs : List Char) : '/' ∈ cs.map asciiLowerChar ↔ '/' ∈ cs :=
    Text.mem_map_asciiLowerChar (by decide)
  rw [tokens_iff] at tokens ⊢
  simpa only [Text.toList_asciiLower, List.contains_iff_mem, List.map_eq_nil_iff, ne_eq, star,
    slash] using tokens

theorem Unquotes.subset {written value : List Char} (unquotes : Unquotes written value) :
    value ⊆ written := by
  rcases unquotes with rfl | ⟨rfl, -⟩
  · intro c inner
    simp [inner]
  · exact List.Subset.refl written

theorem Gives.entry {piece : List Char} (gives : Gives piece [(name, value)])
    (unbroken : ';' ∉ piece) : Entry (asciiLower name, value) := by
  cases gives with
  | @parameter before after written name value first named valued unquoted =>
      rw [List.mem_append, List.mem_cons, not_or, not_or] at unbroken
      refine ⟨.of_trims named unbroken.1, ?_, fun mem => ?_⟩
      · rw [Text.toList_asciiLower, Text.mem_map_asciiLowerChar (by decide)]
        exact fun mem => first (named.subset mem)
      · exact unbroken.2.2 (valued.subset (unquoted.subset mem))

theorem GivesAll.exists_gives {p : String × String} (gives : GivesAll pieces given)
    (listed : p ∈ given) : ∃ piece ∈ pieces, Gives piece [p] := by
  induction gives with
  | nil => cases listed
  | @cons piece pieces first given gives rest ih =>
      rcases List.mem_append.mp listed with here | later
      · refine ⟨piece, List.mem_cons_self, ?_⟩
        cases gives with
        | nothing blank => cases here
        | parameter unmarked named valued unquoted =>
            obtain rfl := List.mem_singleton.mp here
            exact .parameter unmarked named valued unquoted
      · obtain ⟨piece, further, gives⟩ := ih later
        exact ⟨piece, List.mem_cons_of_mem _ further, gives⟩

/-- Parameters that are given one after the other, with the names in lower case. -/
def table (given : List (String × String)) : Table String :=
  Table.ofList (given.map fun p => (asciiLower p.1, p.2))

theorem setAll_eq (bare : m.parameters = []) :
    m.setAll given = { m with parameters := table given } := by
  obtain ⟨type, subtype, parameters⟩ := m
  obtain rfl : parameters = [] := bare
  rw [table, Table.ofList, List.foldl_map]
  induction given using List.reverseRecOn with
  | nil => rfl
  | append_singleton given p ih =>
      rw [setAll_concat, ih, List.foldl_append]
      rfl

theorem Spells.plain (spells : Spells text type subtype given) (tokens : Tokens type subtype) :
    Plain ((of type subtype).setAll given) := by
  obtain ⟨-, first, apart, typed, subtyped, gives⟩ := spells
  rw [List.forall_mem_cons, List.mem_append, List.mem_cons, not_or, not_or] at apart
  rw [setAll_eq rfl]
  refine
    { tokens := ?_
      slashless := ?_
      type := .of_trims typed apart.1.1
      subtype := .of_trims subtyped apart.1.2.2
      sorted := Table.sorted_ofList _
      entries := fun p listed => ?_ }
  · exact tokens.lower
  · show '/' ∉ (asciiLower type).toList
    rw [Text.toList_asciiLower, Text.mem_map_asciiLowerChar (by decide)]
    exact fun mem => first (typed.subset mem)
  · obtain ⟨q, given, rfl⟩ := List.mem_map.mp (Table.mem_ofList listed)
    obtain ⟨piece, among, gives⟩ := gives.exists_gives given
    exact gives.entry (apart.2 piece among)

theorem plain_of_read (read : read text = .ok m) : Plain m := by
  obtain ⟨type, subtype, given, spells⟩ := exists_spells read
  obtain ⟨tokens, rfl⟩ := (read_eq_ok_iff spells).mp read
  exact spells.plain tokens

/-- A value that is read as it is written. -/
structure Bare (value : String) : Prop where
  trimmed : Trims value.toList value.toList
  unquoted : ∀ inner, value.toList ≠ '"' :: (inner ++ ['"'])

/-- What a value is read as where it is written without quotes. -/
def bare (value : String) : String := String.ofList (unquote (trimChars value.toList))

theorem unquotes_bare (value : String) : Unquotes (trimChars value.toList) (bare value).toList := by
  rw [bare, String.toList_ofList]
  exact unquote_eq_iff.mp rfl

theorem Bare.bare_eq (isBare : Bare value) : bare value = value := by
  rw [bare, isBare.trimmed.eq, unquote_eq_iff.mpr (.inr ⟨rfl, isBare.unquoted⟩),
    String.ofList_toList]

/-- A value that is not read as it is written gets shorter. -/
theorem bare_of_length (same : (bare value).toList.length = value.toList.length) : Bare value := by
  have trims : Trims value.toList (trimChars value.toList) := Text.trims_trimChars value.toList
  have within := trims.length_le
  rcases unquotes_bare value with quoted | ⟨plain, unquoted⟩
  · -- The quotes that are taken off are two characters less.
    rw [quoted, List.length_cons, List.length_append, same] at within
    omega
  · have whole : value.toList = trimChars value.toList :=
      trims.eq_of_length (by rw [plain, same])
    rw [← whole] at trims unquoted
    exact ⟨trims, unquoted⟩

theorem bare_eq_iff : bare value = value ↔ Bare value :=
  ⟨fun same => bare_of_length (by rw [same]), Bare.bare_eq⟩

theorem bare_of_canonical (same : canonical name (bare value) = canonical name value) :
    Bare value := by
  have lowered : asciiLower (bare value) = asciiLower value := by
    unfold canonical at same
    split at same
    · exact same
    · exact congrArg asciiLower same
  -- Letter case may not count, but it does not make up for characters that are gone.
  refine bare_of_length ?_
  have lengths := congrArg (fun s => s.toList.length) lowered
  simpa only [Text.toList_asciiLower, List.length_map] using lengths

/-- The media type with its values as they are read without quotes. -/
def bared (m : MediaType) : MediaType :=
  { m with parameters := m.parameters.map fun p => (p.1, bare p.2) }

/-- How a parameter is written without quotes. -/
def written (p : String × String) : List Char := p.1.toList ++ '=' :: p.2.toList

theorem toList_text (m : MediaType) : m.text.toList =
    m.type.toList ++ '/' :: m.subtype.toList ++ (m.parameters.map written).flatMap (';' :: ·) := by
  simp [text, written, String.toList_join, List.flatMap_map]

theorem givesAll_map {items : List (String × String)} {write : String × String → List Char}
    {take : String × String → String × String}
    (gives : ∀ p ∈ items, Gives (write p) [take p]) :
    GivesAll (items.map write) (items.map take) := by
  induction items with
  | nil => exact .nil
  | cons p items ih =>
      rw [List.forall_mem_cons] at gives
      exact .cons gives.1 (ih gives.2)

theorem Plain.spells (plain : Plain m) : Spells m.text m.type m.subtype m.bared.parameters := by
  refine .intro (toList_text m) plain.slashless ?_ plain.type.trimmed plain.subtype.trimmed
    (givesAll_map fun p listed => ?_)
  · rw [List.forall_mem_cons, List.forall_mem_map]
    refine ⟨?_, fun p listed => ?_⟩
    · simp [plain.type.unbroken, plain.subtype.unbroken]
    · have entry := plain.entries p listed
      simp [written, entry.name.unbroken, entry.unbroken]
  · have entry := plain.entries p listed
    exact .parameter entry.unmarked entry.name.trimmed (Text.trims_trimChars p.2.toList)
      (unquotes_bare p.2)

theorem Plain.sorted_bared (plain : Plain m) : m.bared.parameters.Sorted := by
  have names : m.bared.parameters.names = m.parameters.names := by simp [bared, Table.names]
  rw [Table.Sorted, names]
  exact plain.sorted

theorem Plain.read_text (plain : Plain m) : read m.text = .ok m.bared := by
  refine (read_eq_ok_iff plain.spells).mpr ⟨plain.tokens, ?_⟩
  have lower : m.bared.parameters.map (fun p => (asciiLower p.1, p.2)) = m.bared.parameters := by
    rw [bared, List.map_map]
    refine List.map_congr_left fun p listed => ?_
    rw [Function.comp_apply, (plain.entries p listed).name.lower]
  rw [setAll_eq rfl, table, lower, Table.ofList_of_sorted plain.sorted_bared, of, plain.type.lower,
    plain.subtype.lower]
  rfl

theorem same_bared_iff (plain : Plain m) :
    m.bared.same m = true ↔ ∀ p ∈ m.parameters, Bare p.2 := by
  rw [same_iff plain.sorted_bared plain.sorted]
  have entries : m.bared.canonicalParameters = m.canonicalParameters ↔
      ∀ p ∈ m.parameters, canonical p.1 (bare p.2) = canonical p.1 p.2 := by
    simp [canonicalParameters, bared]
  simp only [entries]
  constructor
  · rintro ⟨-, -, same⟩ p listed
    exact bare_of_canonical (same p listed)
  · intro isBare
    exact ⟨rfl, rfl, fun p listed => by rw [(isBare p listed).bare_eq]⟩

theorem mediaTypeOf_eq_ok_iff {r : Response} {raw : String} :
    ContentMatcher.mediaTypeOf r = .ok (raw, m) ↔ r.contentType = some raw ∧ read raw = .ok m := by
  constructor
  · intro found
    obtain ⟨raw', given, found⟩ := bind_eq_ok_iff.mp found
    obtain ⟨m', taken, same⟩ := bind_eq_ok_iff.mp found
    cases same
    exact ⟨Ruling.needed_eq_ok_iff.mp given, mapError_eq_ok_iff.mp taken⟩
  · rintro ⟨given, taken⟩
    exact bind_eq_ok_iff.mpr ⟨raw, Ruling.needed_eq_ok_iff.mpr given,
      bind_eq_ok_iff.mpr ⟨m, mapError_eq_ok_iff.mpr taken, rfl⟩⟩

theorem mediaTypeOf_ne_mismatch {r : Response} {label expected actual : String} :
    ContentMatcher.mediaTypeOf r ≠ Ruling.mismatch label expected actual := by
  intro failed
  rcases bind_eq_error_iff.mp failed with missing | ⟨raw, -, failed⟩
  · exact Ruling.needed_ne_mismatch missing
  · rcases bind_eq_error_iff.mp failed with refused | ⟨_, -, passed⟩
    · obtain ⟨fault, -, same⟩ := mapError_eq_error_iff.mp refused
      cases same
    · cases passed

/-- A mismatch shows the text of the expected media type and the content type as it is written. -/
theorem rule_type_eq_mismatch_iff {r : Response} {label expected actual : String} :
    (ContentMatcher.type m).rule r = Ruling.mismatch label expected actual ↔
      label = "Content type mismatch" ∧ expected = m.text ∧ r.contentType = some actual ∧
        ∃ m', read actual = .ok m' ∧ m'.same m = false := by
  constructor
  · intro failed
    rcases bind_eq_error_iff.mp failed with early | ⟨⟨raw, m'⟩, found, late⟩
    · exact absurd early mediaTypeOf_ne_mismatch
    · obtain ⟨given, taken⟩ := mediaTypeOf_eq_ok_iff.mp found
      dsimp only at late
      split at late
      · cases late
      · rename_i different
        cases late
        exact ⟨rfl, rfl, given, m', taken, Bool.eq_false_iff.mpr different⟩
  · rintro ⟨rfl, rfl, given, m', taken, different⟩
    refine bind_eq_error_iff.mpr (.inr ⟨(actual, m'), mediaTypeOf_eq_ok_iff.mpr ⟨given, taken⟩, ?_⟩)
    exact if_neg (Bool.eq_false_iff.mp different)

/-- What the text of a media type that was read says. -/
structure TextLaw (m : MediaType) : Prop where
  /-- It is read, with the values as they are read without quotes. -/
  readBack : read m.text = .ok m.bared
  exact : (∃ m', read m.text = .ok m' ∧ m'.same m = true) ↔ ∀ p ∈ m.parameters, Bare p.2
  /-- Where a content type is not the expected one, the text of the expected one is shown. -/
  mismatch {r : Response} {label expected actual : String} :
    (ContentMatcher.type m).rule r = Ruling.mismatch label expected actual →
    expected = m.text ∧ r.contentType = some actual
  /-- Two equal texts are shown only if a value needs its quotes, and then they are for some
      response. -/
  twice : (∃ r label shown, (ContentMatcher.type m).rule r = Ruling.mismatch label shown shown) ↔
    ∃ p ∈ m.parameters, ¬ Bare p.2

theorem textLaw (read : read text = .ok m) : TextLaw m := by
  have plain : Plain m := plain_of_read read
  have exact : (∃ m', MediaType.read m.text = .ok m' ∧ m'.same m = true) ↔
      ∀ p ∈ m.parameters, Bare p.2 := by
    rw [← same_bared_iff plain, plain.read_text]
    simp
  refine ⟨plain.read_text, exact, fun failed => ?_, ?_⟩
  · obtain ⟨-, shown, given, -⟩ := rule_type_eq_mismatch_iff.mp failed
    exact ⟨shown, given⟩
  · have quoted : (∃ p ∈ m.parameters, ¬ Bare p.2) ↔ m.bared.same m = false := by
      rw [Bool.eq_false_iff, ne_eq, same_bared_iff plain]
      simp
    rw [quoted]
    constructor
    · rintro ⟨r, label, shown, failed⟩
      obtain ⟨-, rfl, -, m', taken, different⟩ := rule_type_eq_mismatch_iff.mp failed
      rw [plain.read_text] at taken
      obtain rfl := Except.ok.inj taken
      exact different
    · intro different
      -- The response declares the very text that stands for the expected media type.
      exact ⟨{ contentType := some m.text }, _, _, rule_type_eq_mismatch_iff.mpr
        ⟨rfl, rfl, rfl, m.bared, plain.read_text, different⟩⟩

/-- The blank belongs to the value only as long as there are quotes around both. -/
theorem text_of_leading_blank :
    let m := (of "text" "plain").setParameter "title" " a"
    read "text/plain;title=\" a\"" = .ok m ∧ m.text = "text/plain;title= a" ∧
      (∃ m', read m.text = .ok m' ∧ m'.same m = false) ∧
      (ContentMatcher.type m).rule { contentType := some "text/plain;title= a" } =
        Ruling.mismatch "Content type mismatch" "text/plain;title= a" "text/plain;title= a" := by
  intro m
  have taken : read "text/plain;title=\" a\"" = .ok m := by decide +kernel
  have text : m.text = "text/plain;title= a" := by decide +kernel
  have back : read m.text = .ok ((of "text" "plain").setParameter "title" "a") := by decide +kernel
  have different : ((of "text" "plain").setParameter "title" "a").same m = false := by
    decide +kernel
  refine ⟨taken, text, ⟨_, back, different⟩, ?_⟩
  rw [← text]
  exact rule_type_eq_mismatch_iff.mpr ⟨rfl, rfl, rfl, _, back, different⟩

/-- A name may be empty, and a value too, or it is a lone quote, or has marks and blanks inside. -/
theorem textLaw_marks :
    let m : MediaType := ⟨"text", "x y", [("", "="), ("a", ""), ("b", "\""), ("c", "1 = \"2")]⟩
    read "Text/ X Y ; = \"=\"; A=; B=\"; C=\"1 = \"2\"" = .ok m ∧
      ∃ m', read m.text = .ok m' ∧ m'.same m = true := by
  intro m
  have taken : read "Text/ X Y ; = \"=\"; A=; B=\"; C=\"1 = \"2\"" = .ok m := by decide +kernel
  have values : ∀ p ∈ m.parameters, bare p.2 = p.2 := by decide +kernel
  exact ⟨taken, (textLaw taken).exact.mpr fun p listed => bare_eq_iff.mp (values p listed)⟩

/-- A name of a parameter that is read as it is written. -/
structure Token (name : String) : Prop where
  trimmed : Trims name.toList name.toList
  unbroken : ';' ∉ name.toList
  unmarked : '=' ∉ name.toList

/-- A text with parameters behind it, each with its value in quotes. -/
def quoted (text : String) (given : List (String × String)) : String :=
  text ++ String.join (given.map fun p => ";" ++ p.1 ++ "=\"" ++ p.2 ++ "\"")

/-- How a parameter is written with quotes. -/
def writtenQuoted (p : String × String) : List Char :=
  p.1.toList ++ '=' :: ('"' :: (p.2.toList ++ ['"']))

theorem toList_quoted : (quoted text given).toList =
    text.toList ++ (given.map writtenQuoted).flatMap (';' :: ·) := by
  simp [quoted, writtenQuoted, String.toList_join, List.flatMap_map]

theorem gives_writtenQuoted {p : String × String} (token : Token p.1) :
    Gives (writtenQuoted p) [p] := by
  have quotes : Trims ('"' :: (p.2.toList ++ ['"'])) ('"' :: (p.2.toList ++ ['"'])) := by
    refine Text.trims_of_ends ?_ ?_
    · simp [Text.isBlank]
    · rw [← List.cons_append, List.getLast?_concat]
      simp [Text.isBlank]
  exact .parameter token.unmarked token.trimmed quotes (.inl rfl)

theorem GivesAll.append (gives : GivesAll pieces given) (gives' : GivesAll pieces' given') :
    GivesAll (pieces ++ pieces') (given ++ given') := by
  induction gives with
  | nil => exact gives'
  | cons first _ ih =>
      rw [List.cons_append, List.append_assoc]
      exact .cons first ih

theorem Spells.quoted (spells : Spells text type subtype given) (tokens : ∀ p ∈ given', Token p.1)
    (unbroken : ∀ p ∈ given', ';' ∉ p.2.toList) :
    Spells (quoted text given') type subtype (given ++ given') := by
  obtain @⟨before, after, pieces, split, first, apart, typed, subtyped, gives⟩ := spells
  have further : GivesAll (given'.map writtenQuoted) given' := by
    have each : GivesAll (given'.map writtenQuoted) (given'.map id) :=
      givesAll_map fun p listed => gives_writtenQuoted (tokens p listed)
    rwa [List.map_id] at each
  have joined : (MediaType.quoted text given').toList =
      before ++ '/' :: after ++ (pieces ++ given'.map writtenQuoted).flatMap (';' :: ·) := by
    rw [toList_quoted, split, List.flatMap_append, List.append_assoc]
  refine .intro joined first ?_ typed subtyped (gives.append further)
  rw [← List.cons_append, List.forall_mem_append, List.forall_mem_map]
  refine ⟨apart, fun p listed => ?_⟩
  simp [writtenQuoted, (tokens p listed).unbroken, unbroken p listed]

theorem read_quoted (accepted : read text = .ok m) (tokens : ∀ p ∈ given, Token p.1)
    (unbroken : ∀ p ∈ given, ';' ∉ p.2.toList) :
    read (quoted text given) = .ok (m.setAll given) := by
  obtain ⟨type, subtype, before, spells⟩ := exists_spells accepted
  obtain ⟨essence, rfl⟩ := (read_eq_ok_iff spells).mp accepted
  refine (read_eq_ok_iff (spells.quoted tokens unbroken)).mpr ⟨essence, ?_⟩
  rw [setAll, setAll, setAll, List.foldl_append]

/-- What becomes of parameters that are written with quotes behind a type and a subtype. -/
structure QuotedLaw (text : String) (m : MediaType) (given : List (String × String)) : Prop where
  whole : (∀ p ∈ given, ';' ∉ p.2.toList) →
    read (quoted text given) = .ok { m with parameters := table given }
  /-- A value that counts and has a semicolon is not read. -/
  torn {m' : MediaType} {p : String × String} : p ∈ table given → ';' ∈ p.2.toList →
    read (quoted text given) = .ok m' → p ∉ m'.parameters
  /-- Where no name comes twice, all values count. -/
  exact : (given.map fun p => asciiLower p.1).Nodup →
    (read (quoted text given) = .ok { m with parameters := table given } ↔
      ∀ p ∈ given, ';' ∉ p.2.toList)

theorem quotedLaw (accepted : read text = .ok m) (bare : m.parameters = [])
    (tokens : ∀ p ∈ given, Token p.1) : QuotedLaw text m given := by
  have whole (unbroken : ∀ p ∈ given, ';' ∉ p.2.toList) :
      read (quoted text given) = .ok { m with parameters := table given } := by
    rw [read_quoted accepted tokens unbroken, setAll_eq bare]
  refine ⟨whole, fun _ broken taken listed => ?_, fun once => ⟨fun taken p listed => ?_, whole⟩⟩
  · exact ((plain_of_read taken).entries _ listed).unbroken broken
  · have kept : (asciiLower p.1, p.2) ∈ table given := by
      have names : ((given.map fun p => (asciiLower p.1, p.2)).map Prod.fst).Nodup := by
        rwa [List.map_map]
      exact (Table.perm_ofList names).mem_iff.mpr (List.mem_map_of_mem listed)
    exact ((plain_of_read taken).entries _ kept).unbroken

/-- The quotes do not keep a semicolon from ending the parameter, and what is behind it is read as
    the encoding. -/
theorem quoted_semicolon :
    let given := [("title", "a;charset=b")]
    read (quoted "text/plain" given) =
        .ok { of "text" "plain" with parameters := [("charset", "b\""), ("title", "\"a")] } ∧
      read (quoted "text/plain" given) ≠
        .ok { of "text" "plain" with parameters := table given } := by decide +kernel

/-- Blanks, slashes and equality signs are read as they are, and the last value of a name counts. -/
theorem quotedLaw_marks :
    let given := [("Charset", "none"), ("q", " a=b "), ("CHARSET", "UTF-8")]
    read "Text/HTML" = .ok (of "text" "html") ∧ (∀ p ∈ given, Token p.1) ∧
      read (quoted "Text/HTML" given) = .ok { of "text" "html" with
        parameters := [("charset", "UTF-8"), ("q", " a=b ")] } := by
  intro given
  have accepted : read "Text/HTML" = .ok (of "text" "html") := by decide +kernel
  have tokens : ∀ p ∈ given, Token p.1 := by
    have parts : ∀ p ∈ given, trimChars p.1.toList = p.1.toList ∧ ';' ∉ p.1.toList ∧
        '=' ∉ p.1.toList := by decide +kernel
    exact fun p listed =>
      ⟨Text.trims_iff.mpr (parts p listed).1, (parts p listed).2.1, (parts p listed).2.2⟩
  exact ⟨accepted, tokens, (quotedLaw accepted rfl tokens).whole (by decide +kernel)⟩

end Exchange.MediaType
