import Mathlib
import Exchange.Proofs.Suite.Checks
import Exchange.Proofs.Suite.Validation

/-! # Suites loaded from their own text

What is left out of a written suite has its default where it is read again, and every expectation is
read as one of the same kind. So a valid suite is loaded from its text as it was, unless a value in it
nests the text deeper than the reader of JSON goes.
-/

namespace Exchange

/-- The numbers of an expectation are in their range, and its namespaces are in order. -/
def Expectation.Writable : Expectation → Prop
  | status code => code < 2 ^ 16
  | jsonPath _ check => check.Writable
  | xpath _ namespaces check => namespaces.Sorted ∧ check.Writable
  | _ => True

namespace Expectation

variable {e : Expectation} {members : List (String × Json)}

/-- A value that says an expectation: an object of its kind and its fields, in any order. -/
def WrittenAs (e : Expectation) (j : Json) : Prop :=
  ∃ members, j = .object members ∧ members.Perm ((kindField, .string e.kind.name) :: e.members)

theorem kindField_not_mem_members (e : Expectation) : kindField ∉ e.members.map Prod.fst := by
  cases e with
  | xpath expression namespaces check =>
      simp only [members]
      split <;> simp [kindField]
  | handlerMethod declaringType name => cases declaringType <;> simp [members, kindField]
  | _ => simp [members, kindField]

theorem nodup_members (e : Expectation) : (e.members.map Prod.fst).Nodup := by
  cases e with
  | xpath expression namespaces check =>
      simp only [members]
      split <;> simp
  | handlerMethod declaringType name => cases declaringType <;> simp [members]
  | _ => simp [members]

theorem once_members (e : Expectation) :
    (((kindField, Json.string e.kind.name) :: e.members).map Prod.fst).Nodup :=
  List.nodup_cons.mpr ⟨e.kindField_not_mem_members, e.nodup_members⟩

theorem writtenAs_inOrder (e : Expectation) : e.WrittenAs e.inOrder := ⟨_, rfl, .refl _⟩

theorem writtenAs_toJson (e : Expectation) : e.WrittenAs e.toJson :=
  ⟨_, rfl, Table.perm_ofList e.once_members⟩

theorem ofFields?_members (writable : e.Writable) :
    ofFields? e.kind (e.kind.fieldNames.map fun name =>
      (Table.find? name e.members).map Datum.ofJson) = some e := by
  cases e with
  | status code =>
      have below : Datum.natBelow? (Nat.pow 2 16) (.int code) = some code :=
        natBelow?_ofNat writable
      have fields : (Kind.status.fieldNames.map fun name =>
          (Table.find? name (status code).members).map Datum.ofJson) = [some (.int code)] := rfl
      rw [kind, fields, ofFields?, required, Option.bind_some, below, Option.map_some]
  | statusReason check | content check | viewName check =>
      simp [kind, Kind.fieldNames, members, Table.find?, ofFields?, required, check.read?_toJson]
  | contentType value | encoding value | redirectedUrl value | forwardedUrl value
  | handlerType value => rfl
  | header name check | cookie name check =>
      simp [kind, Kind.fieldNames, members, Table.find?, ofFields?, required, check.read?_toJson,
        text?_string]
  | jsonPath expression check =>
      have read : QueryCheck.read? (.ofJson check.toJson) = some check := check.read?_toJson writable
      simp [kind, Kind.fieldNames, members, Table.find?, ofFields?, required, read, text?_string]
  | xpath expression namespaces check =>
      obtain ⟨sorted, writable⟩ := writable
      have read : QueryCheck.read? (.ofJson check.toJson) = some check := check.read?_toJson writable
      cases empty : namespaces.isEmpty with
      | true =>
          obtain rfl := List.isEmpty_iff.mp empty
          simp [kind, Kind.fieldNames, members, Table.find?, ofFields?, required, defaulting, read,
            text?_string]
      | false =>
          simp [kind, Kind.fieldNames, members, Table.find?, ofFields?, required, defaulting, read,
            empty, textTable?_members sorted, text?_string]
  | modelAttributeExists names | flashAttributeExists names =>
      simp [kind, Kind.fieldNames, members, Table.find?, ofFields?, required, texts?_ofTexts]
  | handlerMethod declaringType name => cases declaringType <;> rfl

theorem nodup_fieldNames (kind : Kind) : kind.fieldNames.Nodup := by
  cases kind <;> decide

theorem partition_ofJsonMembers (members : List (String × Json)) :
    (Datum.ofJsonMembers members).partition (fun (key, _) => isKindKey key) =
      (Datum.ofJsonMembers (members.filter fun member => member.1 == kindField),
        Datum.ofJsonMembers (members.filter fun member => !(member.1 == kindField))) := by
  simp only [List.partition_eq_filter_filter, Datum.ofJsonMembers_eq_map, List.filter_map]
  rfl

theorem exists_takeKind? {kind : Json} {fields : List (String × Json)}
    (perm : members.Perm ((kindField, kind) :: fields))
    (fresh : kindField ∉ fields.map Prod.fst) :
    ∃ others, others.Perm fields ∧ takeKind? isKindKey (Datum.ofJsonMembers members) =
      some (.ofJson kind, Datum.ofJsonMembers others) := by
  have unlike : ∀ field ∈ fields, (field.1 == kindField) = false := fun field listed =>
    beq_false_of_ne (ne_of_mem_of_not_mem (List.mem_map_of_mem listed) fresh)
  have noKind : fields.filter (fun member => member.1 == kindField) = [] :=
    List.filter_eq_nil_iff.mpr fun field listed => by simp [unlike field listed]
  have noOther : fields.filter (fun member => !(member.1 == kindField)) = fields :=
    List.filter_eq_self.mpr fun field listed => by simp [unlike field listed]
  have kinds : members.filter (fun member => member.1 == kindField) = [(kindField, kind)] := by
    have perm := perm.filter fun member => member.1 == kindField
    rw [List.filter_cons_of_pos (by simp), noKind] at perm
    exact List.perm_singleton.mp perm
  have others : (members.filter fun member => !(member.1 == kindField)).Perm fields := by
    have perm := perm.filter fun member => !(member.1 == kindField)
    rwa [List.filter_cons_of_neg (by simp), noOther] at perm
  refine ⟨_, others, ?_⟩
  rw [takeKind?, partition_ofJsonMembers, kinds]
  rfl

/-- An expectation is read from what says it. -/
theorem ofDatum?_of_writtenAs {j : Json} (written : e.WrittenAs j) (writable : e.Writable) :
    ofDatum? (.ofJson j) = some e := by
  obtain ⟨members, rfl, perm⟩ := written
  obtain ⟨others, permOthers, taken⟩ := exists_takeKind? perm e.kindField_not_mem_members
  have once : (others.map Prod.fst).Nodup :=
    (permOthers.map Prod.fst).nodup_iff.mpr e.nodup_members
  have fields : Datum.fields? e.kind.fieldNames (.record (Datum.ofJsonMembers others)) =
      some (e.kind.fieldNames.map fun name => (Table.find? name e.members).map Datum.ofJson) := by
    refine (Datum.fields?_object (nodup_fieldNames e.kind) once).trans ?_
    simp only [Table.find?_perm once permOthers]
  rw [Datum.ofJson, ofDatum?, taken]
  simp only [Option.bind_eq_bind, Option.bind_some, text?_string, ofKind?, Kind.ofName?_name, fields]
  exact ofFields?_members writable

theorem eachNumber_members (writable : e.Writable) :
    ∀ member ∈ e.members, member.2.EachNumber JsonNumber.ReadsBack := by
  cases e with
  | status code =>
      have small : code < 2 ^ 64 := lt_trans writable (by decide)
      exact List.forall_mem_singleton.mpr (.number (JsonNumber.readsBack_ofNat small))
  | statusReason check | content check | viewName check =>
      exact List.forall_mem_singleton.mpr check.eachNumber_toJson
  | contentType value | encoding value | redirectedUrl value | forwardedUrl value
  | handlerType value => exact List.forall_mem_singleton.mpr (.string value)
  | header name check | cookie name check =>
      exact List.forall_mem_cons.mpr
        ⟨.string name, List.forall_mem_singleton.mpr check.eachNumber_toJson⟩
  | jsonPath expression check =>
      exact List.forall_mem_cons.mpr
        ⟨.string expression, List.forall_mem_singleton.mpr (check.eachNumber_toJson writable)⟩
  | xpath expression namespaces check =>
      have checked : ∀ member ∈ [("check", check.toJson)],
          member.2.EachNumber JsonNumber.ReadsBack :=
        List.forall_mem_singleton.mpr (check.eachNumber_toJson writable.2)
      rw [members]
      cases namespaces.isEmpty with
      | true => exact List.forall_mem_cons.mpr ⟨.string expression, checked⟩
      | false =>
          exact List.forall_mem_cons.mpr ⟨.string expression,
            List.forall_mem_cons.mpr ⟨eachNumber_ofTextTable namespaces, checked⟩⟩
  | modelAttributeExists names | flashAttributeExists names =>
      exact List.forall_mem_singleton.mpr (eachNumber_ofTexts names)
  | handlerMethod declaringType name =>
      have named : ∀ member ∈ [("name", Json.string name)],
          member.2.EachNumber JsonNumber.ReadsBack := List.forall_mem_singleton.mpr (.string name)
      cases declaringType with
      | none => exact named
      | some t => exact List.forall_mem_cons.mpr ⟨.string t, named⟩

theorem eachNumber_of_writtenAs {j : Json} (written : e.WrittenAs j) (writable : e.Writable) :
    j.EachNumber JsonNumber.ReadsBack := by
  obtain ⟨members, rfl, perm⟩ := written
  refine .object fun member listed => ?_
  rcases List.mem_cons.mp (perm.mem_iff.mp listed) with rfl | field
  · exact .string _
  · exact eachNumber_members writable member field

end Expectation

namespace Suite

variable {s : Suite} {j : Json}

/-- Every expectation of a suite is writable. -/
def Writable (s : Suite) : Prop := ∀ e ∈ s.expectations, e.Writable

/-- The members of a suite, in order, where some values say its expectations. -/
def members (s : Suite) (items : List Json) : List (String × Json) :=
  (match s.name with
    | some name => [("name", .string name)]
    | none => []) ++ [("expectations", .array items)]

/-- A value that says a suite: an object of its members, in any order. -/
def WrittenAs (s : Suite) (j : Json) : Prop :=
  ∃ members items, j = .object members ∧ List.Forall₂ Expectation.WrittenAs s.expectations items ∧
    members.Perm (s.members items)

theorem nodup_members (s : Suite) (items : List Json) :
    ((s.members items).map Prod.fst).Nodup := by
  rw [members]
  cases s.name <;> simp

theorem mem_fieldNames {items : List Json} :
    ∀ member ∈ s.members items, member.1 ∈ fieldNames := by
  rw [members]
  cases s.name <;> simp [fieldNames]

theorem writtenAs_inOrder (s : Suite) : s.WrittenAs s.inOrder :=
  ⟨_, _, rfl, List.forall₂_map_right_iff.mpr
    (List.forall₂_same.mpr fun e _ => e.writtenAs_inOrder), .refl _⟩

theorem writtenAs_toJson (s : Suite) : s.WrittenAs s.toJson :=
  ⟨_, _, rfl, List.forall₂_map_right_iff.mpr
    (List.forall₂_same.mpr fun e _ => e.writtenAs_toJson), Table.perm_ofList (s.nodup_members _)⟩

theorem mapM_ofDatum? {es : List Expectation} {items : List Json}
    (each : List.Forall₂ Expectation.WrittenAs es items) (writable : ∀ e ∈ es, e.Writable) :
    (Datum.ofJsonItems items).mapM Expectation.ofDatum? = some es := by
  induction each with
  | nil => rfl
  | cons written _ ih =>
      obtain ⟨first, later⟩ := List.forall_mem_cons.mp writable
      rw [Datum.ofJsonItems, List.mapM_cons, Expectation.ofDatum?_of_writtenAs written first,
        ih later]
      rfl

theorem eachNumber_items {es : List Expectation} {items : List Json}
    (each : List.Forall₂ Expectation.WrittenAs es items) (writable : ∀ e ∈ es, e.Writable) :
    ∀ item ∈ items, item.EachNumber JsonNumber.ReadsBack := by
  induction each with
  | nil => exact List.forall_mem_nil _
  | cons written _ ih =>
      obtain ⟨first, later⟩ := List.forall_mem_cons.mp writable
      exact List.forall_mem_cons.mpr
        ⟨Expectation.eachNumber_of_writtenAs written first, ih later⟩

theorem ofDatum?_of_writtenAs (written : s.WrittenAs j) (writable : s.Writable) :
    ofDatum? (.ofJson j) = some s := by
  obtain ⟨members, items, rfl, each, perm⟩ := written
  have once : (members.map Prod.fst).Nodup :=
    (perm.map Prod.fst).nodup_iff.mpr (s.nodup_members items)
  have fields : (Datum.ofJson (.object members)).fields? fieldNames =
      some [s.name.map Datum.string, some (.list (Datum.ofJsonItems items))] := by
    rw [Datum.fields?_object (by decide) once]
    simp only [Table.find?_perm once perm, Suite.members]
    cases s.name <;> rfl
  have name : defaulting none Datum.optionalText? (s.name.map Datum.string) = some s.name := by
    cases s.name <;> rfl
  rw [ofDatum?, fields]
  simp only [Option.bind_eq_bind, Option.bind_some, name]
  simp only [defaulting, Option.bind_some, mapM_ofDatum? each writable]

/-- A suite is read from the text of what says it, unless that is nested too deep. -/
theorem read?_of_writtenAs (written : s.WrittenAs j) (writable : s.Writable) :
    read? .json j.text = if j.depth ≤ Json.maxDepth then some s else none := by
  have said := ofDatum?_of_writtenAs written writable
  obtain ⟨members, items, rfl, each, perm⟩ := written
  have given : members ≠ [] := by
    rintro rfl
    simpa [Suite.members] using perm.length_eq
  -- The reader of suites skims what it does not know; every member is a field here.
  have wanted : ∀ member ∈ members, member.1 ∈ fieldNames := fun member listed =>
    mem_fieldNames member (perm.mem_iff.mp listed)
  have back : ∀ member ∈ members, member.2.EachNumber JsonNumber.ReadsBack := by
    intro member listed
    have array : (Json.array items).EachNumber JsonNumber.ReadsBack :=
      .array (eachNumber_items each writable)
    rcases List.mem_append.mp (perm.mem_iff.mp listed) with name | expectations
    · cases named : s.name with
      | none => simp [named] at name
      | some text =>
          rw [named] at name
          obtain rfl := List.mem_singleton.mp name
          exact .string text
    · obtain rfl := List.mem_singleton.mp expectations
      exact array
  rw [read?, ofJson?, Json.readFields?_text given wanted back]
  split
  · exact said
  · rfl

theorem load_of_writtenAs (valid : s.validate = .ok ()) (written : s.WrittenAs j)
    (writable : s.Writable) : load .json j.text =
      if j.depth ≤ Json.maxDepth then .ok s else .error (.unreadable .json) := by
  rw [load, read?_of_writtenAs written writable]
  by_cases shallow : j.depth ≤ Json.maxDepth
  · rw [if_pos shallow, if_pos shallow]
    simp only [valid]
    rfl
  · rw [if_neg shallow, if_neg shallow]

/-- A valid suite is loaded from its text as it was, whether its members are in the order of the
    fields or of their names. The only text of a valid suite that is refused is one in which a value
    nests arrays and objects deeper than the reader goes. -/
theorem load_written (valid : s.validate = .ok ()) (writable : s.Writable) :
    ∀ j ∈ [s.inOrder, s.toJson], load .json j.text =
      if j.depth ≤ Json.maxDepth then .ok s else .error (.unreadable .json) := by
  intro j either
  refine load_of_writtenAs valid ?_ writable
  rcases List.mem_pair.mp either with rfl | rfl
  · exact s.writtenAs_inOrder
  · exact s.writtenAs_toJson

/-- A suite that leaves some fields out and gives others. -/
def mixed : Suite where
  name := some "mixed"
  expectations := [.status 200, .jsonPath "$..b" (.nodeCount 3),
    .jsonPath "$.a" (.value (.object [("a", .array [.number (.int (-1)), .null]), ("b", .bool true)])),
    .xpath "//p:a/@href" [("p", "urn:a")] (.text ⟨.compare .startsWith "/", {}⟩),
    .xpath "count(//a)" [] (.present false), .header "ETag" ⟨.pattern "^W/", { negated := true }⟩,
    .modelAttributeExists ["a", "\n"], .handlerMethod none "show"]

theorem load_written_mixed : mixed.validate = .ok () ∧ mixed.Writable ∧
    load .json mixed.inOrder.text = .ok mixed ∧ load .json mixed.toJson.text = .ok mixed := by
  have valid : mixed.validate = .ok () := by decide +kernel
  have value : (Json.object [("a", .array [.number (.int (-1)), .null]), ("b", .bool true)]).Sound
      JsonNumber.IsKept := by
    refine .object (List.pairwise_pair.mpr (by decide)) (List.forall_mem_cons.mpr
      ⟨.array ?_, List.forall_mem_singleton.mpr (.bool true)⟩)
    exact List.forall_mem_cons.mpr
      ⟨.number ⟨by decide, by decide⟩, List.forall_mem_singleton.mpr .null⟩
  have writable : mixed.Writable := by
    simp [Writable, mixed, Expectation.Writable, QueryCheck.Writable, Table.Sorted, Table.names,
      value]
  have loaded := load_written valid writable
  refine ⟨valid, writable, ?_, ?_⟩
  · rw [loaded _ (by simp), if_pos (by decide +kernel)]
  · rw [loaded _ (by simp), if_pos (by decide +kernel)]

/-- An array in an array, and so on. -/
def nested : Nat → Json
  | 0 => .array []
  | n + 1 => .array [nested n]

theorem sound_nested {condition : JsonNumber → Prop} (n : Nat) : (nested n).Sound condition := by
  induction n with
  | zero => exact .array (List.forall_mem_nil _)
  | succ n ih => exact .array (List.forall_mem_singleton.mpr ih)

/-- A suite whose value nests one array too many, under the four levels around it. -/
def tooDeep : Suite where
  expectations := [.jsonPath "$" (.value (nested 123))]

/-- It is valid, and yet it is not loaded from its text. -/
theorem tooDeep_not_loaded : tooDeep.validate = .ok () ∧ tooDeep.Writable ∧
    ∀ j ∈ [tooDeep.inOrder, tooDeep.toJson], load .json j.text ≠ .ok tooDeep := by
  have valid : tooDeep.validate = .ok () := by decide +kernel
  have writable : tooDeep.Writable := List.forall_mem_singleton.mpr (sound_nested 123)
  refine ⟨valid, writable, fun j either => ?_⟩
  have refused : load .json j.text = .error (.unreadable .json) := by
    rcases List.mem_pair.mp either with rfl | rfl
    · rw [load_of_writtenAs valid tooDeep.writtenAs_inOrder writable, if_neg (by decide +kernel)]
    · rw [load_of_writtenAs valid tooDeep.writtenAs_toJson writable, if_neg (by decide +kernel)]
  rw [refused]
  intro loaded
  cases loaded

end Suite

end Exchange
