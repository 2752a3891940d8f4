import Mathlib
import Exchange.Http.Response
import Exchange.Proofs.Http.Headers

/-! # The names of header fields

The distinct names divide the header fields among them. A name stands where the first of its fields
stands, spelt as there, and its values are those of all fields that have the name in any letter
case; every field has one of the names, and only one.
-/

namespace Exchange.Headers

open Text (sameIgnoringCase)

variable {headers : Headers} {seen : List String} {name other value : String} {i : Nat}

/-- At a place stands a field with a name that no field before has, in any letter case. -/
structure Opens (headers : Headers) (i : Nat) (name : String) : Prop where
  spelt : ∃ value, headers[i]? = some (name, value)
  new : ∀ field ∈ headers.take i, sameIgnoringCase field.1 name = false

/-- At a place stands a field of a name, in any letter case, with a value. -/
def HasField (headers : Headers) (name : String) (i : Nat) (value : String) : Prop :=
  ∃ n, headers[i]? = some (n, value) ∧ sameIgnoringCase n name = true

theorem namesFrom_concat (seen : List String) (headers : Headers) (name value : String) :
    namesFrom seen (headers ++ [(name, value)]) =
      if (namesFrom seen headers).any fun n => sameIgnoringCase n name then namesFrom seen headers
      else namesFrom seen headers ++ [name] := by
  induction headers generalizing seen with
  | nil =>
      rw [List.nil_append, namesFrom, namesFrom, namesFrom, namesFrom, List.any_reverse,
        List.reverse_cons]
  | cons field headers ih =>
      obtain ⟨n, v⟩ := field
      rw [List.cons_append, namesFrom, namesFrom]
      split
      · exact ih seen
      · exact ih (n :: seen)

/-- A field adds its name to the names unless one of them is the same in some letter case. -/
theorem distinctNames_concat (headers : Headers) (name value : String) :
    distinctNames (headers ++ [(name, value)]) =
      if headers.distinctNames.any fun n => sameIgnoringCase n name then headers.distinctNames
      else headers.distinctNames ++ [name] :=
  namesFrom_concat [] headers name value

theorem any_distinctNames (headers : Headers) (name : String) :
    headers.distinctNames.any (fun n => sameIgnoringCase n name) =
      headers.any fun field => sameIgnoringCase field.1 name := by
  induction headers using List.reverseRecOn with
  | nil => rfl
  | append_singleton headers field ih =>
      obtain ⟨n, v⟩ := field
      rw [distinctNames_concat, List.any_append, ← ih, List.any_cons, List.any_nil, Bool.or_false]
      split
      · rename_i known
        cases same : sameIgnoringCase n name with
        | false => rw [Bool.or_false]
        | true =>
            -- The name that is known for the field is a name for the text asked for too.
            rw [Bool.or_true, List.any_eq_true]
            obtain ⟨m, listed, agrees⟩ := List.any_eq_true.mp known
            rw [Text.sameIgnoringCase_iff] at agrees same
            exact ⟨m, listed, Text.sameIgnoringCase_iff.mpr (agrees.trans same)⟩
      · rw [List.any_append, List.any_cons, List.any_nil, Bool.or_false]

theorem exists_distinctName {field : String × String} (listed : field ∈ headers) :
    ∃ name ∈ headers.distinctNames, sameIgnoringCase name field.1 = true := by
  have known : headers.any (fun f => sameIgnoringCase f.1 field.1) = true := by
    rw [List.any_eq_true]
    exact ⟨field, listed, Text.sameIgnoringCase_iff.mpr rfl⟩
  rw [← any_distinctNames, List.any_eq_true] at known
  exact known

theorem distinctNames_pairwise (headers : Headers) :
    headers.distinctNames.Pairwise fun a b => sameIgnoringCase a b = false := by
  induction headers using List.reverseRecOn with
  | nil => exact .nil
  | append_singleton headers field ih =>
      rw [distinctNames_concat]
      split
      · exact ih
      · rename_i unknown
        rw [List.pairwise_append]
        refine ⟨ih, List.pairwise_singleton _ _, ?_⟩
        intro a listed b last
        rw [List.mem_singleton.mp last]
        simpa using fun same => unknown (List.any_eq_true.mpr ⟨a, listed, same⟩)

theorem filter_range_pairwise (p : Nat → Bool) (n : Nat) :
    ((List.range n).filter p).Pairwise (· < ·) :=
  List.pairwise_lt_range.sublist List.filter_sublist

theorem filter_range_succ {p q : Nat → Bool} {n : Nat} (agree : ∀ i < n, p i = q i) :
    (List.range (n + 1)).filter p = (List.range n).filter q ++ if p n then [n] else [] := by
  rw [List.range_succ, List.filter_append,
    List.filter_congr fun i listed => agree i (List.mem_range.mp listed)]
  congr 1
  cases last : p n <;> simp [last]

/-- Is the name of the field at a place new there? -/
def isNew (headers : Headers) (i : Nat) : Bool := headers[i]?.any fun field =>
  !(headers.take i).any fun before => sameIgnoringCase before.1 field.1

/-- The places of the fields whose names are new. -/
def openings (headers : Headers) : List Nat := (List.range headers.length).filter (isNew headers)

theorem mem_openings_iff : i ∈ openings headers ↔ ∃ name, Opens headers i name := by
  rw [openings, List.mem_filter, List.mem_range, isNew, Option.any_eq_true]
  constructor
  · rintro ⟨-, ⟨name, value⟩, stands, new⟩
    rw [Bool.not_eq_true', List.any_eq_false] at new
    exact ⟨name, ⟨value, stands⟩, fun field before => Bool.eq_false_iff.mpr (new field before)⟩
  · rintro ⟨name, ⟨value, stands⟩, new⟩
    refine ⟨(List.getElem?_eq_some_iff.mp stands).1, (name, value), stands, ?_⟩
    rw [Bool.not_eq_true', List.any_eq_false]
    exact fun field before => Bool.eq_false_iff.mp (new field before)

theorem openings_concat (headers : Headers) (name value : String) :
    openings (headers ++ [(name, value)]) = openings headers ++
      if headers.distinctNames.any fun n => sameIgnoringCase n name then []
      else [headers.length] := by
  have still : ∀ i < headers.length, isNew (headers ++ [(name, value)]) i = isNew headers i := by
    intro i lt
    rw [isNew, List.getElem?_append_left lt, List.take_append_of_le_length lt.le]
    rfl
  have last : isNew (headers ++ [(name, value)]) headers.length =
      !headers.distinctNames.any fun n => sameIgnoringCase n name := by
    rw [isNew, List.getElem?_concat_length, List.take_left, any_distinctNames]
    rfl
  rw [openings, List.length_append, List.length_singleton, filter_range_succ still, last, openings]
  cases headers.distinctNames.any fun n => sameIgnoringCase n name <;> rfl

/-- The names stand in the order of the places where they are new. -/
theorem forall₂_openings (headers : Headers) :
    List.Forall₂ (Opens headers) (openings headers) headers.distinctNames := by
  induction headers using List.reverseRecOn with
  | nil => exact .nil
  | append_singleton headers field ih =>
      obtain ⟨n, v⟩ := field
      have still : List.Forall₂ (Opens (headers ++ [(n, v)])) (openings headers)
          (distinctNames headers) := by
        refine ih.imp ?_
        rintro i name ⟨⟨value, stands⟩, new⟩
        have lt := (List.getElem?_eq_some_iff.mp stands).1
        refine ⟨⟨value, (List.getElem?_append_left lt).trans stands⟩, ?_⟩
        rwa [List.take_append_of_le_length lt.le]
      rw [openings_concat, distinctNames_concat]
      split
      · rwa [List.append_nil]
      · rename_i unknown
        rw [any_distinctNames, List.any_eq_true] at unknown
        refine List.rel_append still (.cons ⟨⟨v, List.getElem?_concat_length⟩, ?_⟩ .nil)
        rw [List.take_left]
        intro field before
        exact Bool.eq_false_iff.mpr fun same => unknown ⟨field, before, same⟩

/-- The places of the fields of a name. -/
def share (headers : Headers) (name : String) : List Nat :=
  (List.range headers.length).filter fun i =>
    headers[i]?.any fun field => sameIgnoringCase field.1 name

theorem mem_share_iff : i ∈ share headers name ↔
    ∃ field, headers[i]? = some field ∧ sameIgnoringCase field.1 name = true := by
  rw [share, List.mem_filter, List.mem_range, Option.any_eq_true]
  constructor
  · rintro ⟨-, field, stands, same⟩
    exact ⟨field, stands, same⟩
  · rintro ⟨field, stands, same⟩
    exact ⟨(List.getElem?_eq_some_iff.mp stands).1, field, stands, same⟩

theorem share_concat (headers : Headers) (field : String × String) (name : String) :
    share (headers ++ [field]) name =
      share headers name ++ if sameIgnoringCase field.1 name then [headers.length] else [] := by
  rw [share, List.length_append, List.length_singleton,
    filter_range_succ fun i lt => by rw [List.getElem?_append_left lt]]
  rw [List.getElem?_concat_length, Option.any_some, share]

theorem forall₂_share (headers : Headers) (name : String) :
    List.Forall₂ (HasField headers name) (share headers name) (headers.values name) := by
  induction headers using List.reverseRecOn with
  | nil => exact .nil
  | append_singleton headers field ih =>
      have still : List.Forall₂ (HasField (headers ++ [field]) name) (share headers name)
          (values name headers) := by
        refine ih.imp ?_
        rintro i value ⟨n, stands, same⟩
        have lt := (List.getElem?_eq_some_iff.mp stands).1
        exact ⟨n, (List.getElem?_append_left lt).trans stands, same⟩
      obtain ⟨n, v⟩ := field
      rw [share_concat, values_append]
      refine List.rel_append still ?_
      cases same : sameIgnoringCase n name with
      | false => simp [values, same]
      | true => simpa [values, same] using ⟨n, List.getElem?_concat_length, same⟩

/-- The places of all the names are those of all the fields. -/
theorem flatMap_share_perm (headers : Headers) :
    (headers.distinctNames.flatMap (share headers)).Perm (List.range headers.length) := by
  have apart : headers.distinctNames.Pairwise
      fun a b => (share headers a).Disjoint (share headers b) := by
    refine (distinctNames_pairwise headers).imp ?_
    intro a b different i own others
    -- A field of both names would make the names the same.
    obtain ⟨field, stands, same⟩ := mem_share_iff.mp own
    obtain ⟨field', stands', same'⟩ := mem_share_iff.mp others
    obtain rfl := Option.some_inj.mp (stands.symm.trans stands')
    rw [Text.sameIgnoringCase_iff] at same same'
    rw [Text.sameIgnoringCase_iff.mpr (same.symm.trans same')] at different
    cases different
  have once : (headers.distinctNames.flatMap (share headers)).Nodup :=
    List.nodup_flatMap.mpr ⟨fun name _ => (filter_range_pairwise _ _).imp Nat.ne_of_lt, apart⟩
  rw [List.perm_ext_iff_of_nodup once List.nodup_range]
  intro i
  rw [List.mem_flatMap, List.mem_range]
  constructor
  · rintro ⟨name, -, own⟩
    obtain ⟨field, stands, -⟩ := mem_share_iff.mp own
    exact (List.getElem?_eq_some_iff.mp stands).1
  · intro lt
    obtain ⟨name, listed, same⟩ := exists_distinctName (List.getElem_mem lt)
    refine ⟨name, listed, mem_share_iff.mpr ⟨_, List.getElem?_eq_getElem lt, ?_⟩⟩
    rw [Text.sameIgnoringCase_iff] at same ⊢
    exact same.symm

theorem values_ne_nil (listed : name ∈ headers.distinctNames) : headers.values name ≠ [] := by
  intro nothing
  have known : headers.distinctNames.any (fun n => sameIgnoringCase n name) = true :=
    List.any_eq_true.mpr ⟨name, listed, Text.sameIgnoringCase_iff.mpr rfl⟩
  rw [any_distinctNames, List.any_eq_true] at known
  obtain ⟨field, given, same⟩ := known
  rw [values, List.map_eq_nil_iff, List.filter_eq_nil_iff] at nothing
  exact nothing field given same

section Known

variable {before after : Headers}

theorem mem_distinctNames_of_new (new : before.any (fun f => sameIgnoringCase f.1 name) = false) :
    name ∈ distinctNames (before ++ (name, value) :: after) := by
  induction after using List.reverseRecOn with
  | nil =>
      rw [distinctNames_concat, any_distinctNames, new, if_neg Bool.false_ne_true]
      simp
  | append_singleton after field ih =>
      obtain ⟨n, v⟩ := field
      rw [← List.cons_append, ← List.append_assoc, distinctNames_concat]
      split
      · exact ih
      · exact List.mem_append_left _ ih

theorem first?_of_new (new : before.any (fun f => sameIgnoringCase f.1 name) = false) :
    first? name (before ++ (name, value) :: after) = some value := by
  have nothing : values name before = [] := by
    refine values_eq_nil fun field listed => ?_
    exact Bool.eq_false_iff.mpr (List.any_eq_false.mp new field listed)
  have same : sameIgnoringCase name name = true := Text.sameIgnoringCase_iff.mpr rfl
  rw [first?, values_append, nothing]
  simp [values, same]

theorem distinctNames_of_known (known : before.any (fun f => sameIgnoringCase f.1 name) = true) :
    distinctNames (before ++ (name, value) :: after) = distinctNames (before ++ after) := by
  induction after using List.reverseRecOn with
  | nil => rw [distinctNames_concat, any_distinctNames, if_pos known, List.append_nil]
  | append_singleton after field ih =>
      obtain ⟨n, v⟩ := field
      rw [← List.cons_append, ← List.append_assoc, ← List.append_assoc, distinctNames_concat,
        distinctNames_concat, ih]

theorem first?_of_known (known : before.any (fun f => sameIgnoringCase f.1 name) = true) :
    first? other (before ++ (name, value) :: after) = first? other (before ++ after) := by
  rw [first?, first?, ← List.singleton_append, values_append, values_append, values_append,
    List.head?_append, List.head?_append, List.head?_append]
  cases same : sameIgnoringCase name other with
  | false => simp [values, same]
  | true =>
      obtain ⟨field, listed, agrees⟩ := List.any_eq_true.mp known
      rw [Text.sameIgnoringCase_iff] at agrees same
      have mem : field.2 ∈ values other before := by
        rw [values, List.mem_map]
        refine ⟨field, List.mem_filter.mpr ⟨listed, ?_⟩, rfl⟩
        exact Text.sameIgnoringCase_iff.mpr (agrees.trans same)
      obtain ⟨first, others, split⟩ := List.exists_cons_of_ne_nil (List.ne_nil_of_mem mem)
      rw [split]
      rfl

end Known

end Exchange.Headers

namespace Exchange.Response

open Headers
open Text (sameIgnoringCase)

/-- The distinct names divide the header fields of a response. -/
structure NamesLaw (r : Response) : Prop where
  /-- No two names are the same in some letter case. -/
  distinct : r.headers.distinctNames.Pairwise fun a b => sameIgnoringCase a b = false
  /-- Every field has one of the names. -/
  complete : ∀ field ∈ r.headers, ∃ name ∈ r.headers.distinctNames,
    sameIgnoringCase name field.1 = true
  /-- The names are in the order of the places where they are new, and spelt as there. -/
  inOrder : ∃ places : List Nat, places.Pairwise (· < ·) ∧
    (∀ i, i ∈ places ↔ ∃ name, Opens r.headers i name) ∧
    List.Forall₂ (Opens r.headers) places r.headers.distinctNames
  /-- What is found under a name is the first of its values. -/
  found : ∀ name ∈ r.headers.distinctNames, ∃ value,
    r.header? name = some value ∧ (r.headers.values name).head? = some value
  /-- The letter case of a name does not count. -/
  anyCase : ∀ name other, sameIgnoringCase name other = true →
    r.header? name = r.header? other ∧ r.headers.values name = r.headers.values other
  /-- The values of a name are those of its fields in order, of which there is one at least, and
      each field is one of just one name. -/
  divided : ∃ share : String → List Nat,
    (∀ name ∈ r.headers.distinctNames, share name ≠ [] ∧ (share name).Pairwise (· < ·) ∧
      List.Forall₂ (HasField r.headers name) (share name) (r.headers.values name)) ∧
    (r.headers.distinctNames.flatMap share).Perm (List.range r.headers.length)

theorem namesLaw (r : Response) : NamesLaw r where
  distinct := distinctNames_pairwise r.headers
  complete _ listed := exists_distinctName listed
  inOrder := ⟨openings r.headers, filter_range_pairwise _ _, fun _ => mem_openings_iff,
    forall₂_openings r.headers⟩
  found name listed := by
    obtain ⟨value, others, split⟩ := List.exists_cons_of_ne_nil (values_ne_nil listed)
    rw [header?, first?, split]
    exact ⟨value, rfl, rfl⟩
  anyCase name other same := by
    rw [header?, header?, first?, first?, values_congr same]
    exact ⟨rfl, rfl⟩
  divided := by
    refine ⟨share r.headers, fun name listed => ⟨?_, filter_range_pairwise _ _,
      forall₂_share r.headers name⟩, flatMap_share_perm r.headers⟩
    intro nothing
    have same := (forall₂_share r.headers name).length_eq
    rw [nothing, List.length_nil] at same
    exact values_ne_nil listed (List.length_eq_zero_iff.mp same.symm)

/-- A name that comes twice is listed once, as first spelt. -/
theorem namesLaw_second_spelling :
    let r : Response :=
      { headers := [("Location", "/login"), ("X-Trace", "a"), ("x-trace", "b")] }
    r.headers.distinctNames = ["Location", "X-Trace"] ∧
      r.header? "X-TRACE" = some "a" ∧ r.headers.values "X-TRACE" = ["a", "b"] := by
  intro r
  have law := namesLaw r
  obtain ⟨value, found, first⟩ := law.found "X-Trace" (by decide)
  obtain ⟨sameFirst, sameValues⟩ := law.anyCase "X-TRACE" "X-Trace" (by decide)
  have values : r.headers.values "X-Trace" = ["a", "b"] := by decide
  rw [values] at first
  cases first
  exact ⟨by decide, sameFirst.trans found, sameValues.trans values⟩

end Exchange.Response
