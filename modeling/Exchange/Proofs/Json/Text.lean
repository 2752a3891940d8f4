import Mathlib
import Exchange.Json.Skim
import Exchange.Proofs.Json.NumberText
import Exchange.Proofs.Json.Sound

/-! # Values read back from their text

What is written for a value is read as this value, whatever comes behind it, provided that each of
its numbers is read back. Reading gives up only where arrays and objects are nested deeper than it
may go.
-/

namespace Exchange

/-- The number is read back from its text. -/
def JsonNumber.ReadsBack (n : JsonNumber) : Prop :=
  JsonNumber.read? n.text.toList = some (n, [])

namespace Json

section Strings

variable {cs rest left : List Char}

theorem takeHex4?_append {n : Nat} (taken : takeHex4? cs = some (n, left)) :
    takeHex4? (cs ++ rest) = some (n, left ++ rest) := by
  match cs with
  | [] | [_] | [_, _] | [_, _, _] => cases taken
  | a :: b :: c :: d :: cs =>
      simp only [takeHex4?, bind, Option.bind_eq_some_iff, List.cons_append] at taken ⊢
      obtain ⟨w, first, x, second, y, third, z, fourth, same⟩ := taken
      cases same
      exact ⟨w, first, x, second, y, third, z, fourth, rfl⟩

theorem takeHex4?_hex4 : ∀ n < 32, takeHex4? (hex4 n) = some (n, []) := by decide

theorem takeUnicode?_hex4 {c : Char} (control : c.toNat < 32) :
    takeUnicode? (hex4 c.toNat ++ rest) = some (c, rest) := by
  have taken : takeHex4? (hex4 c.toNat ++ rest) = some (c.toNat, [] ++ rest) :=
    takeHex4?_append (takeHex4?_hex4 c.toNat control)
  simp only [takeUnicode?, taken, bind, Option.bind]
  rw [if_neg (by omega), if_neg (by omega), Char.ofNat_toNat, List.nil_append]

theorem takeString?_backslash {d : Char} (taken : takeEscape? cs = some (d, left)) (fuel : Nat) :
    takeString? (fuel + 1) ('\\' :: cs) =
      (takeString? fuel left).map fun (ds, rest) => (d :: ds, rest) := by
  rw [takeString?, if_neg (by decide), if_pos rfl]
  simp only [taken, bind, Option.bind]
  cases takeString? fuel left <;> rfl

theorem takeString?_escape (c : Char) (fuel : Nat) :
    takeString? (fuel + 1) (escape c ++ cs) =
      (takeString? fuel cs).map fun (ds, rest) => (c :: ds, rest) := by
  rw [escape]
  split_ifs with quote backslash b t n f r control
  · subst quote
    exact takeString?_backslash rfl fuel
  · subst backslash
    exact takeString?_backslash rfl fuel
  · subst b
    exact takeString?_backslash rfl fuel
  · subst t
    exact takeString?_backslash rfl fuel
  · subst n
    exact takeString?_backslash rfl fuel
  · subst f
    exact takeString?_backslash rfl fuel
  · subst r
    exact takeString?_backslash rfl fuel
  · have taken : takeEscape? ('u' :: hex4 c.toNat ++ cs) = some (c, cs) :=
      takeUnicode?_hex4 control
    exact takeString?_backslash taken fuel
  · rw [List.singleton_append, takeString?, if_neg quote, if_neg backslash, if_neg control]
    cases takeString? fuel cs <;> rfl

theorem length_le_escaped (cs : List Char) : cs.length ≤ (cs.flatMap escape).length := by
  induction cs with
  | nil => exact le_rfl
  | cons c cs ih =>
      have written : 1 ≤ (escape c).length := by
        unfold escape
        split_ifs <;> simp
      rw [List.flatMap_cons, List.length_append, List.length_cons]
      omega

theorem takeString?_escaped {fuel : Nat} (enough : cs.length < fuel) :
    takeString? fuel (cs.flatMap escape ++ '"' :: rest) = some (cs, rest) := by
  induction cs generalizing fuel with
  | nil =>
      obtain ⟨fuel, rfl⟩ := Nat.exists_eq_add_of_lt enough
      rfl
  | cons c cs ih =>
      obtain ⟨fuel, rfl⟩ : ∃ more, fuel = more + 1 := ⟨fuel - 1, by omega⟩
      rw [List.flatMap_cons, List.append_assoc, takeString?_escape,
        ih (by simpa using enough), Option.map_some]

theorem readString?_escaped (s : String) :
    readString? (s.toList.flatMap escape ++ '"' :: rest) = some (s, rest) := by
  have enough : s.toList.length < (s.toList.flatMap escape ++ '"' :: rest).length + 1 := by
    have := length_le_escaped s.toList
    simp only [List.length_append]
    omega
  simp only [readString?, takeString?_escaped enough, bind, Option.bind, String.ofList_toList]

end Strings

mutual
/-- How deep arrays and objects are nested in a value. -/
def depth : Json → Nat
  | .array items => itemsDepth items + 1
  | .object members => membersDepth members + 1
  | _ => 0

/-- The depth of the deepest of some items. -/
def itemsDepth : List Json → Nat
  | [] => 0
  | item :: rest => max item.depth (itemsDepth rest)

/-- The depth of the deepest of some members. -/
def membersDepth : List (String × Json) → Nat
  | [] => 0
  | (_, value) :: rest => max value.depth (membersDepth rest)
end

/-- Every number in a value meets a condition. -/
inductive EachNumber (condition : JsonNumber → Prop) : Json → Prop where
  | null : EachNumber condition .null
  | bool (b : Bool) : EachNumber condition (.bool b)
  | number {n : JsonNumber} (met : condition n) : EachNumber condition (.number n)
  | string (s : String) : EachNumber condition (.string s)
  | array {items : List Json} (each : ∀ item ∈ items, EachNumber condition item) :
      EachNumber condition (.array items)
  | object {members : List (String × Json)}
      (each : ∀ entry ∈ members, EachNumber condition entry.2) :
      EachNumber condition (.object members)

theorem Sound.eachNumber {condition weaker : JsonNumber → Prop} {j : Json}
    (sound : j.Sound condition) (weaken : ∀ n, condition n → weaker n) : j.EachNumber weaker := by
  induction sound with
  | null => exact .null
  | bool b => exact .bool b
  | number met => exact .number (weaken _ met)
  | string s => exact .string s
  | array _ ih => exact .array ih
  | object _ _ ih => exact .object ih

/-- A reader of values gives the datum of a value that is nested no deeper than a limit, from some
    fuel on and whatever follows. -/
def ReadBy (read : Nat → List Char → Option (Datum × List Char)) (enough limit : Nat)
    (j : Json) : Prop :=
  ∀ fuel rest, enough ≤ fuel → JsonNumber.Ends rest →
    read fuel (j.chars ++ rest) = if j.depth ≤ limit then some (.ofJson j, rest) else none

theorem ReadBy.mono {read : Nat → List Char → Option (Datum × List Char)} {enough room limit : Nat}
    {j : Json} (reads : j.ReadBy read enough limit) (more : enough ≤ room) :
    j.ReadBy read room limit := fun fuel rest given => reads fuel rest (more.trans given)

theorem skipBlanks_cons {c : Char} {cs : List Char} (visible : isBlank c = false) :
    skipBlanks (c :: cs) = c :: cs := List.dropWhile_cons_of_neg (by simp [visible])

variable {cs rest more : List Char} {fuel enough limit : Nat} {datum : Datum}

theorem readItems?_of_none (read : readValue? fuel limit cs = none) :
    readItems? (fuel + 1) limit cs = none := by
  rw [readItems?, read]
  rfl

theorem readItems?_last (read : readValue? fuel limit cs = some (datum, ']' :: rest)) :
    readItems? (fuel + 1) limit cs = some ([datum], rest) := by
  rw [readItems?, read]
  rfl

theorem readItems?_next (read : readValue? fuel limit cs = some (datum, ',' :: more)) :
    readItems? (fuel + 1) limit cs =
      (readItems? fuel limit more).map fun (items, rest) => (datum :: items, rest) := by
  rw [readItems?, read]
  simp only [bind, Option.bind, skipBlanks_cons (show isBlank ',' = false by decide)]
  cases readItems? fuel limit more <;> rfl

theorem itemChars_cons_cons (item next : Json) (others : List Json) :
    itemChars (item :: next :: others) = item.chars ++ ',' :: itemChars (next :: others) := rfl

/-- The items of an array are read back if each of them is. -/
theorem readItems?_itemChars {items : List Json} (given : items ≠ [])
    (each : ∀ item ∈ items, item.ReadBy (readValue? · limit) enough limit)
    (room : enough + items.length ≤ fuel) :
    readItems? fuel limit (itemChars items ++ ']' :: rest) =
      if itemsDepth items ≤ limit then some (Datum.ofJsonItems items, rest) else none := by
  -- Each item takes one off the fuel and leaves enough for the values behind it.
  induction items generalizing fuel with
  | nil => exact absurd rfl given
  | cons item others ih =>
      rw [List.length_cons] at room
      obtain ⟨fuel, rfl⟩ : ∃ less, fuel = less + 1 := ⟨fuel - 1, by omega⟩
      obtain ⟨first, later⟩ := List.forall_mem_cons.mp each
      cases others with
      | nil =>
          have read := first fuel (']' :: rest) (by omega) (JsonNumber.ends_cons (by simp))
          simp only [itemChars, itemsDepth, Nat.max_zero]
          split at read
          · rename_i shallow
            rw [if_pos shallow, readItems?_last read]
            rfl
          · rename_i deep
            rw [if_neg deep, readItems?_of_none read]
      | cons next others =>
          have read := first fuel (',' :: (itemChars (next :: others) ++ ']' :: rest)) (by omega)
            (JsonNumber.ends_cons (by simp))
          have readLater := ih (List.cons_ne_nil next others) later (show _ ≤ fuel by omega)
          rw [itemChars_cons_cons, List.append_assoc, List.cons_append, itemsDepth]
          split at read
          · rename_i shallow
            simp only [readItems?_next read, readLater, Nat.max_le, shallow, true_and]
            split <;> rfl
          · rename_i deep
            rw [readItems?_of_none read, if_neg fun shallow => deep (Nat.max_le.mp shallow).1]

/-- How a reader of members goes by a reader of values, for members of some names. -/
structure MemberReader (known : String → Prop)
    (value : Nat → List Char → Option (Datum × List Char))
    (read : Nat → List Char → Option (List (Datum × Datum) × List Char)) : Prop where
  none {name : String} {fuel : Nat} {cs : List Char} : known name → value fuel cs = none →
    read (fuel + 1) (stringChars name ++ ':' :: cs) = none
  last {name : String} {fuel : Nat} {cs rest : List Char} {datum : Datum} : known name →
    value fuel cs = some (datum, '\x7d' :: rest) →
    read (fuel + 1) (stringChars name ++ ':' :: cs) = some ([(.string name, datum)], rest)
  next {name : String} {fuel : Nat} {cs more : List Char} {datum : Datum} : known name →
    value fuel cs = some (datum, ',' :: more) →
    read (fuel + 1) (stringChars name ++ ':' :: cs) =
      (read fuel more).map fun (entries, rest) => ((.string name, datum) :: entries, rest)

theorem memberChars_cons_cons (member next : String × Json) (others : List (String × Json)) :
    memberChars (member :: next :: others) =
      stringChars member.1 ++ ':' :: (member.2.chars ++ ',' :: memberChars (next :: others)) := by
  rw [← List.cons_append, ← List.append_assoc]
  rfl

theorem MemberReader.read_memberChars {known : String → Prop}
    {value : Nat → List Char → Option (Datum × List Char)}
    {read : Nat → List Char → Option (List (Datum × Datum) × List Char)}
    (reader : MemberReader known value read) {members : List (String × Json)}
    (given : members ≠ []) (knows : ∀ member ∈ members, known member.1)
    (each : ∀ member ∈ members, member.2.ReadBy value enough limit)
    (room : enough + members.length ≤ fuel) :
    read fuel (memberChars members ++ '\x7d' :: rest) =
      if membersDepth members ≤ limit then some (Datum.ofJsonMembers members, rest)
      else Option.none := by
  induction members generalizing fuel with
  | nil => exact absurd rfl given
  | cons member others ih =>
      rw [List.length_cons] at room
      obtain ⟨fuel, rfl⟩ : ∃ less, fuel = less + 1 := ⟨fuel - 1, by omega⟩
      obtain ⟨first, later⟩ := List.forall_mem_cons.mp each
      obtain ⟨knowsFirst, knowsLater⟩ := List.forall_mem_cons.mp knows
      cases others with
      | nil =>
          have found := first fuel ('\x7d' :: rest) (by omega) (JsonNumber.ends_cons (by simp))
          simp only [memberChars, membersDepth, Nat.max_zero, List.append_assoc, List.cons_append]
          split at found
          · rename_i shallow
            rw [if_pos shallow, reader.last knowsFirst found]
            rfl
          · rename_i deep
            rw [if_neg deep, reader.none knowsFirst found]
      | cons next others =>
          have found := first fuel (',' :: (memberChars (next :: others) ++ '\x7d' :: rest))
            (by omega) (JsonNumber.ends_cons (by simp))
          have foundLater := ih (List.cons_ne_nil next others) knowsLater later
            (show _ ≤ fuel by omega)
          rw [memberChars_cons_cons, List.append_assoc, List.cons_append, List.append_assoc,
            List.cons_append, membersDepth]
          split at found
          · rename_i shallow
            simp only [reader.next knowsFirst found, foundLater, Nat.max_le, shallow, true_and]
            split <;> rfl
          · rename_i deep
            rw [reader.none knowsFirst found, if_neg fun shallow => deep (Nat.max_le.mp shallow).1]

theorem stringChars_append (s : String) :
    stringChars s ++ cs = '"' :: (s.toList.flatMap escape ++ '"' :: cs) := by
  simp [stringChars]

theorem readEntries?_stringChars (name : String) :
    readEntries? (fuel + 1) limit (stringChars name ++ ':' :: cs) = (do
      let (value, rest) ← readValue? fuel limit cs
      match skipBlanks rest with
      | '\x7d' :: rest => some ([(.string name, value)], rest)
      | ',' :: rest => do
        let (entries, rest) ← readEntries? fuel limit rest
        some ((.string name, value) :: entries, rest)
      | _ => none) := by
  rw [stringChars_append, readEntries?, skipBlanks_cons (by decide)]
  simp only [readString?_escaped, bind, Option.bind]
  rfl

theorem memberReader_readEntries? :
    MemberReader (fun _ => True) (readValue? · limit) (readEntries? · limit) where
  none _ read := by
    rw [readEntries?_stringChars, read]
    rfl
  last _ read := by
    rw [readEntries?_stringChars, read]
    rfl
  next {_ fuel _ more _} _ read := by
    rw [readEntries?_stringChars, read]
    simp only [bind, Option.bind, skipBlanks_cons (show isBlank ',' = false by decide)]
    cases readEntries? fuel limit more <;> rfl

theorem length_le_itemChars (items : List Json) : items.length ≤ (itemChars items).length + 1 := by
  induction items with
  | nil => exact Nat.zero_le _
  | cons first others ih =>
      cases others with
      | nil => exact Nat.le_add_left _ _
      | cons next others =>
          simp only [itemChars_cons_cons, List.length_append, List.length_cons] at ih ⊢
          omega

theorem length_item_le {items : List Json} {item : Json} (listed : item ∈ items) :
    item.chars.length + items.length ≤ (itemChars items).length + 1 := by
  induction items with
  | nil => exact absurd listed List.not_mem_nil
  | cons first others ih =>
      cases others with
      | nil =>
          obtain rfl := List.mem_singleton.mp listed
          exact le_rfl
      | cons next others =>
          have commas := length_le_itemChars (next :: others)
          simp only [itemChars_cons_cons, List.length_append, List.length_cons] at ih commas ⊢
          rcases List.mem_cons.mp listed with rfl | later
          · omega
          · have := ih later
            omega

theorem length_le_memberChars (members : List (String × Json)) :
    members.length ≤ (memberChars members).length + 1 := by
  induction members with
  | nil => exact Nat.zero_le _
  | cons first others ih =>
      cases others with
      | nil => exact Nat.le_add_left _ _
      | cons next others =>
          simp only [memberChars_cons_cons, List.length_append, List.length_cons] at ih ⊢
          omega

theorem length_member_le {members : List (String × Json)} {member : String × Json}
    (listed : member ∈ members) :
    member.2.chars.length + members.length ≤ (memberChars members).length + 1 := by
  induction members with
  | nil => exact absurd listed List.not_mem_nil
  | cons first others ih =>
      cases others with
      | nil =>
          obtain rfl := List.mem_singleton.mp listed
          simp only [memberChars, List.length_append, List.length_cons, List.length_nil]
          omega
      | cons next others =>
          have commas := length_le_memberChars (next :: others)
          simp only [memberChars_cons_cons, List.length_append, List.length_cons] at ih commas ⊢
          rcases List.mem_cons.mp listed with rfl | later
          · omega
          · have := ih later
            omega

/-- What the text of a value begins with: no blank, and nothing that ends an array. -/
theorem exists_first {j : Json} (back : j.EachNumber JsonNumber.ReadsBack) :
    ∃ c more, j.chars = c :: more ∧ isBlank c = false ∧ c ≠ ']' := by
  cases back with
  | null => exact ⟨_, _, rfl, by decide, by decide⟩
  | bool b => cases b <;> exact ⟨_, _, rfl, by decide, by decide⟩
  | number met =>
      obtain ⟨c, more, written, minus | digit⟩ := JsonNumber.exists_first_of_read? met
      · subst minus
        exact ⟨_, more, written, by decide, by decide⟩
      · refine ⟨c, more, written, ?_, ?_⟩
        · rw [← Bool.not_eq_true]
          intro blank
          simp only [isBlank, Bool.or_eq_true, decide_eq_true_eq] at blank
          rcases blank with ((rfl | rfl) | rfl) | rfl <;> exact absurd digit (by decide)
        · rintro rfl
          exact absurd digit (by decide)
  | string s => exact ⟨_, _, rfl, by decide, by decide⟩
  | array each => exact ⟨_, _, rfl, by decide, by decide⟩
  | object each => exact ⟨_, _, rfl, by decide, by decide⟩

theorem readValue?_number {c : Char} {n : JsonNumber} (begins : c = '-' ∨ Number.isDigit c = true)
    (visible : isBlank c = false) (read : JsonNumber.read? (c :: cs) = some (n, rest)) :
    readValue? (fuel + 1) limit (c :: cs) = some (.ofJson (.number n), rest) := by
  rw [readValue?, skipBlanks_cons visible]
  split
  case h_7 =>
    rw [read]
    cases n <;> rfl
  all_goals
    rename_i same
    cases same
    exact absurd begins (by decide)

theorem readValue?_bracket : readValue? (fuel + 1) limit ('[' :: cs) =
    match limit, skipBlanks cs with
    | 0, _ => none
    | _ + 1, ']' :: rest => some (.list [], rest)
    | limit + 1, rest => (do
      let (items, rest) ← readItems? fuel limit rest
      some (.list items, rest)) := by
  rw [readValue?, skipBlanks_cons (by decide)]
  rfl

theorem readValue?_items {c : Char} (visible : isBlank c = false) (item : c ≠ ']') :
    readValue? (fuel + 1) (limit + 1) ('[' :: c :: cs) =
      (readItems? fuel limit (c :: cs)).map fun (items, rest) => (.list items, rest) := by
  rw [readValue?_bracket, skipBlanks_cons visible]
  split
  case h_1 zero => exact absurd zero (Nat.succ_ne_zero limit)
  case h_2 same =>
    cases same
    exact absurd rfl item
  case h_3 same _ =>
    cases same
    cases readItems? fuel limit (c :: cs) <;> rfl

theorem readValue?_members :
    readValue? (fuel + 1) (limit + 1) ('\x7b' :: '"' :: cs) =
      (readEntries? fuel limit ('"' :: cs)).map fun (entries, rest) => (.record entries, rest) := by
  have read : readValue? (fuel + 1) (limit + 1) ('\x7b' :: '"' :: cs) = (do
      let (entries, rest) ← readEntries? fuel limit ('"' :: cs)
      some (.record entries, rest)) := by
    rw [readValue?, skipBlanks_cons (by decide)]
    rfl
  rw [read]
  cases readEntries? fuel limit ('"' :: cs) <;> rfl

theorem readValue?_bracket_zero : readValue? (fuel + 1) 0 ('[' :: cs) = none := readValue?_bracket

theorem readValue?_brace_zero : readValue? (fuel + 1) 0 ('\x7b' :: cs) = none := by
  rw [readValue?, skipBlanks_cons (by decide)]
  rfl

theorem readBy_of_flat {j : Json} (flat : j.depth = 0) (written : j.chars ≠ [])
    (read : ∀ fuel rest, JsonNumber.Ends rest →
      readValue? (fuel + 1) limit (j.chars ++ rest) = some (.ofJson j, rest)) :
    j.ReadBy (readValue? · limit) (2 * j.chars.length) limit := by
  intro fuel rest room ends
  have positive := List.length_pos_of_ne_nil written
  obtain ⟨fuel, rfl⟩ : ∃ less, fuel = less + 1 := ⟨fuel - 1, by omega⟩
  rw [flat, if_pos (Nat.zero_le limit)]
  exact read fuel rest ends

theorem exists_first_item {item : Json} {others : List Json}
    (back : ∀ i ∈ item :: others, i.EachNumber JsonNumber.ReadsBack) :
    ∃ c more, itemChars (item :: others) = c :: more ∧ isBlank c = false ∧ c ≠ ']' := by
  obtain ⟨c, more, begins, visible, goesOn⟩ := exists_first (back item List.mem_cons_self)
  cases others with
  | nil => exact ⟨c, more, begins, visible, goesOn⟩
  | cons next others =>
      rw [itemChars_cons_cons, begins]
      exact ⟨c, _, rfl, visible, goesOn⟩

theorem readBy_array {items : List Json}
    (back : ∀ item ∈ items, item.EachNumber JsonNumber.ReadsBack)
    (each : ∀ item ∈ items, ∀ limit, item.ReadBy (readValue? · limit) (2 * item.chars.length) limit) :
    (array items).ReadBy (readValue? · limit) (2 * (array items).chars.length) limit := by
  intro fuel rest room ends
  have length : (array items).chars.length = (itemChars items).length + 2 := by
    simp [chars]
  have written : (array items).chars ++ rest = '[' :: (itemChars items ++ ']' :: rest) := by
    simp [chars]
  obtain ⟨fuel, rfl⟩ : ∃ less, fuel = less + 1 := ⟨fuel - 1, by omega⟩
  dsimp only
  rw [written, depth]
  cases limit with
  | zero => exact readValue?_bracket_zero
  | succ limit =>
      cases items with
      | nil =>
          rw [readValue?, skipBlanks_cons (by decide)]
          rfl
      | cons item others =>
          obtain ⟨c, more, first, visible, goesOn⟩ := exists_first_item back
          have commas := length_le_itemChars (item :: others)
          -- The characters around an item make up for the fuel that the items before it take.
          have eachRead : ∀ i ∈ item :: others,
              i.ReadBy (readValue? · limit) (fuel - (item :: others).length) limit := by
            intro i listed
            have fits := length_item_le listed
            exact (each i listed limit).mono (by omega)
          have read : readItems? fuel limit (itemChars (item :: others) ++ ']' :: rest) = _ :=
            readItems?_itemChars (List.cons_ne_nil item others) eachRead (by omega)
          rw [first, List.cons_append] at read ⊢
          rw [readValue?_items visible goesOn, read]
          simp only [Nat.add_le_add_iff_right]
          split <;> rfl

theorem exists_first_member {members : List (String × Json)} (given : members ≠ []) :
    ∃ more, memberChars members = '"' :: more := by
  match members with
  | [] => exact absurd rfl given
  | [member] => exact ⟨_, rfl⟩
  | member :: next :: others =>
      rw [memberChars_cons_cons, stringChars_append]
      exact ⟨_, rfl⟩

theorem readBy_object {members : List (String × Json)}
    (each : ∀ member ∈ members, ∀ limit,
      member.2.ReadBy (readValue? · limit) (2 * member.2.chars.length) limit) :
    (object members).ReadBy (readValue? · limit) (2 * (object members).chars.length) limit := by
  intro fuel rest room ends
  have length : (object members).chars.length = (memberChars members).length + 2 := by
    simp [chars]
  have written : (object members).chars ++ rest =
      '\x7b' :: (memberChars members ++ '\x7d' :: rest) := by
    simp [chars]
  obtain ⟨fuel, rfl⟩ : ∃ less, fuel = less + 1 := ⟨fuel - 1, by omega⟩
  dsimp only
  rw [written, depth]
  cases limit with
  | zero => exact readValue?_brace_zero
  | succ limit =>
      cases members with
      | nil =>
          rw [readValue?, skipBlanks_cons (by decide)]
          rfl
      | cons member others =>
          obtain ⟨more, first⟩ := exists_first_member (List.cons_ne_nil member others)
          have commas := length_le_memberChars (member :: others)
          have eachRead : ∀ m ∈ member :: others,
              m.2.ReadBy (readValue? · limit) (fuel - (member :: others).length) limit := by
            intro m listed
            have fits := length_member_le listed
            exact (each m listed limit).mono (by omega)
          have read : readEntries? fuel limit (memberChars (member :: others) ++ '\x7d' :: rest) =
              _ :=
            memberReader_readEntries?.read_memberChars (List.cons_ne_nil member others)
              (fun _ _ => trivial) eachRead (by omega)
          rw [first, List.cons_append] at read ⊢
          rw [readValue?_members, read]
          simp only [Nat.add_le_add_iff_right]
          split <;> rfl

/-- A value all of whose numbers are read back is read back as its datum. -/
theorem readBy_readValue? {j : Json} (back : j.EachNumber JsonNumber.ReadsBack) :
    j.ReadBy (readValue? · limit) (2 * j.chars.length) limit := by
  induction back generalizing limit with
  | null => exact readBy_of_flat rfl (List.cons_ne_nil _ _) fun fuel rest _ => rfl
  | bool b =>
      cases b <;> exact readBy_of_flat rfl (List.cons_ne_nil _ _) fun fuel rest _ => rfl
  | @number n met =>
      obtain ⟨c, more, written, visible, -⟩ := exists_first (.number met)
      have begins : c = '-' ∨ Number.isDigit c = true := by
        obtain ⟨d, others, same, begins⟩ := JsonNumber.exists_first_of_read? met
        cases written.symm.trans same
        exact begins
      refine readBy_of_flat rfl (by simp [written]) fun fuel rest ends => ?_
      have read := JsonNumber.read?_append ends met
      rw [show n.text.toList = c :: more from written] at read
      rw [written]
      exact readValue?_number begins visible read
  | string s =>
      refine readBy_of_flat rfl (List.cons_ne_nil _ _) fun fuel rest _ => ?_
      rw [chars, stringChars_append, readValue?, skipBlanks_cons (by decide)]
      simp only [readString?_escaped, bind, Option.bind]
      rfl
  | array each ih => exact readBy_array each fun item listed limit => ih item listed
  | object each ih => exact readBy_object fun member listed limit => ih member listed

variable {names : List String}

theorem readNamed?_stringChars {name : String} (wanted : name ∈ names) :
    readNamed? names (fuel + 1) (stringChars name ++ ':' :: cs) = (do
      let (value, rest) ← readValue? (2 * cs.length + 2) (maxDepth - 1) cs
      match skipBlanks rest with
      | '\x7d' :: rest => some ([(.string name, value)], rest)
      | ',' :: rest => do
        let (entries, rest) ← readNamed? names fuel rest
        some ((.string name, value) :: entries, rest)
      | _ => none) := by
  rw [stringChars_append, readNamed?, skipBlanks_cons (by decide)]
  simp only [readString?_escaped, bind, Option.bind, List.contains_iff_mem.mpr wanted, if_true]
  split
  · rename_i colon
    cases colon
    cases readValue? (2 * cs.length + 2) (maxDepth - 1) cs <;> rfl
  · rename_i other
    exact absurd rfl (other cs)

theorem memberReader_readNamed? : MemberReader (· ∈ names)
    (fun _ cs => readValue? (2 * cs.length + 2) (maxDepth - 1) cs) (readNamed? names) where
  none wanted read := by
    rw [readNamed?_stringChars wanted, read]
    rfl
  last wanted read := by
    rw [readNamed?_stringChars wanted, read]
    rfl
  next {_ fuel _ more _} wanted read := by
    rw [readNamed?_stringChars wanted, read]
    simp only [bind, Option.bind, skipBlanks_cons (show isBlank ',' = false by decide)]
    cases readNamed? names fuel more <;> rfl

/-- An object all of whose members are wanted is read back as its datum, to the same depth as other
    values. -/
theorem readFields?_text {members : List (String × Json)} (given : members ≠ [])
    (wanted : ∀ member ∈ members, member.1 ∈ names)
    (back : ∀ member ∈ members, member.2.EachNumber JsonNumber.ReadsBack) :
    readFields? names (object members).text =
      if (object members).depth ≤ maxDepth then some (.ofJson (object members)) else none := by
  have each : ∀ member ∈ members, member.2.ReadBy
      (fun _ cs => readValue? (2 * cs.length + 2) (maxDepth - 1) cs) 0 (maxDepth - 1) := by
    intro member listed fuel rest _ ends
    exact readBy_readValue? (back member listed) _ rest
      (by simp only [List.length_append]; omega) ends
  have read : readNamed? names ((memberChars members ++ ['\x7d']).length + 1)
      (memberChars members ++ ['\x7d']) = _ :=
    memberReader_readNamed?.read_memberChars given wanted each (by
      have := length_le_memberChars members
      simp only [List.length_append, List.length_singleton]
      omega)
  obtain ⟨more, first⟩ := exists_first_member given
  have written : (object members).text.toList = '\x7b' :: (memberChars members ++ ['\x7d']) := by
    simp [text, chars]
  rw [first, List.cons_append] at read written
  have opened : readFields? names (object members).text = (do
      let (entries, rest) ← readNamed? names (('"' :: (more ++ ['\x7d'])).length + 1)
        ('"' :: (more ++ ['\x7d']))
      if skipBlanks rest = [] then some (.record entries) else none) := by
    rw [readFields?, written, skipBlanks_cons (by decide)]
    rfl
  have bound : membersDepth members ≤ maxDepth - 1 ↔ membersDepth members + 1 ≤ maxDepth :=
    Nat.succ_le_succ_iff.symm
  rw [opened, read, depth]
  simp only [bound]
  split <;> rfl

end Json

end Exchange
