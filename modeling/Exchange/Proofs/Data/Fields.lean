import Mathlib
import Exchange.Data.Fields
import Exchange.Proofs.Data.Table

/-! # Fields of written records

An object that is written gives each field that is asked for as its member of that name, in whatever
order the members stand.
-/

namespace Exchange.Datum

theorem ofJsonMembers_eq_map (members : List (String × Json)) :
    ofJsonMembers members = members.map fun (name, value) => (string name, ofJson value) := by
  induction members with
  | nil => rfl
  | cons member members ih => rw [ofJsonMembers, ih, List.map_cons]

theorem putAt?_map {names : List String} {name : String} {place : Nat}
    {given : String → Option Datum} (distinct : names.Nodup)
    (placed : placeOf? names name = some place) (free : given name = none) (value : Datum) :
    putAt? (names.map given) place value =
      some (names.map (Function.update given name (some value))) := by
  obtain ⟨bound, named, -⟩ := List.findIdx?_eq_some_iff_getElem.mp placed
  have named : names[place] = name := eq_of_beq named
  have empty : (names.map given)[place]? = some none := by
    rw [List.getElem?_map, List.getElem?_eq_getElem bound, named, Option.map_some, free]
  rw [putAt?, empty]
  refine congrArg some (List.ext_getElem (by simp) fun i low high => ?_)
  rw [List.getElem_set, List.getElem_map, List.getElem_map]
  split
  · rename_i here
    subst here
    rw [named, Function.update_self]
  · rename_i elsewhere
    refine (Function.update_of_ne (fun same => elsewhere ?_) _ _).symm
    exact (distinct.getElem_inj_iff.mp (named.trans same.symm))

theorem find?_cons_or {members : List (String × Json)} {given : String → Option Datum}
    {first : String} (new : first ∉ members.map Prod.fst) (value : Json) (name : String) :
    ((Table.find? name ((first, value) :: members)).map ofJson).or (given name) =
      ((Table.find? name members).map ofJson).or
        (Function.update given first (some (ofJson value)) name) := by
  rw [Table.find?]
  split
  · rename_i same
    subst same
    have absent : Table.find? first members = none := Table.find?_of_not_mem new
    rw [absent, Function.update_self]
    rfl
  · rename_i other
    rw [Function.update_of_ne (Ne.symm other)]

theorem foldlM_members {names : List String} {members : List (String × Json)}
    {given : String → Option Datum} (distinct : names.Nodup)
    (once : (members.map Prod.fst).Nodup) (free : ∀ name ∈ members.map Prod.fst, given name = none) :
    (ofJsonMembers members).foldlM (fun values (key, value) => do
      match ← keyPlace? names key with
      | some place => putAt? values place value
      | none => some values) (names.map given) =
    some (names.map fun name => ((Table.find? name members).map ofJson).or (given name)) := by
  induction members generalizing given with
  | nil => simp [ofJsonMembers]
  | cons member members ih =>
      obtain ⟨first, value⟩ := member
      obtain ⟨new, once⟩ := List.nodup_cons.mp once
      obtain ⟨freeHere, freeLater⟩ := List.forall_mem_cons.mp free
      simp only [ofJsonMembers, List.foldlM_cons, keyPlace?, bind, Option.bind]
      cases placed : placeOf? names first with
      | none =>
          have unknown : first ∉ names := by
            intro known
            exact absurd (List.findIdx?_eq_none_iff.mp placed first known) (by simp)
          refine (ih once freeLater).trans (congrArg some (List.map_congr_left fun name known => ?_))
          rw [Table.find?, if_neg (ne_of_mem_of_not_mem known unknown).symm]
      | some place =>
          -- What the first member gives counts as given beforehand for those behind it.
          have stillFree : ∀ name ∈ members.map Prod.fst,
              Function.update given first (some (ofJson value)) name = none := by
            intro name later
            rw [Function.update_of_ne (ne_of_mem_of_not_mem later new)]
            exact freeLater name later
          simp only [putAt?_map distinct placed freeHere, find?_cons_or new]
          exact ih once stillFree

/-- An object gives each field as its member of that name. -/
theorem fields?_object {names : List String} {members : List (String × Json)}
    (distinct : names.Nodup) (once : (members.map Prod.fst).Nodup) :
    fields? names (ofJson (.object members)) =
      some (names.map fun name => (Table.find? name members).map ofJson) := by
  have empty : List.replicate names.length none = names.map fun _ => (none : Option Datum) :=
    List.map_const'.symm
  rw [ofJson, fields?, fieldsOfEntries?, empty]
  refine (foldlM_members distinct once fun _ _ => rfl).trans ?_
  simp only [Option.or_none]

end Exchange.Datum
