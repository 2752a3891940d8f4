/-! # Tables by name

Entries under names, in ascending order of the names, each name once. Names are ordered by their
characters, which is also the order of their UTF-8 bytes.
-/

namespace Exchange

/-- Entries in ascending order of their names. -/
abbrev Table (α : Type) := List (String × α)

namespace Table

variable {α : Type}

/-- Put an entry in its place; an entry of that name is replaced. -/
def insert (name : String) (value : α) : Table α → Table α
  | [] => [(name, value)]
  | (n, v) :: rest =>
    if name < n then (name, value) :: (n, v) :: rest
    else if name = n then (name, value) :: rest
    else (n, v) :: insert name value rest

/-- The entry of a name. -/
def find? (name : String) : Table α → Option α
  | [] => none
  | (n, v) :: rest => if n = name then some v else find? name rest

/-- The table of a list of entries, in which the last of several entries of one name counts. -/
def ofList (entries : List (String × α)) : Table α :=
  entries.foldl (fun table (name, value) => insert name value table) []

/-- The names in order. -/
def names (table : Table α) : List String := table.map Prod.fst

/-- The names ascend strictly. -/
def Sorted (table : Table α) : Prop := table.names.Pairwise (· < ·)

@[simp] theorem find?_nil (name : String) : find? name ([] : Table α) = none := rfl

/-- An entry that was put in is found. -/
theorem find?_insert_self (name : String) (value : α) (table : Table α) :
    find? name (insert name value table) = some value := by
  induction table with
  | nil => simp [insert, find?]
  | cons entry rest ih =>
    obtain ⟨n, v⟩ := entry
    simp only [insert]
    split
    · simp [find?]
    · split
      · simp [find?]
      · rename_i h
        simp [find?, ih, Ne.symm h]

/-- Putting an entry in leaves the other names alone. -/
theorem find?_insert_of_ne {name other : String} (h : other ≠ name) (value : α) (table : Table α) :
    find? other (insert name value table) = find? other table := by
  induction table with
  | nil => simp [insert, find?, Ne.symm h]
  | cons entry rest ih =>
    obtain ⟨n, v⟩ := entry
    simp only [insert]
    split
    · simp [find?, Ne.symm h]
    · split
      · rename_i heq
        subst heq
        simp [find?, Ne.symm h]
      · simp [find?, ih]

end Table

end Exchange
