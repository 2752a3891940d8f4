import Exchange.Data.Table

/-! # JSON values

Integers are kept apart from numbers with a fraction or an exponent: `1` and `1.0` are different
values, although some comparisons accept one for the other. The members of an object stand in
ascending order of their names.
-/

namespace Exchange

/-- A number as JSON writes it. -/
inductive JsonNumber where
  /-- An integer of 64 bits, with or without a sign. -/
  | int (n : Int)
  /-- Any other number, as a finite double. -/
  | float (x : Float)

/-- A JSON value. -/
inductive Json where
  | null
  | bool (b : Bool)
  | number (n : JsonNumber)
  | string (s : String)
  | array (items : List Json)
  | object (members : List (String × Json))

instance : Inhabited Json := ⟨.null⟩

namespace JsonNumber

/-- The double nearest to the number. -/
def toFloat : JsonNumber → Float
  | .int n => Float.ofInt n
  | .float x => x

/-- Equality of values: an integer never equals a number with a fraction part or an exponent. -/
def same : JsonNumber → JsonNumber → Bool
  | .int m, .int n => m == n
  | .float x, .float y => x == y
  | _, _ => false

/-- Equality of what two numbers stand for. -/
def alike (a b : JsonNumber) : Bool := a.same b || a.toFloat == b.toFloat

end JsonNumber

namespace Json

/-- The member of a name, of an object. -/
def member? (name : String) : Json → Option Json
  | .object members => Table.find? name members
  | _ => none

mutual
/-- Equality of values. -/
def same : Json → Json → Bool
  | .null, .null => true
  | .bool a, .bool b => a == b
  | .number a, .number b => a.same b
  | .string a, .string b => a == b
  | .array a, .array b => sameItems a b
  | .object a, .object b => sameMembers a b
  | _, _ => false

/-- Equality item by item. -/
def sameItems : List Json → List Json → Bool
  | [], [] => true
  | a :: as, b :: bs => same a b && sameItems as bs
  | _, _ => false

/-- Equality member by member; both lists are sorted. -/
def sameMembers : List (String × Json) → List (String × Json) → Bool
  | [], [] => true
  | (m, a) :: as, (n, b) :: bs => m == n && same a b && sameMembers as bs
  | _, _ => false
end

instance : BEq Json := ⟨same⟩

mutual
/-- Equality of what two values stand for: numbers may be spelt differently. -/
def alike : Json → Json → Bool
  | .null, .null => true
  | .bool a, .bool b => a == b
  | .number a, .number b => a.alike b
  | .string a, .string b => a == b
  | .array a, .array b => alikeItems a b
  | .object a, .object b => a.length == b.length && alikeMembers a b
  | _, _ => false

/-- Item by item. -/
def alikeItems : List Json → List Json → Bool
  | [], [] => true
  | a :: as, b :: bs => alike a b && alikeItems as bs
  | _, _ => false

/-- Every member on the left has an alike member of its name on the right. -/
def alikeMembers : List (String × Json) → List (String × Json) → Bool
  | [], _ => true
  | (n, a) :: as, bs =>
    (match Table.find? n bs with
      | some b => alike a b
      | none => false) && alikeMembers as bs
end

mutual
/-- Does the second value hold what the first one asks for? Objects may have members that were not
    asked for, at any depth; arrays agree item by item. -/
def within : Json → Json → Bool
  | .null, .null => true
  | .bool a, .bool b => a == b
  | .number a, .number b => a.alike b
  | .string a, .string b => a == b
  | .array a, .array b => withinItems a b
  | .object a, .object b => withinMembers a b
  | _, _ => false

/-- Item by item. -/
def withinItems : List Json → List Json → Bool
  | [], [] => true
  | a :: as, b :: bs => within a b && withinItems as bs
  | _, _ => false

/-- Every member that is asked for is there and holds what is asked of it. -/
def withinMembers : List (String × Json) → List (String × Json) → Bool
  | [], _ => true
  | (n, a) :: as, bs =>
    (match Table.find? n bs with
      | some b => within a b
      | none => false) && withinMembers as bs
end

end Json

end Exchange
