import Mathlib
import Exchange.Matcher.Content
import Exchange.Proofs.Json.Order
import Exchange.Proofs.Query.Question

/-! # What a value contains

A value extends another when it has members that the other does not have, in any objects at any
depth. What is within a value is within what extends it, and what a value extends is within
whatever that value is in. So an expectation of JSON content that holds goes on to hold when the
body gets more members or the expected value fewer.
-/

namespace Exchange

namespace Json

variable {a b c x y : Json}

/-- A member is added to an object somewhere in a value. -/
inductive Adds : Json → Json → Prop where
  | here {before after : List (String × Json)} {name : String} {value : Json}
      (fresh : Table.find? name (before ++ after) = none) :
      Adds (.object (before ++ after)) (.object (before ++ (name, value) :: after))
  | item {before after : List Json} {x y : Json} (added : Adds x y) :
      Adds (.array (before ++ x :: after)) (.array (before ++ y :: after))
  | member {before after : List (String × Json)} {name : String} {x y : Json} (added : Adds x y) :
      Adds (.object (before ++ (name, x) :: after)) (.object (before ++ (name, y) :: after))

/-- Members are added to a value, one after the other. -/
abbrev Extends : Json → Json → Prop := Relation.ReflTransGen Adds

theorem forall₂_replaced {R : Json → Json → Prop} {before after items : List Json}
    (related : List.Forall₂ R items (before ++ x :: after)) (step : ∀ item, R item x → R item y) :
    List.Forall₂ R items (before ++ y :: after) := by
  induction before generalizing items with
  | nil =>
      cases related with
      | cons first rest => exact .cons (step _ first) rest
  | cons b before ih =>
      cases related with
      | cons first rest => exact .cons first (ih rest)

theorem within_of_adds (added : Adds a b) (inside : c.within a = true) : c.within b = true := by
  induction added generalizing c with
  | here fresh =>
      cases c with
      | object members =>
          simp only [within, withinMembers_iff] at inside ⊢
          intro entry listed
          obtain ⟨value, found, related⟩ := inside entry listed
          exact ⟨value, Table.find?_of_added fresh found, related⟩
      | _ => cases inside
  | item _ ih =>
      cases c with
      | array items =>
          simp only [within, withinItems_iff] at inside ⊢
          exact forall₂_replaced inside fun _ => ih
      | _ => cases inside
  | member _ ih =>
      cases c with
      | object members =>
          simp only [within, withinMembers_iff] at inside ⊢
          intro entry listed
          obtain ⟨value, found, related⟩ := inside entry listed
          rcases Table.find?_of_replaced found with kept | ⟨rfl, replaced⟩
          · exact ⟨value, kept, related⟩
          · exact ⟨_, replaced, ih related⟩
      | _ => cases inside

theorem within_of_adds_left (added : Adds a b) (inside : b.within c = true) :
    a.within c = true := by
  induction added generalizing c with
  | here fresh =>
      obtain ⟨others, rfl, found⟩ := within_object_iff.mp inside
      refine within_object_iff.mpr ⟨others, rfl, fun entry listed => found entry ?_⟩
      rcases List.mem_append.mp listed with earlier | later
      · exact List.mem_append_left _ earlier
      · exact List.mem_append_right _ (List.mem_cons_of_mem _ later)
  | item _ ih =>
      obtain ⟨others, rfl, itemwise⟩ := within_array_iff.mp inside
      refine within_array_iff.mpr ⟨others, rfl, ?_⟩
      exact (forall₂_replaced itemwise.flip fun _ => ih).flip
  | @member before after name x y _ ih =>
      obtain ⟨others, rfl, found⟩ := within_object_iff.mp inside
      refine within_object_iff.mpr ⟨others, rfl, fun entry listed => ?_⟩
      rcases List.mem_append.mp listed with earlier | here
      · exact found entry (List.mem_append_left _ earlier)
      · rcases List.mem_cons.mp here with rfl | later
        · obtain ⟨value, same, related⟩ := found (name, y) (by simp)
          exact ⟨value, same, ih related⟩
        · exact found entry (List.mem_append_right _ (List.mem_cons_of_mem _ later))

theorem within_of_extends (extended : Extends a b) (inside : c.within a = true) :
    c.within b = true := by
  induction extended with
  | refl => exact inside
  | tail _ added ih => exact within_of_adds added ih

theorem within_of_extends_left (extended : Extends a b) (inside : b.within c = true) :
    a.within c = true := by
  induction extended using Relation.ReflTransGen.head_induction_on with
  | refl => exact inside
  | head added _ ih => exact within_of_adds_left added ih

/-- How values stand to each other by what they contain. -/
structure Containment (a b c : Json) : Prop where
  refl : a.within a = true
  trans : b.within a = true → c.within b = true → c.within a = true
  /-- Values that contain each other are those that are alike. -/
  both : b.within a = true ∧ a.within b = true ↔ a.alike b = true
  /-- Equal values contain each other. -/
  equal : a.same b = true → b.within a = true ∧ a.within b = true ∧ a.alike b = true

end Json

namespace ContentMatcher

open Question (ReadsAs)

variable {r : Response} {actual expected : Json}

theorem json_eq_pass_iff (body : ReadsAs JsonPathQuery r actual) :
    rule r (.json expected) = Ruling.pass ↔ expected.within actual = true := by
  obtain ⟨content, decoded, read⟩ := body
  have document : JsonPath.readDocument content = .ok actual := read
  simp only [rule, decoded, document, bind, Except.bind]
  split
  · simp [*]
  · simp [Ruling.pass, *]

/-- An expectation of JSON content that holds goes on to hold when members are added to the body or
    taken from the expected value. -/
theorem json_passes_of_extends {r' : Response} {actual' expected' : Json}
    (body : ReadsAs JsonPathQuery r actual) (body' : ReadsAs JsonPathQuery r' actual')
    (more : Json.Extends actual actual') (fewer : Json.Extends expected' expected)
    (passed : rule r (.json expected) = Ruling.pass) :
    rule r' (.json expected') = Ruling.pass := by
  rw [json_eq_pass_iff body] at passed
  rw [json_eq_pass_iff body']
  exact Json.within_of_extends more (Json.within_of_extends_left fewer passed)

end ContentMatcher

namespace Json

open Question (ReadsAs)

/-- Lenient comparison orders well-formed values by what they contain, so that a passing
    expectation of JSON content survives members that are added to the body or taken from the
    expected value. Every document that is read is well formed. -/
theorem containment_order (sound : a.WellFormed) (sound' : b.WellFormed) (sound'' : c.WellFormed) :
    Containment a b c ∧
    (∀ (r r' : Response) (actual actual' expected expected' : Json),
      ReadsAs JsonPathQuery r actual → ReadsAs JsonPathQuery r' actual' →
      Extends actual actual' → Extends expected' expected →
      ContentMatcher.rule r (.json expected) = Ruling.pass →
      ContentMatcher.rule r' (.json expected') = Ruling.pass) ∧
    ∀ content j, JsonPath.readDocument content = .ok j → j.WellFormed := by
  refine ⟨⟨within_refl sound, ?trans, ?both, ?equal⟩, ?content,
    fun _ _ => wellFormed_of_readDocument⟩
  case trans =>
    intro first second
    exact within_trans sound'' second first
  case both =>
    rw [alike_iff_within sound sound', and_comm]
  case equal =>
    intro same
    have alike := alike_of_same sound sound' same
    obtain ⟨inside, outside⟩ := (alike_iff_within sound sound').mp alike
    exact ⟨outside, inside, alike⟩
  case content =>
    intro r r' actual actual' expected expected' body body' more fewer passed
    exact ContentMatcher.json_passes_of_extends body body' more fewer passed

/-- A member inside a list is added to the body, and another one taken from the expected value. -/
theorem containment_order_nested : ∃ (r r' : Response) (wide narrow bare : Json),
    Containment wide narrow bare ∧ Adds narrow wide ∧ Adds bare narrow ∧
      ReadsAs JsonPathQuery r narrow ∧ ReadsAs JsonPathQuery r' wide ∧
      ContentMatcher.rule r (.json narrow) = Ruling.pass ∧
      ContentMatcher.rule r' (.json bare) = Ruling.pass := by
  let bare : Json := .array [.object []]
  let narrow : Json := .array [.object [("k", .null)]]
  let wide : Json := .array [.object [("k", .null), ("z", .string "")]]
  let r : Response := { body := Text.Utf8.encode "[\x7b\"k\":null\x7d]" }
  let r' : Response := { body := Text.Utf8.encode "[\x7b\"k\":null,\"z\":\"\"\x7d]" }
  have readBare : JsonPath.readDocument "[\x7b\x7d]" = .ok bare := by cbv
  have readNarrow : JsonPath.readDocument "[\x7b\"k\":null\x7d]" = .ok narrow := by cbv
  have readWide : JsonPath.readDocument "[\x7b\"k\":null,\"z\":\"\"\x7d]" = .ok wide := by cbv
  have body : ReadsAs JsonPathQuery r narrow := ⟨_, by cbv, readNarrow⟩
  have body' : ReadsAs JsonPathQuery r' wide := ⟨_, by cbv, readWide⟩
  have more : Adds narrow wide := @Adds.item [] [] _ _ (@Adds.here [("k", _)] [] "z" _ rfl)
  have fewer : Adds bare narrow := @Adds.item [] [] _ _ (@Adds.here [] [] "k" _ rfl)
  obtain ⟨order, content, -⟩ := containment_order (wellFormed_of_readDocument readWide)
    (wellFormed_of_readDocument readNarrow) (wellFormed_of_readDocument readBare)
  have passed : ContentMatcher.rule r (.json narrow) = Ruling.pass :=
    (ContentMatcher.json_eq_pass_iff body).mpr (within_refl (wellFormed_of_readDocument readNarrow))
  exact ⟨r, r', wide, narrow, bare, order, more, fewer, body, body', passed,
    content r r' narrow wide narrow bare body body' (.single more) (.single fewer) passed⟩

end Json

end Exchange
