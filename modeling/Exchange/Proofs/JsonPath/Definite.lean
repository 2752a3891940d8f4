import Mathlib
import Exchange.Proofs.JsonPath.Evaluation
import Exchange.Proofs.JsonPath.Scan

/-! # Definite paths take single steps

The scan of a text and the reader of the grammar know nothing of each other: the scan counts
brackets and skips quotes, the reader builds a path. On every text that reads as a path they agree,
since at each production the verdict in front is the verdict behind together with whether what was
read in between is a single step. A path of single steps selects at most one node.
-/

namespace Exchange.JsonPath

variable {cs rest : List Char}

/-- Does a selector select at most one child? -/
def Selector.isSingle : Selector → Bool
  | name _ | index _ => true
  | wildcard | slice .. | filter _ => false

@[simp] theorem single?_child (selector : Selector) :
    (Segment.child [selector]).single?.isSome = selector.isSingle := by
  cases selector <;> rfl

@[simp] theorem single?_children (first second : Selector) (others : List Selector) :
    (Segment.child (first :: second :: others)).single?.isSome = false := by
  cases first <;> rfl

@[simp] theorem single?_descendant (selectors : List Selector) :
    (Segment.descendant selectors).single?.isSome = false := rfl

theorem single?_isSome_iff {segment : Segment} : segment.single?.isSome = true ↔
    (∃ name, segment = .child [.name name]) ∨ ∃ index, segment = .child [.index index] := by
  constructor
  · intro single
    cases segment with
    | descendant selectors => simp at single
    | child selectors =>
        match selectors with
        | [] => cases single
        | [.name name] => exact .inl ⟨name, rfl⟩
        | [.index index] => exact .inr ⟨index, rfl⟩
        | [.wildcard] | [.slice ..] | [.filter _] => cases single
        | _ :: _ :: _ => simp at single
  · rintro (⟨name, rfl⟩ | ⟨index, rfl⟩) <;> rfl

@[simp] theorem single_nil : Path.single [] = true := rfl

@[simp] theorem single_cons (segment : Segment) (path : Path) :
    Path.single (segment :: path) = (segment.single?.isSome && path.single) := rfl

theorem definiteFrom_readIndex? {depth : Nat} {selector : Selector}
    (read : readIndex? cs = some (selector, rest)) :
    definiteFrom (depth + 1) none cs =
      (selector.isSingle && definiteFrom (depth + 1) none rest) := by
  rw [← definiteFrom_takeOptionalInt]
  unfold readIndex? at read
  dsimp only at read
  split at read
  · rename_i more start colon
    have indefinite : definiteFrom (depth + 1) none (takeOptionalInt cs).2 = false := by
      rw [← definiteFrom_skipBlanks, colon]
      exact definiteFrom_colon
    rw [indefinite]
    split at read <;> cases read <;> rfl
  · cases read
    rfl
  · cases read

theorem definiteFrom_readSelector? {depth fuel : Nat} {selector : Selector}
    (read : readSelector? fuel cs = some (selector, rest)) :
    definiteFrom (depth + 1) none cs =
      (selector.isSingle && definiteFrom (depth + 1) none rest) := by
  cases fuel with
  | zero => cases read
  | succ fuel =>
      unfold readSelector? at read
      split at read
      · cases read
        exact definiteFrom_star
      · simp only [Option.map_eq_some_iff, Prod.exists] at read
        obtain ⟨condition, behind, -, same⟩ := read
        cases same
        exact definiteFrom_question
      · simp only [Option.map_eq_some_iff, Prod.exists] at read
        obtain ⟨name, behind, quoted, same⟩ := read
        cases same
        exact definiteFrom_readQuoted? (.inl rfl) quoted
      · simp only [Option.map_eq_some_iff, Prod.exists] at read
        obtain ⟨name, behind, quoted, same⟩ := read
        cases same
        exact definiteFrom_readQuoted? (.inr rfl) quoted
      · exact definiteFrom_readIndex? read

theorem ne_nil_of_readSelectors? {fuel : Nat} {selectors : List Selector}
    (read : readSelectors? fuel cs = some (selectors, rest)) : selectors ≠ [] := by
  cases fuel with
  | zero => cases read
  | succ fuel =>
      simp only [readSelectors?, bind, Option.bind_eq_some_iff, Prod.exists] at read
      obtain ⟨selector, behind, -, read⟩ := read
      split at read
      · cases read
        exact List.cons_ne_nil _ _
      · simp only [Option.bind_eq_some_iff, Prod.exists] at read
        obtain ⟨others, behind, -, same⟩ := read
        cases same
        exact List.cons_ne_nil _ _
      · cases read

/-- A comma behind a selector settles the verdict, so the selectors behind it need not be followed. -/
theorem definiteFrom_readSelectors? {depth fuel : Nat} {selectors : List Selector}
    (read : readSelectors? fuel cs = some (selectors, rest)) :
    definiteFrom (depth + 1) none cs =
      ((Segment.child selectors).single?.isSome && definiteFrom depth none rest) := by
  cases fuel with
  | zero => cases read
  | succ fuel =>
      simp only [readSelectors?, bind, Option.bind_eq_some_iff, Prod.exists] at read
      obtain ⟨selector, behind, first, read⟩ := read
      rw [← definiteFrom_skipBlanks, definiteFrom_readSelector? first, ← definiteFrom_skipBlanks]
      split at read
      · rename_i closing
        cases read
        rw [closing, definiteFrom_closing, single?_child]
      · rename_i comma
        simp only [Option.bind_eq_some_iff, Prod.exists] at read
        obtain ⟨others, behind, more, same⟩ := read
        cases same
        obtain ⟨second, others, rfl⟩ := List.exists_cons_of_ne_nil (ne_nil_of_readSelectors? more)
        rw [comma, definiteFrom_comma, single?_children, Bool.and_false, Bool.false_and]
      · cases read

theorem definiteFrom_readDotted? {depth : Nat} {selectors : List Selector}
    (read : readDotted? cs = some (selectors, rest)) :
    definiteFrom depth none ('.' :: cs) =
      ((Segment.child selectors).single?.isSome && definiteFrom depth none rest) := by
  unfold readDotted? at read
  split at read
  · cases read
    rw [definiteFrom_dot (by simp), definiteFrom_star]
    rfl
  · simp only [Option.map_eq_some_iff, Prod.exists] at read
    obtain ⟨name, behind, taken, same⟩ := read
    cases same
    rw [definiteFrom_dot (head?_of_takeName? taken), definiteFrom_takeName? taken]
    rfl

/-- The induction is on the segments: each leaves the scan outside brackets and quotes, where the
    next one finds it. -/
theorem definiteFrom_readSegments? {fuel : Nat} {path : Path}
    (read : readSegments? fuel cs = some (path, rest)) :
    definiteFrom 0 none cs = (path.single && definiteFrom 0 none rest) := by
  induction fuel generalizing cs path with
  | zero => cases read
  | succ fuel ih =>
      unfold readSegments? at read
      split at read
      · split at read
        all_goals
          simp only [bind, Option.bind_eq_some_iff, Prod.exists] at read
          obtain ⟨selectors, behind, -, path, last, -, same⟩ := read
          cases same
          rw [definiteFrom_dots, single_cons, single?_descendant, Bool.false_and, Bool.false_and]
      · rename_i dot
        simp only [bind, Option.bind_eq_some_iff, Prod.exists] at read
        obtain ⟨selectors, behind, dotted, path, last, more, same⟩ := read
        cases same
        rw [← definiteFrom_skipBlanks, dot, definiteFrom_readDotted? dotted, ih more, single_cons,
          Bool.and_assoc]
      · rename_i bracket
        simp only [bind, Option.bind_eq_some_iff, Prod.exists] at read
        obtain ⟨selectors, behind, bracketed, path, last, more, same⟩ := read
        cases same
        rw [← definiteFrom_skipBlanks, bracket, definiteFrom_opening,
          definiteFrom_readSelectors? bracketed, ih more, single_cons, Bool.and_assoc]
      · cases read
        rw [single_nil, Bool.true_and]

theorem isDefinite_eq_single {text : String} {path : Path} (read : read? text = some path) :
    isDefinite text = path.single := by
  unfold read? at read
  split at read
  · rename_i cs dollar
    simp only [bind, Option.bind_eq_some_iff, Prod.exists] at read
    obtain ⟨path', rest, segments, ended⟩ := read
    split at ended
    · rename_i empty
      cases ended
      rw [isDefinite, dollar, definiteFrom_unmarked (by decide), definiteFrom_readSegments? segments,
        List.isEmpty_iff.mp empty, definiteFrom_nil, Bool.and_true]
    · cases ended
  · cases read

variable {root : Json}

theorem length_select_single {segment : Segment} (single : segment.single?.isSome = true)
    (node : Json) : (segment.select root node).length ≤ 1 := by
  rcases single?_isSome_iff.mp single with ⟨name, rfl⟩ | ⟨index, rfl⟩
  · simp only [Segment.select, selectEach, Selector.select, List.append_nil]
    exact Option.length_toList_le
  · simp only [Segment.select, selectEach, Selector.select, List.append_nil]
    exact Option.length_toList_le

theorem length_follow_single {path : Path} (single : path.single = true) {nodes : List Json}
    (few : nodes.length ≤ 1) : (follow root nodes path).length ≤ 1 := by
  induction path generalizing nodes with
  | nil => simpa only [follow] using few
  | cons segment path ih =>
      rw [single_cons, Bool.and_eq_true] at single
      rw [follow]
      apply ih single.2
      match nodes, few with
      | [], _ => exact Nat.zero_le 1
      | [node], _ =>
          rw [List.flatMap_singleton]
          exact length_select_single single.1 node

theorem length_select_le_one {path : Path} (single : path.single = true) (document : Json) :
    (select path document).length ≤ 1 :=
  length_follow_single single (Nat.le_refl 1)

/-- A text that reads as a path is definite exactly if every segment is a child segment with one
    name or one index. Then at most one node is selected, and the mode that keeps only the first
    match loses nothing but a null, which counts as absent. -/
theorem isDefinite_exact {text : String} {path : Path} (read : read? text = some path) :
    (isDefinite text = true ↔ ∀ segment ∈ path,
      (∃ name, segment = .child [.name name]) ∨ ∃ index, segment = .child [.index index]) ∧
    (isDefinite text = true → ∀ document, (select path document).length ≤ 1 ∧
      ∀ namespaces, ∃ q found, compile ⟨text, namespaces⟩ = .ok q ∧ q.path = path ∧
        Query.Engine.naturalMode q = .singleNode ∧
        Query.Engine.evaluate q document .singleNode = .ok found ∧
        found.nodeList = (select path document).filter fun j => !j.isNull) := by
  rw [isDefinite_eq_single read]
  constructor
  · simp only [Path.single, List.all_eq_true, single?_isSome_iff]
  · intro single document
    have few := length_select_le_one single document
    refine ⟨few, fun namespaces => ?_⟩
    let q : JsonPathQuery := ⟨⟨text, namespaces⟩, path, isDefinite text⟩
    have natural : Query.Engine.naturalMode q = .singleNode :=
      if_pos ((isDefinite_eq_single read).trans single)
    exact ⟨q, _, compile_eq_ok_iff.mpr ⟨read, rfl⟩, rfl, natural, evaluate_singleNode q document,
      nodeList_firstFound few⟩

/-- Every mark within the quotes, both quotes among them, and blanks wherever they may stand. -/
theorem isDefinite_exact_quoted_marks :
    read? "$ [ '*?,:..[]\\'\"' ] .b [0]" =
        some [.child [.name "*?,:..[]'\""], .child [.name "b"], .child [.index 0]] ∧
      isDefinite "$ [ '*?,:..[]\\'\"' ] .b [0]" = true ∧
      ∀ document, (select [.child [.name "*?,:..[]'\""], .child [.name "b"], .child [.index 0]]
        document).length ≤ 1 := by
  have read : read? "$ [ '*?,:..[]\\'\"' ] .b [0]" =
      some [.child [.name "*?,:..[]'\""], .child [.name "b"], .child [.index 0]] := by cbv
  obtain ⟨single, atMostOne⟩ := isDefinite_exact read
  have definite := single.mpr (by simp)
  exact ⟨read, definite, fun document => (atMostOne definite document).1⟩

end Exchange.JsonPath
