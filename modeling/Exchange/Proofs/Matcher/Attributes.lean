import Mathlib
import Exchange.Proofs.Data.Table
import Exchange.Proofs.Matcher.Run
import Exchange.Proofs.Ruling

/-! # Attributes and their errors

Expectations about the model and the flash attributes can say one thing in several ways: of all
binding results together or of each, of what is there or of what is missing, of a list of names or
of one name after the other. Ways that say the same pass together.
-/

namespace Exchange

namespace BindingResult

theorem hasErrors_iff {r : BindingResult} : r.hasErrors = true ↔ 0 < r.errorCount :=
  decide_eq_true_iff

end BindingResult

namespace ModelAndView

variable {m : ModelAndView}

theorem sorted_bindings_build (steps : List Step) : (build steps).bindings.Sorted := by
  have taken (m : ModelAndView) (sorted : m.bindings.Sorted) :
      (steps.foldl apply m).bindings.Sorted := by
    induction steps generalizing m with
    | nil => exact sorted
    | cons step steps ih =>
        apply ih
        cases step with
        | binding name result => exact sorted.insert name result
        | _ => exact sorted
  exact taken {} List.Pairwise.nil

/-- The number of errors under a name. -/
def errorsOf (m : ModelAndView) (name : String) : Nat :=
  (m.bindings.find? name).elim 0 BindingResult.errorCount

theorem errorCount_eq_sum (m : ModelAndView) :
    m.errorCount = (m.bindings.map fun entry => entry.2.errorCount).sum := by
  have counted (entries : Table BindingResult) (n : Nat) :
      entries.foldl (fun n entry => n + entry.2.errorCount) n =
        n + (entries.map fun entry => entry.2.errorCount).sum := by
    induction entries generalizing n with
    | nil => simp
    | cons entry entries ih =>
        rw [List.foldl_cons, ih, List.map_cons, List.sum_cons, Nat.add_assoc]
  exact (counted m.bindings 0).trans (Nat.zero_add _)

theorem errorCount_eq_sum_errorsOf (sorted : m.bindings.Sorted) :
    m.errorCount = ∑ n ∈ m.bindings.names.toFinset, m.errorsOf n := by
  rw [errorCount_eq_sum, List.sum_toFinset _ sorted.nodup, Table.names, List.map_map]
  refine congrArg List.sum (List.map_congr_left fun entry listed => ?_)
  show _ = (m.bindings.find? entry.1).elim 0 BindingResult.errorCount
  rw [Table.find?_of_mem sorted.nodup listed]
  rfl

theorem errorCount_pos_iff :
    0 < m.errorCount ↔ ∃ entry ∈ m.bindings, entry.2.hasErrors = true := by
  rw [errorCount_eq_sum, Nat.pos_iff_ne_zero, ne_eq, List.sum_eq_zero_iff, ← not_iff_not]
  simp [BindingResult.hasErrors_iff]

end ModelAndView

namespace ModelMatcher

variable {m : ModelAndView} {name : String} {k : Nat}

theorem neededResult_eq_ok_iff {result : BindingResult} :
    neededResult m name = .ok result ↔ m.bindings.find? name = some result := by
  unfold neededResult
  split <;> simp [*]

theorem hasErrors_eq_pass_iff : ruleOf m .hasErrors = Ruling.pass ↔ 0 < m.errorCount :=
  Ruling.require_eq_pass_iff.trans decide_eq_true_iff

theorem hasNoErrors_eq_pass_iff : ruleOf m .hasNoErrors = Ruling.pass ↔
    ∀ entry ∈ m.bindings, entry.2.hasErrors = false := by
  rw [ruleOf]
  split
  · rename_i found
    have wrong := List.find?_some found
    simp only [Ruling.pass, Ruling.fail_ne_ok, false_iff]
    intro clean
    exact absurd wrong (by simp [clean _ (List.mem_of_find?_eq_some found)])
  · rename_i none
    simpa using none

theorem errorCount_eq_pass_iff : ruleOf m (.errorCount k) = Ruling.pass ↔ m.errorCount = k :=
  Ruling.equal_eq_pass_iff

theorem withErrors_eq_pass_iff : withErrors m name = Ruling.pass ↔
    ∃ result, m.bindings.find? name = some result ∧ result.hasErrors = true := by
  simp only [withErrors, Ruling.pass, bind_eq_ok_iff, neededResult_eq_ok_iff]
  exact exists_congr fun result => and_congr_right fun _ => Ruling.require_eq_pass_iff

theorem haveErrors_singleton : ruleOf m (.attributesHaveErrors [name]) = withErrors m name :=
  Ruling.all_singleton name

theorem attributeErrorCount_eq_pass_iff : ruleOf m (.attributeErrorCount name k) = Ruling.pass ↔
    ∃ result, m.bindings.find? name = some result ∧ result.errorCount = k := by
  simp only [ruleOf, Ruling.pass, bind_eq_ok_iff, neededResult_eq_ok_iff]
  exact exists_congr fun result => and_congr_right fun _ => Ruling.equal_eq_pass_iff

theorem withErrors_of_fields {fields : List String}
    (passed : ruleOf m (.attributeHasFieldErrors name fields) = Ruling.pass) :
    withErrors m name = Ruling.pass := by
  obtain ⟨result, -, passed⟩ := bind_eq_ok_iff.mp passed
  obtain ⟨⟨⟩, errors, -⟩ := bind_eq_ok_iff.mp passed
  exact errors

end ModelMatcher

theorem isSome_presentAttribute? (name : String) (attributes : Table Json) :
    (presentAttribute? name attributes).isSome = !(attributeOrNull name attributes == .null) := by
  unfold presentAttribute? attributeOrNull
  cases attributes.find? name with
  | none => rfl
  | some j =>
      rw [Option.filter_some, Option.getD_some, bne]
      cases j == .null <;> rfl

/-- An expectation holds of an outcome. -/
abbrev Outcome.Accepts (o : Outcome) (m : Matcher) : Prop := m.verify o = Ruling.pass

/-- A matcher on a list of names rules as on one name after the other: all of them have to pass, and
    the first that does not is the failure. -/
structure NameByName (o : Outcome) (of : List String → Matcher) : Prop where
  passes : ∀ names, o.Accepts (of names) ↔ ∀ n ∈ names, o.Accepts (of [n])
  fails : ∀ names f, (of names).verify o = .error f ↔
    ∃ before n after, names = before ++ n :: after ∧
      (∀ b ∈ before, o.Accepts (of [b])) ∧ (of [n]).verify o = .error f

theorem nameByName_of_all {o : Outcome} {of : List String → Matcher} {rule : String → Ruling}
    (each : ∀ names, (of names).verify o = Ruling.all rule names) : NameByName o of where
  passes := by
    intro names
    simp only [Outcome.Accepts, each, Ruling.all_singleton]
    exact Ruling.all_eq_pass_iff
  fails := by
    intro names f
    simp only [Outcome.Accepts, each, Ruling.all_singleton]
    exact Ruling.all_eq_error_iff

/-- What expectations about errors say together of a model and view. -/
structure ErrorsAgree (o : Outcome) (m : ModelAndView) : Prop where
  opposite : o.Accepts (.model .hasErrors) ↔ ¬o.Accepts (.model .hasNoErrors)
  noneCounted : o.Accepts (.model .hasNoErrors) ↔ o.Accepts (.model (.errorCount 0))
  someName : o.Accepts (.model .hasErrors) ↔ ∃ n, o.Accepts (.model (.attributesHaveErrors [n]))
  ofFields : ∀ n fields, o.Accepts (.model (.attributeHasFieldErrors n fields)) →
    o.Accepts (.model (.attributesHaveErrors [n]))
  /-- The names with a binding result are those for which a count is accepted, and only one is. -/
  counted : ∀ n, n ∈ m.bindings.names ↔ ∃! k, o.Accepts (.model (.attributeErrorCount n k))
  total : ∀ counts : String → Nat,
    (∀ n ∈ m.bindings.names, o.Accepts (.model (.attributeErrorCount n (counts n)))) →
    ∀ k, o.Accepts (.model (.errorCount k)) ↔ k = ∑ n ∈ m.bindings.names.toFinset, counts n

section

variable {o : Outcome} {m : ModelAndView}

theorem accepts_model_iff (made : o.modelAndView = some m) (matcher : ModelMatcher) :
    o.Accepts (.model matcher) ↔ matcher.ruleOf m = Ruling.pass := by
  rw [Outcome.Accepts, Matcher.verify_eq, made]
  rfl

theorem mem_names_bindings_iff (sorted : m.bindings.Sorted) {n : String} :
    n ∈ m.bindings.names ↔ ∃ result, m.bindings.find? n = some result := by
  simp only [Table.names, List.mem_map, Prod.exists, exists_and_right, exists_eq_right,
    Table.mem_iff_find? sorted]

/-- A sum of counts is the number of errors, where each count is accepted for its name. -/
theorem errorCount_eq_sum_of_accepted (made : o.modelAndView = some m)
    (sorted : m.bindings.Sorted) {counts : String → Nat}
    (accepted : ∀ n ∈ m.bindings.names, o.Accepts (.model (.attributeErrorCount n (counts n)))) :
    m.errorCount = ∑ n ∈ m.bindings.names.toFinset, counts n := by
  rw [ModelAndView.errorCount_eq_sum_errorsOf sorted]
  refine Finset.sum_congr rfl fun n named => ?_
  obtain ⟨result, found, count⟩ := ModelMatcher.attributeErrorCount_eq_pass_iff.mp
    ((accepts_model_iff made _).mp (accepted n (List.mem_toFinset.mp named)))
  rw [ModelAndView.errorsOf, found]
  exact count

theorem errorsAgree (made : o.modelAndView = some m) (sorted : m.bindings.Sorted) :
    ErrorsAgree o m := by
  have clean : (∀ entry ∈ m.bindings, entry.2.hasErrors = false) ↔ m.errorCount = 0 := by
    rw [← not_iff_not, ← ne_eq, ← Nat.pos_iff_ne_zero, ModelAndView.errorCount_pos_iff]
    simp
  exact {
    opposite := by
      rw [accepts_model_iff made, accepts_model_iff made, ModelMatcher.hasErrors_eq_pass_iff,
        ModelMatcher.hasNoErrors_eq_pass_iff, clean]
      exact Nat.pos_iff_ne_zero
    noneCounted := by
      rw [accepts_model_iff made, accepts_model_iff made, ModelMatcher.hasNoErrors_eq_pass_iff,
        ModelMatcher.errorCount_eq_pass_iff, clean]
    someName := by
      simp only [accepts_model_iff made, ModelMatcher.hasErrors_eq_pass_iff,
        ModelMatcher.haveErrors_singleton, ModelMatcher.withErrors_eq_pass_iff,
        ModelAndView.errorCount_pos_iff, Prod.exists, Table.mem_iff_find? sorted]
    ofFields := by
      intro n fields passed
      rw [accepts_model_iff made] at passed ⊢
      rw [ModelMatcher.haveErrors_singleton]
      exact ModelMatcher.withErrors_of_fields passed
    counted := by
      intro n
      simp only [accepts_model_iff made, ModelMatcher.attributeErrorCount_eq_pass_iff,
        mem_names_bindings_iff sorted]
      constructor
      · rintro ⟨result, found⟩
        refine ⟨result.errorCount, ⟨result, found, rfl⟩, ?_⟩
        rintro k ⟨other, found', rfl⟩
        cases found.symm.trans found'
        rfl
      · rintro ⟨k, ⟨result, found, -⟩, -⟩
        exact ⟨result, found⟩
    total := by
      intro counts accepted k
      rw [accepts_model_iff made, ModelMatcher.errorCount_eq_pass_iff,
        errorCount_eq_sum_of_accepted made sorted accepted]
      exact eq_comm }

theorem present_iff_absent_and_null (made : o.modelAndView = some m) (n : String) :
    (o.Accepts (.model (.attributesExist [n])) ↔
      ¬o.Accepts (.model (.attributesDoNotExist [n]))) ∧
    (o.Accepts (.model (.attributesExist [n])) ↔
      ¬o.Accepts (.model (.attributeEquals n .null))) := by
  simp only [accepts_model_iff made, ModelMatcher.ruleOf, Ruling.all_singleton,
    Ruling.require_eq_pass_iff, Ruling.equalJson_eq_pass_iff]
  constructor
  · rw [← Option.not_isSome, Bool.not_eq_true', Bool.not_eq_false]
  · rw [isSome_presentAttribute?, Bool.not_eq_true', Bool.not_eq_true]

theorem flash_present_iff_not_null (n : String) : o.Accepts (.flash (.attributesExist [n])) ↔
    ¬o.Accepts (.flash (.attributeEquals n .null)) := by
  simp only [Outcome.Accepts, Matcher.verify_eq, FlashMatcher.rule, Ruling.all_singleton,
    Ruling.require_eq_pass_iff, Ruling.equalJson_eq_pass_iff]
  rw [isSome_presentAttribute?, Bool.not_eq_true', Bool.not_eq_true]

end

/-- What expectations about attributes and their errors say of one outcome fits together: about the
    model where there is one, whose binding results stand under a name each, and about the flash
    attributes also where there are none. -/
theorem attributes_agree (o : Outcome) :
    (∀ m, o.modelAndView = some m → m.bindings.Sorted → ErrorsAgree o m) ∧
    (∀ m, o.modelAndView = some m →
      (∀ n, (o.Accepts (.model (.attributesExist [n])) ↔
          ¬o.Accepts (.model (.attributesDoNotExist [n]))) ∧
        (o.Accepts (.model (.attributesExist [n])) ↔
          ¬o.Accepts (.model (.attributeEquals n .null)))) ∧
      NameByName o (fun names => .model (.attributesExist names)) ∧
      NameByName o (fun names => .model (.attributesDoNotExist names)) ∧
      NameByName o (fun names => .model (.attributesHaveErrors names)) ∧
      NameByName o (fun names => .model (.attributesHaveNoErrors names))) ∧
    (∀ n, o.Accepts (.flash (.attributesExist [n])) ↔
      ¬o.Accepts (.flash (.attributeEquals n .null))) ∧
    NameByName o (fun names => .flash (.attributesExist names)) := by
  refine ⟨fun m made sorted => errorsAgree made sorted, ?_, flash_present_iff_not_null, ?_⟩
  · intro m made
    have ruled (matcher : ModelMatcher) : Matcher.verify o (.model matcher) = matcher.ruleOf m := by
      rw [Matcher.verify_eq, made]
      rfl
    refine ⟨present_iff_absent_and_null made, ?_, ?_, ?_, ?_⟩
    · exact nameByName_of_all fun names => ruled _
    · exact nameByName_of_all fun names => ruled _
    · exact nameByName_of_all fun names => ruled _
    · exact nameByName_of_all fun names => ruled _
  · exact nameByName_of_all fun names => Matcher.verify_eq o _

/-- A model with two binding results, one of them with two errors, and no flash attributes. -/
theorem attributes_agree_two_results :
    let made := ModelAndView.build
      [.attribute "age" .null, .binding "order" (.ofErrors [.general "late", .field "sum" "high"]),
        .binding "age" {}]
    let o : Outcome := { modelAndView := some made }
    o.modelAndView = some made ∧ made.bindings.Sorted ∧
      o.Accepts (.model .hasErrors) ∧ ¬o.Accepts (.model .hasNoErrors) ∧
      o.Accepts (.model (.errorCount 2)) ∧
      ¬o.Accepts (.model (.attributesExist ["age"])) ∧
      o.Accepts (.model (.attributeEquals "age" .null)) ∧
      o.Accepts (.flash (.attributeEquals "age" .null)) := by
  intro made o
  have sorted : made.bindings.Sorted := ModelAndView.sorted_bindings_build _
  obtain ⟨errors, presence, flash, -⟩ := attributes_agree o
  have agree : ErrorsAgree o made := errors made rfl sorted
  obtain ⟨null, -⟩ := presence made rfl
  have two : o.Accepts (.model (.attributesHaveErrors ["order"])) := by decide +kernel
  have some : o.Accepts (.model .hasErrors) := agree.someName.mpr ⟨"order", two⟩
  have missing : ¬o.Accepts (.model (.attributesExist ["age"])) := by decide +kernel
  have counts : ∀ n ∈ made.bindings.names,
      o.Accepts (.model (.attributeErrorCount n (if n = "order" then 2 else 0))) := by decide +kernel
  refine ⟨rfl, sorted, some, agree.opposite.mp some, (agree.total _ counts 2).mpr ?_, missing, ?_, ?_⟩
  · decide +kernel
  · exact not_not.mp (mt (null "age").2.mpr missing)
  · exact not_not.mp (mt (flash "age").mpr (by decide +kernel))

end Exchange
