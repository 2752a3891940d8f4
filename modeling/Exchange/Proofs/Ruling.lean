import Exchange.Matcher.Check

/-! # When rulings pass

Every expectation is built from a few primitive rulings. What each of them takes to pass is said
here, so that what a matcher accepts is read off the steps it is made of. Of rulings in a row the
first that fails decides.
-/

namespace Exchange

section Bind

variable {ε α β : Type} {step : Except ε α} {next : α → Except ε β}

theorem bind_eq_ok_iff {b : β} :
    step >>= next = .ok b ↔ ∃ a, step = .ok a ∧ next a = .ok b := by
  cases step with
  | error e =>
      constructor
      · intro passed
        cases passed
      · rintro ⟨a, passed, -⟩
        cases passed
  | ok a => simp [bind, Except.bind]

theorem bind_eq_error_iff {e : ε} :
    step >>= next = .error e ↔ step = .error e ∨ ∃ a, step = .ok a ∧ next a = .error e := by
  cases step <;> simp [bind, Except.bind]

theorem map_eq_ok_iff {f : α → β} {b : β} : step.map f = .ok b ↔ ∃ a, step = .ok a ∧ f a = b := by
  cases step <;> simp [Except.map]

theorem mapError_eq_ok_iff {δ : Type} {f : ε → δ} {a : α} :
    step.mapError f = .ok a ↔ step = .ok a := by
  cases step <;> constructor <;> intro passed <;> cases passed
  · rfl
  · rfl

theorem mapError_eq_error_iff {δ : Type} {f : ε → δ} {d : δ} :
    step.mapError f = .error d ↔ ∃ e, step = .error e ∧ f e = d := by
  constructor
  · intro failed
    cases step with
    | error e =>
        cases failed
        exact ⟨e, rfl, rfl⟩
    | ok a => cases failed
  · rintro ⟨e, rfl, rfl⟩
    rfl

end Bind

theorem exists_split_cons_iff {α : Type} {x : α} {rest : List α} {P : List α → α → Prop} :
    (∃ before a after, x :: rest = before ++ a :: after ∧ P before a) ↔
      P [] x ∨ ∃ before a after, rest = before ++ a :: after ∧ P (x :: before) a := by
  constructor
  · rintro ⟨_ | ⟨y, before⟩, a, after, split, holds⟩
    · cases split
      exact .inl holds
    · cases split
      exact .inr ⟨before, a, after, rfl, holds⟩
  · rintro (holds | ⟨before, a, after, rfl, holds⟩)
    · exact ⟨[], x, rest, rfl, holds⟩
    · exact ⟨x :: before, a, after, rfl, holds⟩

namespace Ruling

variable {α : Type} {label expected actual text : String}

@[simp] theorem fail_ne_ok {a : α} : (fail text : Except Failure α) ≠ .ok a := by
  simp [fail]

@[simp] theorem mismatch_ne_ok {a : α} :
    (mismatch label expected actual : Except Failure α) ≠ .ok a := by
  simp [mismatch]

theorem fail_ne_mismatch {found : String} :
    (fail text : Except Failure α) ≠ mismatch label expected found := by
  simp [fail, mismatch]

theorem require_eq_pass_iff {condition : Bool} :
    require condition text = pass ↔ condition = true := by
  unfold require pass
  split <;> simp [*]

theorem satisfies_eq_pass_iff [Shown α] {p : Predicate α} {a : α} :
    satisfies label p a = pass ↔ p.accepts a = true := by
  unfold satisfies pass
  split <;> simp [*]

theorem passes_eq_pass_iff {check : TextPredicate} {a : Option String} :
    passes label check a = pass ↔ check.acceptsOptional a = true := by
  unfold passes pass
  split <;> simp [*]

theorem equal_eq_pass_iff [BEq α] [LawfulBEq α] [Shown α] {a b : α} :
    equal label a b = pass ↔ b = a := by
  unfold equal pass
  split <;> simp_all

theorem equalOptional_eq_pass_iff [BEq α] [LawfulBEq α] [Shown α] {a : α} {o : Option α} :
    equalOptional label a o = pass ↔ o = some a := by
  cases o with
  | none => simp [equalOptional, pass]
  | some b => simpa [equalOptional] using equal_eq_pass_iff

theorem equalJson_eq_pass_iff {e a : Json} : equalJson label e a = pass ↔ (a == e) = true := by
  unfold equalJson pass
  split <;> simp [*]

theorem needed_eq_ok_iff {o : Option α} {a : α} : needed label o = .ok a ↔ o = some a := by
  cases o <;> simp [needed]

theorem needed_ne_mismatch {o : Option α} : needed text o ≠ mismatch label expected actual := by
  cases o <;> simp [needed, mismatch]

theorem equal_ne_fail [BEq α] [Shown α] {a b : α} : equal label a b ≠ fail text := by
  unfold equal
  split
  · exact fail_ne_ok.symm
  · exact fail_ne_mismatch.symm

theorem satisfies_ne_fail [Shown α] {p : Predicate α} {a : α} :
    satisfies label p a ≠ fail text := by
  unfold satisfies
  split
  · exact fail_ne_ok.symm
  · exact fail_ne_mismatch.symm

variable {rule : α → Ruling}

theorem all_eq_pass_iff {items : List α} :
    all rule items = pass ↔ ∀ a ∈ items, rule a = pass := by
  induction items with
  | nil => simp [all]
  | cons a rest ih =>
      rw [all, List.forall_mem_cons]
      cases first : rule a with
      | ok _ => simpa [pass] using ih
      | error f => simp [pass]

theorem all_eq_error_iff {items : List α} {f : Failure} :
    all rule items = .error f ↔ ∃ before a after, items = before ++ a :: after ∧
      (∀ b ∈ before, rule b = pass) ∧ rule a = .error f := by
  induction items with
  | nil => simp [all, pass]
  | cons a rest ih =>
      rw [all, exists_split_cons_iff]
      cases first : rule a with
      | ok _ => simpa [first, pass] using ih
      | error g => simp [first, pass]

theorem all_singleton (a : α) : all rule [a] = rule a := by
  rw [all]
  cases rule a <;> rfl

theorem all_append (items more : List α) :
    all rule (items ++ more) = all rule items >>= fun _ => all rule more := by
  induction items with
  | nil => rfl
  | cons a rest ih =>
      rw [List.cons_append, all, all]
      cases rule a with
      | ok _ => exact ih
      | error f => rfl

end Ruling

end Exchange
