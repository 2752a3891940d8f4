import Exchange.Matcher.Basic

/-! # Runs one after another

A list of runs goes on up to the first that fails, which still counts, and leaves behind what these
runs leave behind, one after the other. `Run.Course` says how far a list is run. A matcher is run by
its hook alone and leaves nothing behind.
-/

namespace Exchange

/-- The effects are those of some runs, one after the other. -/
structure Effects.Of (e : Effects) (runs : List Run) : Prop where
  calls : e.calls = runs.flatMap fun run => run.effects.calls
  printed : e.printed = String.join (runs.map fun run => run.effects.printed)
  logged : e.logged = runs.flatMap fun run => run.effects.logged
  notes : e.notes = runs.flatMap fun run => run.effects.notes

namespace Effects

variable {a b : Effects}

@[simp] theorem append_calls : (a ++ b).calls = a.calls ++ b.calls := rfl

@[simp] theorem append_printed : (a ++ b).printed = a.printed ++ b.printed := rfl

@[simp] theorem append_logged : (a ++ b).logged = a.logged ++ b.logged := rfl

@[simp] theorem append_notes : (a ++ b).notes = a.notes ++ b.notes := rfl

theorem Of.nil : none.Of [] := ⟨rfl, rfl, rfl, rfl⟩

theorem Of.cons (r : Run) {runs : List Run} (later : b.Of runs) :
    (r.effects ++ b).Of (r :: runs) where
  calls := by simp [later.calls]
  printed := by simp [later.printed]
  logged := by simp [later.logged]
  notes := by simp [later.notes]

theorem Of.unique {runs : List Run} (first : a.Of runs) (second : b.Of runs) : a = b := by
  apply ext
  · exact first.calls.trans second.calls.symm
  · exact first.printed.trans second.printed.symm
  · exact first.logged.trans second.logged.symm
  · exact first.notes.trans second.notes.symm

theorem Of.singleton (r : Run) : r.effects.Of [r] := by
  have alone := Of.cons r Of.nil
  rwa [append_none] at alone

end Effects

namespace Run

variable {first : Run} {second third : Unit → Run} {f : Failure}

@[ext] theorem ext {r s : Run} (effects : r.effects = s.effects) (ruling : r.ruling = s.ruling) :
    r = s := by
  cases r
  cases s
  simp_all

theorem ruling_cases (r : Run) : r.ruling = Ruling.pass ∨ ∃ f, r.ruling = .error f := by
  cases ruled : r.ruling with
  | ok => exact .inl rfl
  | error f => exact .inr ⟨f, rfl⟩

theorem andThen_of_pass (passed : first.ruling = Ruling.pass) :
    first.andThen second = ⟨first.effects ++ (second ()).effects, (second ()).ruling⟩ := by
  rw [andThen, passed]
  rfl

theorem andThen_of_error (failed : first.ruling = .error f) : first.andThen second = first := by
  rw [andThen, failed]
  exact ext rfl failed.symm

@[simp] theorem pass_andThen : pass.andThen second = second () := by
  rw [andThen_of_pass rfl]
  exact ext (Effects.none_append _) rfl

@[simp] theorem andThen_pass : (first.andThen fun _ => pass) = first := by
  rcases first.ruling_cases with passed | ⟨f, failed⟩
  · rw [andThen_of_pass passed]
    exact ext (Effects.append_none _) passed.symm
  · exact andThen_of_error failed

theorem andThen_assoc : (first.andThen second).andThen third =
    first.andThen fun _ => (second ()).andThen third := by
  rcases first.ruling_cases with passed | ⟨f, failed⟩
  · rw [andThen_of_pass passed, andThen_of_pass passed]
    cases second () with
    | mk effects ruling =>
        cases ruling with
        | ok => exact ext (Effects.append_assoc ..) rfl
        | error f => rfl
  · rw [andThen_of_error failed, andThen_of_error failed, andThen_of_error failed]

section All

variable {α β : Type} {run : α → Run}

@[simp] theorem all_nil : all run [] = pass := rfl

@[simp] theorem all_cons (a : α) (rest : List α) :
    all run (a :: rest) = (run a).andThen fun _ => all run rest := rfl

theorem all_append (xs ys : List α) :
    all run (xs ++ ys) = (all run xs).andThen fun _ => all run ys := by
  induction xs with
  | nil => simp
  | cons x rest ih => simp [ih, andThen_assoc]

theorem all_singleton (a : α) : all run [a] = run a := andThen_pass

theorem all_congr {other : α → Run} {xs : List α} (alike : ∀ x ∈ xs, run x = other x) :
    all run xs = all other xs := by
  induction xs with
  | nil => rfl
  | cons x rest ih =>
      obtain ⟨first, later⟩ := List.forall_mem_cons.mp alike
      rw [all, all, first, ih later]

theorem all_map (g : β → α) (xs : List β) : all run (xs.map g) = all (fun x => run (g x)) xs := by
  induction xs with
  | nil => rfl
  | cons x rest ih => simp [ih]

theorem all_flatMap (parts : β → List α) (xs : List β) :
    all run (xs.flatMap parts) = all (fun x => all run (parts x)) xs := by
  induction xs with
  | nil => rfl
  | cons x rest ih => simp [all_append, ih]

/-- The items of a list that are run, and the ruling on the list: either all pass, or the first that
    does not is the last that is run, and its failure is the ruling. -/
inductive Course (run : α → Run) : (items ran : List α) → Ruling → Prop where
  | passed {items : List α} (pass : ∀ a ∈ items, (run a).ruling = Ruling.pass) :
      Course run items items Ruling.pass
  | failed (before : List α) {a : α} {after : List α} {f : Failure}
      (pass : ∀ b ∈ before, (run b).ruling = Ruling.pass) (failure : (run a).ruling = .error f) :
      Course run (before ++ a :: after) (before ++ [a]) (.error f)

theorem Course.cons {a : α} {items ran : List α} {ruling : Ruling}
    (first : (run a).ruling = Ruling.pass) (rest : Course run items ran ruling) :
    Course run (a :: items) (a :: ran) ruling := by
  cases rest with
  | passed pass => exact .passed (List.forall_mem_cons.mpr ⟨first, pass⟩)
  | failed before pass failure =>
      exact .failed (a :: before) (List.forall_mem_cons.mpr ⟨first, pass⟩) failure

/-- A list is run as far as it goes, and leaves behind what the items that are run leave behind. -/
theorem exists_course (run : α → Run) (items : List α) :
    ∃ ran, Course run items ran (all run items).ruling ∧
      (all run items).effects.Of (ran.map run) := by
  induction items with
  | nil => exact ⟨[], .passed (by simp), .nil⟩
  | cons a rest ih =>
      rw [all_cons]
      rcases (run a).ruling_cases with passed | ⟨f, failed⟩
      · obtain ⟨ran, course, effects⟩ := ih
        rw [andThen_of_pass passed]
        exact ⟨a :: ran, course.cons passed, effects.cons _⟩
      · rw [andThen_of_error failed, failed]
        exact ⟨[a], .failed [] (by simp) failed, .singleton _⟩

end All

end Run

namespace FacetHooks

theorem run_singleton (o : Outcome) (hook : Hook) : (ofList [hook]).run o = hook.run o := by
  have alone : (ofList [hook]).inOrder = [hook] := by
    cases hook <;> rfl
  rw [run, alone, Run.all_singleton]

end FacetHooks

namespace Matcher

theorem run_hooks (o : Outcome) (m : Matcher) : m.hooks.run o = Run.of (m.verify o) := by
  rw [verify, hooks, FacetHooks.run_singleton]
  cases m <;> rfl

/-- A matcher rules as its expectation does of the facet that it is about. -/
theorem verify_eq (o : Outcome) (m : Matcher) : m.verify o = match m with
    | status m => m.rule o.response
    | content m => m.rule o.response
    | header name m => m.rule name o.response
    | cookie name m => m.rule name o.response
    | redirectedUrl url => Ruling.equalOptional "Redirected URL" url o.response.redirectedUrl
    | forwardedUrl url => Ruling.equalOptional "Forwarded URL" url o.response.forwardedUrl
    | jsonPath q question => question.rule q o.response
    | jsonValue q question => question.rule q o.response
    | xpath q question => question.rule q o.response
    | handler m => m.rule o.handler
    | model m => m.rule o.modelAndView
    | view m => m.rule o.modelAndView
    | flash m => m.rule o.flash
    | request m => m.rule o.request := by
  rw [verify, hooks, FacetHooks.run_singleton]
  cases m <;> rfl

end Matcher

end Exchange
