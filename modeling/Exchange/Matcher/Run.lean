import Exchange.Failure

/-! # Runs and their effects

What a run leaves behind besides its ruling: calls that were noted, text that was printed, lines
that were logged, and notes for diagnosis of the expectations that failed. Runs follow each other up
to the first that fails, and their effects add up. What queries and suites note on their way, that
something was compiled, built or evaluated, is left out.
-/

namespace Exchange

/-- A note of an expectation that failed. -/
structure Note where
  heading : String
  /-- The place of the expectation among those of its step. -/
  place : Option Nat
  cause : Failure
  deriving Repr, DecidableEq

/-- What runs leave behind. -/
structure Effects where
  calls : List String := []
  printed : String := ""
  logged : List String := []
  notes : List Note := []
  deriving Repr, DecidableEq

namespace Effects

/-- The effects of one run and of a later one. -/
def append (a b : Effects) : Effects :=
  ⟨a.calls ++ b.calls, a.printed ++ b.printed, a.logged ++ b.logged, a.notes ++ b.notes⟩

instance : Append Effects := ⟨append⟩

/-- No effects. -/
def none : Effects := {}

@[ext] theorem ext {a b : Effects} (calls : a.calls = b.calls) (printed : a.printed = b.printed)
    (logged : a.logged = b.logged) (notes : a.notes = b.notes) : a = b := by
  cases a
  cases b
  simp_all

theorem append_assoc (a b c : Effects) : a ++ b ++ c = a ++ (b ++ c) := by
  apply ext
  · exact List.append_assoc ..
  · exact String.append_assoc ..
  · exact List.append_assoc ..
  · exact List.append_assoc ..

@[simp] theorem none_append (a : Effects) : none ++ a = a := by
  apply ext
  · exact List.nil_append _
  · exact String.empty_append
  · exact List.nil_append _
  · exact List.nil_append _

@[simp] theorem append_none (a : Effects) : a ++ none = a := by
  apply ext
  · exact List.append_nil _
  · exact String.append_empty
  · exact List.append_nil _
  · exact List.append_nil _

end Effects

/-- What became of a run. -/
structure Run where
  effects : Effects := .none
  ruling : Ruling

namespace Run

/-- A run without effects. -/
def of (ruling : Ruling) : Run := ⟨.none, ruling⟩

/-- A run that passes without effects. -/
def pass : Run := of Ruling.pass

/-- One run and then another, unless the first fails. -/
def andThen (first : Run) (second : Unit → Run) : Run :=
  match first.ruling with
  | .ok () =>
    let next := second ()
    ⟨first.effects ++ next.effects, next.ruling⟩
  | .error f => ⟨first.effects, .error f⟩

/-- Note the failure of a run. Where the run broke off there is nothing left that could note it. -/
def noting (heading : String) (place : Option Nat) (r : Run) : Run :=
  match r.ruling with
  | .ok () | .error (.aborted ..) => r
  | .error cause => ⟨r.effects ++ { notes := [⟨heading, place, cause⟩] }, r.ruling⟩

/-- Runs one after the other up to the first that fails. -/
def all {α : Type} (run : α → Run) : List α → Run
  | [] => pass
  | a :: rest => andThen (run a) fun _ => all run rest

end Run

end Exchange
