import Mathlib
import Exchange.Proofs.Matcher.Run
import Exchange.Proofs.Query.Modes
import Exchange.Proofs.Text.AsciiCase
import Exchange.Proofs.Text.Shown

/-! # Mismatches show a difference

A matcher that compares a text, bytes, an integer or a truth value with a given one shows both when
they differ. Since different values are told apart by their texts, what was expected never looks
like what was found.
-/

namespace Exchange

open Query (Engine Found Mode)
open Ruling

/-- If a step ends in a mismatch, the two texts of the mismatch differ. -/
def TellsApart {α : Type} (step : Except Failure α) : Prop :=
  ∀ label expected actual, step = mismatch label expected actual → expected ≠ actual

namespace TellsApart

variable {α β : Type} {step : Except Failure α}

theorem ok (a : α) : TellsApart (.ok a : Except Failure α) := by
  intro label expected actual failed
  cases failed

theorem fail (text : String) : TellsApart (Ruling.fail text : Except Failure α) := by
  intro label expected actual failed
  exact absurd failed fail_ne_mismatch

theorem needed (label : String) (a : Option α) : TellsApart (Ruling.needed label a) := by
  intro label expected actual failed
  exact absurd failed needed_ne_mismatch

theorem of_failsAs {kinds : List Failure.Kind} (steps : FailsAs kinds step)
    (other : .assertion ∉ kinds) : TellsApart step := by
  intro label expected actual failed
  exact absurd (steps _ failed) other

theorem bind {next : α → Except Failure β} (first : TellsApart step)
    (rest : ∀ a, TellsApart (next a)) : TellsApart (step >>= next) := by
  intro label expected actual failed
  rcases bind_eq_error_iff.mp failed with early | ⟨a, -, late⟩
  · exact first label expected actual early
  · exact rest a label expected actual late

variable {label : String}

theorem mismatch {expected actual : String} (differ : expected ≠ actual) :
    TellsApart (Ruling.mismatch label expected actual : Except Failure α) := by
  intro label expected' actual' failed
  cases failed
  exact differ

variable [Shown β] [ToldApart β] [BEq β] [LawfulBEq β]

theorem equal (expected actual : β) : TellsApart (Ruling.equal label expected actual) := by
  unfold Ruling.equal
  split
  · exact .ok ()
  · rename_i differ
    refine mismatch fun same => differ ?_
    rw [shown_injective same, beq_self_eq_true]

theorem equalOptional (expected : β) (actual : Option β) :
    TellsApart (Ruling.equalOptional label expected actual) := by
  cases actual with
  | none => exact mismatch (shown_ne_none expected)
  | some a => exact equal expected a

end TellsApart

/-- The questions that compare a number of nodes, a text or a truth value with a given one. -/
inductive Question.Equates {N : Type} : Question N → Prop where
  | count (n : Nat) : Equates (.count n)
  | text (s : String) : Equates (.text s)
  | boolean (b : Bool) : Equates (.boolean b)

/-- The matchers that compare a text, bytes, an integer or a truth value with a given one. A handler
    method is no such value: its class and its name are compared one by one. -/
inductive Matcher.Equates : Matcher → Prop where
  | statusCode (c : Nat) : Equates (.status (.code c))
  | statusReason (s : String) : Equates (.status (.reason s))
  | contentText (s : String) : Equates (.content (.text s))
  | contentBytes (bs : List UInt8) : Equates (.content (.bytes bs))
  | contentEncoding (s : String) : Equates (.content (.encoding s))
  | headerValue (name s : String) : Equates (.header name (.value s))
  | headerValues (name : String) (texts : List String) : Equates (.header name (.values texts))
  | headerInteger (name : String) (n : Int) : Equates (.header name (.integer n))
  | cookieValue (name s : String) : Equates (.cookie name (.value s))
  | cookieMaxAge (name : String) (seconds : Int) : Equates (.cookie name (.maxAge seconds))
  | cookiePath (name s : String) : Equates (.cookie name (.path s))
  | cookieDomain (name s : String) : Equates (.cookie name (.domain s))
  | cookieSecure (name : String) (b : Bool) : Equates (.cookie name (.secure b))
  | cookieHttpOnly (name : String) (b : Bool) : Equates (.cookie name (.httpOnly b))
  | redirectedUrl (s : String) : Equates (.redirectedUrl s)
  | forwardedUrl (s : String) : Equates (.forwardedUrl s)
  | jsonPath (q : JsonPathQuery) {question : Question Json} (equates : question.Equates) :
      Equates (.jsonPath q question)
  | xpath (q : XPathQuery) {question : Question XmlNode} (equates : question.Equates) :
      Equates (.xpath q question)
  | handlerType (s : String) : Equates (.handler (.type s))
  | handlerMethodName (s : String) : Equates (.handler (.methodName s))
  | modelErrorCount (n : Nat) : Equates (.model (.errorCount n))
  | modelAttributeErrorCount (name : String) (n : Nat) :
      Equates (.model (.attributeErrorCount name n))
  | modelSize (n : Nat) : Equates (.model (.size n))
  | viewName (s : String) : Equates (.view (.name s))
  | flashCount (n : Nat) : Equates (.flash (.count n))

theorem CookieMatcher.tellsApart_needed (name : String) (r : Response) :
    TellsApart (needed name r) := by
  unfold needed
  split
  · exact .ok _
  · exact .fail _

theorem HandlerMatcher.tellsApart_needed (handler : Option Handler) :
    TellsApart (needed handler) := by
  cases handler with
  | none => exact .fail _
  | some h => exact .ok h

theorem HandlerMatcher.tellsApart_neededMethod (handler : Option Handler) :
    TellsApart (neededMethod handler) := by
  refine (tellsApart_needed handler).bind fun h => ?_
  split
  · exact .ok _
  · exact .fail _

theorem tellsApart_neededModelAndView (m : Option ModelAndView) :
    TellsApart (neededModelAndView m) := by
  cases m with
  | none => exact .fail _
  | some m => exact .ok m

theorem ModelMatcher.tellsApart_neededResult (m : ModelAndView) (name : String) :
    TellsApart (neededResult m name) := by
  unfold neededResult
  split
  · exact .ok _
  · exact .fail _

section

variable {Q D N : Type} [Engine Q D N] {q : Q}

theorem Question.Disciplined.tellsApart_find (kept : Question.Disciplined q) (r : Response)
    (mode : Mode) : TellsApart (find q r mode) :=
  .of_failsAs (kept.fails r mode) (by decide)

theorem Question.Disciplined.tellsApart_findPresent (kept : Question.Disciplined q) (r : Response)
    (mode : Mode) : TellsApart (Question.findPresent q r mode) := by
  rcases findPresent_cases q r mode with ⟨f, early, same⟩ | ⟨-, missing⟩ | ⟨found, -, -, same⟩
  · rw [same, ← early]
    exact kept.tellsApart_find r mode
  · rw [missing]
    exact .fail _
  · rw [same]
    exact .ok found

theorem Question.Equates.tellsApart_rule {question : Question N} (equates : question.Equates)
    (kept : Question.Disciplined q) (r : Response) : TellsApart (question.rule q r) := by
  cases equates with
  | count n => exact (kept.tellsApart_find r _).bind fun _ => .equal _ _
  | text s => exact (kept.tellsApart_findPresent r _).bind fun _ => .equal _ _
  | boolean b =>
      refine (kept.tellsApart_findPresent r _).bind fun found => ?_
      split
      · exact .equal _ _
      · exact .fail _

end

/-- A header field that is no integer is shown as a text, and no integer looks like one. -/
theorem HeaderMatcher.tellsApart_integer (name : String) (r : Response) (n : Int) :
    TellsApart (rule name r (.integer n)) := by
  refine (TellsApart.needed _ _).bind fun raw => ?_
  split
  · exact .equal _ _
  · exact .mismatch (shown_int_ne_shown_string n raw)

theorem ContentMatcher.tellsApart_encoding (r : Response) (name : String) :
    TellsApart (rule r (.encoding name)) := by
  refine (TellsApart.needed _ _).bind fun actual => ?_
  split
  · exact .ok ()
  · rename_i differ
    refine .mismatch ?_
    rintro rfl
    exact differ (Text.sameIgnoringCase_iff.mpr rfl)

theorem Matcher.Equates.tellsApart_verify {m : Matcher} (equates : m.Equates) (o : Outcome) :
    TellsApart (m.verify o) := by
  have cookie (name : String) := CookieMatcher.tellsApart_needed name o.response
  have model := tellsApart_neededModelAndView o.modelAndView
  rw [Matcher.verify_eq]
  cases equates with
  | statusCode c => exact .equal _ _
  | statusReason s => exact (TellsApart.needed _ _).bind fun _ => .equal _ _
  | contentText s =>
      have decoded : TellsApart (ContentMatcher.contentOf o.response) :=
        .of_failsAs (Question.failsAs_contentOf o.response) (by decide)
      exact decoded.bind fun _ => .equal _ _
  | contentBytes bs => exact .equal _ _
  | contentEncoding s => exact ContentMatcher.tellsApart_encoding _ s
  | headerValue name s => exact .equalOptional _ _
  | headerValues name texts => exact .equal _ _
  | headerInteger name n => exact HeaderMatcher.tellsApart_integer name _ n
  | cookieValue name s => exact (cookie name).bind fun _ => .equal _ _
  | cookieMaxAge name seconds =>
      refine (cookie name).bind fun c => ?_
      split
      · exact .equal _ _
      · exact .fail _
  | cookiePath name s | cookieDomain name s =>
      exact (cookie name).bind fun _ => .equalOptional _ _
  | cookieSecure name b | cookieHttpOnly name b => exact (cookie name).bind fun _ => .equal _ _
  | redirectedUrl s | forwardedUrl s => exact .equalOptional _ _
  | jsonPath q equates => exact equates.tellsApart_rule (JsonPath.disciplined q) _
  | xpath q equates => exact equates.tellsApart_rule (XPath.disciplined q) _
  | handlerType s => exact (HandlerMatcher.tellsApart_needed _).bind fun _ => .equal _ _
  | handlerMethodName s => exact (HandlerMatcher.tellsApart_neededMethod _).bind fun _ => .equal _ _
  | modelErrorCount n | modelSize n => exact model.bind fun _ => .equal _ _
  | modelAttributeErrorCount name n =>
      refine model.bind fun m => ?_
      exact (ModelMatcher.tellsApart_neededResult m name).bind fun _ => .equal _ _
  | viewName s => exact model.bind fun _ => .equalOptional _ _
  | flashCount n => exact .equal _ _

/-- A mismatch shows no two equal texts: of texts, lists of texts, bytes, integers and truth values,
    different ones are shown differently, also where one of them is absent. -/
theorem mismatches_tell_apart :
    (∀ (o : Outcome) (m : Matcher), m.Equates → TellsApart (m.verify o)) ∧
    Function.Injective (shownOptional : Option String → String) ∧
    Function.Injective (shownOptional : Option (List String) → String) ∧
    Function.Injective (shownOptional : Option (List UInt8) → String) ∧
    Function.Injective (shownOptional : Option Int → String) ∧
    Function.Injective (shownOptional : Option Nat → String) ∧
    Function.Injective (shownOptional : Option Bool → String) ∧
    ∀ (n : Int) (s : String), shown n ≠ shown s := by
  refine ⟨?_, shownOptional_injective, shownOptional_injective, shownOptional_injective,
    shownOptional_injective, shownOptional_injective, shownOptional_injective,
    shown_int_ne_shown_string⟩
  intro o m equates
  exact equates.tellsApart_verify o

/-- One value that looks like the end of one text and the start of another is told from two. -/
theorem mismatches_tell_apart_quotes :
    ∃ (o : Outcome) (m : Matcher), m.Equates ∧
      m.verify o = Ruling.mismatch "Response header 'Vary'" "[\"a\\\", \\\"b\"]" "[\"a\", \"b\"]" ∧
      "[\"a\\\", \\\"b\"]" ≠ "[\"a\", \"b\"]" := by
  let o : Outcome := { response := { headers := [("Vary", "a"), ("vary", "b")] } }
  let m : Matcher := .header "Vary" (.values ["a\", \"b"])
  have equates : m.Equates := .headerValues "Vary" ["a\", \"b"]
  have failed : m.verify o =
      Ruling.mismatch "Response header 'Vary'" "[\"a\\\", \\\"b\"]" "[\"a\", \"b\"]" := by decide +kernel
  exact ⟨o, m, equates, failed, mismatches_tell_apart.1 o m equates _ _ _ failed⟩

/-- Of a handler method, class and name are shown in one text, so the same text may be shown for
    different methods. -/
example : Matcher.verify { handler := some (.method ⟨"A", "B::run", []⟩) }
    (.handler (.method "A::B" "run")) =
      Ruling.mismatch "Handler method" "A::B::run" "A::B::run" := by cbv

end Exchange
