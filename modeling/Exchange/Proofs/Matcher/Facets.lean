import Mathlib.Data.List.Basic
import Mathlib.Data.List.Induction
import Exchange.Matcher.Facets
import Exchange.Proofs.Matcher.Run

/-! # Which hooks are called

Of the hooks that are registered for a facet the last one is called, with that facet of the outcome,
and the facets take their turns in an order of their own. So registrations that end in the same hook
for every facet run alike, whatever their order and whatever was replaced on the way.
-/

namespace Exchange

/-- The facets in the order in which their hooks run. -/
def Facet.order : List Facet := [.request, .handler, .exception, .modelAndView, .flash, .response]

/-- What a hook on a facet is handed. A facet that may be missing is handed over even if it is. -/
def Facet.View : Facet → Type
  | request => Request
  | handler => Option Handler
  | exception => Option ResolvedException
  | modelAndView => Option ModelAndView
  | flash => Option (Table Json)
  | response => Response

/-- A facet of an outcome. -/
def Outcome.view (o : Outcome) : (facet : Facet) → facet.View
  | .request => o.request
  | .handler => o.handler
  | .exception => o.exception
  | .modelAndView => o.modelAndView
  | .flash => o.flash
  | .response => o.response

namespace Hook

/-- Call a hook with what hooks on its facet are handed. -/
def call : (hook : Hook) → hook.facet.View → Run
  | request run, view => run view
  | handler run, view => run view
  | exception run, view => run view
  | modelAndView run, view => run view
  | flash run, view => run view
  | response run, view => run view

/-- Call a hook with its facet of an outcome. -/
def callOn (o : Outcome) (hook : Hook) : Run := hook.call (o.view hook.facet)

theorem run_eq_callOn (o : Outcome) : run o = callOn o := by
  funext hook
  cases hook <;> rfl

/-- The last of some registrations that is for a facet. -/
def lastFor? (facet : Facet) (registrations : List Hook) : Option Hook :=
  (registrations.filter fun hook => hook.facet = facet).getLast?

variable {facet : Facet} {registrations : List Hook} {hook : Hook}

theorem lastFor?_concat_self : lastFor? hook.facet (registrations ++ [hook]) = some hook := by
  simp [lastFor?]

theorem lastFor?_concat_of_ne (other : hook.facet ≠ facet) :
    lastFor? facet (registrations ++ [hook]) = lastFor? facet registrations := by
  simp [lastFor?, other]

end Hook

namespace FacetHooks

open Hook (lastFor? callOn)
open Run (Course)

/-- The hook that is registered for a facet. -/
def hookOn? (hooks : FacetHooks) : Facet → Option Hook
  | .request => hooks.request.map .request
  | .handler => hooks.handler.map .handler
  | .exception => hooks.exception.map .exception
  | .modelAndView => hooks.modelAndView.map .modelAndView
  | .flash => hooks.flash.map .flash
  | .response => hooks.response.map .response

theorem inOrder_eq (hooks : FacetHooks) : hooks.inOrder = Facet.order.filterMap hooks.hookOn? := by
  simp [inOrder, Facet.order, hookOn?, List.filterMap_eq_flatMap_toList]

variable {hooks : FacetHooks} {hook : Hook} {facet : Facet}

theorem hookOn?_register_self : (hooks.register hook).hookOn? hook.facet = some hook := by
  cases hook <;> rfl

theorem hookOn?_register_of_ne (other : hook.facet ≠ facet) :
    (hooks.register hook).hookOn? facet = hooks.hookOn? facet := by
  cases hook <;> cases facet <;> simp [register, hookOn?, Hook.facet] at other ⊢

theorem hookOn?_ofList (registrations : List Hook) :
    (ofList registrations).hookOn? facet = lastFor? facet registrations := by
  -- From the end, where the registration stands that replaces the others.
  induction registrations using List.reverseRecOn with
  | nil => cases facet <;> rfl
  | append_singleton earlier last ih =>
      rw [ofList, List.foldl_append]
      by_cases same : last.facet = facet
      · subst same
        rw [Hook.lastFor?_concat_self]
        exact hookOn?_register_self
      · rw [Hook.lastFor?_concat_of_ne same, ← ih]
        exact hookOn?_register_of_ne same

/-- The last hooks of the facets, in the order of the facets, are the ones that run. -/
theorem inOrder_ofList (registrations : List Hook) : (ofList registrations).inOrder =
    Facet.order.filterMap fun facet => lastFor? facet registrations := by
  rw [inOrder_eq]
  exact congrArg (Facet.order.filterMap ·) (funext fun _ => hookOn?_ofList registrations)

theorem run_ofList (o : Outcome) (registrations : List Hook) : (ofList registrations).run o =
    Run.all (callOn o) (Facet.order.filterMap fun facet => lastFor? facet registrations) := by
  rw [run, inOrder_ofList, Hook.run_eq_callOn]

/-- Of some registrations the last hook of every facet is called once, in the order of the facets
    and with that facet of the outcome, up to the first hook that fails, whose failure is the
    ruling, and what is left behind is what these calls leave behind. Nothing else about the
    registrations matters. -/
theorem dispatch_law (o : Outcome) (registrations : List Hook) :
    (∃ called, Course (callOn o)
        (Facet.order.filterMap fun facet => lastFor? facet registrations) called
        ((ofList registrations).run o).ruling ∧
      ((ofList registrations).run o).effects.Of (called.map (callOn o))) ∧
    ∀ others : List Hook, (∀ facet, lastFor? facet others = lastFor? facet registrations) →
      (ofList others).run o = (ofList registrations).run o := by
  constructor
  · rw [run_ofList]
    exact Run.exists_course (callOn o) _
  · intro others same
    simp only [run_ofList, same]

/-- A hook that is replaced is not called, and a hook that fails ends the run, here and there. -/
theorem dispatch_law_replaced :
    ∃ (replaced handler : Option Handler → Run) (flash : Option (Table Json) → Run)
      (response : Response → Run),
      let registrations := [.handler replaced, .handler handler, .flash flash, .response response]
      let others := [.response response, .handler replaced, .flash flash, .handler handler]
      (∀ facet, lastFor? facet others = lastFor? facet registrations) ∧
      (ofList others).run {} = (ofList registrations).run {} ∧
      ((ofList others).run {}).effects.calls = ["no handler", "no flash attributes"] ∧
      ((ofList others).run {}).ruling = Ruling.fail "flash attributes expected" := by
  let noting (call : String) (ruling : Ruling) : Run := ⟨{ calls := [call] }, ruling⟩
  refine ⟨fun _ => noting "replaced" Ruling.pass,
    fun handler => noting (if handler.isNone then "no handler" else "handler") Ruling.pass,
    fun flash => noting (if flash.isNone then "no flash attributes" else "flash attributes")
      (Ruling.fail "flash attributes expected"),
    fun _ => noting "response" Ruling.pass, ?_⟩
  intro registrations others
  have same : ∀ facet, lastFor? facet others = lastFor? facet registrations := by
    intro facet
    cases facet <;> rfl
  exact ⟨same, (dispatch_law {} registrations).2 others same, rfl, rfl⟩

end FacetHooks

end Exchange
