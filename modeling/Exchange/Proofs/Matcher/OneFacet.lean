import Mathlib
import Exchange.Proofs.Matcher.Facets
import Exchange.Proofs.Suite.Expectation

/-! # The facet that a matcher looks at

Hooks see nothing of an outcome but the facets that they are registered for. Every stock matcher is a
single hook, so outcomes that agree on its facet get the same ruling from it, and so they do from the
matcher that an expectation of a suite stands for.
-/

namespace Exchange

namespace FacetHooks

variable {o o' : Outcome} {registrations : List Hook}

/-- Hooks run alike on outcomes that agree on the facets that they are registered for. -/
theorem run_ofList_congr
    (agree : ∀ hook ∈ registrations, o.view hook.facet = o'.view hook.facet) :
    (ofList registrations).run o = (ofList registrations).run o' := by
  rw [run_ofList, run_ofList]
  refine Run.all_congr fun hook called => ?_
  obtain ⟨facet, -, last⟩ := List.mem_filterMap.mp called
  have registered : hook ∈ registrations := (List.mem_filter.mp (List.mem_of_getLast? last)).1
  rw [Hook.callOn, Hook.callOn, agree hook registered]

end FacetHooks

namespace Matcher

variable {o o' : Outcome}

/-- The facet that a matcher looks at. -/
def facet : Matcher → Facet
  | status _ | content _ | header _ _ | cookie _ _ | redirectedUrl _ | forwardedUrl _ => .response
  | jsonPath _ _ | jsonValue _ _ | xpath _ _ => .response
  | handler _ => .handler
  | model _ | view _ => .modelAndView
  | flash _ => .flash
  | request _ => .request

theorem facet_hook (m : Matcher) : m.hook.facet = m.facet := by
  cases m <;> rfl

theorem verify_congr {m : Matcher} (agree : o.view m.facet = o'.view m.facet) :
    m.verify o = m.verify o' := by
  have runs : m.hooks.run o = m.hooks.run o' := by
    refine FacetHooks.run_ofList_congr fun hook alone => ?_
    rw [List.mem_singleton.mp alone, facet_hook, agree]
  exact congrArg Run.ruling runs

end Matcher

namespace Expectation

/-- The facet that expectations of a kind are about. -/
def Kind.facet : Kind → Facet
  | status | statusReason | content | contentType | encoding | header | cookie => .response
  | jsonPath | xpath | redirectedUrl | forwardedUrl => .response
  | viewName | modelAttributeExists => .modelAndView
  | flashAttributeExists => .flash
  | handlerType | handlerMethod => .handler

variable {e : Expectation} {m : Matcher}

theorem facet_of_compile (compiled : e.compile = .ok m) : m.facet = e.kind.facet := by
  cases e with
  | xpath expression namespaces check =>
      obtain ⟨q, -, compiled⟩ := bind_eq_ok_iff.mp compiled
      obtain ⟨question, -, rfl⟩ := map_eq_ok_iff.mp compiled
      rfl
  | jsonPath expression check =>
      obtain ⟨q, -, compiled⟩ := bind_eq_ok_iff.mp compiled
      cases check with
      | value expected =>
          cases compiled
          rfl
      | present _ | nodeCount _ | text _ | number _ | boolean _ =>
          obtain ⟨question, -, rfl⟩ := map_eq_ok_iff.mp compiled
          rfl
  | statusReason _ | content _ | contentType _ | header _ _ | cookie _ _ | viewName _ =>
      obtain ⟨_, -, rfl⟩ := map_eq_ok_iff.mp compiled
      rfl
  | handlerMethod declaringType _ =>
      cases declaringType <;>
        · cases compiled
          rfl
  | status _ | encoding _ | redirectedUrl _ | forwardedUrl _ | modelAttributeExists _
  | flashAttributeExists _ | handlerType _ =>
      cases compiled
      rfl

end Expectation

/-- Outcomes that agree on the facet of a matcher get the same ruling from it, and those that agree
    on the facet of a kind of expectations get the same from what an expectation compiles to. -/
theorem looks_at_one_facet (o o' : Outcome) :
    (∀ m : Matcher, o.view m.facet = o'.view m.facet → m.verify o = m.verify o') ∧
    ∀ (e : Expectation) (m : Matcher), e.compile = .ok m →
      o.view e.kind.facet = o'.view e.kind.facet → m.verify o = m.verify o' := by
  constructor
  · exact fun m => Matcher.verify_congr
  · intro e m compiled agree
    apply Matcher.verify_congr
    rwa [Expectation.facet_of_compile compiled]

/-- A check of a header field says the same of all outcomes with one response. -/
theorem looks_at_one_facet_header :
    let check : TextCheck := ⟨.compare .startsWith "W/", {}⟩
    let m : Matcher := .header "etag" (.passes ⟨.compare .startsWith "W/", {}⟩)
    let response : Response := { headers := [("ETag", "W/\"1\"")] }
    let o : Outcome := { response := response }
    let o' : Outcome :=
      { response := response, handler := some (.other "Shop"), modelAndView := some {} }
    (Expectation.header "etag" check).compile = .ok m ∧
    o.view m.facet = o'.view m.facet ∧
    o.view (Expectation.header "etag" check).kind.facet =
      o'.view (Expectation.header "etag" check).kind.facet ∧
    m.verify o = m.verify o' ∧ m.verify o' = .pass := by
  intro check m response o o'
  have first : m.verify o = m.verify o' := (looks_at_one_facet o o').1 m rfl
  have compiled : (Expectation.header "etag" check).compile = .ok m := rfl
  have same : m.verify o = m.verify o' := (looks_at_one_facet o o').2 _ m compiled rfl
  exact ⟨compiled, rfl, rfl, same, by decide +kernel⟩

end Exchange
