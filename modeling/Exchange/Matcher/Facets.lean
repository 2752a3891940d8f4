import Exchange.Matcher.Run
import Exchange.Outcome

/-! # Hooks on the facets of an outcome

A hook looks at one facet of an outcome. Of the hooks that are registered for a facet the last one
counts, and whatever the order of registration the hooks run in the order request, handler,
exception, model and view, flash attributes, response, up to the first that fails. A hook on a facet
that may be missing runs even if it is.
-/

namespace Exchange

/-- The facets in the order in which their hooks run. -/
inductive Facet where
  | request
  | handler
  | exception
  | modelAndView
  | flash
  | response
  deriving Repr, DecidableEq

/-- A hook and the facet it is for. -/
inductive Hook where
  | request (run : Request → Run)
  | handler (run : Option Handler → Run)
  | exception (run : Option ResolvedException → Run)
  | modelAndView (run : Option ModelAndView → Run)
  | flash (run : Option (Table Json) → Run)
  | response (run : Response → Run)

namespace Hook

/-- The facet that a hook is for. -/
def facet : Hook → Facet
  | request _ => .request
  | handler _ => .handler
  | exception _ => .exception
  | modelAndView _ => .modelAndView
  | flash _ => .flash
  | response _ => .response

/-- Run a hook on its facet of an outcome. -/
def run (o : Outcome) : Hook → Run
  | request run => run o.request
  | handler run => run o.handler
  | exception run => run o.exception
  | modelAndView run => run o.modelAndView
  | flash run => run o.flash
  | response run => run o.response

end Hook

/-- At most one hook for every facet. -/
structure FacetHooks where
  request : Option (Request → Run) := none
  handler : Option (Option Handler → Run) := none
  exception : Option (Option ResolvedException → Run) := none
  modelAndView : Option (Option ModelAndView → Run) := none
  flash : Option (Option (Table Json) → Run) := none
  response : Option (Response → Run) := none

namespace FacetHooks

/-- Register a hook; one that was registered for the facet before is replaced. -/
def register (hooks : FacetHooks) : Hook → FacetHooks
  | .request run => { hooks with request := some run }
  | .handler run => { hooks with handler := some run }
  | .exception run => { hooks with exception := some run }
  | .modelAndView run => { hooks with modelAndView := some run }
  | .flash run => { hooks with flash := some run }
  | .response run => { hooks with response := some run }

/-- Register some hooks, one after the other. -/
def ofList (hooks : List Hook) : FacetHooks := hooks.foldl register {}

/-- The registered hooks in the order in which they run. -/
def inOrder (hooks : FacetHooks) : List Hook :=
  (hooks.request.map Hook.request).toList ++ (hooks.handler.map Hook.handler).toList ++
    (hooks.exception.map Hook.exception).toList ++
    (hooks.modelAndView.map Hook.modelAndView).toList ++ (hooks.flash.map Hook.flash).toList ++
    (hooks.response.map Hook.response).toList

/-- Run the registered hooks on an outcome. -/
def run (o : Outcome) (hooks : FacetHooks) : Run := Run.all (Hook.run o) hooks.inOrder

end FacetHooks

end Exchange
