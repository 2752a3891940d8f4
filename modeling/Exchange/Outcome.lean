import Exchange.Http.Request
import Exchange.Http.Response
import Exchange.Mvc.Handler
import Exchange.Mvc.Model

/-! # Outcomes

The outcome of an exchange: everything that expectations can be about. The parts apart from request
and response are there only if the exchange came that far.
-/

namespace Exchange

/-- What became of a request. -/
structure Outcome where
  request : Request := {}
  response : Response := {}
  handler : Option Handler := none
  interceptors : List String := []
  modelAndView : Option ModelAndView := none
  /-- Attributes kept for the next request. -/
  flash : Option (Table Json) := none
  exception : Option ResolvedException := none

end Exchange
