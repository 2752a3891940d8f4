import Exchange.Matcher.Cookie
import Exchange.Matcher.Facets
import Exchange.Matcher.Header
import Exchange.Matcher.Mvc
import Exchange.Matcher.Query
import Exchange.Matcher.Request
import Exchange.Matcher.Status

/-! # Matchers

A matcher is an expectation about an outcome. Every stock matcher is a single hook on one facet of
the outcome and has no effects; matchers of one's own may note that they were called.
-/

namespace Exchange

/-- An expectation about an outcome. -/
inductive Matcher where
  | status (m : StatusMatcher)
  | content (m : ContentMatcher)
  | header (name : String) (m : HeaderMatcher)
  | cookie (name : String) (m : CookieMatcher)
  | redirectedUrl (url : String)
  | forwardedUrl (url : String)
  | jsonPath (q : JsonPathQuery) (question : Question Json)
  | jsonValue (q : JsonPathQuery) (question : JsonQuestion)
  | xpath (q : XPathQuery) (question : Question XmlNode)
  | handler (m : HandlerMatcher)
  | model (m : ModelMatcher)
  | view (m : ViewMatcher)
  | flash (m : FlashMatcher)
  | request (m : RequestMatcher)

namespace Matcher

/-- The hook of a matcher on the facet that it is about. -/
def hook : Matcher → Hook
  | status m => .response fun r => .of (m.rule r)
  | content m => .response fun r => .of (m.rule r)
  | header name m => .response fun r => .of (m.rule name r)
  | cookie name m => .response fun r => .of (m.rule name r)
  | redirectedUrl url =>
    .response fun r => .of (Ruling.equalOptional "Redirected URL" url r.redirectedUrl)
  | forwardedUrl url =>
    .response fun r => .of (Ruling.equalOptional "Forwarded URL" url r.forwardedUrl)
  | jsonPath q question => .response fun r => .of (question.rule q r)
  | jsonValue q question => .response fun r => .of (question.rule q r)
  | xpath q question => .response fun r => .of (question.rule q r)
  | handler m => .handler fun h => .of (m.rule h)
  | model m => .modelAndView fun mv => .of (m.rule mv)
  | view m => .modelAndView fun mv => .of (m.rule mv)
  | flash m => .flash fun attributes => .of (m.rule attributes)
  | request m => .request fun r => .of (m.rule r)

/-- The hooks of a matcher: its own alone. -/
def hooks (m : Matcher) : FacetHooks := .ofList [m.hook]

/-- Does the expectation hold of an outcome? -/
def verify (o : Outcome) (m : Matcher) : Ruling := (m.hooks.run o).ruling

end Matcher

/-- What can be run against an outcome. -/
inductive Check where
  | matcher (m : Matcher)
  /-- Hooks on the facets. -/
  | hooks (hooks : FacetHooks)
  /-- Any other check. -/
  | custom (run : Outcome → Run)

/-- Run a check against an outcome. -/
def Check.run (o : Outcome) : Check → Run
  | matcher m => m.hooks.run o
  | hooks h => h.run o
  | custom run => run o

end Exchange
