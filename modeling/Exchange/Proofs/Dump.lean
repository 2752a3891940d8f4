import Mathlib
import Exchange.Dump
import Exchange.Proofs.Http.HeaderNames
import Exchange.Proofs.Text.Pieces

/-! # What a dump shows

Every facet has a section, and in it stand all parameters, cookies and attributes, all header fields
of the request, and of the response the first field of every name. A later field of a name leaves no
trace in the dump, and neither does a binding result under a name that no attribute has.
-/

namespace Exchange.Dump

open Text (sameIgnoringCase)

variable {o : Outcome} {heading name value : String} {lines : List String}

/-- A text lists a piece between its opening and its closing mark. -/
inductive Lists (opening closing piece : String) : String → Prop where
  | among (before after : List String) : Lists opening closing piece
      (opening ++ Text.commaSeparated (before ++ piece :: after) ++ closing)

/-- A piece stands in brackets. -/
abbrev InBrackets : String → String → Prop := Lists "[" "]"

/-- A piece stands in braces. -/
abbrev InBraces : String → String → Prop := Lists "\x7b" "\x7d"

theorem lists_of_mem {opening closing piece : String} {pieces : List String}
    (listed : piece ∈ pieces) :
    Lists opening closing piece (opening ++ Text.commaSeparated pieces ++ closing) := by
  obtain ⟨before, after, rfl⟩ := List.append_of_mem listed
  exact .among before after

theorem inBrackets_list {texts : List String} (listed : value ∈ texts) :
    InBrackets value (list texts) := lists_of_mem listed

theorem inBraces_map {α : Type} {a : α} {as : List α} (listed : a ∈ as)
    (f : α → String × String) : InBraces ((f a).1 ++ "=" ++ (f a).2) (map (as.map f)) :=
  lists_of_mem (List.mem_map_of_mem (List.mem_map_of_mem listed))

/-- The errors of a binding result stand in a text. -/
structure ListsErrors (result : BindingResult) (text : String) : Prop where
  general : ∀ message ∈ result.generalErrors, InBrackets message text
  field : ∀ field message, (field, message) ∈ result.fieldErrors →
    InBrackets (field ++ ": " ++ message) text

theorem listsErrors_text (result : BindingResult) : ListsErrors result result.text where
  general _ listed := inBrackets_list (List.mem_append_left _ listed)
  field _ _ listed := inBrackets_list (List.mem_append_right _ (List.mem_map_of_mem listed))

/-- The lines of a section behind its heading. -/
def body (lines : List String) : List String := lines.drop 2

/-- The sections of a dump in their order. -/
def sections (o : Outcome) : List (String × List String) :=
  [("MockRequest", body (request o.request)),
    ("Handler", body (handler o.handler o.interceptors)),
    ("Resolved Exception", body (exception o.exception)),
    ("ModelAndView", body (modelAndView o.modelAndView)),
    ("FlashMap", body (flash o.flash)),
    ("MockResponse", body (response o.response))]

/-- Some lines stand in a row in the section of a heading. -/
def Shows (o : Outcome) (heading : String) (lines : List String) : Prop :=
  ∃ entries, (heading, entries) ∈ sections o ∧ lines <:+: entries

theorem shows_request (part : lines <:+: body (request o.request)) :
    Shows o "MockRequest" lines := ⟨_, by simp [sections], part⟩

theorem shows_modelAndView (part : lines <:+: body (modelAndView o.modelAndView)) :
    Shows o "ModelAndView" lines := ⟨_, by simp [sections], part⟩

theorem shows_flash (part : lines <:+: body (flash o.flash)) : Shows o "FlashMap" lines :=
  ⟨_, by simp [sections], part⟩

theorem shows_response (part : lines <:+: body (response o.response)) :
    Shows o "MockResponse" lines := ⟨_, by simp [sections], part⟩

/-- Lines as they are written. -/
def written (lines : List String) : String := String.join (lines.map fun line => line ++ "\n")

theorem text_eq (o : Outcome) :
    text o = written (separator :: (sections o).flatMap (fun s => titled s.1 s.2) ++ [""]) := by
  have lines : parts o = separator :: (sections o).flatMap (fun s => titled s.1 s.2) ++ [""] := by
    simp only [parts, sections, List.flatMap_cons, List.flatMap_nil, List.append_nil,
      List.cons_append, List.append_assoc]
    rfl
  rw [← lines]
  rfl

theorem infix_flatMap_of_mem {α β : Type} {a : α} {as : List α} (listed : a ∈ as)
    (f : α → List β) : f a <:+: as.flatMap f := by
  have part := ((List.singleton_infix_iff a as).mpr listed).flatMap f
  rwa [List.flatMap_singleton] at part

/-- The lines of a model attribute, with those of its binding result if there is one. -/
def attributeLines (bindings : Table BindingResult) (member : String × Json) : List String :=
  namedValue member.1 member.2 ++ match bindings.find? member.1 with
    | some result => [entry "errors" result.text]
    | none => []

theorem modelAndView_some (m : ModelAndView) : modelAndView (some m) = titled "ModelAndView"
    (entry "View" (orNull (m.view.map View.text)) ::
      if m.model.isEmpty then [entry "Attributes" "null"]
      else m.model.flatMap (attributeLines m.bindings)) := rfl

theorem isInfix_attributeLines {m : ModelAndView} {member : String × Json}
    (listed : member ∈ m.model) :
    attributeLines m.bindings member <:+: body (modelAndView (some m)) := by
  have given : ¬m.model.isEmpty = true := by
    rw [List.isEmpty_iff]
    exact List.ne_nil_of_mem listed
  rw [modelAndView_some, if_neg given]
  exact (infix_flatMap_of_mem listed _).trans (List.suffix_cons _ _).isInfix

theorem isInfix_namedValue {m : ModelAndView} {value : Json} (listed : (name, value) ∈ m.model) :
    namedValue name value <:+: body (modelAndView (some m)) :=
  (List.prefix_append _ _).isInfix.trans (isInfix_attributeLines listed)

/-- Binding results matter only under the names of attributes. -/
theorem modelAndView_congr {m : ModelAndView} {bindings : Table BindingResult}
    (same : ∀ member ∈ m.model, bindings.find? member.1 = m.bindings.find? member.1) :
    modelAndView (some { m with bindings := bindings }) = modelAndView (some m) := by
  have lines : m.model.flatMap (attributeLines bindings) =
      m.model.flatMap (attributeLines m.bindings) := by
    refine List.flatMap_congr fun member listed => ?_
    rw [attributeLines, attributeLines, same member listed]
  rw [modelAndView_some, modelAndView_some, lines]

theorem isInfix_flash {attributes : Table Json} {value : Json} (listed : (name, value) ∈ attributes) :
    namedValue name value <:+: body (flash (some attributes)) := by
  have part := infix_flatMap_of_mem listed fun member : String × Json =>
    namedValue member.1 member.2
  have given : ¬(attributes.flatMap fun member => namedValue member.1 member.2).isEmpty = true := by
    rw [List.isEmpty_iff]
    intro nothing
    rw [nothing, List.infix_nil] at part
    cases part
  have lines : body (flash (some attributes)) =
      if (attributes.flatMap fun member => namedValue member.1 member.2).isEmpty then
        [entry "Attributes" "null"]
      else attributes.flatMap fun member => namedValue member.1 member.2 := rfl
  rw [lines, if_neg given]
  exact part

theorem response_of_known {r : Response} {before after : Headers}
    (fields : r.headers = before ++ (name, value) :: after)
    (known : before.any (fun f => sameIgnoringCase f.1 name) = true) :
    response { r with headers := before ++ after } = response r := by
  have names : Headers.distinctNames (before ++ after) = r.headers.distinctNames := by
    rw [fields, Headers.distinctNames_of_known known]
  have firsts (n : String) : Headers.first? n (before ++ after) = r.headers.first? n := by
    rw [fields, Headers.first?_of_known known]
  simp only [response, Response.header?, names, firsts]
  rfl

/-- What is shown of an outcome, and where. -/
structure ShownLaw (o : Outcome) : Prop where
  dump : text o = written (separator :: (sections o).flatMap (fun s => titled s.1 s.2) ++ [""])
  parameter : ∀ name values value, (name, values) ∈ o.request.parameters → value ∈ values →
    ∃ listed all, InBrackets value listed ∧ InBraces (name ++ "=" ++ listed) all ∧
      Shows o "MockRequest" [entry "Params" all]
  requestHeader : ∀ name value, (name, value) ∈ o.request.headers →
    ∃ all, InBraces (name ++ "=" ++ value) all ∧ Shows o "MockRequest" [entry "Headers" all]
  /-- The first field of a name is shown. -/
  newHeader : ∀ before name value after, o.response.headers = before ++ (name, value) :: after →
    before.any (fun f => sameIgnoringCase f.1 name) = false →
    ∃ all, InBraces (name ++ "=" ++ value) all ∧ Shows o "MockResponse" [entry "headers" all]
  /-- A later field of a name might as well not be there. -/
  knownHeader : ∀ before name value after, o.response.headers = before ++ (name, value) :: after →
    before.any (fun f => sameIgnoringCase f.1 name) = true →
    text { o with response := { o.response with headers := before ++ after } } = text o
  cookie : ∀ c ∈ o.response.cookies,
    ∃ all, InBraces (c.name ++ "=" ++ c.value) all ∧ Shows o "MockResponse" [entry "cookies" all]
  modelAttribute : ∀ m name value, o.modelAndView = some m → (name, value) ∈ m.model →
    Shows o "ModelAndView" [entry "Attribute" name, entry "value" value.text]
  /-- The errors of an attribute follow it. -/
  boundErrors : ∀ m name value result, o.modelAndView = some m → (name, value) ∈ m.model →
    m.bindings.find? name = some result → ∃ errors, ListsErrors result errors ∧
      Shows o "ModelAndView"
        [entry "Attribute" name, entry "value" value.text, entry "errors" errors]
  /-- The errors under names that no attribute has might as well not be there. -/
  unboundErrors : ∀ m bindings, o.modelAndView = some m →
    (∀ member ∈ m.model, bindings.find? member.1 = m.bindings.find? member.1) →
    text { o with modelAndView := some { m with bindings := bindings } } = text o
  flashAttribute : ∀ attributes name value, o.flash = some attributes → (name, value) ∈ attributes →
    Shows o "FlashMap" [entry "Attribute" name, entry "value" value.text]

theorem shownLaw (o : Outcome) : ShownLaw o where
  dump := text_eq o
  parameter name values value listed given := by
    have among := inBraces_map listed fun parameter => (parameter.1, list parameter.2)
    exact ⟨_, _, inBrackets_list given, among, shows_request ⟨[_, _], [_], rfl⟩⟩
  requestHeader name value listed := by
    have among := inBraces_map listed id
    rw [List.map_id] at among
    exact ⟨_, among, shows_request ⟨[_, _, _], [], rfl⟩⟩
  newHeader before name value after fields new := by
    have named : name ∈ o.response.headers.distinctNames := by
      rw [fields]
      exact Headers.mem_distinctNames_of_new new
    have first : o.response.header? name = some value := by
      rw [Response.header?, fields]
      exact Headers.first?_of_new new
    have among := inBraces_map named fun n => (n, (o.response.header? n).getD "")
    simp only [first, Option.getD_some] at among
    exact ⟨_, among, shows_response ⟨[_, _], [_, _, _, _, _, _], rfl⟩⟩
  knownHeader before name value after fields known := by
    rw [text, text, parts, parts, response_of_known fields known]
  cookie c listed := by
    have among := inBraces_map listed fun c => (c.name, c.value)
    exact ⟨_, among, shows_response ⟨[_, _, _, _, _, _, _, _], [], rfl⟩⟩
  modelAttribute m name value there listed := by
    refine shows_modelAndView ?_
    rw [there]
    exact isInfix_namedValue listed
  boundErrors m name value result there listed found := by
    refine ⟨result.text, listsErrors_text result, shows_modelAndView ?_⟩
    have lines := isInfix_attributeLines listed
    rw [attributeLines, found] at lines
    rw [there]
    exact lines
  unboundErrors m bindings there same := by
    rw [text, text, parts, parts, there, modelAndView_congr same]
  flashAttribute attributes name value there listed := by
    refine shows_flash ?_
    rw [there]
    exact isInfix_flash listed

/-- Of two fields of a name the first is shown and the second makes no difference; the errors of an
    attribute are shown with it. -/
theorem shownLaw_second_value :
    ∃ o : Outcome, o.response.headers = [("Vary", "Accept"), ("vary", "Origin")] ∧
      (∃ all, InBraces ("Vary" ++ "=" ++ "Accept") all ∧
        Shows o "MockResponse" [entry "headers" all]) ∧
      text { o with response := { o.response with headers := [("Vary", "Accept")] } } = text o ∧
      ∃ errors, ListsErrors ⟨[("age", "too low")], []⟩ errors ∧
        Shows o "ModelAndView"
          [entry "Attribute" "form", entry "value" Json.null.text, entry "errors" errors] := by
  let m : ModelAndView :=
    { model := [("form", .null)], bindings := [("form", ⟨[("age", "too low")], []⟩)] }
  let o : Outcome :=
    { response := { headers := [("Vary", "Accept"), ("vary", "Origin")] }, modelAndView := some m }
  have law := shownLaw o
  refine ⟨o, rfl, law.newHeader [] _ _ _ rfl rfl, ?_, ?_⟩
  · exact law.knownHeader [("Vary", "Accept")] "vary" "Origin" [] rfl (by decide)
  · have found : m.bindings.find? "form" = some ⟨[("age", "too low")], []⟩ := if_pos rfl
    exact law.boundErrors m "form" .null _ rfl (.head _) found

theorem not_infix_of_all {needle : List Char}
    (absent : lines.all (fun line => !Text.occursIn needle line.toList) = true) :
    ∀ line ∈ lines, ¬needle <:+: line.toList := by
  intro line listed occurs
  have missing := List.all_eq_true.mp absent line listed
  rw [Text.occursIn_iff.mpr occurs] at missing
  cases missing

/-- The second value of a header field occurs nowhere in the section of the response, and an error
    under a name that no attribute has nowhere in that of the model. -/
theorem lost_in_dump :
    (∃ r : Response, ("Vary", "Origin") ∈ r.headers ∧
      ∀ line ∈ response r, ¬"Origin".toList <:+: line.toList) ∧
    ∃ m : ModelAndView, m.errorCount = 1 ∧
      ("invalid", ⟨[], ["passwords differ"]⟩) ∈ m.bindings ∧
      ∀ line ∈ modelAndView (some m), ¬"passwords differ".toList <:+: line.toList := by
  constructor
  · refine ⟨{ headers := [("Vary", "Accept"), ("Vary", "Origin")] }, by decide, ?_⟩
    exact not_infix_of_all (by cbv)
  · refine ⟨{ bindings := [("invalid", ⟨[], ["passwords differ"]⟩)] }, rfl, .head _, ?_⟩
    exact not_infix_of_all (by cbv)

end Exchange.Dump
