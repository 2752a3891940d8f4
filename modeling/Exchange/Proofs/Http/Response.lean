import Mathlib
import Exchange.Proofs.Http.Headers
import Exchange.Proofs.Matcher.Run
import Exchange.Proofs.Ruling

/-! # Responses as they are built

A response is built in steps, of which those before the last start do not count. What steps
overwrite is as the last of them left it. Header fields are added behind those there are, but a
content type takes the fields of its name out first. A redirect overwrites the target and adds a
`Location` field, so that the target is the URL of the last redirect, while the field that is found
has that of the first.
-/

namespace Exchange.Response

open Text (sameIgnoringCase)

variable {α β : Type} {a : α} {r : Response} {step : Step} {steps before after : List Step}
  {name text : String} {headers : Headers}

namespace Step

def isStart : Step → Bool
  | .start _ => true
  | _ => false

def type? : Step → Option String
  | .contentType text => some text
  | _ => none

/-- The encoding that a step sets, if it does. -/
def encoding? : Step → Option String
  | .encoding name => some name
  -- A content type that names no encoding leaves the one that there is.
  | .contentType text => charsetOf? text
  | _ => none

def redirect? : Step → Option String
  | .redirect url => some url
  | _ => none

/-- The header field that a step adds to those there are. -/
def field? : Step → Option (String × String)
  | .header name value => some (name, value)
  | .redirect url => some ("Location", url)
  | _ => none

/-- What a step makes of the header fields. -/
def onFields (headers : Headers) (step : Step) : Headers :=
  match step.type? with
  | some text => headers.without "Content-Type" ++ [("Content-Type", text)]
  | none => headers ++ step.field?.toList

end Step

/-- The steps that count: those behind the last start. -/
def counted (steps : List Step) : List Step := steps.rtakeWhile fun step => !step.isStart

/-- The last step that sets something sets it to this value. -/
def LastSets (set? : Step → Option α) (steps : List Step) (a : α) : Prop :=
  ∃ before step after, steps = before ++ step :: after ∧ set? step = some a ∧
    ∀ later ∈ after, set? later = none

theorem lastSets_iff {set? : Step → Option α} :
    LastSets set? steps a ↔ (steps.filterMap set?).getLast? = some a := by
  rw [List.getLast?_filterMap, List.findSome?_eq_some_iff, LastSets]
  constructor
  · rintro ⟨before, step, after, rfl, sets, others⟩
    exact ⟨after.reverse, step, before.reverse, by simp, sets, by simpa using others⟩
  · rintro ⟨after, step, before, split, sets, others⟩
    refine ⟨before.reverse, step, after.reverse, ?_, sets, by simpa using others⟩
    have flipped := congrArg List.reverse split
    simpa using flipped

theorem build_concat : build (steps ++ [step]) = (build steps).apply step := by
  rw [build, List.foldl_append]
  rfl

/-- What becomes of a part of the response is said by what each step that counts makes of it. -/
theorem build_eq_foldl (get : Response → β) {next : β → Step → β} {first : β}
    (started : ∀ status, get { status := status } = first)
    (stepped : ∀ r step, step.isStart = false → get (r.apply step) = next (get r) step) :
    get (build steps) = (counted steps).foldl next first := by
  induction steps using List.reverseRecOn with
  | nil => exact started 200
  | append_singleton steps step ih =>
      rw [build_concat, counted, List.rtakeWhile_concat]
      cases starts : step.isStart with
      | false =>
          rw [stepped _ _ starts, ih, if_pos (by simp), List.foldl_append]
          rfl
      | true =>
          -- Of the response so far nothing is left.
          cases step <;> cases starts
          exact started _

theorem foldl_or (set? : Step → Option α) (steps : List Step) :
    steps.foldl (fun last step => (set? step).or last) none =
      (steps.filterMap set?).getLast? := by
  induction steps using List.reverseRecOn with
  | nil => rfl
  | append_singleton steps step ih =>
      rw [List.foldl_append, List.foldl_cons, List.foldl_nil, ih, List.filterMap_append,
        List.getLast?_append]
      cases found : set? step <;> simp [found]

theorem build_eq_getLast? (get : Response → Option α) {set? : Step → Option α}
    (started : ∀ status, get { status := status } = none)
    (stepped : ∀ r step, step.isStart = false → get (r.apply step) = (set? step).or (get r)) :
    get (build steps) = ((counted steps).filterMap set?).getLast? :=
  (build_eq_foldl get started stepped).trans (foldl_or set? (counted steps))

theorem contentType_build :
    (build steps).contentType = ((counted steps).filterMap Step.type?).getLast? := by
  refine build_eq_getLast? Response.contentType (fun _ => rfl) fun r step counts => ?_
  cases step with
  | start _ => cases counts
  | _ => rfl

theorem encoding_build :
    (build steps).encoding = ((counted steps).filterMap Step.encoding?).getLast? := by
  refine build_eq_getLast? Response.encoding (fun _ => rfl) fun r step counts => ?_
  cases step with
  | start _ => cases counts
  | contentType text => exact Option.orElse_eq_or
  | _ => rfl

theorem redirectedUrl_build :
    (build steps).redirectedUrl = ((counted steps).filterMap Step.redirect?).getLast? := by
  refine build_eq_getLast? Response.redirectedUrl (fun _ => rfl) fun r step counts => ?_
  cases step with
  | start _ => cases counts
  | _ => rfl

theorem charset_iff {text name : String} :
    charsetOf? text = some name ↔
      ∃ m, MediaType.read text = .ok m ∧ m.parameter? "charset" = some name := by
  unfold charsetOf? MediaType.charset?
  cases MediaType.read text <;> simp

theorem headers_build : (build steps).headers = (counted steps).foldl Step.onFields [] := by
  refine build_eq_foldl Response.headers (fun _ => rfl) fun r step counts => ?_
  cases step with
  | start _ => cases counts
  | header _ _ | contentType _ | redirect _ => rfl
  | _ => exact (List.append_nil _).symm

theorem foldl_onFields_of_untyped (untyped : ∀ step ∈ steps, step.type? = none) :
    steps.foldl Step.onFields headers = headers ++ steps.filterMap Step.field? := by
  induction steps generalizing headers with
  | nil => exact (List.append_nil _).symm
  | cons step steps ih =>
      rw [List.forall_mem_cons] at untyped
      rw [List.foldl_cons, ih untyped.2, Step.onFields, untyped.1, List.append_assoc]
      cases step <;> rfl

theorem without_onFields (step : Step) : (step.onFields headers).without "Content-Type" =
    headers.without "Content-Type" ++ Headers.without "Content-Type" step.field?.toList := by
  cases step with
  | contentType text =>
      have own : Headers.without "Content-Type" [("Content-Type", text)] = [] := by
        simp [Headers.without, sameIgnoringCase]
      refine Headers.without_append.trans ?_
      rw [Headers.without_without, own]
      rfl
  | _ => exact Headers.without_append

/-- Of the fields of other names none is lost, none comes twice, and they keep their order. -/
theorem without_headers_build : (build steps).headers.without "Content-Type" =
    Headers.without "Content-Type" ((counted steps).filterMap Step.field?) := by
  rw [headers_build]
  induction counted steps using List.reverseRecOn with
  | nil => rfl
  | append_singleton steps step ih =>
      rw [List.foldl_append, List.foldl_cons, List.foldl_nil, without_onFields, ih,
        List.filterMap_append, Headers.without_append, List.filterMap_eq_flatMap_toList _ [step],
        List.flatMap_singleton]

theorem values_headers_build (other : sameIgnoringCase name "Content-Type" = false) :
    (build steps).headers.values name =
      Headers.values name ((counted steps).filterMap Step.field?) := by
  rw [← Headers.values_without_of_ne other, without_headers_build,
    Headers.values_without_of_ne other]

theorem values_headers_of_typed (own : sameIgnoringCase name "Content-Type" = true)
    (split : counted steps = before ++ .contentType text :: after)
    (untyped : ∀ step ∈ after, step.type? = none) :
    (build steps).headers.values name =
      text :: Headers.values name (after.filterMap Step.field?) := by
  rw [Headers.values_congr own, Headers.values_congr own, headers_build, split, List.foldl_append,
    List.foldl_cons, foldl_onFields_of_untyped untyped, Headers.values_append]
  show Headers.values _ (Headers.without _ _ ++ _) ++ _ = _
  rw [Headers.values_append, Headers.values_without_self]
  rfl

/-- The content type, the encoding and the header fields of a response that steps have built. -/
structure BuildLaw (steps : List Step) : Prop where
  contentType (text : String) :
    (build steps).contentType = some text ↔ LastSets Step.type? (counted steps) text
  encoding (name : String) :
    (build steps).encoding = some name ↔ LastSets Step.encoding? (counted steps) name
  /-- A content type sets an encoding if it is read as a media type with a `charset`. -/
  charset (text name : String) : (Step.contentType text).encoding? = some name ↔
    ∃ m, MediaType.read text = .ok m ∧ m.parameter? "charset" = some name
  /-- The content type is the only field of its name, unless a later step adds another. -/
  typeField {before after : List Step} {text name : String} :
    counted steps = before ++ .contentType text :: after →
    (∀ later ∈ after, later.type? = none) →
    (∀ n value, Step.header n value ∈ after → sameIgnoringCase n "Content-Type" = false) →
    sameIgnoringCase name "Content-Type" = true → (build steps).headers.values name = [text]
  /-- The fields of other names are those that were added, in the same order. -/
  otherFields : (build steps).headers.without "Content-Type" =
    Headers.without "Content-Type" ((counted steps).filterMap Step.field?)

theorem buildLaw (steps : List Step) : BuildLaw steps where
  contentType text := by rw [contentType_build, lastSets_iff]
  encoding name := by rw [encoding_build, lastSets_iff]
  charset _ _ := charset_iff
  typeField split untyped unnamed own := by
    rw [values_headers_of_typed own split untyped, Headers.values_congr own,
      Headers.values_eq_nil]
    intro field added
    obtain ⟨step, later, adds⟩ := List.mem_filterMap.mp added
    cases step with
    | header n value =>
        cases adds
        exact unnamed n value later
    | redirect url =>
        cases adds
        exact (by decide : sameIgnoringCase "Location" "Content-Type" = false)
    | _ => cases adds
  otherFields := without_headers_build

/-- The second content type takes the fields of the first out, in any letter case, and names no
    encoding of its own. -/
theorem buildLaw_second_type :
    let first : List Step := [.header "CONTENT-TYPE" "a/b",
      .contentType "text/plain;charset=latin1", .redirect "/a"]
    let r := build (first ++ [.contentType "text/html"])
    r.contentType = some "text/html" ∧ r.encoding = some "latin1" ∧
      r.headers.values "content-type" = ["text/html"] ∧
      r.headers.without "Content-Type" = [("Location", "/a")] := by
  intro first r
  have law := buildLaw (first ++ [.contentType "text/html"])
  have split : counted (first ++ [.contentType "text/html"]) =
      first ++ .contentType "text/html" :: [] := rfl
  have charset : (Step.contentType "text/plain;charset=latin1").encoding? = some "latin1" :=
    (law.charset _ _).mpr ⟨(MediaType.of "text" "plain").setParameter "charset" "latin1",
      by decide +kernel, by decide +kernel⟩
  refine ⟨(law.contentType _).mpr ⟨first, _, [], split, rfl, by simp⟩,
    (law.encoding _).mpr ⟨[.header "CONTENT-TYPE" "a/b"], _,
      [.redirect "/a", .contentType "text/html"], split, charset, by decide +kernel⟩,
    law.typeField split (by simp) (by simp) (by decide), law.otherFields.trans (by decide)⟩

/-- The URLs of redirects in order. -/
def redirects (steps : List Step) : List String := (counted steps).filterMap Step.redirect?

theorem values_location_field? {step : Step}
    (unnamed : ∀ n value, step = .header n value → sameIgnoringCase n "Location" = false) :
    Headers.values "Location" step.field?.toList = step.redirect?.toList := by
  cases step with
  | header n value => simp [Headers.values, Step.field?, Step.redirect?, unnamed n value rfl]
  | redirect url => simp [Headers.values, Step.field?, Step.redirect?, sameIgnoringCase]
  | _ => rfl

theorem values_location_build (unnamed : ∀ n value, Step.header n value ∈ counted steps →
      sameIgnoringCase n "Location" = false) :
    (build steps).headers.values "Location" = redirects steps := by
  rw [values_headers_build (by decide), redirects, List.filterMap_eq_flatMap_toList,
    List.filterMap_eq_flatMap_toList]
  generalize counted steps = steps at unnamed
  induction steps with
  | nil => rfl
  | cons step steps ih =>
      have first : ∀ n value, step = .header n value → sameIgnoringCase n "Location" = false := by
        rintro n value rfl
        exact unnamed n value List.mem_cons_self
      rw [List.flatMap_cons, List.flatMap_cons, Headers.values_append, values_location_field? first,
        ih fun n value later => unnamed n value (List.mem_cons_of_mem step later)]

/-- Where a redirect leads and what the `Location` field says. -/
structure RedirectLaw (steps : List Step) : Prop where
  target : (build steps).redirectedUrl = (redirects steps).getLast?
  location : (build steps).header? "Location" = (redirects steps).head?
  /-- They agree if the first redirect and the last one have the same URL. -/
  agree : (∀ url, (build steps).redirectedUrl = some url ↔
      (build steps).header? "Location" = some url) ↔
    (redirects steps).head? = (redirects steps).getLast?
  matchers : (∀ (o : Outcome) (url : String), o.response = build steps →
      ((Matcher.redirectedUrl url).verify o = .pass ↔
        (Matcher.header "Location" (.value url)).verify o = .pass)) ↔
    (redirects steps).head? = (redirects steps).getLast?

theorem redirectLaw (unnamed : ∀ n value, Step.header n value ∈ counted steps →
      sameIgnoringCase n "Location" = false) : RedirectLaw steps := by
  have target : (build steps).redirectedUrl = (redirects steps).getLast? := redirectedUrl_build
  have location : (build steps).header? "Location" = (redirects steps).head? := by
    rw [header?, Headers.first?, values_location_build unnamed]
  have agree : (∀ url, (build steps).redirectedUrl = some url ↔
        (build steps).header? "Location" = some url) ↔
      (redirects steps).head? = (redirects steps).getLast? := by
    rw [target, location, eq_comm]
    exact ⟨fun same => Option.ext same, fun same url => by rw [same]⟩
  have matchers : (∀ (o : Outcome) (url : String), o.response = build steps →
        ((Matcher.redirectedUrl url).verify o = .pass ↔
          (Matcher.header "Location" (.value url)).verify o = .pass)) ↔
      ∀ url, (build steps).redirectedUrl = some url ↔
        (build steps).header? "Location" = some url := by
    simp only [Matcher.verify_eq, HeaderMatcher.rule, Ruling.equalOptional_eq_pass_iff]
    constructor
    · intro same url
      exact same { response := build steps } url rfl
    · intro same o url built
      rw [built]
      exact same url
  exact ⟨target, location, agree, matchers.trans agree⟩

/-- The second redirect moves the target, but the field of the first is still found. -/
theorem redirected_twice :
    let steps : List Step := [.redirect "/a", .redirect "/b"]
    (∀ n value, Step.header n value ∈ counted steps → sameIgnoringCase n "Location" = false) ∧
    (build steps).redirectedUrl = some "/b" ∧ (build steps).header? "Location" = some "/a" := by
  refine ⟨?_, by decide, by decide⟩
  intro n value listed
  simp [counted, List.rtakeWhile, Step.isStart] at listed

/-- Back at the first URL, and the field that was set before the start does not count. -/
theorem redirectLaw_back :
    let steps : List Step := [.header "location" "/old", .start 200, .redirect "/a",
      .header "X-Location" "/x", .redirect "/b", .redirect "/a"]
    (∀ n value, Step.header n value ∈ counted steps → sameIgnoringCase n "Location" = false) ∧
    ∀ url, (build steps).redirectedUrl = some url ↔
      (build steps).header? "Location" = some url := by
  intro steps
  have unnamed : ∀ n value, Step.header n value ∈ counted steps →
      sameIgnoringCase n "Location" = false := by
    intro n value listed
    have named : n = "X-Location" := by
      simp [steps, counted, List.rtakeWhile, Step.isStart] at listed
      exact listed.1
    rw [named]
    decide
  exact ⟨unnamed, (redirectLaw unnamed).agree.mpr (by decide)⟩

end Exchange.Response
