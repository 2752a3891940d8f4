import Mathlib.Data.List.Basic
import Exchange.Proofs.XPath.Evaluation

/-! # Runs on a cache

Calls that share a cache are answered as if each of them built its expression anew. A cache that
starts empty holds, for every text, what is built from it or nothing: every call keeps this, be its
text there already, new, or impossible to build. The namespaces of a call do not come from the
cache, so expressions of one text may differ in them.
-/

namespace Exchange.XPath

open Query (CompileFault Found Mode)

namespace Cache

variable {cache : Cache} {text other : String} {fault : CompileFault} {e : Expr}

theorem sound_nil : Sound [] := by
  intro text e found
  cases found

theorem build_cases (cache : Cache) (text : String) :
    (∃ e, cache.find? text = some e ∧ cache.build text = (.ok e, cache)) ∨
    (∃ e, XPath.build text = .ok e ∧ cache.build text = (.ok e, cache.insert text e)) ∨
    ∃ fault, XPath.build text = .error fault ∧ cache.build text = (.error fault, cache) := by
  rw [build]
  cases cache.find? text with
  | some e => exact .inl ⟨e, rfl, rfl⟩
  | none =>
      dsimp only
      cases XPath.build text with
      | ok e => exact .inr (.inl ⟨e, rfl, rfl⟩)
      | error fault => exact .inr (.inr ⟨fault, rfl, rfl⟩)

theorem Sound.build_fst (sound : cache.Sound) (text : String) :
    (cache.build text).1 = XPath.build text := by
  rcases build_cases cache text with ⟨e, found, hit⟩ | ⟨e, built, miss⟩ | ⟨fault, refused, miss⟩
  · rw [hit, sound text e found]
  · rw [miss, built]
  · rw [miss, refused]

theorem Sound.find?_build (sound : cache.Sound) : (cache.build text).2.find? other = some e ↔
    cache.find? other = some e ∨ other = text ∧ XPath.build text = .ok e := by
  rcases build_cases cache text with ⟨d, found, hit⟩ | ⟨d, built, miss⟩ | ⟨fault, refused, miss⟩
  · rw [hit]
    refine ⟨.inl, fun held => held.elim id ?_⟩
    rintro ⟨rfl, built⟩
    cases (sound _ _ found).symm.trans built
    exact found
  · rw [miss]
    by_cases same : other = text
    · subst same
      rw [Table.find?_insert_self, built]
      refine ⟨fun held => .inr ⟨rfl, congrArg Except.ok (Option.some.inj held)⟩, fun held => ?_⟩
      rcases held with held | ⟨-, held⟩
      · cases (sound _ _ held).symm.trans built
        rfl
      · cases held
        rfl
    · rw [Table.find?_insert_of_ne same]
      simp [same]
  · rw [miss, refused]
    simp

theorem build_of_error (refused : XPath.build text = .error fault) :
    (cache.build text).2 = cache := by
  rcases build_cases cache text with ⟨e, -, hit⟩ | ⟨e, built, -⟩ | ⟨_, -, miss⟩
  · rw [hit]
  · cases built.symm.trans refused
  · rw [miss]

end Cache

/-- What is asked of the engine. -/
inductive Call where
  | compile (e : Query.Expression)
  | evaluate (q : XPathQuery) (document : XmlDocument) (mode : Mode)

/-- What the engine answers. -/
inductive Answer where
  | compiled (result : Except Failure XPathQuery)
  | evaluated (result : Except Failure (Found XmlNode))

namespace Call

/-- The text of the expression that a call is about. -/
def text : Call → String
  | compile e => e.text
  | evaluate q _ _ => q.expression.text

/-- The answer to a call that does not get as far as building its expression, because a prefix in it
    is unbound. -/
def refusal? : Call → Option Answer
  | compile e => (unboundPrefix? e).map fun p =>
    .compiled (.error (.compile .xpath e.text (.unboundPrefix p)))
  | evaluate _ _ _ => none

/-- What a call makes of what building its expression came to. An expression is evaluated with the
    namespaces of the call. -/
def finish (built : Except CompileFault Expr) : Call → Answer
  | compile e => .compiled do
    let _ ← built.mapError (.compile .xpath e.text)
    .ok ⟨e⟩
  | evaluate q document mode => .evaluated do
    let e ← built.mapError (.compile .xpath q.expression.text)
    let value ← (XPath.evaluate (environment q document) e).mapError
      (failure q.expression.text)
    coerce (environment q document).tree q.expression value mode

/-- The answer of an engine that keeps nothing: it builds the expression of each call anew. -/
def answer (call : Call) : Answer := call.refusal?.getD (call.finish (build call.text))

/-- Answer a call with a cache. -/
def serve (cache : Cache) : Call → Answer × Cache
  | compile e =>
    let (result, cache) := compileIn cache e
    (.compiled result, cache)
  | evaluate q document mode =>
    let (result, cache) := evaluateIn cache q document mode
    (.evaluated result, cache)

/-- The answers to some calls in a row, from a cache on. -/
def answers (cache : Cache) : List Call → List Answer
  | [] => []
  | call :: rest => (call.serve cache).1 :: answers (call.serve cache).2 rest

/-- The cache behind some calls in a row. -/
def cacheAfter (cache : Cache) : List Call → Cache
  | [] => cache
  | call :: rest => cacheAfter (call.serve cache).2 rest

variable {cache : Cache} {call : Call} {calls : List Call} {text : String} {e : Expr}

/-- A call with a cache comes down to building its text with the cache, if it gets as far. -/
theorem serve_eq (cache : Cache) (call : Call) : call.serve cache = match call.refusal? with
    | some refused => (refused, cache)
    | none => (call.finish (cache.build call.text).1, (cache.build call.text).2) := by
  cases call with
  | compile e =>
      simp only [serve, compileIn, refusal?]
      cases unboundPrefix? e with
      | some p => rfl
      | none =>
          dsimp only [Call.text, Option.map_none]
          rcases cache.build e.text with ⟨_ | _, _⟩ <;> rfl
  | evaluate q document mode =>
      simp only [serve, evaluateIn, refusal?, finish, Call.text]
      rcases cache.build q.expression.text with ⟨_ | expr, _⟩
      · rfl
      · show _ = (Answer.evaluated ((XPath.evaluate _ expr).mapError _ >>= _), _)
        dsimp only
        cases XPath.evaluate (environment q document) expr <;> rfl

theorem serve_fst (sound : cache.Sound) (call : Call) : (call.serve cache).1 = call.answer := by
  rw [serve_eq, answer]
  cases call.refusal? with
  | some refused => rfl
  | none => exact congrArg (finish · call) (sound.build_fst call.text)

/-- Does a call build a text? -/
def Builds (call : Call) (text : String) : Prop := call.refusal? = none ∧ call.text = text

theorem find?_serve (sound : cache.Sound) : (call.serve cache).2.find? text = some e ↔
    cache.find? text = some e ∨ call.Builds text ∧ build text = .ok e := by
  rw [serve_eq, Builds]
  cases call.refusal? with
  | some refused => simp
  | none =>
      simp only [sound.find?_build, true_and]
      refine or_congr_right ⟨?_, ?_⟩
      · rintro ⟨rfl, built⟩
        exact ⟨rfl, built⟩
      · rintro ⟨rfl, built⟩
        exact ⟨rfl, built⟩

theorem sound_serve (sound : cache.Sound) (call : Call) : (call.serve cache).2.Sound := by
  intro text e held
  rcases (find?_serve sound).mp held with before | ⟨-, built⟩
  · exact sound text e before
  · exact built

theorem serve_of_error {fault : CompileFault} (refused : build call.text = .error fault) :
    (call.serve cache).2 = cache := by
  rw [serve_eq]
  cases call.refusal? with
  | some _ => rfl
  | none => exact Cache.build_of_error refused

theorem answers_eq_map (sound : cache.Sound) (calls : List Call) :
    answers cache calls = calls.map answer := by
  induction calls generalizing cache with
  | nil => rfl
  | cons call rest ih =>
      rw [answers, List.map_cons, serve_fst sound call, ih (sound_serve sound call)]

/-- Behind some calls, a sound cache holds what it held, and the texts that calls have built. -/
theorem find?_cacheAfter (sound : cache.Sound) :
    (cacheAfter cache calls).find? text = some e ↔ cache.find? text = some e ∨
      (∃ call ∈ calls, call.Builds text) ∧ build text = .ok e := by
  induction calls generalizing cache with
  | nil => simp [cacheAfter]
  | cons call rest ih =>
      rw [cacheAfter, ih (sound_serve sound call), find?_serve sound]
      rw [List.exists_mem_cons_iff, or_and_right, or_assoc]

/-- The cache is transparent. Each of some calls in a row is answered as with an empty cache, which
    is as if its expression were built anew. Behind any calls the cache holds the texts that they
    have built, each with what is built from it, and a call whose text cannot be built leaves it as
    it is. -/
theorem cache_transparent :
    (∀ calls, answers [] calls = calls.map fun call => (call.serve []).1) ∧
    (∀ calls, answers [] calls = calls.map answer) ∧
    (∀ calls text e, (cacheAfter [] calls).find? text = some e ↔
      (∃ call ∈ calls, call.Builds text) ∧ build text = .ok e) ∧
    ∀ (calls : List Call) (call : Call) (fault : CompileFault), build call.text = .error fault →
      (call.serve (cacheAfter [] calls)).2 = cacheAfter [] calls := by
  refine ⟨fun calls => ?_, fun calls => ?_, fun calls text e => ?_, ?_⟩
  · rw [answers_eq_map Cache.sound_nil]
    exact List.map_congr_left fun call _ => (serve_fst Cache.sound_nil call).symm
  · exact answers_eq_map Cache.sound_nil calls
  · rw [find?_cacheAfter Cache.sound_nil]
    simp
  · intro calls call fault refused
    exact serve_of_error refused

end Call

end Exchange.XPath
