import Mathlib
import Exchange.Proofs.Matcher.Run
import Exchange.Proofs.Text.AsciiCase
import Exchange.Proofs.Text.Utf8

/-! # Bodies and the texts in them

A body is read as a text if its bytes are those of the text in the declared encoding, and only then.
So the expectation of a text holds of one body in each encoding at most, and of none where the
encoding is not known or has no bytes for some character.
-/

namespace Exchange

/-- One byte for every character, if all are below a bound. -/
def Body.charBytes? (bound : Nat) (s : String) : Option (List UInt8) :=
  if ∀ c ∈ s.toList, c.toNat < bound then some (s.toList.map fun c => UInt8.ofNat c.toNat) else none

namespace Encoding

variable {e : Encoding} {name s : String} {bytes : List UInt8}

/-- The names of an encoding, in upper case. -/
def names : Encoding → List String
  | utf8 => ["UTF-8", "UTF8"]
  | latin1 => ["ISO-8859-1", "ISO8859-1", "LATIN1"]
  | ascii => ["US-ASCII", "ASCII"]

/-- Is this a name of the encoding, in any letter case? -/
def Named (e : Encoding) (name : String) : Prop :=
  ∃ known ∈ e.names, Text.sameIgnoringCase name known = true

theorem asciiUpper_of_mem_names {known : String} (mem : known ∈ e.names) :
    Text.asciiUpper known = known := by
  cases e <;> simp only [names, List.mem_cons, List.not_mem_nil, or_false] at mem <;>
    rcases mem with rfl | rfl | rfl <;> cbv

theorem ofName?_eq_some_iff_mem : ofName? name = some e ↔ Text.asciiUpper name ∈ e.names := by
  unfold ofName?
  generalize Text.asciiUpper name = upper
  split
  case h_8 => cases e <;> simp_all [names]
  all_goals cases e <;> simp [names]

theorem ofName?_eq_some_iff : ofName? name = some e ↔ e.Named name := by
  rw [ofName?_eq_some_iff_mem]
  constructor
  · intro mem
    exact ⟨_, mem, Text.asciiUpper_eq_iff.mp (asciiUpper_of_mem_names mem).symm⟩
  · rintro ⟨known, mem, same⟩
    rwa [Text.asciiUpper_eq_iff.mpr same, asciiUpper_of_mem_names mem]

theorem Named.unique {e' : Encoding} (named : e.Named name) (named' : e'.Named name) : e = e' := by
  rw [← ofName?_eq_some_iff] at named named'
  exact Option.some.inj (named.symm.trans named')

/-- The bytes of a text, if the encoding has bytes for all its characters. -/
def encode? : Encoding → String → Option (List UInt8)
  | utf8, s => some (Text.Utf8.encode s)
  | latin1, s => Body.charBytes? 0x100 s
  | ascii, s => Body.charBytes? 0x80 s

end Encoding

namespace Body

variable {e : Encoding} {name s : String} {bytes : List UInt8}

theorem byteChars_eq_iff {bound : Nat} (small : bound ≤ 0x100) :
    (∀ b ∈ bytes, b.toNat < bound) ∧ byteChars bytes = s ↔ charBytes? bound s = some bytes := by
  simp only [charBytes?, Option.ite_none_right_eq_some, Option.some.injEq]
  constructor
  · rintro ⟨below, rfl⟩
    simp only [byteChars, String.toList_ofList, List.forall_mem_map, List.map_map]
    have char (b : UInt8) (mem : b ∈ bytes) : (Char.ofNat b.toNat).toNat = b.toNat := by
      have := below b mem
      rw [Char.toNat_ofNat, if_pos (.inl (by omega))]
    refine ⟨fun b mem => by rw [char b mem]; exact below b mem, ?_⟩
    conv_rhs => rw [← List.map_id bytes]
    refine List.map_congr_left fun b mem => ?_
    rw [Function.comp_apply, char b mem, UInt8.ofNat_toNat, id]
  · rintro ⟨below, rfl⟩
    have byte (c : Char) (mem : c ∈ s.toList) : (UInt8.ofNat c.toNat).toNat = c.toNat := by
      have := below c mem
      rw [UInt8.toNat_ofNat', Nat.mod_eq_of_lt (by omega)]
    simp only [byteChars, List.forall_mem_map, List.map_map]
    refine ⟨fun c mem => by rw [byte c mem]; exact below c mem, ?_⟩
    conv_rhs => rw [← String.ofList_toList (s := s), ← List.map_id s.toList]
    refine congrArg String.ofList (List.map_congr_left fun c mem => ?_)
    rw [Function.comp_apply, byte c mem, Char.ofNat_toNat, id]

/-- Bytes are read as a text in an encoding if they are the bytes of the text in it. -/
theorem decodeAs_eq_ok_iff : decodeAs e bytes = .ok s ↔ e.encode? s = some bytes := by
  cases e with
  | utf8 =>
      rw [decodeAs, mapError_eq_ok_iff, Text.Utf8.decode_eq_ok_iff, Encoding.encode?,
        Option.some.injEq, eq_comm]
  | latin1 =>
      rw [Encoding.encode?, ← byteChars_eq_iff le_rfl, decodeAs, Except.ok.injEq]
      exact (and_iff_right fun b _ => b.toNat_lt).symm
  | ascii =>
      rw [Encoding.encode?, ← byteChars_eq_iff (by omega), decodeAs]
      cases beyond : bytes.findIdx? fun b => 0x80 ≤ b with
      | none =>
          simp only [List.findIdx?_eq_none_iff, decide_eq_false_iff_not, UInt8.not_le] at beyond
          rw [Except.ok.injEq]
          exact (and_iff_right beyond).symm
      | some offset =>
          have found : (bytes.findIdx? fun b => 0x80 ≤ b).isSome = true := by rw [beyond]; rfl
          rw [List.findIdx?_isSome, List.any_eq_true] at found
          obtain ⟨b, mem, high⟩ := found
          simp only [reduceCtorEq, false_iff, not_and]
          exact fun low => absurd (low b mem) (UInt8.not_lt.mpr (of_decide_eq_true high))

theorem decode_eq_ok_iff :
    decode bytes name = .ok s ↔ ∃ e : Encoding, e.Named name ∧ e.encode? s = some bytes := by
  unfold decode
  simp only [← Encoding.ofName?_eq_some_iff]
  cases Encoding.ofName? name with
  | none => simp
  | some e => simp [decodeAs_eq_ok_iff]

theorem decode_inj {bytes' : List UInt8} (read : decode bytes name = .ok s)
    (read' : decode bytes' name = .ok s) : bytes = bytes' := by
  obtain ⟨e, named, same⟩ := decode_eq_ok_iff.mp read
  obtain ⟨e', named', same'⟩ := decode_eq_ok_iff.mp read'
  cases named.unique named'
  exact Option.some.inj (same.symm.trans same')

end Body

namespace Response

variable {r r' : Response} {e : Encoding} {s : String}

/-- Is the body in this encoding? Where none is declared, it is in UTF-8. -/
def EncodedIn (r : Response) (e : Encoding) : Prop :=
  match r.encoding with
  | some name => e.Named name
  | none => e = .utf8

theorem encodedIn_iff : r.EncodedIn e ↔ e.Named (r.encoding.getD "UTF-8") := by
  unfold EncodedIn
  cases r.encoding with
  | some name => exact Iff.rfl
  | none =>
      have known : Encoding.ofName? "UTF-8" = some .utf8 := by cbv
      rw [Option.getD_none, ← Encoding.ofName?_eq_some_iff, known, Option.some.injEq, eq_comm]

theorem EncodedIn.unique {e' : Encoding} (encoded : r.EncodedIn e) (encoded' : r.EncodedIn e') :
    e = e' :=
  (encodedIn_iff.mp encoded).unique (encodedIn_iff.mp encoded')

theorem content_eq_ok_iff :
    r.content = .ok s ↔ ∃ e : Encoding, r.EncodedIn e ∧ e.encode? s = some r.body := by
  simp only [content, Body.decode_eq_ok_iff, encodedIn_iff]

end Response

namespace Matcher

variable {o : Outcome} {s : String}

theorem text_eq_pass_iff : (content (.text s)).verify o = Ruling.pass ↔
    ∃ e : Encoding, o.response.EncodedIn e ∧ e.encode? s = some o.response.body := by
  rw [← Response.content_eq_ok_iff, verify_eq]
  refine bind_eq_ok_iff.trans ?_
  simp only [ContentMatcher.contentOf, mapError_eq_ok_iff]
  constructor
  · rintro ⟨found, read, same⟩
    rwa [Ruling.equal_eq_pass_iff.mp same] at read
  · exact fun read => ⟨s, read, Ruling.equal_eq_pass_iff.mpr rfl⟩

theorem text_eq_content_error_iff :
    (∃ fault, (content (.text s)).verify o = .error (.content (.body fault))) ↔
      ¬ ∃ (e : Encoding) (s' : String), o.response.EncodedIn e ∧
        e.encode? s' = some o.response.body := by
  rw [exists_comm]
  simp only [← Response.content_eq_ok_iff, verify_eq]
  constructor
  · rintro ⟨fault, failed⟩ ⟨s', read⟩
    rcases bind_eq_error_iff.mp failed with unread | ⟨found, -, differs⟩
    · simp [ContentMatcher.contentOf, read, Except.mapError] at unread
    · unfold Ruling.equal at differs
      split at differs <;> cases differs
  · intro unread
    cases read : o.response.content with
    | ok s' => exact (unread ⟨s', read⟩).elim
    | error fault =>
        exact ⟨fault, bind_eq_error_iff.mpr (.inl (mapError_eq_error_iff.mpr ⟨fault, read, rfl⟩))⟩

/-- The content is a text if the encoding of the response is known and the body is the text in it.
    So decoding loses nothing, no two bodies in one encoding are one text, and a body that is no
    text in a known encoding is at fault whatever text is expected. -/
theorem text_round_trip :
    (∀ o s, (content (.text s)).verify o = Ruling.pass ↔
      ∃ e : Encoding, o.response.EncodedIn e ∧ e.encode? s = some o.response.body) ∧
    (∀ bytes name s, Body.decode bytes name = .ok s ↔
      ∃ e : Encoding, e.Named name ∧ e.encode? s = some bytes) ∧
    (∀ bytes bytes' name s, Body.decode bytes name = .ok s → Body.decode bytes' name = .ok s →
      bytes = bytes') ∧
    (∀ (e : Encoding) o o' s, o.response.EncodedIn e → o'.response.EncodedIn e →
      (content (.text s)).verify o = Ruling.pass → (content (.text s)).verify o' = Ruling.pass →
      o.response.body = o'.response.body) ∧
    (∀ o s, (∃ fault, (content (.text s)).verify o = .error (.content (.body fault))) ↔
      ¬ ∃ (e : Encoding) (s' : String), o.response.EncodedIn e ∧
        e.encode? s' = some o.response.body) := by
  refine ⟨fun _ _ => text_eq_pass_iff, fun _ _ _ => Body.decode_eq_ok_iff,
    fun _ _ _ _ => Body.decode_inj, ?_, fun _ _ => text_eq_content_error_iff⟩
  intro e o o' s encoded encoded' passed passed'
  obtain ⟨f, known, bytes⟩ := text_eq_pass_iff.mp passed
  obtain ⟨f', known', bytes'⟩ := text_eq_pass_iff.mp passed'
  cases known.unique encoded
  cases known'.unique encoded'
  exact Option.some.inj (bytes.symm.trans bytes')

end Matcher

end Exchange
