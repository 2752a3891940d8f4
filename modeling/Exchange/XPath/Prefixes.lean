import Exchange.Data.Table
import Exchange.Text.Utf8

/-! # The prefixes of an expression

The namespace prefixes that the name tests of an expression use, found by a scan of its UTF-8 bytes
before anything is known of its grammar. Literals in quotes are skipped, and a run of name bytes is
a prefix if a colon and the start of a name or an asterisk follow it.
-/

namespace Exchange.XPath

/-- The bytes that the scan looks for. -/
def apostrophe : UInt8 := 0x27

/-- The double quote. -/
def doubleQuote : UInt8 := 0x22

/-- The colon. -/
def colon : UInt8 := 0x3A

/-- The asterisk. -/
def asterisk : UInt8 := 0x2A

/-- A byte that a name may start with. Every byte of a character beyond ASCII is one. -/
def isNameStart (b : UInt8) : Bool :=
  (0x41 ≤ b && b ≤ 0x5A) || (0x61 ≤ b && b ≤ 0x7A) || b == 0x5F || 0x80 ≤ b

/-- A byte that a name may go on with. -/
def isNameByte (b : UInt8) : Bool :=
  isNameStart b || (0x30 ≤ b && b ≤ 0x39) || b == 0x2D || b == 0x2E

/-- Where the literal ends that a quote before `i` opens: behind the next such quote, or at the
    end. -/
def literalEnd (bytes : List UInt8) (quote : UInt8) (i : Nat) : Nat :=
  match (bytes.drop i).findIdx? (· == quote) with
  | some k => i + k + 1
  | none => bytes.length

/-- Where the run of name bytes at `i` ends. -/
def runEnd (bytes : List UInt8) (i : Nat) : Nat :=
  i + ((bytes.drop i).takeWhile isNameByte).length

/-- What one step of the scan does: where the next one starts, and the prefix it has found, as the
    places where that starts and ends. -/
structure ScanStep where
  next : Nat
  found : Option (Nat × Nat) := none
  deriving Repr, DecidableEq

/-- What follows a run of name bytes from `start` to `stop`. The colons of an axis go with it. -/
def scanName (bytes : List UInt8) (start stop : Nat) : ScanStep :=
  if bytes[stop]? = some colon then
    match bytes[stop + 1]? with
    | some b =>
      if b = colon then ⟨stop + 2, none⟩
      else if isNameStart b || b == asterisk then ⟨stop + 1, some (start, stop)⟩
      else ⟨stop + 1, none⟩
    | none => ⟨stop + 1, none⟩
  else ⟨stop, none⟩

/-- One step of the scan, at a byte `b` that stands at `i`. -/
def scanStep (bytes : List UInt8) (i : Nat) (b : UInt8) : ScanStep :=
  if b = apostrophe ∨ b = doubleQuote then ⟨literalEnd bytes b (i + 1), none⟩
  else if isNameStart b then scanName bytes i (runEnd bytes i)
  else ⟨i + 1, none⟩

theorem le_literalEnd {bytes : List UInt8} {quote : UInt8} {i : Nat} (h : i ≤ bytes.length) :
    i ≤ literalEnd bytes quote i := by
  unfold literalEnd
  split <;> omega

theorem lt_runEnd {bytes : List UInt8} {i : Nat} {b : UInt8} (h : bytes[i]? = some b)
    (hb : isNameStart b) : i < runEnd bytes i := by
  obtain ⟨hi, rfl⟩ := List.getElem?_eq_some_iff.1 h
  have : bytes.drop i = bytes[i] :: bytes.drop (i + 1) := List.drop_eq_getElem_cons hi
  unfold runEnd
  rw [this, List.takeWhile_cons]
  simp [isNameByte, hb]

theorem le_scanName (bytes : List UInt8) (start stop : Nat) :
    stop ≤ (scanName bytes start stop).next := by
  unfold scanName
  split
  · split
    · split
      · simp
      · split <;> simp
    · simp
  · simp

/-- Every step goes forward. -/
theorem lt_scanStep {bytes : List UInt8} {i : Nat} {b : UInt8} (h : bytes[i]? = some b) :
    i < (scanStep bytes i b).next := by
  have hi := (List.getElem?_eq_some_iff.1 h).1
  unfold scanStep
  split
  · exact le_literalEnd hi
  · split
    · exact Nat.lt_of_lt_of_le (lt_runEnd h ‹_›) (le_scanName _ _ _)
    · simp

/-- The steps of the scan from a place on, with the places at which they are taken. -/
def scanFrom (bytes : List UInt8) (i : Nat) : List (Nat × ScanStep) :=
  match _h : bytes[i]? with
  | none => []
  | some b =>
    let step := scanStep bytes i b
    (i, step) :: scanFrom bytes step.next
termination_by bytes.length - i
decreasing_by
  have hi := (List.getElem?_eq_some_iff.1 _h).1
  have := lt_scanStep _h
  omega

/-- The text of the bytes from one place to another. -/
def textBetween (bytes : List UInt8) (start stop : Nat) : String :=
  match Text.Utf8.decode ((bytes.take stop).drop start) with
  | .ok s => s
  | .error _ => ""

/-- The prefixes that an expression uses, in ascending order. -/
def prefixes (expression : String) : List String :=
  let bytes := Text.Utf8.encode expression
  let found := (scanFrom bytes 0).filterMap fun (_, step) => step.found
  let texts := found.map fun (start, stop) => textBetween bytes start stop
  Table.names (Table.ofList (texts.map fun s => (s, ())))

end Exchange.XPath
