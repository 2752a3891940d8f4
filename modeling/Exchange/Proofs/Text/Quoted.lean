import Mathlib
import Exchange.Proofs.Text.Pieces
import Exchange.Text.Quoted

/-! # Quoted texts are told apart

What a character is written as between quotes is never the beginning of what another one is written
as, and never starts with a quote. So the closing quote is found again, and different texts have
different quoted forms, even with more text behind them.
-/

namespace Exchange.Text

variable {c d e : Char} {cs ds rest more : List Char}

theorem toDigits_cases {b : Nat} (base : 1 < b) (n : Nat) :
    n < b ∧ Nat.toDigits b n = [Nat.digitChar n] ∨
      b ≤ n ∧ Nat.toDigits b n = Nat.toDigits b (n / b) ++ [Nat.digitChar (n % b)] := by
  rcases Nat.lt_or_ge n b with small | large
  · exact .inl ⟨small, Nat.toDigits_of_lt_base small⟩
  · exact .inr ⟨large, Nat.toDigits_of_base_le base large⟩

theorem digitChar_inj {m n : Nat} (small : m < 16) (small' : n < 16)
    (same : Nat.digitChar m = Nat.digitChar n) : m = n := by
  have all : ∀ i < 16, ∀ j < 16, Nat.digitChar i = Nat.digitChar j → i = j := by decide
  exact all m small n small' same

theorem hexDigits_inj {m n : Nat} (same : hexDigits m = hexDigits n) : m = n := by
  induction m using Nat.strongRecOn generalizing n with
  | ind m ih =>
      unfold hexDigits at same ih
      rcases toDigits_cases (b := 16) (by decide) m with ⟨small, last⟩ | ⟨large, split⟩ <;>
        rcases toDigits_cases (b := 16) (by decide) n with ⟨small', last'⟩ | ⟨large', split'⟩
      · rw [last, last', List.singleton_inj] at same
        exact digitChar_inj small small' same
      · rw [last, split'] at same
        have short := congrArg List.length same
        have pos := List.length_pos_of_ne_nil (Nat.toDigits_ne_nil (n := n / 16) (b := 16))
        rw [List.length_append, List.length_singleton, List.length_singleton] at short
        omega
      · rw [split, last'] at same
        have short := congrArg List.length same
        have pos := List.length_pos_of_ne_nil (Nat.toDigits_ne_nil (n := m / 16) (b := 16))
        rw [List.length_append, List.length_singleton, List.length_singleton] at short
        omega
      · rw [split, split'] at same
        obtain ⟨front, back⟩ := List.append_inj' same rfl
        have quotients := ih (m / 16) (by omega) front
        have digits := digitChar_inj (Nat.mod_lt m (by decide)) (Nat.mod_lt n (by decide))
          (List.singleton_inj.mp back)
        omega

theorem brace_not_mem_hexDigits (n : Nat) : '\x7d' ∉ hexDigits n := by
  have none : ∀ i < 16, '\x7d' ≠ Nat.digitChar i := by decide
  induction n using Nat.strongRecOn with
  | ind n ih =>
      unfold hexDigits at ih ⊢
      rcases toDigits_cases (b := 16) (by decide) n with ⟨small, last⟩ | ⟨large, split⟩
      · rw [last, List.mem_singleton]
        exact none n small
      · rw [split, List.mem_append, List.mem_singleton, not_or]
        exact ⟨ih (n / 16) (by omega), none _ (Nat.mod_lt n (by decide))⟩

/-- The characters with a letter or sign of their own behind the backslash. -/
def lettered : List (Char × Char) :=
  [('\x00', '0'), ('\t', 't'), ('\r', 'r'), ('\n', 'n'), ('"', '"'), ('\\', '\\')]

/-- The ways of writing a character between quotes. -/
inductive Written : Char → List Char → Prop where
  | named {c e : Char} (listed : (c, e) ∈ lettered) : Written c ['\\', e]
  | numbered (c : Char) : Written c ('\\' :: 'u' :: '\x7b' :: (hexDigits c.toNat ++ ['\x7d']))
  | plain {c : Char} (unquoted : c ≠ '"') (unescaped : c ≠ '\\') : Written c [c]

theorem written_escapeChar (c : Char) : Written c (escapeChar c) := by
  unfold escapeChar
  split_ifs with zero tab carriage feed quote backslash
  · exact .named (by simp [lettered, zero])
  · exact .named (by simp [lettered, tab])
  · exact .named (by simp [lettered, carriage])
  · exact .named (by simp [lettered, feed])
  · exact .named (by simp [lettered, quote])
  · exact .named (by simp [lettered, backslash])
  · exact .numbered c
  · exact .plain quote backslash

namespace Written

/-- A letter behind the backslash stands for one character, and no character has the letter `u`. -/
theorem eq_of_named (listed : (c, e) ∈ lettered) : e ≠ 'u' ∧ ∀ d, (d, e) ∈ lettered → c = d := by
  have all : ∀ entry ∈ lettered, entry.2 ≠ 'u' ∧ ∀ other ∈ lettered, other.2 = entry.2 →
      entry.1 = other.1 := by decide
  obtain ⟨other, only⟩ := all (c, e) listed
  exact ⟨other, fun d listed' => only (d, e) listed' rfl⟩

/-- A written character is read off the front of a text in one way. -/
theorem append_inj (first : Written c cs) (second : Written d ds)
    (same : cs ++ rest = ds ++ more) : c = d ∧ rest = more := by
  cases first with
  | named listed =>
      cases second with
      | named listed' =>
          obtain ⟨rfl, rfl⟩ : _ = _ ∧ rest = more := by simpa using same
          exact ⟨(eq_of_named listed).2 d listed', rfl⟩
      | numbered =>
          have letter := (List.cons.inj (List.cons.inj same).2).1
          exact absurd letter (eq_of_named listed).1
      | plain unquoted unescaped => exact absurd (List.cons.inj same).1.symm unescaped
  | numbered =>
      cases second with
      | named listed' =>
          have letter := (List.cons.inj (List.cons.inj same).2).1
          exact absurd letter.symm (eq_of_named listed').1
      | numbered =>
          have tails : hexDigits c.toNat ++ '\x7d' :: rest = hexDigits d.toNat ++ '\x7d' :: more := by
            simpa using same
          have cut := congrArg (splitOnce? '\x7d') tails
          rw [splitOnce?_append (brace_not_mem_hexDigits _),
            splitOnce?_append (brace_not_mem_hexDigits _), Option.some_inj, Prod.mk.injEq] at cut
          exact ⟨Char.toNat_inj.mp (hexDigits_inj cut.1), cut.2⟩
      | plain unquoted unescaped => exact absurd (List.cons.inj same).1.symm unescaped
  | plain unquoted unescaped =>
      cases second with
      | named listed' => exact absurd (List.cons.inj same).1 unescaped
      | numbered => exact absurd (List.cons.inj same).1 unescaped
      | plain unquoted' unescaped' => exact List.cons.inj same

theorem exists_cons (written : Written c cs) : ∃ a rest, cs = a :: rest ∧ a ≠ '"' := by
  cases written with
  | named => exact ⟨_, _, rfl, by decide⟩
  | numbered => exact ⟨_, _, rfl, by decide⟩
  | plain unquoted unescaped => exact ⟨_, _, rfl, unquoted⟩

end Written

theorem escaped_append_inj {s t : List Char}
    (same : s.flatMap escapeChar ++ '"' :: rest = t.flatMap escapeChar ++ '"' :: more) :
    s = t ∧ rest = more := by
  induction s generalizing t with
  | nil =>
      cases t with
      | nil => exact ⟨rfl, (List.cons.inj same).2⟩
      | cons d t =>
          obtain ⟨a, ds, split, other⟩ := (written_escapeChar d).exists_cons
          rw [List.flatMap_cons, split] at same
          exact absurd (List.cons.inj same).1.symm other
  | cons c s ih =>
      cases t with
      | nil =>
          obtain ⟨a, cs, split, other⟩ := (written_escapeChar c).exists_cons
          rw [List.flatMap_cons, split] at same
          exact absurd (List.cons.inj same).1 other
      | cons d t =>
          rw [List.flatMap_cons, List.flatMap_cons, List.append_assoc, List.append_assoc] at same
          obtain ⟨rfl, tails⟩ := (written_escapeChar c).append_inj (written_escapeChar d) same
          obtain ⟨rfl, behind⟩ := ih tails
          exact ⟨rfl, behind⟩

theorem toList_quoted (s : String) :
    (quoted s).toList = '"' :: (s.toList.flatMap escapeChar ++ ['"']) :=
  String.toList_ofList

theorem quoted_append_inj {s t : String}
    (same : (quoted s).toList ++ rest = (quoted t).toList ++ more) : s = t ∧ rest = more := by
  rw [toList_quoted, toList_quoted] at same
  have inner : s.toList.flatMap escapeChar ++ '"' :: rest =
      t.toList.flatMap escapeChar ++ '"' :: more := by simpa using same
  obtain ⟨texts, behind⟩ := escaped_append_inj inner
  exact ⟨String.toList_inj.mp texts, behind⟩

end Exchange.Text
