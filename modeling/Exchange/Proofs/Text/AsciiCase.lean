import Mathlib
import Exchange.Text.AsciiCase
import Exchange.Text.Blank

/-! # Letter case of ASCII compared

Texts agree up to letter case in lower case just as in upper case. Lower case is reached in one
step. It leaves blanks and the marks below the letters where they are, and adds none.
-/

namespace Exchange.Text

variable {c d : Char} {a b : String}

theorem toNat_asciiUpperChar (c : Char) :
    (asciiUpperChar c).toNat =
      if 97 ≤ c.toNat ∧ c.toNat ≤ 122 then c.toNat - 32 else c.toNat := by
  have letter : 'a' ≤ c ∧ c ≤ 'z' ↔ 97 ≤ c.toNat ∧ c.toNat ≤ 122 := Iff.rfl
  simp only [asciiUpperChar, letter]
  split
  · rw [Char.toNat_ofNat, if_pos (.inl (by omega))]
  · rfl

theorem toNat_asciiLowerChar (c : Char) :
    (asciiLowerChar c).toNat =
      if 65 ≤ c.toNat ∧ c.toNat ≤ 90 then c.toNat + 32 else c.toNat := by
  have letter : 'A' ≤ c ∧ c ≤ 'Z' ↔ 65 ≤ c.toNat ∧ c.toNat ≤ 90 := Iff.rfl
  simp only [asciiLowerChar, letter]
  split
  · rw [Char.toNat_ofNat, if_pos (.inl (by omega))]
  · rfl

theorem asciiUpperChar_eq_iff :
    asciiUpperChar c = asciiUpperChar d ↔ asciiLowerChar c = asciiLowerChar d := by
  simp only [← Char.toNat_inj, toNat_asciiUpperChar, toNat_asciiLowerChar]
  split_ifs <;> omega

theorem map_asciiUpperChar_eq_iff {cs ds : List Char} :
    cs.map asciiUpperChar = ds.map asciiUpperChar ↔
      cs.map asciiLowerChar = ds.map asciiLowerChar := by
  induction cs generalizing ds with
  | nil => cases ds <;> simp
  | cons c cs ih =>
      cases ds with
      | nil => simp
      | cons d ds => simp only [List.map_cons, List.cons.injEq, asciiUpperChar_eq_iff, ih]

theorem asciiUpper_eq_iff : asciiUpper a = asciiUpper b ↔ sameIgnoringCase a b = true := by
  simp only [asciiUpper, sameIgnoringCase, asciiLower, beq_iff_eq, String.ofList_inj,
    map_asciiUpperChar_eq_iff]

theorem sameIgnoringCase_iff : sameIgnoringCase a b = true ↔ asciiLower a = asciiLower b :=
  beq_iff_eq

theorem asciiLowerChar_asciiLowerChar (c : Char) :
    asciiLowerChar (asciiLowerChar c) = asciiLowerChar c := by
  rw [← Char.toNat_inj]
  simp only [toNat_asciiLowerChar]
  split_ifs <;> omega

theorem asciiLower_asciiLower (a : String) : asciiLower (asciiLower a) = asciiLower a := by
  simp only [asciiLower, String.toList_ofList, List.map_map]
  exact congrArg String.ofList (List.map_congr_left fun c _ => asciiLowerChar_asciiLowerChar c)

theorem toList_asciiLower (a : String) : (asciiLower a).toList = a.toList.map asciiLowerChar :=
  String.toList_ofList

theorem isBlank_asciiLowerChar (c : Char) : isBlank (asciiLowerChar c) = isBlank c := by
  rw [Bool.eq_iff_iff]
  simp only [isBlank, toNat_asciiLowerChar, Bool.or_eq_true, Bool.and_eq_true, decide_eq_true_eq,
    beq_iff_eq]
  split_ifs <;> omega

theorem asciiLowerChar_eq_iff (mark : c.toNat < 65) : asciiLowerChar d = c ↔ d = c := by
  simp only [← Char.toNat_inj, toNat_asciiLowerChar]
  split_ifs <;> omega

theorem mem_map_asciiLowerChar {cs : List Char} (mark : c.toNat < 65) :
    c ∈ cs.map asciiLowerChar ↔ c ∈ cs := by
  simp only [List.mem_map, asciiLowerChar_eq_iff mark, exists_eq_right]

end Exchange.Text
