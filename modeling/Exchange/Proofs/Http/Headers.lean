import Mathlib
import Exchange.Http.Headers
import Exchange.Proofs.Text.AsciiCase

/-! # Header fields by name

Fields are looked up and left out by name, in any letter case. Leaving out a name takes all of its
values and leaves those of the other names as they are.
-/

namespace Exchange.Headers

open Text (sameIgnoringCase)

variable {name other : String} {headers more : Headers}

theorem values_append :
    (headers ++ more).values name = headers.values name ++ more.values name := by
  simp [values]

theorem without_append :
    (headers ++ more).without name = headers.without name ++ more.without name :=
  List.filter_append ..

theorem values_congr (same : sameIgnoringCase name other = true) (headers : Headers) :
    headers.values name = headers.values other := by
  unfold values
  congr 1
  refine List.filter_congr fun field _ => ?_
  rw [Bool.eq_iff_iff, Text.sameIgnoringCase_iff, Text.sameIgnoringCase_iff,
    Text.sameIgnoringCase_iff.mp same]

theorem values_eq_nil (absent : ∀ field ∈ headers, sameIgnoringCase field.1 name = false) :
    headers.values name = [] := by
  rw [values, List.map_eq_nil_iff, List.filter_eq_nil_iff]
  intro field listed
  simp [absent field listed]

theorem values_without_self (name : String) (headers : Headers) :
    (headers.without name).values name = [] := by
  refine values_eq_nil fun field listed => ?_
  have kept := (List.mem_filter.mp listed).2
  simpa using kept

theorem values_without_of_ne (different : sameIgnoringCase name other = false) (headers : Headers) :
    (headers.without other).values name = headers.values name := by
  unfold values without
  rw [List.filter_filter]
  congr 1
  refine List.filter_congr ?_
  rintro ⟨n, _⟩ -
  show (sameIgnoringCase n name && !sameIgnoringCase n other) = sameIgnoringCase n name
  cases asked : sameIgnoringCase n name with
  | false => rfl
  | true =>
      have apart : sameIgnoringCase n other ≠ true := by
        intro left
        rw [Text.sameIgnoringCase_iff] at asked left
        rw [Text.sameIgnoringCase_iff.mpr (asked.symm.trans left)] at different
        cases different
      simp [apart]

theorem without_without (name : String) (headers : Headers) :
    (headers.without name).without name = headers.without name := by
  simp [without]

end Exchange.Headers
