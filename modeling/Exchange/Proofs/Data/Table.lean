import Mathlib
import Exchange.Data.Table

/-! # Tables compared by name

A table with each name once is the finite map that its look-ups say. Two such tables are compared
in one of two ways: by looking up each name of the one in the other, or entry by entry in their
order. The ways agree where neither table has more entries than the other.
-/

namespace Exchange.Table

variable {α β : Type} {name : String} {value : α} {as : Table α} {bs : Table β}

theorem find?_append (before after : Table α) :
    find? name (before ++ after) = (find? name before).or (find? name after) := by
  induction before with
  | nil => rfl
  | cons entry before ih =>
      simp only [List.cons_append, find?]
      split
      · rfl
      · exact ih

theorem find?_of_added {before after : Table α} {other : String} {b : α}
    (fresh : find? name (before ++ after) = none)
    (found : find? other (before ++ after) = some b) :
    find? other (before ++ (name, value) :: after) = some b := by
  have different : name ≠ other := by
    rintro rfl
    cases fresh.symm.trans found
  rw [find?_append] at found ⊢
  rwa [find?, if_neg different]

theorem find?_of_replaced {before after : Table α} {other : String} {x y b : α}
    (found : find? other (before ++ (name, x) :: after) = some b) :
    find? other (before ++ (name, y) :: after) = some b ∨
      b = x ∧ find? other (before ++ (name, y) :: after) = some y := by
  rw [find?_append] at found ⊢
  cases earlier : find? other before with
  | some first =>
      rw [earlier] at found
      exact .inl found
  | none =>
      rw [earlier, Option.none_or, find?] at found
      rw [Option.none_or, find?]
      split at found
      · exact .inr ⟨(Option.some.inj found).symm, by simp [*]⟩
      · exact .inl (by simp [*])

theorem mem_of_find? (found : find? name as = some value) : (name, value) ∈ as := by
  induction as with
  | nil => cases found
  | cons entry as ih =>
      simp only [find?] at found
      split at found
      · rename_i same
        obtain rfl := Option.some.inj found
        exact same ▸ List.mem_cons_self
      · exact List.mem_cons_of_mem entry (ih found)

theorem find?_of_not_mem (absent : name ∉ as.names) : find? name as = none := by
  rw [Option.eq_none_iff_forall_ne_some]
  intro value found
  exact absent (List.mem_map_of_mem (mem_of_find? found))

theorem find?_of_mem (once : as.names.Nodup) (entry : (name, value) ∈ as) :
    find? name as = some value := by
  induction as with
  | nil => cases entry
  | cons first as ih =>
      rw [names, List.map_cons, List.nodup_cons] at once
      simp only [find?]
      rcases List.mem_cons.mp entry with rfl | later
      · simp
      · split
        · rename_i same
          exact absurd (List.mem_map_of_mem later) (same ▸ once.1)
        · exact ih once.2 later

theorem mem_insert {entry : String × α} (inserted : entry ∈ insert name value as) :
    entry = (name, value) ∨ entry ∈ as := by
  induction as with
  | nil => exact .inl (List.mem_singleton.mp inserted)
  | cons first as ih =>
      simp only [insert] at inserted
      split at inserted
      · exact List.mem_cons.mp inserted
      · split at inserted
        · exact (List.mem_cons.mp inserted).imp_right (List.mem_cons_of_mem first)
        · rcases List.mem_cons.mp inserted with same | later
          · exact .inr (same ▸ List.mem_cons_self)
          · exact (ih later).imp_right (List.mem_cons_of_mem first)

theorem mem_names_insert {other : String} :
    other ∈ (insert name value as).names ↔ other = name ∨ other ∈ as.names := by
  induction as with
  | nil => simp [insert, names]
  | cons first as ih =>
      have ih : other ∈ (insert name value as).map Prod.fst ↔ _ := ih
      simp only [insert]
      split
      · simp [names]
      · split
        · rename_i same
          simp [names, same]
        · simp only [names, List.map_cons, List.mem_cons] at ih ⊢
          rw [ih]
          tauto

theorem mem_names_ofList {entries : List (String × α)} :
    name ∈ (ofList entries).names ↔ name ∈ entries.map Prod.fst := by
  have folded (entries : List (String × α)) (table : Table α) :
      name ∈ (entries.foldl (fun table entry => insert entry.1 entry.2 table) table).names ↔
        name ∈ entries.map Prod.fst ∨ name ∈ table.names := by
    induction entries generalizing table with
    | nil => simp
    | cons entry entries ih =>
        rw [List.foldl_cons, ih, mem_names_insert, List.map_cons, List.mem_cons]
        tauto
  exact (folded entries []).trans (or_iff_left List.not_mem_nil)

theorem Sorted.cons_iff {first : String × α} :
    Sorted (first :: as) ↔ (∀ entry ∈ as, first.1 < entry.1) ∧ Sorted as := by
  simp [Sorted, names]

theorem Sorted.nodup (sorted : Sorted as) : as.names.Nodup :=
  sorted.imp fun less => less.ne

theorem Sorted.insert (sorted : Sorted as) (name : String) (value : α) :
    Sorted (insert name value as) := by
  induction as with
  | nil => simp [Table.insert, Sorted, names]
  | cons first as ih =>
      obtain ⟨least, rest⟩ := Sorted.cons_iff.mp sorted
      simp only [Table.insert]
      split
      · rename_i below
        refine Sorted.cons_iff.mpr ⟨fun entry inserted => ?_, sorted⟩
        rcases List.mem_cons.mp inserted with rfl | later
        · exact below
        · exact below.trans (least entry later)
      · split
        · rename_i same
          exact Sorted.cons_iff.mpr ⟨same ▸ least, rest⟩
        · rename_i notBelow notSame
          refine Sorted.cons_iff.mpr ⟨fun entry inserted => ?_, ih rest⟩
          rcases mem_insert inserted with rfl | later
          · exact lt_of_le_of_ne (not_lt.mp notBelow) (Ne.symm notSame)
          · exact least entry later

theorem sorted_ofList (entries : List (String × α)) : Sorted (ofList entries) := by
  have folded (entries : List (String × α)) (table : Table α) (sorted : Sorted table) :
      Sorted (entries.foldl (fun table entry => insert entry.1 entry.2 table) table) := by
    induction entries generalizing table with
    | nil => exact sorted
    | cons entry entries ih => exact ih _ (sorted.insert entry.1 entry.2)
  exact folded entries [] List.Pairwise.nil

theorem mem_ofList {entries : List (String × α)} {entry : String × α}
    (listed : entry ∈ ofList entries) : entry ∈ entries := by
  have folded (entries : List (String × α)) (table : Table α)
      (listed : entry ∈ entries.foldl (fun table entry => insert entry.1 entry.2 table) table) :
      entry ∈ table ∨ entry ∈ entries := by
    induction entries generalizing table with
    | nil => exact .inl listed
    | cons first entries ih =>
        rcases ih _ listed with inserted | later
        · rcases mem_insert inserted with rfl | before
          · exact .inr List.mem_cons_self
          · exact .inl before
        · exact .inr (List.mem_cons_of_mem first later)
  exact (folded entries [] listed).resolve_left List.not_mem_nil

/-- Where each name stands once, the order of the entries does not matter. -/
theorem find?_perm {others : Table α} (once : as.names.Nodup) (perm : as.Perm others) :
    find? name as = find? name others := by
  have once' : others.names.Nodup := (perm.map Prod.fst).nodup_iff.mp once
  refine Option.ext fun a => ⟨fun found => ?_, fun found => ?_⟩
  · exact find?_of_mem once' (perm.mem_iff.mp (mem_of_find? found))
  · exact find?_of_mem once (perm.mem_iff.mpr (mem_of_find? found))

theorem perm_insert (fresh : name ∉ as.names) :
    (insert name value as).Perm ((name, value) :: as) := by
  induction as with
  | nil => exact .refl _
  | cons first as ih =>
      obtain ⟨other, fresh⟩ := not_or.mp (mt List.mem_cons.mpr fresh)
      simp only [insert]
      split
      · exact .refl _
      · exact ((ih fresh).cons first).trans (.swap _ _ as)

theorem perm_ofList {entries : List (String × α)} (once : (entries.map Prod.fst).Nodup) :
    (ofList entries).Perm entries := by
  have folded (entries : List (String × α)) (table : Table α)
      (once : ((table ++ entries).map Prod.fst).Nodup) :
      (entries.foldl (fun table entry => insert entry.1 entry.2 table) table).Perm
        (table ++ entries) := by
    induction entries generalizing table with
    | nil => rw [List.foldl_nil, List.append_nil]
    | cons entry entries ih =>
        have fresh : entry.1 ∉ table.names := by
          rw [List.map_append, List.nodup_append] at once
          exact fun named => once.2.2 _ named _ List.mem_cons_self rfl
        have moved : (insert entry.1 entry.2 table ++ entries).Perm (table ++ entry :: entries) :=
          ((perm_insert fresh).append_right entries).trans List.perm_middle.symm
        exact (ih _ ((moved.map Prod.fst).nodup_iff.mpr once)).trans moved
  exact folded entries [] once

theorem Sorted.eq_of_perm {others : Table α} (sorted : Sorted as) (sorted' : Sorted others)
    (perm : as.Perm others) : as = others := by
  refine perm.eq_of_pairwise (fun a b _ _ less more => ?_)
    (List.pairwise_map.mp sorted) (List.pairwise_map.mp sorted')
  exact absurd less more.asymm

theorem ofList_of_sorted (sorted : Sorted as) : ofList as = as :=
  (sorted_ofList as).eq_of_perm sorted (perm_ofList sorted.nodup)

theorem mem_iff_find? (sorted : Sorted as) : (name, value) ∈ as ↔ find? name as = some value :=
  ⟨find?_of_mem sorted.nodup, mem_of_find?⟩

/-- Tables in order are equal if every name is found alike in both. -/
theorem eq_of_find? {others : Table α} (sorted : Sorted as) (sorted' : Sorted others)
    (same : ∀ name, find? name as = find? name others) : as = others := by
  refine sorted.eq_of_perm sorted' ?_
  refine (List.perm_ext_iff_of_nodup sorted.nodup.of_map sorted'.nodup.of_map).mpr ?_
  rintro ⟨name, value⟩
  rw [mem_iff_find? sorted, mem_iff_find? sorted', same]

variable {R : α → β → Prop} {S : β → α → Prop}

/-- Each entry of the one table is found in the other. -/
def Found (R : α → β → Prop) (as : Table α) (bs : Table β) : Prop :=
  ∀ entry ∈ as, ∃ b, find? entry.1 bs = some b ∧ R entry.2 b

/-- The tables agree entry by entry. -/
def Pointwise (R : α → β → Prop) (as : Table α) (bs : Table β) : Prop :=
  List.Forall₂ (fun a b => a.1 = b.1 ∧ R a.2 b.2) as bs

theorem pointwise_eq_iff {others : Table α} : Pointwise (· = ·) as others ↔ as = others := by
  simp only [Pointwise, ← Prod.ext_iff, List.forall₂_eq_eq_eq]

theorem found_cons_iff {first : String × α} : Found R (first :: as) bs ↔
    (∃ b, find? first.1 bs = some b ∧ R first.2 b) ∧ Found R as bs :=
  List.forall_mem_cons

theorem Found.imp {R' : α → β → Prop} (found : Found R as bs)
    (weaken : ∀ entry ∈ as, ∀ b, (entry.1, b) ∈ bs → R entry.2 b → R' entry.2 b) :
    Found R' as bs := by
  intro entry listed
  obtain ⟨b, same, related⟩ := found entry listed
  exact ⟨b, same, weaken entry listed b (mem_of_find? same) related⟩

theorem found_congr {R' : α → β → Prop}
    (step : ∀ entry ∈ as, ∀ b, (entry.1, b) ∈ bs → (R entry.2 b ↔ R' entry.2 b)) :
    Found R as bs ↔ Found R' as bs :=
  ⟨fun found => found.imp fun entry listed b listed' => (step entry listed b listed').mp,
    fun found => found.imp fun entry listed b listed' => (step entry listed b listed').mpr⟩

theorem Found.trans {γ : Type} {cs : Table γ} {R' : β → γ → Prop} {R'' : α → γ → Prop}
    (found : Found R as bs) (found' : Found R' bs cs)
    (step : ∀ entry ∈ as, ∀ b c, R entry.2 b → R' b c → R'' entry.2 c) : Found R'' as cs := by
  intro entry listed
  obtain ⟨b, same, related⟩ := found entry listed
  obtain ⟨c, same', related'⟩ := found' _ (mem_of_find? same)
  exact ⟨c, same', step entry listed b c related related'⟩

theorem Found.names_subset (found : Found R as bs) : as.names ⊆ bs.names := by
  intro name named
  obtain ⟨entry, listed, rfl⟩ := List.mem_map.mp named
  obtain ⟨b, same, -⟩ := found entry listed
  exact List.mem_map_of_mem (mem_of_find? same)

theorem names_eq (sorted : Sorted as) (sorted' : Sorted bs) (subset : as.names ⊆ bs.names)
    (length : as.length = bs.length) : as.names = bs.names := by
  have perm : as.names.Perm bs.names :=
    (sorted.nodup.subperm subset).perm_of_length_le (by simp [names, length])
  exact perm.eq_of_pairwise (fun a b _ _ less more => absurd less more.asymm) sorted sorted'

theorem pointwise_map_iff {γ δ : Type} {T : γ → δ → Prop} (f : α → γ) (g : β → δ) :
    Pointwise T (as.map fun entry => (entry.1, f entry.2)) (bs.map fun entry => (entry.1, g entry.2)) ↔
      Pointwise (fun a b => T (f a) (g b)) as bs := by
  simp only [Pointwise, List.forall₂_map_left_iff, List.forall₂_map_right_iff]

theorem Pointwise.found (pointwise : Pointwise R as bs) (once : bs.names.Nodup) :
    Found R as bs := by
  intro entry listed
  obtain ⟨i, bound, rfl⟩ := List.mem_iff_getElem.mp listed
  obtain ⟨same, related⟩ := pointwise.get bound (pointwise.length_eq ▸ bound)
  refine ⟨_, ?_, related⟩
  exact find?_of_mem once (same ▸ List.getElem_mem _)

theorem Found.pointwise (found : Found R as bs) (once : bs.names.Nodup)
    (same : as.names = bs.names) : Pointwise R as bs := by
  induction as generalizing bs with
  | nil =>
      obtain rfl := List.map_eq_nil_iff.mp same.symm
      exact .nil
  | cons a as ih =>
      obtain _ | ⟨b, bs⟩ := bs
      · cases same
      · obtain ⟨first, rest⟩ := List.cons.inj same
        obtain ⟨absent, once⟩ := List.nodup_cons.mp once
        refine .cons ⟨first, ?_⟩ (ih (fun entry listed => ?_) once rest)
        · obtain ⟨value, head, related⟩ := found a List.mem_cons_self
          simp only [find?, ← first, ↓reduceIte] at head
          exact Option.some.inj head ▸ related
        · obtain ⟨value, later, related⟩ := found entry (List.mem_cons_of_mem a listed)
          have other : b.1 ≠ entry.1 := fun named =>
            absent (named ▸ rest ▸ List.mem_map_of_mem listed)
          simp only [find?, if_neg other] at later
          exact ⟨value, later, related⟩

theorem pointwise_iff (sorted : Sorted as) (sorted' : Sorted bs) :
    Pointwise R as bs ↔ as.length = bs.length ∧ Found R as bs := by
  constructor
  · intro pointwise
    exact ⟨pointwise.length_eq, pointwise.found sorted'.nodup⟩
  · rintro ⟨length, found⟩
    exact found.pointwise sorted'.nodup (names_eq sorted sorted' found.names_subset length)

theorem found_both_iff (sorted : Sorted as) (sorted' : Sorted bs) :
    Found R as bs ∧ Found S bs as ↔
      as.length = bs.length ∧ Found (fun a b => R a b ∧ S b a) as bs := by
  constructor
  · rintro ⟨found, found'⟩
    -- Neither table has a name that the other has not.
    have length : as.length = bs.length := by
      have fewer := (sorted.nodup.subperm found.names_subset).length_le
      have more := (sorted'.nodup.subperm found'.names_subset).length_le
      simp only [names, List.length_map] at fewer more
      exact fewer.antisymm more
    refine ⟨length, fun entry listed => ?_⟩
    obtain ⟨b, same, related⟩ := found entry listed
    obtain ⟨a, same', related'⟩ := found' _ (mem_of_find? same)
    rw [find?_of_mem sorted.nodup listed] at same'
    obtain rfl := Option.some.inj same'
    exact ⟨b, same, related, related'⟩
  · rintro ⟨length, found⟩
    refine ⟨fun entry listed => ?_, fun entry listed => ?_⟩
    · obtain ⟨b, same, related, -⟩ := found entry listed
      exact ⟨b, same, related⟩
    · have named : entry.1 ∈ as.names := by
        rw [names_eq sorted sorted' found.names_subset length]
        exact List.mem_map_of_mem listed
      obtain ⟨other, listed', named'⟩ := List.mem_map.mp named
      obtain ⟨b, same, -, related⟩ := found other listed'
      rw [named', find?_of_mem sorted'.nodup listed] at same
      obtain rfl := Option.some.inj same
      exact ⟨other.2, find?_of_mem sorted.nodup (named' ▸ listed'), related⟩

end Exchange.Table
