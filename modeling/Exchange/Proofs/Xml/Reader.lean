import Exchange.Proofs.Xml.NormalForm
import Exchange.Xml.Reader

/-! # What a read document is like

The reader makes documents as XML has them: no name holds a brace, no element has two attributes of
one name, and there is one element among the comments and processing instructions at the top.
-/

namespace Exchange.Xml

variable {cs rest : List Char}

theorem not_isNameChar_of_brace {c : Char} (brace : c = '\x7b' ∨ c = '\x7d') :
    isNameChar c = false := by
  rcases brace with rfl | rfl <;> decide

theorem braceless_ofList (named : ∀ c ∈ cs, isNameChar c = true) : Braceless (String.ofList cs) := by
  constructor
  · intro member
    rw [String.toList_ofList] at member
    exact absurd (named _ member) (by simp [not_isNameChar_of_brace])
  · intro member
    rw [String.toList_ofList] at member
    exact absurd (named _ member) (by simp [not_isNameChar_of_brace])

theorem braceless_of_takeName? {name : String} (read : takeName? cs = some (name, rest)) :
    Braceless name := by
  cases cs with
  | nil => cases read
  | cons c more =>
      rw [takeName?] at read
      split at read
      · rename_i start
        cases read
        have first : isNameChar c = true := by simp [isNameChar, start]
        apply braceless_ofList
        exact List.forall_mem_cons.mpr ⟨first, fun d member => List.mem_takeWhile_imp member⟩
      · cases read

theorem braceless_of_takeWrittenName? {name : WrittenName}
    (read : takeWrittenName? cs = some (name, rest)) : Braceless name.localName := by
  simp only [takeWrittenName?, bind, Option.bind_eq_some_iff, Prod.exists] at read
  obtain ⟨first, behind, taken, read⟩ := read
  split at read
  · split at read
    · rename_i second
      cases read
      exact braceless_of_takeName? second
    · cases read
      exact braceless_of_takeName? taken
  · cases read
    exact braceless_of_takeName? taken

theorem braceless_of_takeAttributes? {fuel : Nat} {attributes : List WrittenAttribute}
    {ending : TagEnd} (read : takeAttributes? fuel cs = some (attributes, ending, rest)) :
    ∀ a ∈ attributes, Braceless a.name.localName := by
  induction fuel generalizing cs attributes with
  | zero => cases read
  | succ fuel ih =>
      unfold takeAttributes? at read
      split at read
      · cases read
        simp
      · cases read
        simp
      · simp only [bind, Option.bind_eq_some_iff, Prod.exists] at read
        obtain ⟨spaced, -, name, behind, named, read⟩ := read
        split at read
        · simp only [Option.bind_eq_some_iff, Prod.exists] at read
          obtain ⟨value, behind', -, others, ending', last, more, same⟩ := read
          cases same
          exact List.forall_mem_cons.mpr ⟨braceless_of_takeWrittenName? named, ih more⟩
        · cases read

theorem localName_of_resolve? {scope : Scope} {useDefault : Bool} {written : WrittenName}
    {name : XmlName} (resolved : resolve? scope useDefault written = some name) :
    name.localName = written.localName := by
  unfold resolve? at resolved
  split at resolved
  · simp only [Option.map_eq_some_iff] at resolved
    obtain ⟨uri, -, rfl⟩ := resolved
    rfl
  · split at resolved
    · cases resolved
      rfl
    · cases resolved
      rfl

theorem exists_of_mem_mapM {α β : Type} {f : α → Option β} {xs : List α} {ys : List β}
    (mapped : xs.mapM f = some ys) {y : β} (member : y ∈ ys) : ∃ x ∈ xs, f x = some y := by
  induction xs generalizing ys with
  | nil =>
      cases mapped
      simp at member
  | cons x xs ih =>
      simp only [List.mapM_cons, bind, pure, Option.bind_eq_some_iff] at mapped
      obtain ⟨z, first, zs, others, same⟩ := mapped
      cases same
      rcases List.mem_cons.mp member with rfl | later
      · exact ⟨x, List.mem_cons_self, first⟩
      · obtain ⟨x', inside, found⟩ := ih others later
        exact ⟨x', List.mem_cons_of_mem _ inside, found⟩

theorem mem_of_mem_addAttribute {attributes : List XmlAttribute} {a b : XmlAttribute}
    (member : b ∈ addAttribute attributes a) : b ∈ attributes ∨ b = a := by
  rcases List.mem_append.mp member with kept | new
  · exact .inl (List.mem_of_mem_filter kept)
  · exact .inr (List.mem_singleton.mp new)

theorem nodup_addAttribute {attributes : List XmlAttribute} (a : XmlAttribute)
    (distinct : (attributes.map XmlAttribute.name).Nodup) :
    ((addAttribute attributes a).map XmlAttribute.name).Nodup := by
  rw [addAttribute, List.map_append, List.nodup_append]
  refine ⟨distinct.sublist (List.filter_sublist.map _), by simp, ?_⟩
  rintro n kept m new rfl
  obtain ⟨b, inside, rfl⟩ := List.mem_map.mp kept
  have other : b.name ≠ a.name := by simpa using List.of_mem_filter inside
  exact other (by simpa using new)

theorem foldl_addAttribute (added : List XmlAttribute) {attributes : List XmlAttribute}
    (distinct : (attributes.map XmlAttribute.name).Nodup) :
    ((added.foldl addAttribute attributes).map XmlAttribute.name).Nodup ∧
      ∀ b ∈ added.foldl addAttribute attributes, b ∈ attributes ∨ b ∈ added := by
  induction added generalizing attributes with
  | nil => exact ⟨distinct, fun b member => .inl member⟩
  | cons a added ih =>
      obtain ⟨nodup, origin⟩ := ih (nodup_addAttribute a distinct)
      refine ⟨nodup, fun b member => ?_⟩
      rcases origin b member with old | new
      · rcases mem_of_mem_addAttribute old with older | rfl
        · exact .inl older
        · exact .inr List.mem_cons_self
      · exact .inr (List.mem_cons_of_mem _ new)

theorem sound_of_tagOf? {scope inner : Scope} {name : WrittenName}
    {attributes : List WrittenAttribute} {tag : XmlTag} (named : Braceless name.localName)
    (namedAll : ∀ a ∈ attributes, Braceless a.name.localName)
    (made : tagOf? scope name attributes = some (tag, inner)) : tag.Sound := by
  unfold tagOf? at made
  dsimp only at made
  split at made
  · cases made
  · simp only [bind, Option.bind_eq_some_iff] at made
    obtain ⟨resolved, mapped, tagName, resolvedName, same⟩ := made
    cases same
    obtain ⟨distinct, origin⟩ :=  @foldl_addAttribute resolved [] List.nodup_nil
    refine ⟨?_, ?_, distinct⟩
    · rw [localName_of_resolve? resolvedName]
      exact named
    · intro b member
      obtain ⟨a, inside, found⟩ :=
        exists_of_mem_mapM mapped ((origin b member).resolve_left List.not_mem_nil)
      simp only [Option.map_eq_some_iff] at found
      obtain ⟨n, resolvedAttribute, rfl⟩ := found
      rw [localName_of_resolve? resolvedAttribute]
      exact namedAll a (List.mem_of_mem_filter (List.mem_mergeSort.mp inside))

/-- Comments and processing instructions, which may stand outside the element of a document. -/
inductive IsMisc : Xml → Prop where
  | comment (s : String) : IsMisc (.comment s)
  | instruction (target value : String) : IsMisc (.instruction target value)

theorem isMisc_of_takeComment? {x : Xml} (read : takeComment? cs = some (x, rest)) : IsMisc x := by
  simp only [takeComment?, bind, Option.bind_eq_some_iff, Prod.exists] at read
  obtain ⟨body, behind, -, read⟩ := read
  split at read
  · cases read
    exact .comment _
  · cases read

theorem isMisc_of_takeInstruction? {x : Xml} (read : takeInstruction? cs = some (x, rest)) :
    IsMisc x := by
  simp only [takeInstruction?, bind, Option.bind_eq_some_iff, Prod.exists] at read
  obtain ⟨target, behind, -, read⟩ := read
  split at read
  · cases read
  · split at read
    · cases read
      exact .instruction _ _
    · simp only [Option.bind_eq_some_iff, Prod.exists] at read
      obtain ⟨spaced, -, value, last, -, same⟩ := read
      cases same
      exact .instruction _ _

theorem IsMisc.sound {x : Xml} (misc : IsMisc x) : x.Sound := by
  cases misc with
  | comment => exact .comment _
  | instruction => exact .instruction _ _

mutual
theorem sound_of_readElement? {fuel : Nat} {scope : Scope} {cs rest : List Char} {x : Xml}
    (read : readElement? fuel scope cs = some (x, rest)) :
    (∃ tag children, x = .element tag children) ∧ x.Sound := by
  cases fuel with
  | zero => cases read
  | succ fuel =>
      simp only [readElement?, bind, Option.bind_eq_some_iff, Prod.exists] at read
      obtain ⟨name, behind, named, attributes, ending, behind', attributed, tag, inner, made, read⟩ :=
        read
      have sound := sound_of_tagOf? (braceless_of_takeWrittenName? named)
        (braceless_of_takeAttributes? attributed) made
      split at read
      · cases read
        exact ⟨⟨tag, [], rfl⟩, .element sound (by simp)⟩
      · simp only [Option.bind_eq_some_iff, Prod.exists] at read
        obtain ⟨children, behind'', content, last, -, same⟩ := read
        cases same
        exact ⟨⟨tag, children, rfl⟩, .element sound (sound_of_readContent? content)⟩

/-- The cases are the kinds of content; whatever comes first, the rest is content again. -/
theorem sound_of_readContent? {fuel : Nat} {scope : Scope} {cs rest : List Char} {xs : List Xml}
    (read : readContent? fuel scope cs = some (xs, rest)) : ∀ x ∈ xs, x.Sound := by
  cases fuel with
  | zero => cases read
  | succ fuel =>
      unfold readContent? at read
      split at read
      · cases read
      · cases read
        simp
      · simp only [bind, Option.bind_eq_some_iff, Prod.exists] at read
        obtain ⟨x, behind, first, others, last, more, same⟩ := read
        cases same
        exact List.forall_mem_cons.mpr
          ⟨(isMisc_of_takeComment? first).sound, sound_of_readContent? more⟩
      · simp only [bind, Option.bind_eq_some_iff, Prod.exists] at read
        obtain ⟨opened, -, body, behind, -, others, last, more, same⟩ := read
        cases same
        exact List.forall_mem_cons.mpr ⟨.text _, sound_of_readContent? more⟩
      · simp only [bind, Option.bind_eq_some_iff, Prod.exists] at read
        obtain ⟨x, behind, first, others, last, more, same⟩ := read
        cases same
        exact List.forall_mem_cons.mpr
          ⟨(isMisc_of_takeInstruction? first).sound, sound_of_readContent? more⟩
      · simp only [bind, Option.bind_eq_some_iff, Prod.exists] at read
        obtain ⟨x, behind, first, others, last, more, same⟩ := read
        cases same
        exact List.forall_mem_cons.mpr
          ⟨(sound_of_readElement? first).2, sound_of_readContent? more⟩
      · simp only [bind, Option.bind_eq_some_iff, Prod.exists] at read
        obtain ⟨c, behind, -, others, last, more, same⟩ := read
        cases same
        exact List.forall_mem_cons.mpr ⟨.text _, sound_of_readContent? more⟩
      · dsimp only at read
        split at read
        · cases read
        · simp only [bind, Option.bind_eq_some_iff, Prod.exists] at read
          obtain ⟨others, last, more, same⟩ := read
          cases same
          exact List.forall_mem_cons.mpr ⟨.text _, sound_of_readContent? more⟩
end

theorem isMisc_of_readMisc? {fuel : Nat} {doctype : Bool} {xs : List Xml}
    (read : readMisc? fuel doctype cs = some (xs, rest)) : ∀ x ∈ xs, IsMisc x := by
  induction fuel generalizing cs xs with
  | zero => cases read
  | succ fuel ih =>
      unfold readMisc? at read
      split at read
      · simp only [bind, Option.bind_eq_some_iff, Prod.exists] at read
        obtain ⟨x, behind, first, others, last, more, same⟩ := read
        cases same
        exact List.forall_mem_cons.mpr ⟨isMisc_of_takeComment? first, ih more⟩
      · simp only [bind, Option.bind_eq_some_iff, Prod.exists] at read
        obtain ⟨x, behind, first, others, last, more, same⟩ := read
        cases same
        exact List.forall_mem_cons.mpr ⟨isMisc_of_takeInstruction? first, ih more⟩
      · split at read
        · simp only [bind, Option.bind_eq_some_iff] at read
          obtain ⟨opened, -, behind, -, more⟩ := read
          exact ih more
        · cases read
      · split at read
        · exact ih read
        · cases read
          simp
      · cases read
        simp

theorem root?_of_misc {front back : List Xml} (misc : ∀ x ∈ front, IsMisc x) (tag : XmlTag)
    (children : List Xml) :
    XmlDocument.root? ⟨front ++ .element tag children :: back⟩ = some (tag, children) := by
  induction front with
  | nil => rfl
  | cons x rest ih =>
      obtain ⟨first, others⟩ := List.forall_mem_cons.mp misc
      cases first with
      | comment => exact ih others
      | instruction => exact ih others

/-- A document that was read has an element, which is as XML has it. -/
theorem root_of_read? {text : String} {document : XmlDocument}
    (read : read? text = some document) :
    ∃ tag children, document.root? = some (tag, children) ∧ Sound (.element tag children) := by
  unfold read? at read
  dsimp only at read
  split at read
  · cases read
  · simp only [bind, Option.bind_eq_some_iff, Prod.exists] at read
    obtain ⟨front, behind, misc, read⟩ := read
    split at read
    · simp only [Option.bind_eq_some_iff, Prod.exists] at read
      obtain ⟨top, behind', element, back, last, -, read⟩ := read
      split at read
      · cases read
        obtain ⟨⟨tag, children, rfl⟩, sound⟩ := sound_of_readElement? element
        exact ⟨tag, children, root?_of_misc (isMisc_of_readMisc? misc) tag children, sound⟩
      · cases read
    · cases read

end Exchange.Xml
