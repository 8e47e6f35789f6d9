import JavaAtlas.Proofs.Outside
import JavaAtlas.Proofs.Scoping
import Mathlib.Data.List.Forall2

/-! Classes from listings. Whatever a text is, what is read from it as a listing describes a class:
`Listing.toClass_of_read`. Type arguments are left out of a line before anything is read from it,
and dollar signs are taken for dots, so that neither can be left in the name of a type. That an
entry is of this kind, `Entry.Sound`, is kept by every member that is added to it. -/

namespace JavaAtlas

/-! ### Parts of texts -/

namespace Text

theorem trim_subset (cs : List Char) : trim cs ⊆ cs := by
  intro c hc
  simp only [trim, trimRight, trimLeft, List.mem_reverse] at hc
  have hleft := (List.dropWhile_sublist _).subset hc
  exact (List.dropWhile_sublist _).subset (List.mem_reverse.mp hleft)

theorem wordsFrom_subset {word cs w : List Char} (hw : w ∈ wordsFrom word cs) :
    w ⊆ word ++ cs := by
  induction cs generalizing word with
  | nil =>
    rw [wordsFrom] at hw
    split at hw
    · simp at hw
    · obtain rfl := List.mem_singleton.mp hw
      intro c hc
      simpa using hc
  | cons d cs ih =>
    rw [wordsFrom] at hw
    split at hw
    · -- Behind a blank a new word starts, whether or not one has ended there.
      have hrest (hw : w ∈ wordsFrom [] cs) : w ⊆ word ++ d :: cs := by
        intro c hc
        have hin := ih hw hc
        simp only [List.nil_append] at hin
        simp [hin]
      split at hw
      · exact hrest hw
      · rcases List.mem_cons.mp hw with rfl | hw
        · intro c hc
          simp [List.mem_reverse.mp hc]
        · exact hrest hw
    · intro c hc
      have hin := ih hw hc
      simp only [List.cons_append, List.mem_cons, List.mem_append] at hin ⊢
      tauto

theorem words_subset {cs w : List Char} (hw : w ∈ words cs) : w ⊆ cs := wordsFrom_subset hw

theorem splitFrom_subset {sep : Char} {piece cs p : List Char} (hp : p ∈ splitFrom sep piece cs) :
    p ⊆ piece ++ cs := by
  induction cs generalizing piece with
  | nil =>
    obtain rfl : p = piece.reverse := by simpa [splitFrom] using hp
    intro c hc
    simpa using hc
  | cons d cs ih =>
    rw [splitFrom] at hp
    split at hp
    · rcases List.mem_cons.mp hp with rfl | hp
      · intro c hc
        simp [List.mem_reverse.mp hc]
      · intro c hc
        have hin := ih hp hc
        simp only [List.nil_append] at hin
        simp [hin]
    · intro c hc
      have hin := ih hp hc
      simp only [List.cons_append, List.mem_cons, List.mem_append] at hin ⊢
      tauto

theorem splitAt_subset {sep : Char} {cs p : List Char} (hp : p ∈ splitAt sep cs) : p ⊆ cs :=
  splitFrom_subset hp

end Text

namespace Listing

/-- A text without the marks of type arguments. -/
def Unmarked (cs : List Char) : Prop := '<' ∉ cs ∧ '>' ∉ cs

theorem Unmarked.mono {cs ds : List Char} (h : Unmarked cs) (hsub : ds ⊆ cs) : Unmarked ds :=
  ⟨fun hmem => h.1 (hsub hmem), fun hmem => h.2 (hsub hmem)⟩

theorem unmarked_outsideFrom (depth : Nat) (cs : List Char) :
    Unmarked (Generics.outsideFrom depth cs) := by
  induction cs generalizing depth with
  | nil => exact ⟨by simp [Generics.outsideFrom], by simp [Generics.outsideFrom]⟩
  | cons c cs ih =>
    rw [Generics.outsideFrom]
    split
    · exact ih _
    · next hopen =>
      split
      · exact ih _
      · next hclose =>
        split
        · have hrest := ih depth
          simp only [beq_iff_eq] at hopen hclose
          simp only [Unmarked, List.mem_cons, not_or]
          exact ⟨⟨Ne.symm hopen, hrest.1⟩, ⟨Ne.symm hclose, hrest.2⟩⟩
        · exact ih _

theorem unmarked_plainLine (line : List Char) : Unmarked (plainLine line) :=
  (unmarked_outsideFrom 0 line).mono (Text.trim_subset _)

theorem withoutThrows_subset (cs : List Char) : withoutThrows cs ⊆ cs := by
  induction cs with
  | nil => simp [withoutThrows]
  | cons c cs ih =>
    rw [withoutThrows]
    split
    · simp
    · exact List.cons_subset_cons c ih

theorem beforeLastParen_subset (cs : List Char) : beforeLastParen cs ⊆ cs := by
  intro c hc
  rw [beforeLastParen, List.mem_reverse] at hc
  have hdrop := (List.dropWhile_sublist _).subset (List.mem_of_mem_drop hc)
  exact List.mem_reverse.mp hdrop

end Listing

/-- The name of a type without type arguments and dollar signs. -/
def Erased (name : String) : Prop := ∀ c ∈ ['<', '>', '$'], c ∉ name.toList

namespace Listing

theorem erased_className {cs : List Char} (h : Unmarked cs) : Erased (className cs) := by
  intro c hc hmem
  simp only [className, String.toList_ofList, List.mem_map] at hmem
  obtain ⟨d, hd, hdc⟩ := hmem
  have hin := Text.trim_subset cs hd
  by_cases hdollar : d = '$'
  · subst hdollar
    simp only [BEq.rfl, if_true] at hdc
    subst hdc
    revert hc
    decide
  · simp only [beq_iff_eq, hdollar, if_false] at hdc
    subst hdc
    simp only [List.mem_cons, List.not_mem_nil, or_false] at hc
    rcases hc with rfl | rfl | rfl
    · exact h.1 hin
    · exact h.2 hin
    · exact hdollar rfl

theorem erased_classNames {cs : List Char} (h : Unmarked cs) {name : String}
    (hname : name ∈ classNames cs) : Erased name := by
  obtain ⟨piece, hpiece, rfl⟩ := List.mem_map.mp hname
  exact erased_className (h.mono (Text.splitAt_subset (List.mem_filter.mp hpiece).1))

end Listing

namespace Entry

theorem stripBrackets_subset (cs : List Char) : (stripBrackets cs).1 ⊆ cs := by
  fun_induction stripBrackets cs with
  | case1 => simp
  | case2 cs rest n heq ih =>
    rw [heq] at ih
    intro c hc
    simp [ih hc]
  | case3 c cs _ rest n heq ih =>
    rw [heq] at ih
    exact List.cons_subset_cons c ih

theorem erased_readType {text : String} (h : Erased text) : Erased (readType text).name := by
  intro c hc hmem
  refine h c hc ?_
  simp only [readType, String.toList_ofList] at hmem
  have hstrip := stripBrackets_subset _ (Text.trim_subset _ hmem)
  split at hstrip
  · exact List.mem_of_mem_take hstrip
  · exact hstrip

end Entry

/-! ### Entries of listings -/

/-- What an entry is if it comes from a listing. -/
structure Entry.Sound (e : Entry) : Prop where
  kind : e.kind ∈ Listing.kinds.map Prod.snd
  superclass : ∀ s ∈ e.superclass, e.kind.isInterface = false ∧ s ≠ Class.rootName ∧ Erased s
  interfaces : ∀ s ∈ e.interfaces, Erased s
  fields : ∀ f ∈ e.fields, ∀ t ∈ f.type, Erased t
  methods : ∀ m ∈ e.methods, Erased m.returns ∧ ∀ p ∈ m.params, Erased p

namespace Listing

section Clauses

variable {α : Type} {a : α}

theorem exists_of_orFewer {next : List Char → Option α} {run rest : List Char}
    (h : orFewer next run rest = some a) : ∃ rest, next rest = some a := by
  induction run generalizing rest with
  | nil => simp [orFewer] at h
  | cons c run ih =>
    rw [orFewer] at h
    split at h
    · next b hb =>
      obtain rfl := Option.some.inj h
      exact ⟨rest, hb⟩
    · exact ih h

theorem exists_of_clauseFrom {next : List Char → List Char → Option α} {taken cs : List Char}
    (h : clauseFrom next taken cs = some a) (htaken : ∀ c ∈ taken, isClauseChar c = true) :
    ∃ text rest, next text rest = some a ∧ ∀ c ∈ text, isClauseChar c = true := by
  induction cs generalizing taken with
  | nil => exact ⟨taken.reverse, [], h, by simpa using htaken⟩
  | cons c cs ih =>
    rw [clauseFrom] at h
    split at h
    · next b hb =>
      obtain rfl := Option.some.inj h
      exact ⟨taken.reverse, c :: cs, hb, by simpa using htaken⟩
    · split at h
      · next hc =>
        refine ih h fun d hd => ?_
        rcases List.mem_cons.mp hd with rfl | hd
        · exact hc
        · exact htaken d hd
      · simp at h

/-- A reading that goes through a clause goes on behind it, and all of the clause is made of the
characters of clauses. -/
theorem exists_of_clause {word : String} {next : Option (List Char) → List Char → Option α}
    {cs : List Char} (h : clause word next cs = some a) :
    ∃ text? rest, next text? rest = some a ∧ ∀ text ∈ text?, ∀ c ∈ text, isClauseChar c = true := by
  rw [clause] at h
  rcases Option.or_eq_some_iff.mp h with hpresent | ⟨-, habsent⟩
  · obtain ⟨rest, -, hword⟩ := Option.bind_eq_some_iff.mp hpresent
    obtain ⟨rest, -, hblanks⟩ := Option.bind_eq_some_iff.mp hword
    obtain ⟨rest, htext⟩ := exists_of_orFewer hblanks
    cases rest with
    | nil => simp [clauseText] at htext
    | cons c rest =>
      rw [clauseText] at htext
      split at htext
      · next hc =>
        obtain ⟨text, rest, hnext, hchars⟩ := exists_of_clauseFrom htext (by simpa using hc)
        exact ⟨some text, rest, hnext, by simpa using hchars⟩
      · simp at htext
  · exact ⟨none, cs, habsent, by simp⟩

end Clauses

theorem unmarked_clause {text : List Char} (h : ∀ c ∈ text, isClauseChar c = true) :
    Unmarked text :=
  ⟨fun hmem => absurd (h '<' hmem) (by decide), fun hmem => absurd (h '>' hmem) (by decide)⟩

/-- What is known of a header. -/
structure Header.Sound (h : Header) : Prop where
  kind : h.kind ∈ kinds.map Prod.snd
  extended : ∀ text ∈ h.extends?, Unmarked text
  implemented : ∀ text ∈ h.implements?, Unmarked text

theorem sound_of_afterModifiers {modifiers : List (List Char)} {cs : List Char} {h : Header}
    (hread : afterModifiers modifiers cs = some h) : h.Sound := by
  obtain ⟨⟨word, kind⟩, hkind, hword⟩ := List.exists_of_findSome?_eq_some hread
  obtain ⟨_, -, hblank⟩ := Option.bind_eq_some_iff.mp hword
  obtain ⟨_, -, hname⟩ := Option.bind_eq_some_iff.mp hblank
  obtain ⟨-, hclauses⟩ := Option.ite_none_left_eq_some.mp hname
  -- whichever readings of the clauses led to the end, what they took are clauses
  obtain ⟨extends?, _, hnext, hextends⟩ := exists_of_clause hclauses
  obtain ⟨implements?, _, hlast, himplements⟩ := exists_of_clause hnext
  obtain ⟨permits?, _, hend, -⟩ := exists_of_clause hlast
  obtain ⟨-, hsome⟩ := Option.ite_none_right_eq_some.mp hend
  obtain rfl := Option.some.inj hsome
  exact ⟨List.mem_map_of_mem hkind, fun text htext => unmarked_clause (hextends text htext),
    fun text htext => unmarked_clause (himplements text htext)⟩

theorem sound_of_headerFrom {modifiers : List (List Char)} {bound : Nat} {cs : List Char}
    {h : Header} (hread : headerFrom modifiers bound cs = some h) : h.Sound := by
  induction bound generalizing modifiers cs with
  | zero => exact sound_of_afterModifiers hread
  | succ bound ih =>
    rw [headerFrom] at hread
    split at hread
    · next hfound =>
      obtain rfl := Option.some.inj hread
      exact sound_of_afterModifiers hfound
    · obtain ⟨-, hmore⟩ := Option.ite_none_left_eq_some.mp hread
      obtain ⟨rest, -, hrest⟩ := Option.bind_eq_some_iff.mp hmore
      exact ih hrest

theorem erased_of_clause {text? : Option (List Char)} (h : ∀ text ∈ text?, Unmarked text)
    {name : String} (hname : name ∈ classNames (text?.getD [])) : Erased name := by
  cases text? with
  | none => exact erased_classNames ⟨by simp, by simp⟩ hname
  | some text => exact erased_classNames (h text rfl) hname

theorem Header.Sound.entry {h : Header} (hsound : h.Sound) : h.entry.Sound := by
  have hextended {s : String} (hs : s ∈ classNames (h.extends?.getD [])) : Erased s :=
    erased_of_clause hsound.extended hs
  have himplemented {s : String} (hs : s ∈ classNames (h.implements?.getD [])) : Erased s :=
    erased_of_clause hsound.implemented hs
  unfold Header.entry
  by_cases hkind : h.kind.isInterface = true
  · simp only [hkind, if_true]
    refine ⟨hsound.kind, by simp, fun s hs => ?_, by simp, by simp⟩
    rcases List.mem_append.mp hs with hs | hs
    · exact hextended hs
    · exact himplemented hs
  · simp only [hkind, Bool.false_eq_true, if_false]
    refine ⟨hsound.kind, fun s hs => ?_, fun s hs => himplemented hs, by simp, by simp⟩
    obtain ⟨hfirst, hroot⟩ := Option.filter_eq_some_iff.mp hs
    exact ⟨by simpa using hkind, by simpa [Class.rootName] using hroot,
      hextended (List.mem_of_mem_head? hfirst)⟩

/-- The types in a member are erased. -/
def Member.IsErased : Member → Prop
  | .field f => ∀ t ∈ f.type, Erased t
  | .method m => Erased m.returns ∧ ∀ p ∈ m.params, Erased p

theorem isErased_of_callable? {owner : String} {line : List Char} {m : Member}
    (h : callable? owner line = some m) (hline : Unmarked line) : m.IsErased := by
  have hword {w : List Char} (hw : w ∈ Text.words (line.takeWhile (· != '('))) : Unmarked w :=
    hline.mono fun c hc => (List.takeWhile_sublist _).subset (Text.words_subset hw hc)
  have hparams : Unmarked (beforeLastParen ((line.dropWhile (· != '(')).drop 1)) :=
    hline.mono fun c hc =>
      (List.dropWhile_sublist _).subset (List.mem_of_mem_drop (beforeLastParen_subset _ hc))
  have hvoid : Erased "void" := by unfold Erased; decide
  simp only [callable?] at h
  split at h
  · simp at h
  · next last before hwords =>
    split at h
    · obtain rfl := Option.some.inj h
      exact ⟨hvoid, fun p hp => erased_classNames hparams hp⟩
    · obtain rfl := Option.some.inj h
      refine ⟨?_, fun p hp => erased_classNames hparams hp⟩
      cases hreturns : (before.reverse.partition isModifier).2.getLast? with
      | none => exact hvoid
      | some word =>
        have hbefore : word ∈ before := by
          have hmem := List.mem_of_getLast? hreturns
          rw [List.partition_eq_filter_filter] at hmem
          exact List.mem_reverse.mp (List.mem_filter.mp hmem).1
        have hmem : word ∈ (Text.words (line.takeWhile (· != '('))).reverse := by
          simp [hwords, hbefore]
        exact erased_className (hword (List.mem_reverse.mp hmem))

theorem isErased_of_fieldLine? {line : List Char} {m : Member} (h : fieldLine? line = some m)
    (hline : Unmarked line) : m.IsErased := by
  simp only [fieldLine?] at h
  split at h
  · next name type before hwords =>
    split at h
    · simp at h
    · obtain rfl := Option.some.inj h
      intro t ht
      obtain rfl : className type = t := Option.some.inj ht
      have hmem : type ∈ (Text.words line).reverse := by simp [hwords]
      exact erased_className (hline.mono (Text.words_subset (List.mem_reverse.mp hmem)))
  · simp at h

theorem isErased_of_member? {owner : String} {line : List Char} {m : Member}
    (h : member? owner line = some m) (hline : Unmarked line) : m.IsErased := by
  have hplain := hline.mono (withoutThrows_subset line)
  simp only [member?] at h
  split at h
  · exact isErased_of_callable? h hplain
  · exact isErased_of_fieldLine? h hplain

theorem sound_addMember {e : Entry} (he : e.Sound) {m : Member} (hm : m.IsErased) :
    (addMember e m).Sound := by
  cases m with
  | field f =>
    refine ⟨he.kind, he.superclass, he.interfaces, fun g hg => ?_, he.methods⟩
    rcases List.mem_append.mp hg with hg | hg
    · exact he.fields g hg
    · obtain rfl := List.mem_singleton.mp hg
      exact hm
  | method m =>
    refine ⟨he.kind, he.superclass, he.interfaces, he.fields, fun g hg => ?_⟩
    rcases List.mem_append.mp hg with hg | hg
    · exact he.methods g hg
    · obtain rfl := List.mem_singleton.mp hg
      exact hm

theorem sound_readMembers {owner : String} {e : Entry} (he : e.Sound) {lines : List (List Char)}
    (hlines : ∀ line ∈ lines, Unmarked line) : (readMembers owner e lines).Sound := by
  induction lines generalizing e with
  | nil => exact he
  | cons line lines ih =>
    have hline := hlines line (by simp)
    have hrest : ∀ line ∈ lines, Unmarked line := fun l hl => hlines l (by simp [hl])
    rw [readMembers]
    split
    · exact he
    · split
      · exact ih he hrest
      · split
        · next m hm =>
          have herased := isErased_of_member? hm (hline.mono (List.dropLast_sublist line).subset)
          exact ih (sound_addMember he herased) hrest
        · exact ih he hrest

theorem sound_of_read {text : String} {e : Entry} (h : read text = some e) : e.Sound := by
  have hlines : ∀ line ∈ ((Text.lines text.toList).map plainLine).filter isTelling,
      Unmarked line := by
    intro line hline
    obtain ⟨raw, -, rfl⟩ := List.mem_map.mp (List.mem_filter.mp hline).1
    exact unmarked_plainLine raw
  rw [read] at h
  generalize ((Text.lines text.toList).map plainLine).filter isTelling = lines at h hlines
  induction lines with
  | nil => simp [readLines] at h
  | cons line lines ih =>
    have hrest : ∀ line ∈ lines, Unmarked line := fun l hl => hlines l (by simp [hl])
    rw [readLines] at h
    split at h
    · next header hheader =>
      obtain rfl := Option.some.inj h
      exact sound_readMembers (sound_of_headerFrom hheader).entry hrest
    · exact ih h hrest

end Listing

/-! ### Classes of entries -/

/-- A field as its entry has it. -/
structure FieldEntry.Describes (f : FieldEntry) (d : FieldDecl) : Prop where
  name : f.name = some d.name
  type : f.type.map Entry.readType = some d.type
  modifiers : d.modifiers = f.modifiers

/-- A method or constructor as its entry has it. -/
structure MethodEntry.Describes (m : MethodEntry) (d : MethodDecl) : Prop where
  name : m.name = some d.name
  returns : d.returns = if m.isConstructor then none else some (Entry.readType m.returns)
  params : d.params.map ParamDecl.type = m.params.map Entry.readType
  variadic : d.params.map ParamDecl.variadic = m.params.map Entry.isVariadic
  modifiers : d.modifiers = m.modifiers
  isConstructor : d.isConstructor = m.isConstructor
  throws : d.throws = []

namespace Entry

theorem forall₂_of_mapM {α β : Type} {f : α → Except EntryError β} {as : List α} {bs : List β}
    (h : as.mapM f = .ok bs) : List.Forall₂ (fun a b => f a = .ok b) as bs := by
  induction as generalizing bs with
  | nil =>
    obtain rfl : [] = bs := Except.ok.inj h
    exact .nil
  | cons a as ih =>
    rw [List.mapM_cons] at h
    cases ha : f a with
    | error e =>
      rw [ha] at h
      cases h
    | ok b =>
      cases has : as.mapM f with
      | error e =>
        rw [ha, has] at h
        cases h
      | ok rest =>
        rw [ha, has] at h
        obtain rfl : b :: rest = bs := Except.ok.inj h
        exact .cons ha (ih has)

theorem describes_of_readField {f : FieldEntry} {d : FieldDecl} (h : readField f = .ok d) :
    f.Describes d := by
  obtain ⟨name, type, modifiers⟩ := f
  cases name with
  | none => cases h
  | some name =>
    cases type with
    | none => cases h
    | some type =>
      obtain rfl := Except.ok.inj h
      exact ⟨rfl, rfl, rfl⟩

theorem describes_of_readMethod {m : MethodEntry} {d : MethodDecl} (h : readMethod m = .ok d) :
    m.Describes d := by
  obtain ⟨name, returns, params, modifiers, isConstructor⟩ := m
  cases name with
  | none => cases h
  | some name =>
    obtain rfl := Except.ok.inj h
    refine ⟨rfl, rfl, ?_, ?_, rfl, rfl, rfl⟩
    · exact List.ext_getElem (by simp) fun i h h' => by simp [readParam]
    · exact List.ext_getElem (by simp) fun i h h' => by simp [readParam]

/-- The declaration of a class that is made from an entry. -/
theorem decl_of_toClass {e : Entry} {key : UnitKey} {fullName origin : String} {c : Class}
    (h : e.toClass key fullName origin = .ok c) :
    c.decl.kind = e.kind ∧
      c.decl.superclass = (e.superclass.filter (!·.isEmpty)).map (fun s => ⟨s, 0⟩) ∧
      c.decl.interfaces = e.interfaces.map (fun s => ⟨s, 0⟩) ∧
      List.Forall₂ FieldEntry.Describes e.fields c.decl.fields ∧
      List.Forall₂ MethodEntry.Describes e.methods c.decl.methods := by
  simp only [toClass, declaration] at h
  cases hfields : e.fields.mapM readField with
  | error _ =>
    rw [hfields] at h
    cases h
  | ok fields =>
    cases hmethods : e.methods.mapM readMethod with
    | error _ =>
      rw [hfields, hmethods] at h
      cases h
    | ok methods =>
      rw [hfields, hmethods] at h
      obtain rfl := Except.ok.inj h
      exact ⟨rfl, rfl, rfl, (forall₂_of_mapM hfields).imp fun _ _ => describes_of_readField,
        (forall₂_of_mapM hmethods).imp fun _ _ => describes_of_readMethod⟩

end Entry

theorem exists_of_forall₂ {α β : Type} {R : α → β → Prop} {as : List α} {bs : List β}
    (h : List.Forall₂ R as bs) {b : β} (hb : b ∈ bs) : ∃ a ∈ as, R a b := by
  induction h with
  | nil => simp at hb
  | @cons a b' as bs hab _ ih =>
    rcases List.mem_cons.mp hb with rfl | hb
    · exact ⟨a, by simp, hab⟩
    · obtain ⟨a', ha', hab'⟩ := ih hb
      exact ⟨a', by simp [ha'], hab'⟩

/-- A class as a listing has it. -/
structure Class.Listed (e : Entry) (c : Class) : Prop where
  kind : c.kind = .classType ∨ c.kind = .interfaceType ∨ c.kind = .enumType ∨
    c.kind = .annotationType
  superclass : ∀ t ∈ c.decl.superclass,
    (c.kind = .classType ∨ c.kind = .enumType) ∧ t.name ≠ Class.rootName
  fields : List.Forall₂ FieldEntry.Describes e.fields c.decl.fields
  methods : List.Forall₂ MethodEntry.Describes e.methods c.decl.methods
  constructors : ∀ m ∈ c.decl.methods, m.isConstructor = true ↔ m.returns = none
  names : ∀ r ∈ c.headerRefs ++ c.bodyRefs, Erased r.name

namespace Entry.Sound

variable {e : Entry} {c : Class} {key : UnitKey} {fullName origin : String}

theorem kind_cases (h : e.Sound) : e.kind = .classType ∨ e.kind = .interfaceType ∨
    e.kind = .enumType ∨ e.kind = .annotationType := by
  simpa [Listing.kinds] using h.kind

theorem erased_headerRefs (h : e.Sound) (hc : e.toClass key fullName origin = .ok c) {r : TypeRef}
    (hr : r ∈ c.headerRefs) : Erased r.name := by
  obtain ⟨-, hsuperclass, hinterfaces, -, -⟩ := decl_of_toClass hc
  rcases List.mem_append.mp hr with hr | hr
  · simp only [Class.superclass?, hsuperclass, Option.map_map, Option.mem_toList,
      Option.map_eq_some_iff] at hr
    obtain ⟨s, hs, rfl⟩ := hr
    exact (h.superclass s (Option.filter_eq_some_iff.mp hs).1).2.2
  · simp only [Class.interfaces, hinterfaces, List.map_map, List.mem_map] at hr
    obtain ⟨s, hs, rfl⟩ := hr
    exact h.interfaces s hs

theorem erased_bodyRefs (h : e.Sound) (hc : e.toClass key fullName origin = .ok c) {r : TypeRef}
    (hr : r ∈ c.bodyRefs) : Erased r.name := by
  obtain ⟨-, -, -, hfields, hmethods⟩ := decl_of_toClass hc
  rcases List.mem_append.mp hr with hr | hr
  · obtain ⟨d, hd, rfl⟩ := List.mem_map.mp hr
    obtain ⟨f, hf, hdescribes⟩ := exists_of_forall₂ hfields hd
    obtain ⟨text, htext, htype⟩ := Option.map_eq_some_iff.mp hdescribes.type
    show Erased d.type.name
    rw [← htype]
    exact erased_readType (h.fields f hf text htext)
  · obtain ⟨d, hd, hr⟩ := List.mem_flatMap.mp hr
    obtain ⟨m, hm, hdescribes⟩ := exists_of_forall₂ hmethods hd
    obtain ⟨hreturns, hparams⟩ := h.methods m hm
    rcases List.mem_append.mp hr with hr | hr
    · rcases List.mem_append.mp hr with hr | hr
      · obtain ⟨p, hp, rfl⟩ := List.mem_map.mp hr
        have htype : p.type ∈ m.params.map readType := by
          rw [← hdescribes.params]
          exact List.mem_map_of_mem hp
        obtain ⟨text, htext, htype⟩ := List.mem_map.mp htype
        show Erased p.type.name
        rw [← htype]
        exact erased_readType (hparams text htext)
      · obtain ⟨t, ht, rfl⟩ := Option.map_eq_some_iff.mp (Option.mem_toList.mp hr)
        rw [hdescribes.returns] at ht
        obtain ⟨-, htype⟩ := Option.ite_none_left_eq_some.mp ht
        obtain rfl := Option.some.inj htype
        exact erased_readType hreturns
    · simp [hdescribes.throws] at hr

theorem listed (h : e.Sound) (hc : e.toClass key fullName origin = .ok c) : c.Listed e := by
  obtain ⟨hkind, hsuperclass, -, hfields, hmethods⟩ := decl_of_toClass hc
  refine ⟨?_, fun t ht => ?_, hfields, hmethods, fun d hd => ?_, fun r hr => ?_⟩
  · rw [Class.kind, hkind]
    exact h.kind_cases
  · rw [hsuperclass] at ht
    obtain ⟨s, hs, rfl⟩ := Option.map_eq_some_iff.mp ht
    obtain ⟨hclass, hroot, -⟩ := h.superclass s (Option.filter_eq_some_iff.mp hs).1
    refine ⟨?_, hroot⟩
    rw [Class.kind, hkind]
    rcases h.kind_cases with hkind | hkind | hkind | hkind
    · exact .inl hkind
    · simp [hkind, TypeKind.isInterface] at hclass
    · exact .inr hkind
    · simp [hkind, TypeKind.isInterface] at hclass
  · obtain ⟨m, -, hdescribes⟩ := exists_of_forall₂ hmethods hd
    rw [hdescribes.returns, hdescribes.isConstructor]
    cases m.isConstructor <;> simp
  · rcases List.mem_append.mp hr with hr | hr
    · exact h.erased_headerRefs hc hr
    · exact h.erased_bodyRefs hc hr

end Entry.Sound

/-- What is read from any text as a listing makes a class, and one of a listing's kind. -/
theorem Listing.toClass_of_read {text : String} {e : Entry} (h : read text = some e)
    (key : UnitKey) (fullName origin : String) :
    ∃ c, e.toClass key fullName origin = .ok c ∧ c.Listed e := by
  obtain ⟨c, hc⟩ := exists_toClass_of_read h key fullName origin
  exact ⟨c, hc, (sound_of_read h).listed hc⟩

/-- A listing with type arguments and dollar signs wherever a type is named. -/
def Listing.genericText : String := "class p.A$B<T> extends q.C$D<T> \x7b
  p.A$B(q.E$F<q.X<T>>...);
  q.E$F<T>[] f;
\x7d
"

theorem Listing.toClass_of_read_generic :
    ∃ e c, read genericText = some e ∧ e.superclass = some "q.C.D" ∧
      e.toClass (.outside none "") "p.A.B" "javap" = .ok c ∧ c.Listed e := by
  have hread : (read genericText).bind Entry.superclass = some "q.C.D" := by decide +kernel
  obtain ⟨e, he, hsuperclass⟩ := Option.bind_eq_some_iff.mp hread
  obtain ⟨c, hc, hlisted⟩ := toClass_of_read he (.outside none "") "p.A.B" "javap"
  exact ⟨e, c, he, hsuperclass, hc, hlisted⟩

end JavaAtlas
