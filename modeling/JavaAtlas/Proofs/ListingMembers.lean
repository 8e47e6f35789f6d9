import JavaAtlas.Proofs.ListingHeader

/-! Member lines are read back. The exceptions that a method throws are cut off at the first place
where their clause can start, and no such place lies in front of it: `withoutThrows_append`. What
is left is words, of which the last is the name. -/

namespace JavaAtlas.Listing

/-! ### Thrown exceptions -/

theorem withoutThrows_append {text rest : List Char} (h : Continues ["throws"] text rest) :
    withoutThrows (text ++ rest) = text ++ withoutThrows rest := by
  induction text with
  | nil => rfl
  | cons c text ih =>
    have hstarts := (closes_eq_false.mp h.1).1 "throws" (by simp)
    rw [← startsThrows_eq] at hstarts
    rw [List.cons_append, withoutThrows, hstarts, if_neg (by simp), ih h.2]
    rfl

theorem Clause.withoutThrows {thrown : List String} {text : List Char}
    (h : Clause "throws" thrown text) : Listing.withoutThrows text = [] := by
  cases h with
  | none => rfl
  | @some gap gap' text name names apart apart' listed =>
    have hword : "throws" ∈ keywords := by decide
    have hstarts := startsClause_self hword apart apart' text
    rw [← startsThrows_eq] at hstarts
    obtain ⟨c, gap, rfl⟩ := List.exists_cons_of_ne_nil apart.1
    rw [List.cons_append] at hstarts ⊢
    rw [Listing.withoutThrows, hstarts, if_pos rfl]

theorem throws_keyword : ∀ w ∈ ["throws"], w ∈ keywords := by decide

/-! ### Words of a line -/

theorem Leading.words_append {words : List (List Char)} {text last : List Char}
    (h : Leading words text) (hwords : ∀ w ∈ words, Text.Solid w) (hlast : Text.Solid last) :
    Text.words (text ++ last) = words ++ [last] := by
  induction h with
  | nil => exact Text.words_eq_singleton hlast
  | @cons word gap text words apart more ih =>
    simp only [List.append_assoc]
    rw [Text.words_append (hwords word (by simp)) apart.1 fun c hc => (apart.2 c hc).1,
      ih fun w hw => hwords w (by simp [hw])]
    rfl

theorem free_modifiers {words : List String} (h : AreModifiers words) :
    ∀ w ∈ words.map String.toList, Free ["throws"] w := by
  intro w hw
  obtain ⟨word, hword, rfl⟩ := List.mem_map.mp hw
  refine ⟨isWord_keyword (keyword_of_modifier (h word hword)), fun thrown hthrown heq => ?_⟩
  obtain rfl : thrown = "throws" := by simpa using hthrown
  exact absurd (String.toList_inj.mp heq ▸ h word hword) (by decide)

theorem free_append {words : List (List Char)} (h : ∀ w ∈ words, Free ["throws"] w)
    {printed : List Char} {name : String} (hprinted : Spells printed name) (hname : Plain name) :
    ∀ w ∈ words ++ [printed], Free ["throws"] w :=
  List.forall_mem_append.mpr
    ⟨h, List.forall_mem_singleton.mpr (free_printed throws_keyword hprinted hname)⟩

theorem Leading.notMem {words : List (List Char)} {text : List Char} (h : Leading words text)
    {c : Char} (hc : Text.isBlank c = false) (hwords : ∀ w ∈ words, c ∉ w) : c ∉ text := by
  induction h with
  | nil => simp
  | @cons word gap text words apart more ih =>
    have hgap : c ∉ gap := fun hmem => by simp [(apart.2 c hmem).1] at hc
    simp only [List.mem_append, not_or]
    exact ⟨hwords word (by simp), hgap, ih fun w hw => hwords w (by simp [hw])⟩

/-- The words of a line up to a separator or the end. The last of them may be any word. -/
theorem Leading.continues_last {words : List (List Char)} {text last rest : List Char}
    (h : Leading words text) (hwords : ∀ w ∈ words, Free ["throws"] w) (hlast : IsWord last)
    (hrest : ∀ c ∈ rest.head?, c ∈ separators) : Continues ["throws"] (text ++ last) rest := by
  have hdense : ∀ c ∈ rest.head?, Text.isBlank c = false := by
    intro c hc
    by_contra hblank
    exact blank_notMem_separators (by simpa using hblank) (hrest c hc)
  have hapart := hlast.apart throws_keyword (fun c hc => .inr (hrest c hc)) fun _ _ _ => hdense
  exact (h.continues throws_keyword hwords hapart).1.append (continues_word hlast rest)

theorem spells_self (name : String) : Spells name.toList name :=
  List.forall₂_same.mpr fun _ _ => .inl rfl

/-! ### What can be told from a line -/

/-- The name of a member in print. -/
structure IsMemberName (name : String) : Prop where
  isWord : IsWord name.toList
  undotted : '.' ∉ name.toList

/-- Every identifier is the name of a member: letters and digits of any script, low lines and dollar
signs. -/
theorem isMemberName_of_chars {name : String} (hne : name.toList ≠ [])
    (h : (name.toList.all fun c => Text.isWordChar c || c == '$') = true) : IsMemberName name := by
  have hchars : ∀ c ∈ name.toList, Text.isWordChar c = true ∨ c = '$' := by simpa using h
  refine ⟨⟨hne, fun c hc => ?_⟩, fun hmem => absurd (hchars '.' hmem) (by decide)⟩
  rcases hchars c hc with hchar | rfl
  · exact inner_of_isWordChar hchar
  · decide

theorem IsIdentifier.isMemberName {name : String} (h : IsIdentifier name) : IsMemberName name := by
  refine isMemberName_of_chars h.1 (List.all_eq_true.mpr fun c hc => ?_)
  simp [isWordChar_of_isIdentifierChar (h.2.1 c hc)]

structure FieldLegible (f : FieldEntry) : Prop where
  name : ∃ name, f.name = some name ∧ IsMemberName name
  type : ∃ type, f.type = some type ∧ Plain type
  modifiers : AreModifiers f.modifiers

structure MethodLegible (m : MethodEntry) : Prop where
  name : m.isConstructor = false → ∃ name, m.name = some name ∧ IsMemberName name
  returns : m.isConstructor = false → Plain m.returns
  params : ∀ p ∈ m.params, Plain p
  modifiers : AreModifiers m.modifiers

theorem FieldLegible.isWord {f : FieldEntry} (h : FieldLegible f) {name : String}
    (hname : f.name = some name) : IsWord name.toList := by
  obtain ⟨name', hname', hword, -⟩ := h.name
  obtain rfl : name = name' := by simpa [hname] using hname'
  exact hword

theorem FieldLegible.plain {f : FieldEntry} (h : FieldLegible f) {spec : String}
    (hspec : f.type = some spec) : Plain spec := by
  obtain ⟨spec', hspec', htype⟩ := h.type
  obtain rfl : spec = spec' := by simpa [hspec] using hspec'
  exact htype

theorem MethodLegible.isMemberName {m : MethodEntry} (h : MethodLegible m)
    (hplain : m.isConstructor = false) {name : String} (hname : m.name = some name) :
    IsMemberName name := by
  obtain ⟨name', hname', hword⟩ := h.name hplain
  obtain rfl : name = name' := by simpa [hname] using hname'
  exact hword

theorem FieldListable.legible {f : FieldEntry} (h : FieldListable f) : FieldLegible f where
  name := h.name.imp fun _ hname => ⟨hname.1, hname.2.isMemberName⟩
  type := h.type.imp fun _ htype => ⟨htype.1, htype.2.plain⟩
  modifiers := h.modifiers

theorem MethodListable.legible {full : String} {m : MethodEntry} (h : MethodListable full m) :
    MethodLegible m where
  name hplain := (h.name hplain).imp fun _ hname => ⟨hname.1, hname.2.isMemberName⟩
  returns hplain := (h.returns hplain).plain
  params p hp := (h.params p hp).plain
  modifiers := h.modifiers

/-- What is read of the line of a method or constructor. With the full name of the class, which
dollar signs may spell, a method is read as a constructor. -/
def asRead (full : String) (m : MethodEntry) : MethodEntry :=
  let name := m.name.map fun name => className name.toList
  if m.isConstructor || name == some full then
    { m with name := some (Name.last full), returns := "void", isConstructor := true }
  else { m with name }

theorem asRead_of_eq {full name : String} {m : MethodEntry} (hname : m.name = some name)
    (h : className name.toList = full) : asRead full m =
      { m with name := some (Name.last full), returns := "void", isConstructor := true } := by
  simp [asRead, hname, h]

theorem asRead_of_ne {full name : String} {m : MethodEntry} (hplain : m.isConstructor = false)
    (hname : m.name = some name) (h : className name.toList ≠ full) :
    asRead full m = { m with name := some (className name.toList) } := by
  simp [asRead, hplain, hname, h]

/-- In a named package, where no method has the full name of the class, nothing gets lost. -/
theorem MethodListable.asRead_eq {full : String} {m : MethodEntry} (h : MethodListable full m)
    (hpackage : '.' ∈ full.toList) : asRead full m = m := by
  cases hplain : m.isConstructor with
  | true =>
    obtain ⟨hname, hvoid⟩ := h.constructed hplain
    have hread : asRead full m =
        { m with name := some (Name.last full), returns := "void", isConstructor := true } := by
      simp [asRead, hplain]
    rw [hread, ← hname, ← hvoid, ← hplain]
  | false =>
    obtain ⟨name, hname, hident⟩ := h.name hplain
    have hdollar : '$' ∉ name.toList := fun hmem => absurd (hident.2.1 '$' hmem) (by decide)
    have hself := (className_eq_self_iff hident.isMemberName.isWord).mpr hdollar
    have hne : name ≠ full := by
      rintro rfl
      exact absurd (hident.2.1 '.' hpackage) (by decide)
    rw [asRead_of_ne hplain hname (hself.trans_ne hne), hself, ← hname]

/-! ### Fields -/

theorem fieldLine?_append {words : List (List Char)} {type leading last : List Char}
    (h : Leading (words ++ [type]) leading) (hwords : ∀ w ∈ words ++ [type], Free ["throws"] w)
    (hlast : IsWord last) :
    fieldLine? (leading ++ last) = some (.field
      { name := some (String.ofList last), type := some (className type)
        modifiers := texts (words.filter isModifier) }) := by
  have hall : ∀ w ∈ words ++ [type] ++ [last], IsWord w :=
    List.forall_mem_append.mpr
      ⟨fun w hw => (hwords w hw).isWord, List.forall_mem_singleton.mpr hlast⟩
  have hsplit := h.words_append (fun w hw => (hwords w hw).isWord.solid) hlast.solid
  -- The words of an initializer hold braces.
  have hbraces :
      (texts ((words ++ [type] ++ [last]).take 2) == ["static", "\x7b\x7d"]) = false := by
    rw [beq_eq_false_iff_ne]
    intro heq
    have hmem : "\x7b\x7d" ∈ texts ((words ++ [type] ++ [last]).take 2) := by
      rw [heq]
      decide
    obtain ⟨w, hw, hbrace⟩ := List.mem_map.mp hmem
    refine (hall w (List.mem_of_mem_take hw)).notMem (c := '\x7b') (by decide) ?_
    rw [← String.toList_ofList (l := w), hbrace]
    decide
  unfold fieldLine?
  simp only [hsplit, hbraces]
  simp

theorem FieldText.member? {f : FieldEntry} {text : List Char} (h : FieldText f text)
    (hf : FieldLegible f) (owner : String) :
    ∃ line, text = line ++ [';'] ∧ Listing.member? owner line = some (.field f) := by
  cases h with
  | @intro leading type name spec named typed spelled led =>
    have hword := hf.isWord named
    have htype := hf.plain typed
    have hwords := free_append (free_modifiers hf.modifiers) spelled htype
    have hend : ∀ c ∈ ([] : List Char).head?, c ∈ separators := by simp
    have hthrows := withoutThrows_append (led.continues_last hwords hword hend)
    have hopen : '(' ∉ leading ++ name.toList := by
      simp only [List.mem_append, not_or]
      exact ⟨led.notMem (by decide) fun w hw => (hwords w hw).isWord.notMem (by decide),
        hword.notMem (by decide)⟩
    refine ⟨leading ++ name.toList, by simp, ?_⟩
    simp only [List.append_nil, Listing.withoutThrows] at hthrows
    rw [Listing.member?, hthrows]
    simp only [List.contains_eq_mem, hopen, decide_false, Bool.false_eq_true, if_false]
    rw [fieldLine?_append led hwords hword, texts_filter_modifiers hf.modifiers]
    simp [className_spells spelled htype, ← named, ← typed]

/-! ### Methods -/

theorem beforeLastParen_append (listed : List Char) :
    beforeLastParen (listed ++ [')']) = listed := by
  simp [beforeLastParen]

/-- What is read of a name with parameters and of the words in front of it. The last of those that
are no modifiers is what a method returns; it has no say for a constructor, whose name is that of
the class. -/
def callAs (owner : String) (words : List (List Char)) (last : List Char) (params : List String) :
    MethodEntry :=
  if className last == owner then
    { name := some (Name.last owner), params, modifiers := texts (words.filter isModifier)
      isConstructor := true }
  else
    { name := some (className last), params, modifiers := texts (words.filter isModifier)
      returns := ((words.filter (!isModifier ·)).getLast?.map className).getD "void" }

theorem callable?_append {words : List (List Char)} {params : List String}
    {leading last listed : List Char} (h : Leading words leading)
    (hwords : ∀ w ∈ words, Free ["throws"] w) (hlast : IsWord last) (hlisted : Lists params listed)
    (hparams : ∀ p ∈ params, Plain p) (owner : String) :
    callable? owner (leading ++ last ++ '(' :: (listed ++ [')'])) =
      some (.method (callAs owner words last params)) := by
  have hsplit := h.words_append (fun w hw => (hwords w hw).isWord.solid) hlast.solid
  have hfront : ∀ c ∈ leading ++ last, (c != '(') = true := by
    intro c hc
    rw [bne_iff_ne]
    rintro rfl
    rcases List.mem_append.mp hc with hc | hc
    · exact h.notMem (by decide) (fun w hw => (hwords w hw).isWord.notMem (by decide)) hc
    · exact hlast.notMem (by decide) hc
  have hparen : ∀ c ∈ ('(' :: (listed ++ [')'])).head?, (c != '(') = false := by simp
  obtain ⟨htake, hdrop⟩ := Text.span_append hfront hparen
  have hnone : IsGap [] := by decide
  have hnames : classNames listed = params := by
    simpa using classNames_lists hlisted hparams hnone
  unfold callable? callAs
  simp only [htake, hdrop, hsplit, List.drop_one, List.tail_cons, beforeLastParen_append, hnames]
  simp only [List.reverse_append, List.reverse_singleton, List.singleton_append,
    List.reverse_reverse, List.partition_eq_filter_filter]
  split <;> simp_all [Function.comp_def]

theorem Lists.continues_call {params : List String} {listed : List Char} (h : Lists params listed)
    (hparams : ∀ p ∈ params, Plain p) (rest : List Char) :
    Continues ["throws"] ('(' :: (listed ++ [')'])) rest := by
  have hclose : Continues ["throws"] [')'] rest :=
    ⟨closes_dense (by decide) (by decide) _, trivial⟩
  have hlisted :=
    (h.continues throws_keyword hparams (follows_separator (c := ')') (by decide) rest)).1
  exact ⟨closes_dense (by decide) (by decide) _, Continues.append hlisted hclose⟩

/-- What is read of the line of a method or constructor, the words in front of its name given. -/
theorem CallText.member? {params : List String} {call : List Char} (h : CallText params call)
    (hparams : ∀ p ∈ params, Plain p) {words : List (List Char)} {leading last : List Char}
    (led : Leading words leading) (hwords : ∀ w ∈ words, Free ["throws"] w) (hlast : IsWord last)
    (owner : String) :
    ∃ line, leading ++ (last ++ call) = line ++ [';'] ∧
      Listing.member? owner line = some (.method (callAs owner words last params)) := by
  cases h with
  | @intro listed throwing thrown lists throws =>
    refine ⟨leading ++ last ++ '(' :: (listed ++ [')']) ++ throwing, by simp, ?_⟩
    have hcall := lists.continues_call hparams throwing
    have hparen : ∀ c ∈ ('(' :: (listed ++ [')'] ++ throwing)).head?, c ∈ separators := by
      simp [separators]
    have hfront := led.continues_last hwords hlast hparen
    have hthrows := withoutThrows_append (Continues.append hfront hcall)
    rw [throws.withoutThrows, List.append_nil] at hthrows
    rw [Listing.member?, hthrows, if_pos (by simp)]
    exact callable?_append led hwords hlast lists hparams owner

theorem isModifier_printed {printed : List Char} {name : String} (h : Spells printed name)
    (hname : Plain name) : isModifier printed = false := by
  have hnot : String.ofList printed ∉ Modifier.canonical := by
    intro hmem
    exact printed_ne h hname (keyword_of_modifier hmem) (String.toList_ofList).symm
  simpa [isModifier] using hnot

theorem filter_not_modifiers {words : List String} (h : AreModifiers words) :
    (words.map String.toList).filter (!isModifier ·) = [] := by
  rw [List.filter_eq_nil_iff]
  intro w hw
  obtain ⟨word, hword, rfl⟩ := List.mem_map.mp hw
  simp [isModifier_toList (h word hword)]

theorem MethodText.member? {full : String} {m : MethodEntry} {text : List Char}
    (h : MethodText full m text) (hm : MethodLegible m) (hfull : Plain full) :
    ∃ line, text = line ++ [';'] ∧
      Listing.member? full line = some (.method (asRead full m)) := by
  have hwords := free_modifiers hm.modifiers
  cases h with
  | @method leading type call name plain named spelled led called =>
    have hword := (hm.isMemberName plain named).isWord
    have htype := hm.returns plain
    obtain ⟨line, hline, hread⟩ :=
      called.member? hm.params led (free_append hwords spelled htype) hword full
    refine ⟨line, hline, hread.trans ?_⟩
    rw [callAs, List.filter_append, List.filter_append, filter_not_modifiers hm.modifiers]
    by_cases hname : className name.toList = full
    · rw [asRead_of_eq named hname]
      simp [hname, isModifier_printed spelled htype, texts_filter_modifiers hm.modifiers]
    · rw [asRead_of_ne plain named hname]
      simp [hname, isModifier_printed spelled htype, texts_filter_modifiers hm.modifiers,
        className_spells spelled htype, ← plain]
  | @constructor leading printed call constructed spelled led called =>
    obtain ⟨line, hline, hread⟩ :=
      called.member? hm.params led hwords (isWord_printed spelled hfull) full
    refine ⟨line, hline, hread.trans ?_⟩
    rw [callAs, className_spells spelled hfull, texts_filter_modifiers hm.modifiers]
    simp [asRead, constructed]

/-! ### Initializers -/

theorem apart_braces : Apart ["throws"] ['\x7b', '\x7d'] := by
  intro gap hgap
  have hhead : ∀ c ∈ ['\x7b', '\x7d'].head?, Text.isBlank c = false :=
    Text.forall_head (by decide) _
  refine closes_eq_false.mpr ⟨fun w hw => ?_, ?_⟩
  · obtain rfl : w = "throws" := by simpa using hw
    by_cases hnil : gap = []
    · rw [hnil]
      exact startsClause_dense hhead
    · rw [startsClause_gap ⟨hnil, hgap⟩ hhead]
      decide
  · rw [endsHeader, (Text.span_append (fun c hc => (hgap c hc).1) hhead).2]
    decide

/-- An initializer is no member. -/
theorem member?_initializer {gap : List Char} (hgap : Separates gap) (owner : String) :
    member? owner ("static".toList ++ (gap ++ ['\x7b', '\x7d'])) = none := by
  have led : Leading (["static"].map String.toList) ("static".toList ++ (gap ++ [])) :=
    .cons hgap .nil
  have hstatic : AreModifiers ["static"] := by
    unfold AreModifiers
    decide
  have hwords := free_modifiers hstatic
  have hbraces : Text.Solid ['\x7b', '\x7d'] := by
    refine ⟨by simp, fun c hc => ?_⟩
    obtain rfl | rfl : c = '\x7b' ∨ c = '\x7d' := by simpa using hc
    all_goals decide
  have hthrows := withoutThrows_append (led.continues throws_keyword hwords apart_braces).1
  have hrest : withoutThrows ['\x7b', '\x7d'] = ['\x7b', '\x7d'] := by decide
  have hopen : '(' ∉ "static".toList ++ (gap ++ []) :=
    led.notMem (by decide) fun w hw => (hwords w hw).isWord.notMem (by decide)
  have hsplit := led.words_append (fun w hw => (hwords w hw).isWord.solid) hbraces
  simp only [List.append_nil, List.append_assoc] at hthrows hopen hsplit
  have hopen' : '(' ∉ "static".toList ++ (gap ++ ['\x7b', '\x7d']) := by
    simpa using hopen
  rw [hrest] at hthrows
  rw [member?, hthrows]
  simp only [List.contains_eq_mem, hopen', decide_false, Bool.false_eq_true, if_false]
  rw [fieldLine?, hsplit]
  decide

end JavaAtlas.Listing
