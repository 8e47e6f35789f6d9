import JavaAtlas.Proofs.ListingMembers

/-! Listings are read back. Every line that says something is read on its own, as what it was
printed for, and the lines that say nothing are left out. -/

namespace JavaAtlas.Listing

/-! ### Lines that say nothing -/

theorem Silent.isTelling {line : List Char} (h : Silent line) :
    Listing.isTelling (plainLine line) = false := by
  cases h with
  | blank gap =>
    have hbrackets : ∀ c ∈ line, c ≠ '<' ∧ c ≠ '>' := by
      intro c hc
      have hblank := (gap c hc).1
      constructor
      all_goals
        rintro rfl
        exact absurd hblank (by decide)
    have houtside := outside_append hbrackets []
    rw [List.append_nil] at houtside
    rw [plainLine, houtside]
    simp [Generics.outside, Generics.outsideFrom, Text.trim_blanks fun c hc => (gap c hc).1,
      Listing.isTelling]
  | @compiled file single =>
    have hbrackets : ∀ c ∈ "Compiled from".toList, c ≠ '<' ∧ c ≠ '>' := by simp
    have hfirst : ∀ c ∈ "Compiled from".toList.head?, Text.isBlank c = false := by
      intro c hc
      obtain rfl : 'C' = c := by simpa using hc
      decide
    have hlast : ∀ c ∈ "Compiled from".toList.getLast?, Text.isBlank c = false := by
      intro c hc
      obtain rfl : 'm' = c := by simpa using hc
      decide
    rw [plainLine, outside_append hbrackets, Text.trim_append (by simp) hfirst hlast]
    simp [Listing.isTelling]

theorem Silent.single {line : List Char} (h : Silent line) :
    ∀ c ∈ line, Text.isLineEnd c = false := by
  cases h with
  | blank gap => exact fun c hc => (gap c hc).2
  | @compiled file single =>
    have hall : ("Compiled from".toList.all fun c => !Text.isLineEnd c) = true := by decide
    intro c hc
    rcases List.mem_append.mp hc with hc | hc
    · simpa using List.all_eq_true.mp hall c hc
    · exact single c hc

/-! ### Lines that say something -/

/-- A word at the front of a text, which does not start like the line on the compiled file. -/
def Fronted (text : List Char) : Prop :=
  ∃ word more, text = word ++ more ∧ Text.Solid word ∧ word.head? ≠ some 'C'

theorem Fronted.isTelling {text : List Char} (h : Fronted text) :
    Listing.isTelling text = true := by
  obtain ⟨word, more, rfl, hsolid, hhead⟩ := h
  obtain ⟨c, word, rfl⟩ := List.exists_cons_of_ne_nil hsolid.some
  have hc : c ≠ 'C' := by simpa using hhead
  simp [Listing.isTelling, List.isPrefixOf, Ne.symm hc]

theorem Fronted.plainLine {line text : List Char} (h : Fronted text) (hshown : Shows line text)
    (hlast : ∀ c ∈ text.getLast?, Text.isBlank c = false) : plainLine line = text := by
  obtain ⟨word, more, rfl, hsolid, -⟩ := h
  exact hshown.plainLine (by simp [hsolid.some]) (hsolid.head more) hlast

/-- A line that shows a text with a semicolon at its end. -/
theorem Shows.plainLine_concat {line text : List Char} (h : Shows line (text ++ [';']))
    (hdense : ∀ c ∈ (text ++ [';']).head?, Text.isBlank c = false) :
    Listing.plainLine line = text ++ [';'] := by
  refine h.plainLine (by simp) hdense fun c hc => ?_
  obtain rfl : ';' = c := by simpa using hc
  decide

theorem fronted_modifier {word : String} (h : word ∈ Modifier.canonical) (rest : List Char) :
    Fronted (word.toList ++ rest) :=
  ⟨word.toList, rest, rfl, solid_keyword (keyword_of_modifier h),
    (by decide : ∀ w ∈ Modifier.canonical, w.toList.head? ≠ some 'C') word h⟩

theorem Leading.fronted {words : List String} {more : List (List Char)} {text : List Char}
    (h : Leading (words.map String.toList ++ more) text) (hne : words ≠ [])
    (hwords : AreModifiers words) (rest : List Char) : Fronted (text ++ rest) := by
  obtain ⟨word, words, rfl⟩ := List.exists_cons_of_ne_nil hne
  rw [List.map_cons, List.cons_append] at h
  cases h with
  | cons apart more =>
    rw [List.append_assoc]
    exact fronted_modifier (hwords word (by simp)) _

theorem HeadText.fronted {full : String} {words supers interfaces : List String} {kind : TypeKind}
    {text : List Char} (h : HeadText full words kind supers interfaces text) : Fronted text := by
  cases h with
  | @intro modifiers gap name extended implementing permitting gap' word permitted modified names
      led keyword =>
    by_cases hnil : words = []
    · subst hnil
      cases led
      exact ⟨word.toList, _, rfl, solid_kind keyword,
        (by decide : ∀ k ∈ kinds, k.1.toList.head? ≠ some 'C') _ keyword⟩
    · rw [← List.append_nil (words.map String.toList)] at led
      exact led.fronted hnil modified _

/-- A line with a semicolon at its end that is read as a member, or as none. -/
structure Tells (owner : String) (text : List Char) (member : Option Member) : Prop where
  dense : ∀ c ∈ text.head?, Text.isBlank c = false
  told : isTelling text = true
  read : ∃ line, text = line ++ [';'] ∧ member? owner line = member

theorem FieldText.dense {f : FieldEntry} {text : List Char} (h : FieldText f text)
    (hf : FieldLegible f) : ∀ c ∈ text.head?, Text.isBlank c = false := by
  cases h with
  | @intro leading type name spec named typed spelled led =>
    have hwords := free_append (free_modifiers hf.modifiers) spelled (hf.plain typed)
    exact led.head (fun w hw => (hwords w hw).isWord.solid) ((hf.isWord named).solid.head _)

theorem MethodText.dense {full : String} {m : MethodEntry} {text : List Char}
    (h : MethodText full m text) (hm : MethodLegible m) (hfull : Plain full) :
    ∀ c ∈ text.head?, Text.isBlank c = false := by
  have hwords := free_modifiers hm.modifiers
  cases h with
  | @method leading type call name plain named spelled led called =>
    have hwords := free_append hwords spelled (hm.returns plain)
    exact led.head (fun w hw => (hwords w hw).isWord.solid)
      ((hm.isMemberName plain named).isWord.solid.head _)
  | constructor constructed spelled led called =>
    exact led.head (fun w hw => (hwords w hw).isWord.solid)
      ((isWord_printed spelled hfull).solid.head _)

/-- A line with a modifier in front says something. -/
theorem FieldText.isTelling {f : FieldEntry} {text : List Char} (h : FieldText f text)
    (hf : FieldListable f) : Listing.isTelling text = true := by
  cases h with
  | intro named typed spelled led => exact (led.fronted hf.modified hf.modifiers _).isTelling

theorem MethodText.isTelling {full : String} {m : MethodEntry} {text : List Char}
    (h : MethodText full m text) (hm : MethodListable full m) : Listing.isTelling text = true := by
  cases h with
  | method plain named spelled led called =>
    exact (led.fronted hm.modified hm.modifiers _).isTelling
  | constructor constructed spelled led called =>
    rw [← List.append_nil (m.modifiers.map String.toList)] at led
    exact (led.fronted hm.modified hm.modifiers _).isTelling

theorem tells_initializer {gap : List Char} (hgap : Separates gap) (owner : String) :
    Tells owner ("static".toList ++ (gap ++ ['\x7b', '\x7d', ';'])) none := by
  have hstatic : "static" ∈ Modifier.canonical := by decide
  exact ⟨(solid_keyword (keyword_of_modifier hstatic)).head _,
    (fronted_modifier hstatic _).isTelling, _, by simp, member?_initializer hgap owner⟩

/-! ### Members -/

/-- The lines that are left of a listing. -/
def tellingLines (lines : List (List Char)) : List (List Char) :=
  (lines.map plainLine).filter isTelling

theorem tellingLines_cons {line text : List Char} (hplain : plainLine line = text)
    (htells : isTelling text = true) (lines : List (List Char)) :
    tellingLines (line :: lines) = text :: tellingLines lines := by
  rw [tellingLines, List.map_cons, hplain, List.filter_cons_of_pos htells]
  rfl

theorem Tells.readMembers {owner : String} {text line : List Char} {member : Option Member}
    (h : Tells owner text member) (hshown : Shows line text) (e : Entry)
    (lines rest : List (List Char)) :
    Listing.readMembers owner e (tellingLines (line :: lines) ++ rest) =
      Listing.readMembers owner ((member.map (addMember e)).getD e)
        (tellingLines lines ++ rest) := by
  obtain ⟨line', hline, hread⟩ := h.read
  have hplain : plainLine line = text := by
    subst hline
    exact hshown.plainLine_concat h.dense
  have hbrace : (text == ['\x7d']) = false := by
    rw [beq_eq_false_iff_ne]
    rintro rfl
    have hlast := congrArg List.getLast? hline
    simp at hlast
  have hlast : (text.getLast? != some ';') = false := by simp [hline]
  rw [tellingLines_cons hplain h.told, List.cons_append, Listing.readMembers, hbrace,
    if_neg (by simp), hlast, if_neg (by simp), hline, List.dropLast_concat, hread]
  cases member <;> rfl

theorem Silent.tellingLines {line : List Char} (h : Silent line) (lines : List (List Char)) :
    Listing.tellingLines (line :: lines) = Listing.tellingLines lines := by
  rw [Listing.tellingLines, List.map_cons, List.filter_cons_of_neg (by simp [h.isTelling])]
  rfl

section Whole

variable {full : String} {e : Entry}

/-- No member on one of the lines is taken for a line that says nothing. -/
def Told (full : String) (fields : List FieldEntry) (methods : List MethodEntry)
    (lines : List (List Char)) : Prop :=
  ∀ l ∈ lines, ∀ text, Shows l text →
    (∃ f ∈ fields, FieldText f text) ∨ (∃ m ∈ methods, MethodText full m text) →
      isTelling text = true

theorem Told.mono {fields fields' : List FieldEntry} {methods methods' : List MethodEntry}
    {lines lines' : List (List Char)} (h : Told full fields methods lines)
    (hfields : fields' ⊆ fields) (hmethods : methods' ⊆ methods) (hlines : lines' ⊆ lines) :
    Told full fields' methods' lines' := fun l hl text hshown htext =>
  h l (hlines hl) text hshown (htext.imp (fun ⟨f, hf, hf'⟩ => ⟨f, hfields hf, hf'⟩)
    fun ⟨m, hm, hm'⟩ => ⟨m, hmethods hm, hm'⟩)

/-- The members of a listing are read in their order, up to the closing brace. -/
theorem MemberLines.readMembers_told {fields : List FieldEntry} {methods : List MethodEntry}
    {lines : List (List Char)} (h : MemberLines full fields methods lines) (hfull : Plain full)
    (hfields : ∀ f ∈ fields, FieldLegible f) (hmethods : ∀ m ∈ methods, MethodLegible m)
    (htold : Told full fields methods lines) (e : Entry) (rest : List (List Char)) :
    Listing.readMembers full e (tellingLines lines ++ ['\x7d'] :: rest) =
      { e with fields := e.fields ++ fields, methods := e.methods ++ methods.map (asRead full) } := by
  induction h generalizing e with
  | nil => simp [tellingLines, Listing.readMembers]
  | silent silent _ ih =>
    rw [silent.tellingLines, ih hfields hmethods (htold.mono (by simp) (by simp) (by simp))]
  | initializer apart shown _ ih =>
    rw [(tells_initializer apart full).readMembers shown]
    exact ih hfields hmethods (htold.mono (by simp) (by simp) (by simp)) e
  | @field f fields methods line text lines printed shown _ ih =>
    have hf := hfields f List.mem_cons_self
    have hline := htold line List.mem_cons_self text shown (.inl ⟨f, List.mem_cons_self, printed⟩)
    have htells : Tells full text (some (.field f)) :=
      ⟨printed.dense hf, hline, printed.member? hf full⟩
    rw [htells.readMembers shown, Option.map_some, Option.getD_some,
      ih (fun f hf => hfields f (List.mem_cons_of_mem _ hf)) hmethods
        (htold.mono (by simp) (by simp) (by simp))]
    simp [addMember]
  | @method m fields methods line text lines printed shown _ ih =>
    have hm := hmethods m List.mem_cons_self
    have hline := htold line List.mem_cons_self text shown (.inr ⟨m, List.mem_cons_self, printed⟩)
    have htells : Tells full text (some (.method (asRead full m))) :=
      ⟨printed.dense hm hfull, hline, printed.member? hm hfull⟩
    rw [htells.readMembers shown, Option.map_some, Option.getD_some,
      ih hfields (fun m hm => hmethods m (List.mem_cons_of_mem _ hm))
        (htold.mono (by simp) (by simp) (by simp))]
    simp [addMember]

/-- With modifiers in front of them and in a named package, the members are read as they are. -/
theorem MemberLines.readMembers {fields : List FieldEntry} {methods : List MethodEntry}
    {lines : List (List Char)} (h : MemberLines full fields methods lines)
    (hnamed : IsDotted full ∧ '.' ∈ full.toList) (hfields : ∀ f ∈ fields, FieldListable f)
    (hmethods : ∀ m ∈ methods, MethodListable full m) (e : Entry) (rest : List (List Char)) :
    Listing.readMembers full e (tellingLines lines ++ ['\x7d'] :: rest) =
      { e with fields := e.fields ++ fields, methods := e.methods ++ methods } := by
  have htold : Told full fields methods lines := by
    rintro l - text - (⟨f, hf, htext⟩ | ⟨m, hm, htext⟩)
    · exact htext.isTelling (hfields f hf)
    · exact htext.isTelling (hmethods m hm)
  have hself : methods.map (asRead full) = methods :=
    (List.map_congr_left fun m hm => (hmethods m hm).asRead_eq hnamed.2).trans (List.map_id _)
  rw [h.readMembers_told hnamed.1.plain (fun f hf => (hfields f hf).legible)
    (fun m hm => (hmethods m hm).legible) htold, hself]

theorem MemberLines.single {fields : List FieldEntry} {methods : List MethodEntry}
    {lines : List (List Char)} (h : MemberLines full fields methods lines) :
    ∀ l ∈ lines, ∀ c ∈ l, Text.isLineEnd c = false := by
  induction h with
  | nil => simp
  | silent silent _ ih => exact List.forall_mem_cons.mpr ⟨silent.single, ih⟩
  | initializer _ shown _ ih => exact List.forall_mem_cons.mpr ⟨shown.single, ih⟩
  | field _ shown _ ih => exact List.forall_mem_cons.mpr ⟨shown.single, ih⟩
  | method _ shown _ ih => exact List.forall_mem_cons.mpr ⟨shown.single, ih⟩

/-! ### Listings -/

theorem Lines.lines {lines : List (List Char)} {text : List Char} (h : Lines lines text)
    (hlines : ∀ l ∈ lines, ∀ c ∈ l, Text.isLineEnd c = false) (rest : List Char) :
    Text.lines (text ++ rest) = lines ++ Text.lines rest := by
  induction h with
  | nil => rfl
  | @cons line ending text lines ends more ih =>
    have hmore := ih fun l hl => hlines l (List.mem_cons_of_mem _ hl)
    simp only [List.append_assoc]
    rw [Text.lines, Text.linesFrom_append (hlines line List.mem_cons_self),
      Text.linesFrom_break ends, List.append_nil, List.reverse_reverse, List.cons_append, ← hmore]
    rfl

theorem tellingLines_append (lines lines' : List (List Char)) :
    tellingLines (lines ++ lines') = tellingLines lines ++ tellingLines lines' := by
  rw [tellingLines, List.map_append, List.filter_append]
  rfl

theorem tellingLines_silent {lines : List (List Char)} (h : ∀ l ∈ lines, Silent l) :
    tellingLines lines = [] := by
  induction lines with
  | nil => rfl
  | cons line lines ih =>
    rw [(h line List.mem_cons_self).tellingLines, ih fun l hl => h l (List.mem_cons_of_mem _ hl)]

theorem HeadText.getLast? {words supers interfaces : List String} {kind : TypeKind}
    {text : List Char} (h : HeadText full words kind supers interfaces text) :
    text.getLast? = some '\x7b' := by
  cases h
  simp [List.getLast?_append]

/-- The lines of a listing that say something: its header, its members and its closing brace. -/
theorem HeadText.tellingLines {words supers interfaces : List String} {kind : TypeKind}
    {before members : List (List Char)} {header headerText lines brace rest : List Char}
    (headed : HeadText full words kind supers interfaces headerText)
    (silent : ∀ l ∈ before, Silent l) (shown : Shows header headerText)
    (single : ∀ l ∈ members, ∀ c ∈ l, Text.isLineEnd c = false)
    (broken : Lines (before ++ header :: members) lines) (closed : Shows brace ['\x7d'])
    (ended : rest = [] ∨ ∃ c cs, rest = c :: cs ∧ Text.isLineEnd c = true) :
    ∃ more, Listing.tellingLines (Text.lines (lines ++ (brace ++ rest))) =
      headerText :: (Listing.tellingLines members ++ ['\x7d'] :: more) := by
  have hsingle : ∀ l ∈ before ++ header :: members, ∀ c ∈ l, Text.isLineEnd c = false :=
    List.forall_mem_append.mpr
      ⟨fun l hl => (silent l hl).single, List.forall_mem_cons.mpr ⟨shown.single, single⟩⟩
  have hbrace : plainLine brace = ['\x7d'] :=
    closed.plainLine (by simp) (Text.forall_head (by decide) _) (Text.forall_head (by decide) [])
  have hne : brace ≠ [] := by
    rintro rfl
    simp [plainLine, Generics.outside, Generics.outsideFrom, Text.trim, Text.trimLeft,
      Text.trimRight] at hbrace
  obtain ⟨more, hmore⟩ := Text.exists_linesFrom closed.single hne ended
  have hlines : Text.lines (lines ++ (brace ++ rest)) =
      before ++ header :: members ++ brace :: more := by
    rw [broken.lines hsingle, hmore]
  have hheader : plainLine header = headerText := by
    refine headed.fronted.plainLine shown fun c hc => ?_
    obtain rfl : '\x7b' = c := by simpa [headed.getLast?] using hc
    decide
  refine ⟨Listing.tellingLines more, ?_⟩
  rw [hlines, tellingLines_append, tellingLines_append, tellingLines_silent silent,
    tellingLines_cons hheader headed.fronted.isTelling, tellingLines_cons hbrace (by decide)]
  rfl

theorem Prints.tellingLines {text : String} (h : Prints full e text) (he : Listable full e) :
    ∃ header members more, HeaderText full e header ∧
      MemberLines full e.fields e.methods members ∧
      Listing.tellingLines (Text.lines text.toList) =
        header :: (Listing.tellingLines members ++ ['\x7d'] :: more) := by
  cases h with
  | intro silent headed shown listed broken closed ended whole =>
    obtain ⟨supers, -, htext⟩ := headed.headText he
    obtain ⟨more, hmore⟩ := htext.tellingLines silent shown listed.single broken closed ended
    exact ⟨_, _, more, headed, listed, whole ▸ hmore⟩

/-- A listing that is printed for an entry is read as that entry. -/
theorem read_of_prints {text : String} (he : Listable full e) (h : Prints full e text) :
    read text = some e := by
  obtain ⟨header, members, more, hheader, hmembers, htelling⟩ := h.tellingLines he
  obtain ⟨r, hread, hname, hentry⟩ := hheader.header? he
  calc read text
      = readLines (header :: (tellingLines members ++ ['\x7d'] :: more)) :=
        congrArg readLines htelling
    _ = some (readMembers full r.entry (tellingLines members ++ ['\x7d'] :: more)) := by
        simp only [readLines, hread, hname]
    _ = some e := by
        rw [hmembers.readMembers he.named he.fields he.methods, hentry]
        rfl

end Whole

/-! ### A member class -/

section Nested

/-- No type arguments start or end in the text. -/
def isUnbracketed (text : List Char) : Bool := text.all fun c => c != '<' && c != '>'

theorem Balanced.prepend (text : List Char) (htext : isUnbracketed text = true) {rest : List Char}
    (h : Balanced rest) : Balanced (text ++ rest) := by
  induction text with
  | nil => exact h
  | cons c text ih =>
    simp only [isUnbracketed, List.all_cons, Bool.and_eq_true, bne_iff_ne] at htext
    exact .char htext.1 (ih htext.2)

theorem Decorated.prepend (text : List Char) (htext : isUnbracketed text = true)
    {plain rest : List Char} (h : Decorated plain rest) :
    Decorated (text ++ plain) (text ++ rest) := by
  induction text with
  | nil => exact h
  | cons c text ih =>
    simp only [isUnbracketed, List.all_cons, Bool.and_eq_true, bne_iff_ne] at htext
    exact .char htext.1 (ih htext.2)

theorem decorated_self (text : List Char) (h : isUnbracketed text = true) :
    Decorated text text := by
  simpa using Decorated.nil.prepend text h

theorem shows_of_decorated {before plain line : List Char} (hbefore : IsGap before)
    (h : Decorated (before ++ plain) line)
    (hsingle : (line.all fun c => !Text.isLineEnd c) = true) : Shows line plain := by
  refine ⟨?_, before, [], hbefore, by decide, by rwa [List.append_nil]⟩
  simpa using hsingle

def nestedField : FieldEntry :=
  { name := some "ns", type := some "int[]", modifiers := ["static", "final"] }

def nestedConstructor : MethodEntry :=
  { name := some "C", params := ["a.I", "int"], isConstructor := true }

def nestedMethod : MethodEntry :=
  { name := some "of", returns := "a.J", params := ["int", "a.I..."] }

/-- A member class with a superclass, interfaces, a field, a constructor and a method. -/
def nested : Entry :=
  { superclass := some "a.P", interfaces := ["a.I", "a.J"], fields := [nestedField]
    methods := [nestedConstructor, nestedMethod] }

/-- The lines of one of its listings, in which it and other classes have type arguments. -/
def nestedLines : List String :=
  ["Compiled from \"B.java\"",
    "public class a.B$C<T extends a.P<T>> extends a.P<T> implements a.I, a.J \x7b",
    "  static \x7b\x7d;",
    "  static final int[] ns;",
    "",
    "  public a.B$C(a.I<T, T>, int) throws a.X;",
    "  public <U> a.J of(int, a.I...);",
    "\x7d"]

def nestedText : String := String.ofList (nestedLines.flatMap fun line => line.toList ++ ['\n'])

theorem nested_listable : Listable "a.B.C" nested := by
  have hpublic : AreModifiers ["public"] := by unfold AreModifiers; decide
  have hstatic : AreModifiers ["static", "final"] := by unfold AreModifiers; decide
  have hint : IsType "int" := ⟨"int", 0, by decide, by decide⟩
  have hints : IsType "int[]" := ⟨"int", 1, by decide, by decide⟩
  have hclass : IsType "a.I" := ⟨"a.I", 0, by decide, by decide⟩
  have hclass' : IsType "a.J" := ⟨"a.J", 0, by decide, by decide⟩
  have hparam {type : String} (h : IsType type) : IsParam type := ⟨type, [], h, .inl rfl, by simp⟩
  have hdots : IsParam "a.I..." := ⟨"a.I", _, hclass, .inr rfl, by decide⟩
  have hfield : FieldListable nestedField :=
    ⟨⟨"ns", rfl, by decide⟩, ⟨"int[]", rfl, hints⟩, by decide, hstatic⟩
  have hconstructor : MethodListable "a.B.C" nestedConstructor :=
    ⟨by decide, by decide, by simp [nestedConstructor],
      by simp [nestedConstructor, hparam, hclass, hint], by decide, hpublic⟩
  have hmethod : MethodListable "a.B.C" nestedMethod :=
    ⟨by decide, fun _ => ⟨"of", rfl, by decide⟩, fun _ => hclass',
      by simp [nestedMethod, hparam, hint, hdots], by decide, hpublic⟩
  exact {
    named := by decide
    kind := by simp [nested, kinds]
    modifiers := hpublic
    superclass := by simp [nested]; decide
    single := by decide
    interfaces := by decide
    fields := by simp [nested, hfield]
    methods := by simp [nested, hconstructor, hmethod] }

theorem nested_headerText : HeaderText "a.B.C" nested
    "public class a.B$C extends a.P implements a.I, a.J \x7b".toList := by
  have hgap : Separates [' '] := by decide
  have hkind : ("class", nested.kind) ∈ kinds := by simp [nested, kinds]
  have hnamed : Spells "a.B$C".toList "a.B.C" := by decide
  have hsupers : Extends nested ["a.P"] := by simp [Extends, nested, TypeKind.isInterface]
  have hpermits : Clause "permits" [] [] := .none
  have htext := HeaderText.intro (e := nested) (by simp) (.cons hgap .nil) hkind hgap hnamed hsupers
    (.some hgap hgap (.one (spells_self _)))
    (.some hgap hgap (.cons (spells_self _) hgap.2 (.one (spells_self _)))) hpermits hgap
  simpa using htext

theorem nested_fieldText : FieldText nestedField "static final int[] ns;".toList := by
  have hgap : Separates [' '] := by decide
  have htext := FieldText.intro (f := nestedField) rfl rfl (spells_self _)
    (.cons hgap (.cons hgap (.cons hgap .nil)))
  simpa using htext

theorem nested_constructorText : MethodText "a.B.C" nestedConstructor
    "public a.B$C(a.I, int) throws a.X;".toList := by
  have hgap : Separates [' '] := by decide
  have hnamed : Spells "a.B$C".toList "a.B.C" := by decide
  have htext := MethodText.constructor (m := nestedConstructor) rfl hnamed (.cons hgap .nil)
    (.intro (.cons (spells_self _) hgap.2 (.one (spells_self _)))
      (.some hgap hgap (.one (spells_self "a.X"))))
  simpa using htext

theorem nested_methodText : MethodText "a.B.C" nestedMethod
    "public  a.J of(int, a.I...);".toList := by
  have hgap : Separates [' '] := by decide
  have hwide : Separates [' ', ' '] := by decide
  have htext : MethodText "a.B.C" nestedMethod _ :=
    .method rfl rfl (spells_self _) (.cons hwide (.cons hgap .nil))
      (.intro (.cons (spells_self _) hgap.2 (.one (spells_self _))) .none)
  simpa [nestedMethod] using htext

theorem nested_prints : Prints "a.B.C" nested nestedText := by
  have hnone : IsGap [] := by decide
  have hindent : IsGap "  ".toList := by decide
  have hgap : Separates [' '] := by decide
  have harguments (text : List Char) (h : isUnbracketed text = true) : Balanced text := by
    simpa using Balanced.nil.prepend text h
  have hcompiled : Silent ("Compiled from".toList ++ " \"B.java\"".toList) :=
    .compiled (by simp [Text.isLineEnd])
  have hheader : Shows
      "public class a.B$C<T extends a.P<T>> extends a.P<T> implements a.I, a.J \x7b".toList
      "public class a.B$C extends a.P implements a.I, a.J \x7b".toList := by
    have hT := harguments "T".toList (by decide)
    have hbound := (Balanced.nested hT .nil).prepend "T extends a.P".toList (by decide)
    have hrest := decorated_self " implements a.I, a.J \x7b".toList (by decide)
    have hsuper := (Decorated.arguments hT hrest).prepend " extends a.P".toList (by decide)
    have hline := (Decorated.arguments hbound hsuper).prepend "public class a.B$C".toList
      (by decide)
    exact shows_of_decorated hnone (by simpa using hline) (by decide)
  have hinitializer : Shows "  static \x7b\x7d;".toList
      ("static".toList ++ ([' '] ++ ['\x7b', '\x7d', ';'])) :=
    shows_of_decorated hindent (decorated_self _ (by decide)) (by decide)
  have hfield : Shows "  static final int[] ns;".toList "static final int[] ns;".toList :=
    shows_of_decorated hindent (decorated_self _ (by decide)) (by decide)
  have hempty : Silent "".toList := .blank (by decide)
  have hconstructor : Shows "  public a.B$C(a.I<T, T>, int) throws a.X;".toList
      "public a.B$C(a.I, int) throws a.X;".toList := by
    have hrest := decorated_self ", int) throws a.X;".toList (by decide)
    have hline := (Decorated.arguments (harguments "T, T".toList (by decide)) hrest).prepend
      "  public a.B$C(a.I".toList (by decide)
    exact shows_of_decorated hindent (by simpa using hline) (by decide)
  have hmethod : Shows "  public <U> a.J of(int, a.I...);".toList
      "public  a.J of(int, a.I...);".toList := by
    have hrest := decorated_self " a.J of(int, a.I...);".toList (by decide)
    have hline := (Decorated.arguments (harguments "U".toList (by decide)) hrest).prepend
      "  public ".toList (by decide)
    exact shows_of_decorated hindent (by simpa using hline) (by decide)
  have hbrace : Shows "\x7d".toList ['\x7d'] :=
    shows_of_decorated hnone (decorated_self _ (by decide)) (by decide)
  have hmembers : MemberLines "a.B.C" nested.fields nested.methods
      ((nestedLines.drop 2).take 5 |>.map String.toList) :=
    .initializer hgap hinitializer (.field nested_fieldText hfield (.silent hempty
      (.method nested_constructorText hconstructor (.method nested_methodText hmethod .nil))))
  have hlines : Lines ((nestedLines.take 7).map String.toList) _ :=
    .cons (.inl rfl) (.cons (.inl rfl) (.cons (.inl rfl) (.cons (.inl rfl) (.cons (.inl rfl)
      (.cons (.inl rfl) (.cons (.inl rfl) .nil))))))
  refine .intro (List.forall_mem_singleton.mpr hcompiled) nested_headerText hheader hmembers hlines
    hbrace (.inr ⟨'\n', [], rfl, by decide⟩) ?_
  simp only [nestedText, nestedLines, String.toList_ofList, List.flatMap_cons, List.flatMap_nil,
    List.append_assoc, List.append_nil]

theorem read_of_prints_nested : Listable "a.B.C" nested ∧ Prints "a.B.C" nested nestedText ∧
    read nestedText = some nested :=
  ⟨nested_listable, nested_prints, read_of_prints nested_listable nested_prints⟩

end Nested

end JavaAtlas.Listing
