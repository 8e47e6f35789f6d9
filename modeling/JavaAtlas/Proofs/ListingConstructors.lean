import JavaAtlas.Proofs.ListingReading

/-! Constructors and methods in the listings of all classes: of any package, with names of any
script, with and without modifiers. A method is told from a constructor by its name alone, and a
dollar sign in a name is read as a dot, so a method may be taken for a constructor or get another
name. The theorems say for which methods this happens. -/

namespace JavaAtlas.Listing

variable {full text : String} {fields : List FieldEntry} {methods : List MethodEntry}

/-! ### Listings -/

/-- A class with names that a listing can tell. -/
structure Legible (full : String) (fields : List FieldEntry) (methods : List MethodEntry) :
    Prop where
  named : IsName full
  fields : ∀ f ∈ fields, FieldLegible f
  methods : ∀ m ∈ methods, MethodLegible m

/-- A listing of the class with a full name and these members. No line among those of the members
starts like the line on the compiled file. Anything may stand behind the closing brace. -/
inductive Sheet (full : String) (fields : List FieldEntry) (methods : List MethodEntry)
    (text : String) : Prop
  | intro {before members : List (List Char)} {header headerText lines brace rest : List Char}
      {words supers interfaces : List String} {kind : TypeKind} (silent : ∀ l ∈ before, Silent l)
      (headed : HeadText full words kind supers interfaces headerText)
      (shown : Shows header headerText) (listed : MemberLines full fields methods members)
      (told : ∀ l ∈ members, ¬"Compiled from".toList <+: plainLine l)
      (broken : Lines (before ++ header :: members) lines) (closed : Shows brace ['\x7d'])
      (ended : rest = [] ∨ ∃ c cs, rest = c :: cs ∧ Text.isLineEnd c = true)
      (whole : text.toList = lines ++ (brace ++ rest))

theorem Legible.told (h : Legible full fields methods) {lines : List (List Char)}
    (hlines : ∀ l ∈ lines, ¬"Compiled from".toList <+: plainLine l) :
    Told full fields methods lines := by
  intro l hl text hshown htext
  obtain ⟨hdense, line, rfl⟩ :
      (∀ c ∈ text.head?, Text.isBlank c = false) ∧ ∃ line, text = line ++ [';'] := by
    rcases htext with ⟨f, hf, htext⟩ | ⟨m, hm, htext⟩
    · have hread := htext.member? (h.fields f hf) full
      exact ⟨htext.dense (h.fields f hf), hread.imp fun _ hline => hline.1⟩
    · have hread := htext.member? (h.methods m hm) h.named.plain
      exact ⟨htext.dense (h.methods m hm) h.named.plain, hread.imp fun _ hline => hline.1⟩
  have hfront := hlines l hl
  rw [hshown.plainLine_concat hdense, ← List.isPrefixOf_iff_prefix, Bool.not_eq_true] at hfront
  rw [isTelling, hfront]
  simp

theorem Header.entry_members (r : Header) : r.entry.fields = [] ∧ r.entry.methods = [] := by
  unfold Header.entry
  split
  all_goals exact ⟨rfl, rfl⟩

/-- A listing is read, with its fields as they are and its methods and constructors in order. -/
theorem Sheet.read_eq (h : Sheet full fields methods text) (hlegible : Legible full fields methods) :
    ∃ e, read text = some e ∧ e.fields = fields ∧ e.methods = methods.map (asRead full) := by
  cases h with
  | @intro before members header headerText lines brace rest words supers interfaces kind silent
      headed shown listed told broken closed ended whole =>
    obtain ⟨more, hmore⟩ := headed.tellingLines silent shown listed.single broken closed ended
    obtain ⟨r, hread, hheads⟩ := headed.header? hlegible.named
    have hmembers := listed.readMembers_told hlegible.named.plain hlegible.fields hlegible.methods
      (hlegible.told told) r.entry more
    rw [r.entry_members.1, r.entry_members.2, List.nil_append, List.nil_append] at hmembers
    refine ⟨{ r.entry with fields, methods := methods.map (asRead full) }, ?_, rfl, rfl⟩
    calc read text
        = readLines (tellingLines (Text.lines (lines ++ (brace ++ rest)))) := by rw [← whole]; rfl
      _ = some (readMembers full r.entry (tellingLines members ++ ['\x7d'] :: more)) := by
          rw [hmore]
          simp only [readLines, hread, hheads.name]
      _ = _ := congrArg some hmembers

/-! ### A class with odd names -/

section Odd

def oddField : FieldEntry := { name := some "x$1", type := some "int", modifiers := [] }

def oddConstructor : MethodEntry := { name := some "C", modifiers := [], isConstructor := true }

/-- A method with the full name of the class, but for the dollar sign. -/
def homonym : MethodEntry := { name := some "p$C" }

def accessor : MethodEntry :=
  { name := some "access$0", returns := "int", params := ["p.C"], modifiers := ["static"] }

def oddLines : List String :=
  ["class p.C \x7b", "  int x$1;", "  p.C();", "  public void p$C();", "  static int access$0(p.C);",
    "\x7d"]

def oddText : String := String.ofList (oddLines.flatMap fun line => line.toList ++ ['\n'])

theorem odd_legible : Legible "p.C" [oddField] [oddConstructor, homonym, accessor] := by
  have hnone : AreModifiers [] := by unfold AreModifiers; decide
  have hpublic : AreModifiers ["public"] := by unfold AreModifiers; decide
  have hstatic : AreModifiers ["static"] := by unfold AreModifiers; decide
  have hnamed : IsDotted "p.C" := by decide
  have hint : IsDotted "int" := by decide
  have hvoid : IsDotted "void" := by decide
  have hfield : FieldLegible oddField :=
    ⟨⟨"x$1", rfl, isMemberName_of_chars (by decide) (by decide)⟩,
      ⟨"int", rfl, hint.plain⟩, hnone⟩
  have hconstructor : MethodLegible oddConstructor :=
    ⟨by simp [oddConstructor], by simp [oddConstructor], by simp [oddConstructor], hnone⟩
  have hhomonym : MethodLegible homonym :=
    ⟨fun _ => ⟨"p$C", rfl, isMemberName_of_chars (by decide) (by decide)⟩,
      fun _ => hvoid.plain, by simp [homonym], hpublic⟩
  have haccessor : MethodLegible accessor :=
    ⟨fun _ => ⟨"access$0", rfl, isMemberName_of_chars (by decide) (by decide)⟩,
      fun _ => hint.plain, List.forall_mem_singleton.mpr hnamed.plain, hstatic⟩
  exact ⟨hnamed.isName, by simp [hfield], by simp [hconstructor, hhomonym, haccessor]⟩

theorem odd_sheet : Sheet "p.C" [oddField] [oddConstructor, homonym, accessor] oddText := by
  have hnone : IsGap [] := by decide
  have hindent : IsGap "  ".toList := by decide
  have hgap : Separates [' '] := by decide
  have hmodifiers : AreModifiers [] := by unfold AreModifiers; decide
  have hkind : ("class", TypeKind.classType) ∈ kinds := by simp [kinds]
  have hheader : HeadText "p.C" [] .classType [] [] "class p.C \x7b".toList := by
    have hpermits : Clause "permits" [] [] := .none
    have htext : HeadText "p.C" [] .classType [] [] _ :=
      .intro hmodifiers (by simp) .nil hkind hgap (spells_self _) .none .none hpermits hgap
    simpa using htext
  have hfield : FieldText oddField "int x$1;".toList := by
    have htext := FieldText.intro (f := oddField) rfl rfl (spells_self _) (.cons hgap .nil)
    simpa using htext
  have hconstructor : MethodText "p.C" oddConstructor "p.C();".toList := by
    have htext := MethodText.constructor (m := oddConstructor) rfl (spells_self "p.C") .nil
      (.intro .nil .none)
    simpa using htext
  have hhomonym : MethodText "p.C" homonym "public void p$C();".toList := by
    have htext : MethodText "p.C" homonym _ :=
      .method rfl rfl (spells_self _) (.cons hgap (.cons hgap .nil)) (.intro .nil .none)
    simpa [homonym] using htext
  have haccessor : MethodText "p.C" accessor "static int access$0(p.C);".toList := by
    have htext : MethodText "p.C" accessor _ :=
      .method rfl rfl (spells_self _) (.cons hgap (.cons hgap .nil))
        (.intro (.one (spells_self "p.C")) .none)
    simpa [accessor] using htext
  have hshown (text : List Char) (h : isUnbracketed text = true)
      (hsingle : ((' ' :: ' ' :: text).all fun c => !Text.isLineEnd c) = true) :
      Shows (' ' :: ' ' :: text) text :=
    shows_of_decorated hindent (decorated_self _ (by simpa [isUnbracketed] using h)) hsingle
  have hmembers : MemberLines "p.C" [oddField] [oddConstructor, homonym, accessor]
      ((oddLines.drop 1).take 4 |>.map String.toList) :=
    .field hfield (hshown _ (by decide) (by decide)) (.method hconstructor
      (hshown _ (by decide) (by decide)) (.method hhomonym (hshown _ (by decide) (by decide))
        (.method haccessor (hshown _ (by decide) (by decide)) .nil)))
  have htold : ∀ l ∈ ((oddLines.drop 1).take 4).map String.toList,
      ¬"Compiled from".toList <+: plainLine l := by
    decide
  have hlines : Lines ((oddLines.take 5).map String.toList) _ :=
    .cons (.inl rfl) (.cons (.inl rfl) (.cons (.inl rfl) (.cons (.inl rfl) (.cons (.inl rfl)
      .nil))))
  have hbrace : Shows "\x7d".toList ['\x7d'] :=
    shows_of_decorated hnone (decorated_self _ (by decide)) (by decide)
  have hsilent : ∀ l ∈ ([] : List (List Char)), Silent l := by simp
  have hfront : Shows "class p.C \x7b".toList "class p.C \x7b".toList :=
    shows_of_decorated hnone (decorated_self _ (by decide)) (by decide)
  refine .intro hsilent hheader hfront hmembers htold hlines hbrace
    (.inr ⟨'\n', [], rfl, by decide⟩) ?_
  simp only [oddText, oddLines, String.toList_ofList, List.flatMap_cons, List.flatMap_nil,
    List.append_assoc, List.append_nil]

end Odd

/-! ### Constructors -/

/-- A name is read as the full name of the class if it spells it. -/
theorem className_eq_iff_spells {name : String} (hname : IsMemberName name) (hfull : Plain full) :
    className name.toList = full ↔ Spells name.toList full := by
  refine ⟨fun heq => ?_, fun h => className_spells h hfull⟩
  rw [hname.isWord.className] at heq
  rw [← heq, Spells, String.toList_ofList, List.forall₂_map_right_iff, List.forall₂_same]
  intro c _
  by_cases hdollar : c = '$'
  · exact .inr ⟨hdollar, by simp [hdollar]⟩
  · exact .inl (by simp [hdollar])

/-- What the line of a method or constructor is read as. The line of a constructor is read as one.
That of a method is read as one if its name spells the full name of the class; the method keeps its
name and type if its name neither has a dollar sign nor is the full name of the class. -/
structure Marks (full : String) (m r : MethodEntry) : Prop where
  constructed : m.isConstructor = true → r.isConstructor = true
  mistaken : m.isConstructor = false → ∀ name ∈ m.name,
    (r.isConstructor = true ↔ Spells name.toList full)
  kept : m.isConstructor = false → ∀ name ∈ m.name,
    (r.name = some name ∧ r.returns = m.returns ∧ r.isConstructor = false ↔
      '$' ∉ name.toList ∧ name ≠ full)

theorem marks_asRead {m : MethodEntry} (hm : MethodLegible m) (hfull : IsName full) :
    Marks full m (asRead full m) := by
  refine ⟨fun h => by simp [asRead, h], fun hplain name hname => ?_, fun hplain name hname => ?_⟩
  · rw [← className_eq_iff_spells (hm.isMemberName hplain hname) hfull.plain]
    by_cases hclass : className name.toList = full
    · simp [asRead_of_eq hname hclass, hclass]
    · simp [asRead_of_ne hplain hname hclass, hclass, hplain]
  · have hself := className_eq_self_iff (hm.isMemberName hplain hname).isWord
    by_cases hclass : className name.toList = full
    · simp only [asRead_of_eq hname hclass, Bool.true_eq_false, and_false, false_iff, not_and,
        not_not]
      exact fun hdollar => (hself.mpr hdollar).symm.trans hclass
    · simp only [asRead_of_ne hplain hname hclass, hplain, Option.some.injEq, and_true, hself,
        iff_self_and]
      rintro hdollar rfl
      exact hclass (hself.mpr hdollar)

/-- Every line of a constructor is read as a constructor. The line of a method is read as a method
with its name and type, except if a dollar sign is in its name or if its name is the full name of
the class, as it can be outside all packages. -/
theorem read_marks (hlegible : Legible full fields methods) (h : Sheet full fields methods text) :
    ∃ e, read text = some e ∧ List.Forall₂ (Marks full) methods e.methods := by
  obtain ⟨e, hread, -, hmethods⟩ := h.read_eq hlegible
  refine ⟨e, hread, ?_⟩
  rw [hmethods, List.forall₂_map_right_iff, List.forall₂_same]
  exact fun m hm => marks_asRead (hlegible.methods m hm) hlegible.named

theorem read_marks_odd : Legible "p.C" [oddField] [oddConstructor, homonym, accessor] ∧
    Sheet "p.C" [oddField] [oddConstructor, homonym, accessor] oddText ∧
    ∃ e, read oddText = some e ∧
      List.Forall₂ (Marks "p.C") [oddConstructor, homonym, accessor] e.methods :=
  ⟨odd_legible, odd_sheet, read_marks odd_legible odd_sheet⟩

/-- Outside all packages, a method that is named like its class is read as a constructor. -/
theorem read_of_homonym :
    MethodText "C" { name := some "C" } "public void C();".toList ∧
      read "public class C \x7b\n  public C();\n  public void C();\n\x7d\n" =
        some { methods := [{ name := some "C", isConstructor := true },
          { name := some "C", isConstructor := true }] } := by
  have hgap : Separates [' '] := by decide
  have htext : MethodText "C" { name := some "C" } _ :=
    .method rfl rfl (spells_self "void") (.cons hgap (.cons hgap .nil)) (.intro .nil .none)
  exact ⟨by simpa using htext, rfl⟩

/-! ### Names -/

/-- A method is read under its name if no dollar sign is in it. -/
theorem name_asRead_iff {m : MethodEntry} (hm : MethodLegible m) (hfull : IsName full)
    (hplain : m.isConstructor = false) :
    (asRead full m).name = m.name ↔ ∀ name ∈ m.name, '$' ∉ name.toList := by
  obtain ⟨name, hname, hword⟩ := hm.name hplain
  have hself := className_eq_self_iff hword.isWord
  have hdollar : '$' ∉ full.toList := fun hmem => (hfull.plain.chars '$' hmem).2 rfl
  simp only [hname, Option.mem_def, Option.some.injEq, forall_eq']
  by_cases hclass : className name.toList = full
  · rw [asRead_of_eq hname hclass, Option.some.injEq]
    constructor
    · rintro hlast hmem
      exact hdollar (Name.mem_of_mem_last (hlast ▸ hmem))
    · intro hnone
      rw [← hclass, hself.mpr hnone, Name.last_eq_self hword.undotted]
  · rw [asRead_of_ne hplain hname hclass, Option.some.injEq, hself]

/-- Every field is read under its name, and a method is if and only if no dollar sign is in it. -/
theorem read_names (hlegible : Legible full fields methods) (h : Sheet full fields methods text) :
    ∃ e, read text = some e ∧ e.fields = fields ∧
      List.Forall₂ (fun m r => m.isConstructor = false →
        (r.name = m.name ↔ ∀ name ∈ m.name, '$' ∉ name.toList)) methods e.methods := by
  obtain ⟨e, hread, hfields, hmethods⟩ := h.read_eq hlegible
  refine ⟨e, hread, hfields, ?_⟩
  rw [hmethods, List.forall₂_map_right_iff, List.forall₂_same]
  exact fun m hm => name_asRead_iff (hlegible.methods m hm) hlegible.named

theorem read_names_odd : Legible "p.C" [oddField] [oddConstructor, homonym, accessor] ∧
    Sheet "p.C" [oddField] [oddConstructor, homonym, accessor] oddText ∧
    ∃ e, read oddText = some e ∧ e.fields = [oddField] ∧
      List.Forall₂ (fun m r => m.isConstructor = false →
        (r.name = m.name ↔ ∀ name ∈ m.name, '$' ∉ name.toList))
        [oddConstructor, homonym, accessor] e.methods :=
  ⟨odd_legible, odd_sheet, read_names odd_legible odd_sheet⟩

/-- The dollar sign in the name of a field stays, that in the name of a method does not. -/
theorem read_of_accessor :
    MethodText "p.C" { name := some "access$0" } "public void access$0();".toList ∧
      read "public class p.C \x7b\n  public int x$1;\n  public void access$0();\n\x7d\n" =
        some { fields := [{ name := some "x$1", type := some "int" }]
               methods := [{ name := some "access.0" }] } := by
  have hgap : Separates [' '] := by decide
  have htext : MethodText "p.C" { name := some "access$0" } _ :=
    .method rfl rfl (spells_self "void") (.cons hgap (.cons hgap .nil)) (.intro .nil .none)
  exact ⟨by simpa using htext, rfl⟩

end JavaAtlas.Listing
