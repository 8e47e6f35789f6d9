import JavaAtlas.Proofs.TypeReads
import JavaAtlas.Proofs.WellFormed

/-! The readers of current Java on printed declarations, in the same steps as those of Java 8. Names
are stretches of the text here, so the gaps inside a name matter: a printed name has none. -/

namespace JavaAtlas

/-- A plain text has nothing that is left out of a type's name. -/
theorem Generics.compact_eq_self {name : String} (h : Name.IsPlain name) :
    String.ofList (compact name.toList) = name := by
  have hfrom : ∀ cs : List Char, (∀ c ∈ cs, Java.isNameChar c = true) → compactFrom 0 cs = cs := by
    intro cs hcs
    induction cs with
    | nil => rfl
    | cons c cs ih =>
      have hc := hcs c (by simp)
      simp only [Java.isNameChar, Bool.and_eq_true, Bool.not_eq_true', bne_iff_ne, ne_eq] at hc
      obtain ⟨⟨hblank, hopen⟩, hclose⟩ := hc
      rw [compactFrom]
      simp [hblank, hopen, hclose, ih fun d hd => hcs d (by simp [hd])]
  rw [compact, hfrom _ h, String.ofList_toList]

namespace Java.Modern

open Reader

variable (table : Table) {k : List Token}

/-! ### Names -/

theorem reads_withTokens {α : Type} {r : Reader α} {a : α} {taken : List Token}
    (h : Reads r (taken ++ k) a k) : Reads (withTokens r) (taken ++ k) (a, taken) k := by
  have htaken : (taken ++ k).take ((taken ++ k).length - k.length) = taken := by
    simp
  have hread : Reads (withTokens r) (taken ++ k)
      (a, (taken ++ k).take ((taken ++ k).length - k.length)) k :=
    .bind .ahead (.bind h (.bind .ahead .pure))
  rwa [htaken] at hread

theorem spread_tight (text : String) : ((tight text).token .modern).spread = text := by
  simp [Token.spread, Word.token, Lexeme.token, Word.lexeme, tight]

theorem sourceText_segments (more : List String) :
    String.join ((spell .modern (more.flatMap fun s => [tight ".", tight s])).map Token.spread) =
      String.join (more.map fun s => "." ++ s) := by
  induction more with
  | nil => rfl
  | cons s more ih =>
    simp only [List.flatMap_cons, spell_cons, List.cons_append, List.nil_append, List.map_cons,
      spread_tight, String.join_cons, ih, String.append_assoc]

theorem intercalate_eq_join (first : String) (more : List String) :
    ".".intercalate (first :: more) = first ++ String.join (more.map fun s => "." ++ s) := by
  induction more generalizing first with
  | nil => simp
  | cons s more ih => simp [String.intercalate_cons_cons, ih, String.append_assoc]

/-- The text of a printed name is the name. -/
theorem sourceText_dotted (space : Bool) (name : String) :
    sourceText (spell .modern (dotted space name)) = name := by
  obtain ⟨first, more, hsegments, hdotted⟩ := dotted_eq name
  rw [hdotted, spell_cons, sourceText, sourceText_segments, Word.text_token, ← intercalate_eq_join]
  exact intercalate_segments hsegments

/-- A dotted name ends where no point with a word after it follows. -/
theorem reads_qualifiedName {name : String} (h : IsDotted name) (space : Bool)
    (hk : fits [Token.is ".", Token.isWord] k = false) :
    Reads qualifiedName (spell .modern (dotted space name) ++ k) () k := by
  obtain ⟨first, more, hsegments, hdotted⟩ := dotted_eq name
  unfold IsDotted at h
  rw [hsegments] at h
  have hfirst : IsIdentifier (⟨space, first⟩ : Word).text := h first (by simp)
  have hstep : ∀ s ∈ more, ∀ k, Reads (do
      if ← sees [Token.is ".", Token.isWord] then
        expect "."
        return some (← identifier)
      else return none) (spell .modern [tight ".", tight s] ++ k) (some s) k := by
    intro s hs k
    have hname : IsIdentifier (tight s).text := h s (by simp [hs])
    refine .ifTrue (.sees ?_) (.bind (.expect rfl) (.bind (.identifier hname.isWord) .pure))
    simp [fits, Token.is, hname.isWord]
  have hmore : Repeats _ (_ ++ k) _ k := .each hstep (by simp)
  rw [hdotted, spell_cons, spell_flatMap]
  exact .bind (.identifier hfirst.isWord)
    (.bind (.repeated hmore (.ifFalse (.sees hk) .pure)) .pure)

theorem reads_nameText {name : String} (h : IsDotted name) (space : Bool)
    (hk : fits [Token.is ".", Token.isWord] k = false) :
    Reads nameText (spell .modern (dotted space name) ++ k) name k := by
  have hread : Reads nameText (spell .modern (dotted space name) ++ k)
      (sourceText (spell .modern (dotted space name))) k :=
    .bind (reads_withTokens (reads_qualifiedName h space hk)) .pure
  rwa [sourceText_dotted] at hread

/-! ### Types -/

theorem reads_annotationCount {words : List String} (hk : Avoids words k) (hword : "@" ∈ words) :
    Reads (annotationCount table) k 0 k :=
  .bind (.repeated .nil (.notWhenNext (hk.mono (by simpa using hword)))) .pure

theorem reads_annotations {words : List String} (hk : Avoids words k) (hword : "@" ∈ words) :
    Reads (annotations table) k () k :=
  .bind (reads_annotationCount table hk hword) .pure

theorem count_pairs (n : Nat) :
    (sourceText (spell .modern (pairs n))).toList.count '[' = n := by
  have hjoin : ∀ n, (String.join ((spell .modern (pairs n)).map Token.spread)).toList.count '[' =
      n := by
    intro n
    induction n with
    | zero => rfl
    | succ n ih =>
      have hpairs : pairs (n + 1) = tight "[" :: tight "]" :: pairs n := rfl
      simp only [hpairs, spell_cons, List.map_cons, spread_tight, String.join_cons,
        String.toList_append, List.count_append, ih]
      rw [show "[".toList.count '[' = 1 by decide,
        show "]".toList.count '[' = 0 by decide]
      omega
  have hsource : sourceText (spell .modern (pairs n)) =
      String.join ((spell .modern (pairs n)).map Token.spread) := by
    cases n with
    | zero => rfl
    | succ n =>
      have hpairs : pairs (n + 1) = tight "[" :: tight "]" :: pairs n := rfl
      rw [hpairs, spell_cons, sourceText, List.map_cons, String.join_cons, spread_tight]
      rfl
  rw [hsource, hjoin]

theorem reads_dimensions (n : Nat) (hk : Avoids ["[", "@"] k) :
    Reads (dimensions table) (spell .modern (pairs n) ++ k) n k := by
  have hpairs : Repeats (attempt do
      annotations table
      expect "["
      expect "]") (spell .modern (pairs n) ++ k) (List.replicate n ()) k := by
    refine repeats_pairs (fun k => ?_) n
    have hopen : Avoids ["@"] ((tight "[").token .modern :: (tight "]").token .modern :: k) :=
      Avoids.cons.mpr (by decide : "[" ∉ ["@"])
    exact .attempt (.bind (reads_annotations table hopen (by simp))
      (.bind (.expect rfl) (.expect rfl)))
  have hstop : Reads (attempt do
      annotations table
      expect "["
      expect "]") k none k :=
    .notAttempt (.bind (reads_annotations table hk (by simp))
      (.first (.expect (hk.mono (by simp)))))
  have hread : Reads (dimensions table) (spell .modern (pairs n) ++ k)
      ((sourceText (spell .modern (pairs n))).toList.count '[') k :=
    .bind (reads_withTokens (.bind (.repeated hpairs hstop) .pure)) .pure
  rwa [count_pairs] at hread

theorem reads_typeSegments {more : List String} (h : ∀ s ∈ more, IsIdentifier s)
    (hk : Avoids [".", "<"] k) :
    Reads (typeSegments table false)
      ((more.flatMap fun s => spell .modern [tight ".", tight s]) ++ k) () k := by
  have hstep : ∀ s ∈ more, ∀ k, Avoids ["<"] k → Reads (do
      if false && (← nextAll [".", "class"]) then return none
      if ← sees [Token.is ".", fun t => t.isWord || t.is "@"] then
        expect "."
        annotations table
        let _ ← identifier
        if ← next "<" then table.skip .typeArguments
        return some ()
      else return none) (spell .modern [tight ".", tight s] ++ k) (some ()) k := by
    intro s hs k hk
    have hname : IsIdentifier (tight s).text := h s hs
    have hclass : Avoids ["class"] ((tight s).token .modern :: k) :=
      hname.avoids (by decide)
    have hat : Avoids ["@"] ((tight s).token .modern :: k) := hname.avoids (by decide)
    refine .bind (.sees (fits_second hclass (by simp [Token.is]))) ?_
    refine .ifTrue (.sees (by simp [fits, Token.is, hname.isWord])) ?_
    exact .bind (.expect rfl) (.bind (reads_annotations table hat (by simp))
      (.bind (.identifier hname.isWord) (.ifFalse (.notNext hk (by simp)) .pure)))
  obtain ⟨hmore, hangle⟩ := Repeats.flatMap hstep (by simp)
    (fun s hs k _ => Avoids.cons.mpr (by decide : "." ∉ ["<"]))
    (hk.mono (by simp) : Avoids ["<"] k)
  refine .ifFalse (.notNext hangle (by simp)) (.bind (.repeated hmore ?_) .pure)
  refine .bind (.notNextAll hk (by simp)) (.ifFalse (.sees ?_) .pure)
  exact (hk.mono (by simp) : Avoids ["."] k).fits (by simp [Token.is])

/-- The types that are printed: those with a word of their own and those with a name. -/
structure IsWritten (t : TypeSpec) : Prop where
  name : t.name ∈ typeWords ∨ IsDotted t.name
  dims : 0 ≤ t.dims

theorem isWritten_of_printable {t : TypeSpec} (h : t.Printable) : IsWritten t :=
  ⟨h.name.imp_left fun hbasic => List.mem_cons_of_mem _ hbasic, h.dims⟩

theorem isWritten_void : IsWritten ⟨"void", 0⟩ := ⟨.inl (by simp [typeWords]), Int.le_refl 0⟩

theorem segments_typeWord {name : String} (h : name ∈ typeWords) : Name.segments name = [name] :=
  (by decide : ∀ b ∈ typeWords, Name.segments b = [b]) name h

theorem IsWritten.isPlain {t : TypeSpec} (h : IsWritten t) : Name.IsPlain t.name := by
  rcases h.name with hword | hdotted
  · exact fun c hc => (by decide : ∀ b ∈ typeWords, ∀ c ∈ b.toList, isNameChar c = true)
      t.name hword c hc
  · have hplain : Name.IsPlain (".".intercalate (Name.segments t.name)) :=
      Name.isPlain_intercalate fun s hs c hc =>
        isNameChar_of_isPlainPart (isPlainPart_of_mem (hdotted s hs).plain hc)
    rwa [show ".".intercalate (Name.segments t.name) = t.name from Name.join_segments _] at hplain

theorem reads_simpleType {t : TypeSpec} (h : IsWritten t) {words : List String}
    (hwords : words ⊆ unnamed) (space : Bool) (hk : Avoids [".", "<"] k) :
    Reads (simpleType table words) (spell .modern (dotted space t.name) ++ k) () k := by
  obtain ⟨first, more, hsegments, hdotted⟩ := dotted_eq t.name
  rw [hdotted, spell_cons, spell_flatMap]
  rcases h.name with hword | hname
  · obtain ⟨rfl, rfl⟩ : t.name = first ∧ [] = more := by
      simpa [segments_typeWord hword] using hsegments
    exact .ifTrue (.sees (by simp [fits, hword])) (.bind .any .pure)
  · unfold IsDotted at hname
    rw [hsegments] at hname
    have hfirst : IsIdentifier (⟨space, first⟩ : Word).text := hname first (by simp)
    have hexcept : ((⟨space, first⟩ : Word).token .modern).isWordExcept words = true := by
      simpa [Token.isWordExcept, hfirst.isWord] using hfirst.notMem hwords
    refine .ifFalse (.notNextIn (hfirst.avoids (by decide)) (List.Subset.refl typeWords)) ?_
    exact .bind (.bind (.take hexcept) .pure)
      (reads_typeSegments table (fun s hs => hname s (by simp [hs])) hk)

theorem reads_typeExcept {t : TypeSpec} (h : IsWritten t) {words : List String}
    (hwords : words ⊆ unnamed) (space : Bool) (hk : Avoids typeMarks k) :
    Reads (typeExcept table words) (spell .modern (t.words space) ++ k) t k := by
  have hfollow : Avoids [".", "<"] (spell .modern (pairs t.dims.toNat) ++ k) :=
    avoids_pairs (by decide) _ (hk.mono (by simp [typeMarks]))
  have hspec : (⟨typeName (spell .modern (dotted space t.name)), (t.dims.toNat : Int)⟩ : TypeSpec) =
      t := by
    rw [typeName, sourceText_dotted, Generics.compact_eq_self h.isPlain,
      Int.toNat_of_nonneg h.dims]
  have hread : Reads (typeExcept table words)
      (spell .modern (dotted space t.name) ++ (spell .modern (pairs t.dims.toNat) ++ k))
      ⟨typeName (spell .modern (dotted space t.name)), (t.dims.toNat : Int)⟩ k :=
    .bind (reads_withTokens (reads_simpleType table h hwords space hfollow))
      (.bind (reads_dimensions table _ (hk.mono (by simp [typeMarks]))) .pure)
  rwa [hspec, ← List.append_assoc, ← spell_append] at hread

theorem reads_type {t : TypeSpec} (h : IsWritten t) (space : Bool) (hk : Avoids typeMarks k) :
    Reads (type table) (spell .modern (t.words space) ++ k) t k :=
  reads_typeExcept table h (List.nil_subset _) space hk

/-- A type starts with its own word or with a name. -/
theorem avoids_written {t : TypeSpec} (h : IsWritten t) (space : Bool) {words : List String}
    (hwords : words ⊆ unnamed) (htypes : ∀ b ∈ typeWords, b ∉ words) :
    Avoids words (spell .modern (t.words space) ++ k) :=
  avoids_typeName (fun _ => segments_typeWord) h.name space hwords htypes

theorem reads_annotatedType {t : TypeSpec} (h : IsWritten t) (space : Bool)
    (hk : Avoids typeMarks k) :
    Reads (annotatedType table) (spell .modern (t.words space) ++ k) t k := by
  have hat : Avoids ["@"] (spell .modern (t.words space) ++ k) :=
    avoids_written h space (by decide) (by decide)
  exact .bind (reads_annotations table hat (by simp)) (reads_type table h space hk)

theorem reads_typeAmong {t : TypeSpec} (h : IsWritten t) (space : Bool) (hk : Avoids typeMarks k) :
    Reads (typeAmong table {}) (spell .modern (t.words space) ++ k) t k := by
  have hnone : Reads (nextIn []) k false k := .sees (by cases k <;> simp [fits])
  refine .bind (reads_withTokens (reads_typeExcept table h (List.nil_subset _) space hk)) ?_
  dsimp only
  split
  · exact .ifFalse hnone .pure
  · exact .pure

/-! ### Lists of types -/

theorem comments_token (w : Word) : (w.token .modern).comments = [] := by
  unfold Token.comments Word.token Word.lexeme Lexeme.token
  cases w.space <;> rfl

theorem reads_leadingComments (w : Word) :
    Reads leadingComments (w.token .modern :: k) [] (w.token .modern :: k) := by
  have hread : Reads leadingComments (w.token .modern :: k)
      ((w.token .modern).comments.map fun c => ⟨String.ofList (Generics.compact c.toList), 0⟩)
      (w.token .modern :: k) := .bind (.look 0) .pure
  rwa [comments_token] at hread

theorem reads_leadingComments_type (t : TypeSpec) (space : Bool) :
    Reads leadingComments (spell .modern (t.words space) ++ k) []
      (spell .modern (t.words space) ++ k) := by
  obtain ⟨first, tail, -, hspell, -⟩ := exists_spell_type (g := .modern) t space
  rw [hspell]
  exact reads_leadingComments _

theorem reads_typeList {t : TypeSpec} {ts : List TypeSpec} (h : ∀ t' ∈ t :: ts, IsWritten t')
    (hk : Avoids ("," :: typeMarks) k) :
    Reads (typeList table) (spell .modern (listed TypeSpec.words true (t :: ts)) ++ k) (t :: ts)
      k := by
  have hstep : ∀ t' ∈ ts, ∀ k, Avoids typeMarks k → Reads (do
      if ← next "," then
        let beforeComma ← leadingComments
        expect ","
        let beforeType ← leadingComments
        return some (beforeComma ++ beforeType ++ [← annotatedType table])
      else return none) ((tight ",").token .modern :: spell .modern (t'.words true) ++ k)
      (some [t']) k := fun t' ht' k hk =>
    .ifTrue (.next rfl) (.bind (reads_leadingComments _) (.bind (.expect rfl)
      (.bind (reads_leadingComments_type t' true)
        (.bind (reads_annotatedType table (h t' (by simp [ht'])) true hk) .pure))))
  obtain ⟨hmore, hfollow⟩ := Repeats.flatMap hstep (by simp)
    (fun t' _ k _ => Avoids.cons.mpr (by decide : "," ∉ typeMarks))
    (hk.mono (List.subset_cons_self _ _))
  have hvalue : [] ++ t :: (ts.map fun t' => [t']).flatten = t :: ts := by
    simp [← List.flatMap_def]
  rw [listed, spell_append, spell_flatMap, List.append_assoc, ← hvalue]
  exact .bind (reads_leadingComments_type t true)
    (.bind (reads_annotatedType table (h t (by simp)) true hfollow)
      (.bind (.repeated hmore (.ifFalse (.notNext hk (by simp)) .pure)) .pure))

theorem reads_typesAfter {keyword : String} {ts : List TypeSpec} (h : ∀ t ∈ ts, t.IsReference)
    (hk : Avoids (keyword :: "," :: typeMarks) k) :
    Reads (typesAfter table keyword) (spell .modern (TypeSpec.clause keyword ts) ++ k) ts k := by
  cases ts with
  | nil => exact .ifFalse (.notTry1 hk (by simp)) .pure
  | cons t ts =>
    exact .ifTrue (.try1 rfl) (reads_typeList table
      (fun t' ht' => isWritten_of_printable (h t' ht').printable)
      (hk.mono (List.subset_cons_self _ _)))

/-! ### Modifiers -/

/-- No modifier with a hyphen comes next. -/
def NoHyphen (ts : List Token) : Prop :=
  fits [Token.is "non", fun t => t.is "-" && t.isAdjacent, Token.continues "sealed"] ts = false

theorem noHyphen_first (hk : Avoids ["non"] k) : NoHyphen k := hk.fits (by simp [Token.is])

theorem noHyphen_second {t : Token} (hk : Avoids ["-"] k) : NoHyphen (t :: k) := by
  have hsecond : fits [fun t => t.is "-" && t.isAdjacent, Token.continues "sealed"] k = false :=
    hk.fits (by simp +contextual [Token.is])
  simp [NoHyphen, fits, hsecond]

theorem reads_modifier? {w : Word} (hw : w.text ∈ modifierWords) (declares : Bool) :
    Reads (modifier? table declares) (w.token .modern :: k) (some [w.text]) k := by
  have hnon : Avoids ["non"] (w.token .modern :: k) := by
    refine Avoids.cons.mpr fun hmem => ?_
    rw [Word.text_token, List.mem_singleton] at hmem
    exact absurd (hmem ▸ hw) (by decide)
  exact .ifFalse (.sees (noHyphen_first hnon))
    (.ifTrue (.sees (by simp [fits, hw])) (.bind .any .pure))

theorem reads_noAnnotationType {words : List String} (hk : Avoids words k) (hword : "@" ∈ words) :
    Reads nextAnnotationType k false k :=
  .sees ((hk.mono (by simpa using hword) : Avoids ["@"] k).fits (by simp [Token.is]))

theorem reads_noModifier (hk : Avoids ("@" :: modifierWords) k) (hhyphen : NoHyphen k)
    (declares : Bool) : Reads (modifier? table declares) k none k :=
  .ifFalse (.sees hhyphen) (.ifFalse (.notNextIn hk (List.subset_cons_self _ _))
    (.bind (.notNext hk (by simp)) (.bind (reads_noAnnotationType hk (by simp)) .pure)))

theorem reads_modifiers {leading : List Word} (h : AreModifiers (leading.map Word.text))
    (hk : Avoids ("@" :: modifierWords) k) (hhyphen : NoHyphen k) (declares : Bool) :
    Reads (modifiers table declares) (spell .modern leading ++ k) (leading.map Word.text) k := by
  have hshared : ∀ w ∈ sharedModifiers, w ∈ modifierWords := by decide
  have hread : Reads (modifiers table declares)
      ((leading.flatMap fun w => [w.token .modern]) ++ k)
      (leading.map fun w => [w.text]).flatten k := by
    refine .bind (.repeated (Repeats.flatMap (Q := fun _ => True) (fun w hw k _ => ?_) (by simp)
      (fun _ _ _ _ => trivial) trivial).1 (reads_noModifier table hk hhyphen declares)) .pure
    exact reads_modifier? table (hshared _ (h.subset (List.mem_map_of_mem hw))) declares
  rwa [← List.map_eq_flatMap, ← List.flatMap_def, ← List.map_eq_flatMap] at hread

/-- The start of a declaration. Its line is that of its first word. -/
theorem reads_lead {leading : List Word} (h : AreModifiers (leading.map Word.text))
    (hk : Avoids ("@" :: modifierWords) k) (hhyphen : NoHyphen k)
    (hline : k[0]?.map Token.line = some 1) :
    Reads (lead table) (spell .modern leading ++ k) ⟨some 1, leading.map Word.text⟩ k := by
  have hfirst : (spell .modern leading ++ k)[0]?.map Token.line = some 1 := by
    cases leading with
    | nil => exact hline
    | cons w leading => rfl
  have hread : Reads (lead table) (spell .modern leading ++ k)
      ⟨(spell .modern leading ++ k)[0]?.map Token.line,
        Modifier.ordered (leading.map Word.text)⟩ k :=
    .bind (.look 0) (.bind (reads_modifiers table h hk hhyphen true) .pure)
  rwa [hfirst, ordered_eq_self h] at hread

theorem line_type (t : TypeSpec) (space : Bool) :
    (spell .modern (t.words space) ++ k)[0]?.map Token.line = some 1 := by
  obtain ⟨first, tail, -, hspell, -⟩ := exists_spell_type (g := .modern) t space
  rw [hspell]
  rfl

theorem reads_noModifiers (hk : Avoids ("@" :: modifierWords) k) (hhyphen : NoHyphen k) :
    Reads (anyModifiers table) k false k :=
  .bind (.repeated .nil (reads_noModifier table hk hhyphen false)) .pure

/-- No type starts like a modifier with a hyphen. -/
theorem noHyphen_type (t : TypeSpec) (space : Bool) (hk : Avoids ["-"] k) :
    NoHyphen (spell .modern (t.words space) ++ k) := by
  obtain ⟨first, tail, -, hspell, htail⟩ := exists_spell_type (g := .modern) t space
  rw [hspell]
  exact noHyphen_second (htail (by decide) (by decide) hk)

/-! ### Parameters -/

theorem reads_variableName {w : Word} (h : IsIdentifier w.text) (hk : Avoids ["[", "@"] k) :
    Reads (variableName table) (w.token .modern :: k) (w.text, 0) k :=
  .bind (.identifier h.isWord) (.bind (reads_dimensions table 0 hk) .pure)

theorem reads_declarator {w : Word} (h : IsIdentifier w.text) (hk : Avoids ["[", "@", "="] k) :
    Reads (declarator table) (w.token .modern :: k) (w.text, 0) k :=
  .bind (reads_variableName table h (hk.mono (by simp))) (.ifFalse (.notTry1 hk (by simp)) .pure)

theorem reads_parameter {p : ParamDecl} (h : p.Printable) (space : Bool)
    (hk : Avoids ["[", "@", "="] k) :
    Reads (parameter table {}) (spell .modern (p.words space) ++ k) p k := by
  have hname : IsIdentifier (spaced p.name).text := h.name
  have hvariable := reads_variableName table hname (hk.mono (by simp))
  have hstart : ∀ {t : TypeSpec} {k : List Token}, t.Printable → Avoids ["-"] k →
      Reads (anyModifiers table) (spell .modern (t.words space) ++ k) false
        (spell .modern (t.words space) ++ k) := fun ht hk =>
    reads_noModifiers table (avoids_written (isWritten_of_printable ht) space (by decide)
      (by decide)) (noHyphen_type _ space hk)
  cases hvariadic : p.variadic with
  | true =>
    obtain ⟨t, ht, hp, hwords⟩ := exists_type_of_variadic h hvariadic space
    have hdots : ∀ {words : List String} {k}, "..." ∉ words →
      Avoids words ((tight "...").token .modern :: k) := fun hw => Avoids.cons.mpr hw
    have hread : Reads (parameter table {}) (spell .modern (p.words space) ++ k)
        ⟨p.name, ⟨t.name, t.dims + 1⟩, true⟩ k := by
      rw [hwords, spell_append, List.append_assoc]
      refine .bind (hstart ht (hdots (by decide))) (.bind .pure ?_)
      refine .bind (reads_typeAmong table (isWritten_of_printable ht) space (hdots (by decide)))
        (.ifTrue (.try1 rfl) ?_)
      exact .bind (reads_annotations table (hname.avoids (by decide) : Avoids ["@"] _)
        (by simp)) (.bind (reads_declarator table hname hk) .pure)
    rwa [← hp] at hread
  | false =>
    have hread : Reads (parameter table {}) (spell .modern (p.words space) ++ k)
        ⟨p.name, ⟨p.type.name, p.type.dims + (0 : Nat)⟩, false⟩ k := by
      rw [words_of_fixed hvariadic, spell_append, List.append_assoc]
      refine .bind (hstart h.type (hname.avoids (by decide))) (.bind .pure ?_)
      refine .bind (reads_typeAmong table (isWritten_of_printable h.type) space
        (hname.avoids (by decide))) ?_
      exact .ifFalse (.notTry1 (hname.avoids (by decide) : Avoids ["..."] _) (by simp))
        (.bind hvariable .pure)
    rwa [Int.natCast_zero, Int.add_zero, ← hvariadic] at hread

theorem reads_parameterList {p : ParamDecl} {ps : List ParamDecl} (h : ∀ q ∈ p :: ps, q.Printable) :
    Reads (parameterList table {}) (spell .modern (listed ParamDecl.words false (p :: ps)) ++
      (tight ")").token .modern :: k) (p :: ps) k := by
  have hclose : Avoids ["[", "@", "="] ((tight ")").token .modern :: k) :=
    Avoids.cons.mpr (by decide : ")" ∉ ["[", "@", "="])
  have hstep : ∀ q ∈ ps, ∀ k, Avoids ["[", "@", "="] k → Reads (do
      if ← try1 "," then return some (← parameter table {}) else return none)
      ((tight ",").token .modern :: spell .modern (q.words true) ++ k) (some q) k :=
    fun q hq k hk => .ifTrue (.try1 rfl) (.bind (reads_parameter table (h q (by simp [hq])) true hk)
      .pure)
  obtain ⟨hmore, hfollow⟩ := Repeats.flatMap hstep (by simp)
    (fun q _ k _ => Avoids.cons.mpr (by decide : "," ∉ ["[", "@", "="])) hclose
  rw [List.map_id'] at hmore
  rw [listed, spell_append, spell_flatMap, List.append_assoc]
  have hstart : Avoids [")"] (spell .modern (p.words false) ++ (ps.flatMap (fun q =>
      spell .modern (tight "," :: q.words true)) ++ (tight ")").token .modern :: k)) :=
    avoids_parameter (h p (by simp)) false (by decide)
  refine .ifFalse (.notTry1 hstart (by simp)) (.bind (reads_parameter table (h p (by simp)) false
    hfollow) (.bind (.repeated hmore ?_) (.bind (.expect rfl) .pure)))
  exact .ifFalse (.notTry1 (Avoids.cons.mpr (by decide : ")" ∉ [","])) (by simp)) .pure

theorem isWord_mark {w : Word} (h : w.text ∈ marks) : (w.token .modern).isWord = false := by
  have hkind : (w.token .modern).kind = .symbol := by
    show kindOf .modern w.text = .symbol
    simp [kindOf, isPlainWord_eq_false_of_mem_marks h]
  rw [Token.isWord, hkind]
  rfl

theorem fails_wordExcept {w : Word} (h : w.text ∈ marks) (words : List String) :
    Fails (wordExcept words) (w.token .modern :: k) :=
  .first (.take (by simp [Token.isWordExcept, isWord_mark h]))

theorem avoids_mark {w : Word} (h : w.text ∈ marks) {words : List String}
    (hwords : ∀ m ∈ marks, m ∉ words) : Avoids words (w.token .modern :: k) :=
  Avoids.cons.mpr (hwords _ h)

theorem fails_simpleType {w : Word} (h : w.text ∈ marks) (words : List String) :
    Fails (simpleType table words) (w.token .modern :: k) :=
  .ifFalse (.notNextIn (avoids_mark h (by decide)) (List.Subset.refl typeWords))
    (.first (fails_wordExcept h words))

theorem fails_typeExcept {w : Word} (h : w.text ∈ marks) (words : List String) :
    Fails (typeExcept table words) (w.token .modern :: k) :=
  .first (.bind .ahead (.first (fails_simpleType table h words)))

theorem fails_openingType {w : Word} (h : w.text ∈ marks) (words annotated : List String) :
    Fails (openingType table words annotated) (w.token .modern :: k) :=
  .bind (reads_annotationCount table (avoids_mark h (by decide) : Avoids ["@"] _) (by simp))
    (.first (fails_typeExcept table h words))

theorem reads_openingType {t : TypeSpec} (h : IsWritten t) {words : List String}
    (hwords : words ⊆ unnamed) (annotated : List String) (space : Bool) (hk : Avoids typeMarks k) :
    Reads (openingType table words annotated) (spell .modern (t.words space) ++ k) () k := by
  have hat : Avoids ["@"] (spell .modern (t.words space) ++ k) :=
    avoids_written h space (by decide) (by decide)
  exact .bind (reads_annotationCount table hat (by simp))
    (.bind (reads_typeExcept table h hwords space hk) .pure)

theorem fails_receiver_close : Fails (receiver table []) ((tight ")").token .modern :: k) :=
  .bind (.notNext (avoids_mark (by decide) (by decide) : Avoids ["@"] _) (by simp))
    (.first (fails_openingType table (by decide) _ _))

/-- The object itself is no parameter of a printed method: after a type comes a name or come the
dots, and never the word for it. -/
theorem fails_receiver {p : ParamDecl} (h : p.Printable) (hk : Avoids ["."] k) :
    Fails (receiver table []) (spell .modern (p.words false) ++ k) := by
  have hname : IsIdentifier (spaced p.name).text := h.name
  have hstart : ∀ {t : TypeSpec} {k : List Token}, t.Printable → Avoids typeMarks k →
      Avoids ["this"] k →
      fits [Token.isWordExcept ("this" :: "_" :: softWords), Token.is "."] k = false →
      Fails (receiver table []) (spell .modern (t.words false) ++ k) := by
    intro t k ht hk hthis hfits
    have hat : Avoids ["@"] (spell .modern (t.words false) ++ k) :=
      avoids_written (isWritten_of_printable ht) false (by decide) (by decide)
    refine .bind (.notNext hat (by simp)) (.bind (reads_openingType table
      (isWritten_of_printable ht) (by decide) _ false hk) ?_)
    exact .ifFalse (.sees hfits) (.expect hthis)
  cases hvariadic : p.variadic with
  | true =>
    obtain ⟨t, ht, -, hwords⟩ := exists_type_of_variadic h hvariadic false
    have hfails := hstart ht (k := (tight "...").token .modern ::
        (spaced p.name).token .modern :: k)
      (Avoids.cons.mpr (by decide : "..." ∉ typeMarks)) (Avoids.cons.mpr (by decide : "..." ∉ ["this"]))
      (by simp [fits, Token.isWordExcept, isWord_mark (w := tight "...") (by decide)])
    simpa [hwords] using hfails
  | false =>
    have hfails := hstart h.type (k := (spaced p.name).token .modern :: k)
      (hname.avoids (by decide)) (hname.avoids (by decide))
      (fits_second hk (by simp [Token.is]))
    simpa [words_of_fixed hvariadic] using hfails

theorem reads_parameters {ps : List ParamDecl} (h : ∀ p ∈ ps, p.Printable) :
    Reads (parameters table) ((tight "(").token .modern ::
      (spell .modern (listed ParamDecl.words false ps) ++ (tight ")").token .modern :: k)) ps k := by
  cases ps with
  | nil =>
    have hclose : Avoids ["@"] ((tight ")").token .modern :: k) :=
      Avoids.cons.mpr (by decide : ")" ∉ ["@"])
    exact .bind (.expect rfl) (.ifFalse (.notNext hclose (by simp))
      (.bind (.notAttempt (fails_receiver_close table)) (.ifTrue (.try1 rfl) .pure)))
  | cons p ps =>
    have hlist := reads_parameterList table (k := k) h
    have hfollow : Avoids ["."] (spell .modern (ps.flatMap fun q => tight "," :: q.words true) ++
        (tight ")").token .modern :: k) := by
      cases ps with
      | nil => exact Avoids.cons.mpr (by decide : ")" ∉ ["."])
      | cons q ps => exact Avoids.cons.mpr (by decide : "," ∉ ["."])
    have hfails := fails_receiver table (h p (by simp)) hfollow
    have hat : Avoids ["@"] (spell .modern (listed ParamDecl.words false (p :: ps)) ++
        (tight ")").token .modern :: k) := by
      rw [listed, spell_append, List.append_assoc]
      exact avoids_parameter (h p (by simp)) false (by decide)
    rw [← List.append_assoc, ← spell_append] at hfails
    exact .bind (.expect rfl) (.ifFalse (.notNext hat (by simp))
      (.bind (.notAttempt hfails) hlist))

/-! ### Members -/

theorem reads_block : Reads (block table)
    ((spaced leftBrace).token .modern :: (spaced rightBrace).token .modern :: k) () k :=
  .bind (.expect rfl) (.bind (.untilNext .nil rfl) (.expect rfl))

section Methods

variable {m : MethodDecl} (h : m.Printable) (bodied : Bool)

include h

/-- What follows the parameters of a method. -/
theorem reads_methodEnd :
    Avoids ["[", "@"] (spell .modern (TypeSpec.clause "throws" m.throws ++
      bodyWords (bodied || m.isConstructor)) ++ k) ∧
    Reads (typesAfter table "throws") (spell .modern (TypeSpec.clause "throws" m.throws ++
      bodyWords (bodied || m.isConstructor)) ++ k) m.throws
      (spell .modern (bodyWords (bodied || m.isConstructor)) ++ k) := by
  rw [spell_append, List.append_assoc]
  refine ⟨avoids_clause (by decide) _ (avoids_bodyWords (by decide) (by decide) _), ?_⟩
  exact reads_typesAfter table h.throws (avoids_bodyWords (by decide) (by decide) _)

theorem reads_methodRest {t : TypeSpec} (hreturns : m.returns = some t)
    (hcon : m.isConstructor = false) {start : Lead} (hstart : start.modifiers = m.modifiers) :
    Reads (methodRest table start t m.name) (spell .modern (m.rest bodied) ++ k) m k := by
  obtain ⟨hdims, hthrows⟩ := reads_methodEnd table (k := k) h bodied
  have hread : Reads (methodRest table start t m.name) (spell .modern (m.rest bodied) ++ k)
      ⟨m.name, some ⟨t.name, t.dims + (0 : Nat)⟩, m.params, start.modifiers, false, m.throws⟩
      k := by
    simp only [MethodDecl.rest, spell_cons, spell_append _ (_ :: _), List.cons_append,
      List.append_assoc]
    refine .bind (reads_parameters table h.params) (.bind (reads_dimensions table 0 hdims)
      (.bind hthrows ?_))
    cases bodied || m.isConstructor with
    | true => exact .ifTrue (.next rfl) (.bind (reads_block table) .pure)
    | false =>
      exact .ifFalse (.notNext (Avoids.cons.mpr (by decide : ";" ∉ [leftBrace])) (by simp))
        (.bind (.expect rfl) .pure)
  rwa [Int.natCast_zero, Int.add_zero, hstart, eq_of_returns hreturns hcon] at hread

end Methods

theorem fails_primary {w : Word} (h : w.text = rightBrace) :
    Fails (primary table) (w.token .modern :: k) := by
  have hmark : w.text ∈ marks := h ▸ by decide
  have havoids : ∀ {words : List String}, rightBrace ∉ words →
    Avoids words (w.token .modern :: k) := fun hw => Avoids.cons.mpr (by rwa [Word.text_token, h])
  have hkind : (w.token .modern).kind = .symbol := by
    show kindOf .modern w.text = .symbol
    simp [kindOf, isPlainWord_eq_false_of_mem_marks hmark]
  have hliteral : fits [fun t => t.isLiteral || t.kind == .fragment] (w.token .modern :: k) =
      false := by
    simp only [fits, Token.isLiteral, hkind]
    rfl
  have htype : Fails (typeReference table) (w.token .modern :: k) :=
    .first (fails_openingType table hmark _ _)
  have hclass : Fails (classLiteral table) (w.token .modern :: k) := by
    refine .first (.bind .ahead (.first (.ifFalse (.notNextIn (avoids_mark hmark
      (by decide)) (List.Subset.refl typeWords)) (.first (fails_wordExcept hmark _)))))
  refine .ifFalse (.sees hliteral) (.ifFalse (.notNext (havoids (by decide) : Avoids ["("] _)
    (by simp)) (.ifFalse (.notNextIn (havoids (by decide)) (List.Subset.refl _))
      (.ifFalse (.notTry1 (havoids (by decide) : Avoids ["super"] _) (by simp))
        (.ifFalse (.notTry1 (havoids (by decide) : Avoids ["new"] _) (by simp)) ?_))))
  exact .bind (.notAttempt htype) (.bind (.notAttempt hclass) (.first (fails_wordExcept hmark _)))

/-- An empty body calls no other constructor. -/
theorem fails_constructorCall :
    Fails (constructorCall table) ((spaced rightBrace).token .modern :: k) := by
  have havoids : ∀ {words : List String}, rightBrace ∉ words →
    Avoids words ((spaced rightBrace).token .modern :: k) := fun hw => Avoids.cons.mpr hw
  have hwords : fits [fun t => statementWords.contains t.text && !operandWords.contains t.text]
      ((spaced rightBrace).token .modern :: k) = false :=
    (havoids (by decide) : Avoids statementWords _).fits (by simp +contextual)
  refine .orElse ?_ ?_
  · exact .ifFalse (.notNext (havoids (by decide) : Avoids ["<"] _) (by simp))
      (.first (.take (by simp [Token.is, rightBrace])))
  · exact .ifFalse (.sees hwords) (.first (fails_primary table rfl))

theorem reads_constructor {m : MethodDecl} (h : m.Printable) (hcon : m.isConstructor = true)
    (bodied : Bool) {start : Lead} (hstart : start.modifiers = m.modifiers) :
    Reads (constructor table start)
      ((spaced m.name).token .modern :: (spell .modern (m.rest bodied) ++ k)) m k := by
  have hname : IsIdentifier (spaced m.name).text := h.name
  obtain ⟨-, hthrows⟩ := reads_methodEnd table (k := k) h bodied
  have hbody : bodyWords (bodied || m.isConstructor) = [spaced leftBrace, spaced rightBrace] := by
    simp [hcon, bodyWords]
  have hread : Reads (constructor table start)
      ((spaced m.name).token .modern :: (spell .modern (m.rest bodied) ++ k))
      ⟨m.name, none, m.params, start.modifiers, true, m.throws⟩ k := by
    simp only [MethodDecl.rest, spell_cons, spell_append _ (_ :: _), List.cons_append,
      List.append_assoc]
    refine .bind (.identifier hname.isWord) (.bind (reads_parameters table h.params)
      (.bind hthrows ?_))
    rw [hbody]
    exact .bind (.bind (.expect rfl) (.bind (.notAttempt (fails_constructorCall table))
      (.bind (.untilNext .nil rfl) (.expect rfl)))) .pure
  rwa [hstart, eq_of_constructed h hcon] at hread

end Java.Modern

end JavaAtlas
