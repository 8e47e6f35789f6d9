import JavaAtlas.Proofs.Headers

/-! The grammars agree on the header of a text exactly where no gap stands inside a name. -/

namespace JavaAtlas

namespace Java

open Reader Lexeme

/-! ### Spellings -/

theorem length_pos_of_laid {gaps : List Gap} (h : Laid gaps) (hgaps : gaps ≠ []) :
    0 < (String.join (gaps.map Gap.text)).length := by
  cases h with
  | nil => exact absurd rfl hgaps
  | blanks some _ _ _ =>
    have hlength := List.length_pos_iff.mpr some
    simp only [List.map_cons, Gap.text, String.join_cons, String.length_append]
    rw [String.length_toList] at hlength
    omega
  | block opened _ _ | line opened _ _ _ =>
    have hlength := congrArg List.length opened
    rw [String.length_toList] at hlength
    simp only [List.map_cons, Gap.text, String.join_cons, String.length_append, hlength,
      List.length_cons]
    omega

/-- The text of the gaps in a segment. -/
def LaidSegment.gapText (s : LaidSegment) : String :=
  String.join (s.before.map Gap.text) ++ String.join (s.after.map Gap.text)

namespace LaidName

theorem joined_eq (n : LaidName) :
    n.joined = n.first ++ String.join (n.more.map fun s => "." ++ s.text) := by
  rw [joined, Modern.intercalate_eq_join, List.map_map]
  rfl

/-- The text of a name is longer than its segments and points by the gaps inside it. -/
theorem length_written (n : LaidName) :
    n.written.length =
      n.joined.length + (String.join (n.more.map LaidSegment.gapText)).length := by
  have hmore : (String.join (n.more.map fun s => String.join (s.before.map Gap.text) ++ "." ++
      (String.join (s.after.map Gap.text) ++ s.text))).length =
      (String.join (n.more.map fun s => "." ++ s.text)).length +
        (String.join (n.more.map LaidSegment.gapText)).length := by
    induction n.more with
    | nil => rfl
    | cons s more ih =>
      simp only [List.map_cons, String.join_cons, String.length_append, ih, LaidSegment.gapText]
      omega
  rw [joined_eq, written, String.length_append, String.length_append, hmore]
  omega

theorem joined_eq_written_iff {n : LaidName} (h : ∀ s ∈ n.more, Laid s.before ∧ Laid s.after) :
    n.joined = n.written ↔ n.Tight := by
  constructor
  · intro heq s hs
    have hlength := n.length_written
    rw [← heq] at hlength
    have hgaps : s.gapText.length ≤ (String.join (n.more.map LaidSegment.gapText)).length := by
      obtain ⟨before, after, hmore⟩ := List.append_of_mem hs
      simp only [hmore, List.map_append, List.map_cons, String.join_append, String.join_cons,
        String.length_append]
      omega
    rw [LaidSegment.gapText, String.length_append] at hgaps
    constructor
    · by_contra hbefore
      have hpos := length_pos_of_laid (h s hs).1 hbefore
      omega
    · by_contra hafter
      have hpos := length_pos_of_laid (h s hs).2 hafter
      omega
  · intro htight
    rw [joined_eq, written]
    congr 2
    refine List.map_congr_left fun s hs => ?_
    obtain ⟨hbefore, hafter⟩ := htight s hs
    simp [hbefore, hafter]

end LaidName

theorem laid_of_mem {ls : List Lexeme} {rest : List Char} (h : Fit ls rest) {l : Lexeme}
    (hl : l ∈ ls) : Laid l.gaps := by
  induction ls with
  | nil => simp at hl
  | cons l' ls ih =>
    obtain ⟨hgaps, -, hmore⟩ := h
    rcases List.mem_cons.mp hl with rfl | hl
    · exact hgaps
    · exact ih hmore hl

/-! ### Tokens of a text -/

/-- A text that is laid out does not start with a byte order mark. -/
theorem head_render_ne {l : Lexeme} {ls : List Lexeme} {rest : List Char} (h : Fit (l :: ls) rest) :
    ((render (l :: ls) ++ rest).head? == some '\ufeff') = false := by
  obtain ⟨hgaps, hends, -⟩ := h
  obtain ⟨gaps, text⟩ := l
  have htext : ∀ c ∈ text.toList.head?, c ≠ '\ufeff' := by
    intro c hc
    rcases hends with ⟨plain, _⟩ | ⟨mark, _, _⟩
    · have hpart := isPlainPart_of_mem plain (List.mem_of_mem_head? hc)
      exact fun heq => absurd (heq ▸ hpart) (by decide +kernel)
    · exact (by decide +kernel : ∀ m ∈ marks, ∀ c ∈ m.toList.head?, c ≠ '\ufeff') text mark c hc
  have hnonempty : text.toList ≠ [] := by
    rcases hends with ⟨plain, _⟩ | ⟨mark, _, _⟩
    · obtain ⟨c, cs, hword, -⟩ := exists_of_isPlainWord plain
      simp [hword]
    · exact (by decide +kernel : ∀ m ∈ marks, m.toList ≠ []) text mark
  rw [beq_eq_false_iff_ne, render_cons, chars]
  cases hgaps with
  | nil =>
    obtain ⟨c, cs, hcs⟩ := List.exists_cons_of_ne_nil hnonempty
    have hc := htext c (by simp [hcs])
    simpa [gapChars, hcs] using hc
  | @blanks b gaps some space _ _ =>
    obtain ⟨c, cs, hcs⟩ := List.exists_cons_of_ne_nil some
    have hc : c ≠ '\ufeff' := fun heq =>
      absurd (heq ▸ space c (by simp [hcs])) (by decide +kernel)
    simpa [gapChars, Gap.text, hcs] using hc
  | block opened _ _ => simp [gapChars, Gap.text, opened]
  | line opened _ _ _ => simp [gapChars, Gap.text, opened]

theorem Classic.tokens_text {h : Header} {rest : List Char} (hfit : Fit h.lexemes rest)
    (hplain : ¬ ['\\', 'u'] <:+: render h.lexemes ++ rest) {ts : List Token}
    (hts : Classic.tokens (h.text rest) = some ts) :
    ∃ more, ts = Lexeme.tokens .classic 1 h.lexemes ++ more := by
  rw [Header.text, Classic.tokens, String.toList_ofList, Classic.decodeEscapes_eq_self hplain] at hts
  have hcut : Classic.tokensFrom 1 (render h.lexemes ++ rest) = some ts := hts
  rw [Classic.tokensFrom_render hfit, Option.map_eq_some_iff] at hcut
  obtain ⟨more, -, hmore⟩ := hcut
  exact ⟨more, hmore.symm⟩

theorem Modern.tokens_text {h : Header} {rest : List Char} (hfit : Fit h.lexemes rest)
    (hsome : h.lexemes ≠ []) {ts : List Token} (hts : Modern.tokens (h.text rest) = some ts) :
    ∃ more, ts = Lexeme.tokens .modern 1 h.lexemes ++ more := by
  obtain ⟨l, ls, hlexemes⟩ := List.exists_cons_of_ne_nil hsome
  have hmark : ((render h.lexemes ++ rest).head? == some '\ufeff') = false := by
    rw [hlexemes] at hfit ⊢
    exact head_render_ne hfit
  simp only [Header.text, Modern.tokens, String.toList_ofList, hmark] at hts
  split at hts
  · simp at hts
  · rw [if_neg (by simp), Modern.tokensFrom_render hfit, Option.map_eq_some_iff] at hts
    obtain ⟨more, -, hmore⟩ := hts
    exact ⟨more, hmore.symm⟩

/-! ### The header of a text -/

/-- No import stands behind the first `n` tokens, as Java 8 cuts the text. -/
def Classic.endsImports (n : Nat) (text : String) : Bool :=
  match Classic.tokens text with
  | none => false
  | some ts => !fits [Token.is "import"] (ts.drop n)

/-- Behind the first `n` parts there are neither packages nor imports, as current Java reads the
text. -/
def Modern.declaresPast (n : Nat) (text : String) : Bool :=
  match Modern.tokens text with
  | none => false
  | some ts =>
    match outcome (repeated (partStep (phrases (4 * ts.length + 8)))) ⟨ts, []⟩ with
    | (.ok parts, _) => (parts.drop n).all fun x => x.package?.isNone && x.import?.isNone
    | (.error _, _) => false

/-- The header is all that the text says of its package and its imports. -/
structure Header.Whole (h : Header) (text : String) : Prop where
  some : h.lexemes ≠ []
  classic : Classic.endsImports h.lexemes.length text = true
  modern : Modern.declaresPast (h.package.toList.length + h.imports.length) text = true

section Runs

variable {h : Header} {rest : List Char} {u : UnitDecl}

theorem Classic.outcome_header (table : Classic.Table) (hnamed : ∀ n ∈ h.names, n.Named)
    (hsome : h.lexemes ≠ []) {k : List Token} (hk : Avoids ["import"] k) {p : Place}
    (hrun : outcome (Classic.compilationUnit table)
      ⟨Lexeme.tokens .classic 1 h.lexemes ++ k, []⟩ = (.ok u, p)) :
    u.package = h.packageName LaidName.joined ∧ u.imports = h.importDecls LaidName.joined := by
  have himports : ∀ i ∈ h.imports, i.name.Named := fun i hi =>
    hnamed _ (List.mem_append_right _ (List.mem_map_of_mem hi))
  have hpackage : ∃ line, outcome (Classic.packageDeclaration table)
      ⟨Lexeme.tokens .classic 1 h.lexemes ++ k, []⟩ =
      (.ok (h.package.map fun p => p.name.joined),
        ⟨Lexeme.tokens .classic line (h.imports.flatMap LaidImport.lexemes) ++ k, []⟩) := by
    obtain ⟨package, imports⟩ := h
    cases package with
    | none =>
      -- Without a package the text starts with the keyword of an import.
      obtain ⟨i, more, rfl⟩ := List.exists_cons_of_ne_nil
        (show imports ≠ [] by rintro rfl; exact hsome rfl)
      exact ⟨1, Classic.outcome_noPackage table
        (Avoids.cons.mpr (by decide : "import" ∉ ["package", "@"]))⟩
    | some p =>
      have hname : p.name.Named := hnamed _ (by simp [Header.names])
      refine ⟨lineAfterAll 1 p.lexemes, ?_⟩
      rw [Header.lexemes, Option.toList_some, List.flatMap_singleton, tokens_append,
        List.append_assoc]
      exact Classic.outcome_laidPackage table hname
  obtain ⟨line, hpackage⟩ := hpackage
  simp only [Classic.compilationUnit, outcome_bind, hpackage,
    Classic.reads_laidImports himports hk []] at hrun
  split at hrun
  · obtain ⟨hu, -⟩ := Prod.mk.inj hrun
    rw [← Except.ok.inj hu]
    exact ⟨rfl, rfl⟩
  · simp at hrun

/-- The parts of a header, as current Java reads them. -/
def Header.parts (h : Header) : List Modern.UnitPart :=
  (h.package.toList.map fun p => .package p.name.written) ++
    h.imports.map fun i => .imported (i.declared LaidName.written)

theorem Modern.repeats_header (table : Modern.Table) (hnamed : ∀ n ∈ h.names, n.Named)
    {k : List Token} :
    Repeats (Modern.partStep table) (Lexeme.tokens .modern 1 h.lexemes ++ k) h.parts k := by
  have himports : ∀ i ∈ h.imports, i.name.Named := fun i hi =>
    hnamed _ (List.mem_append_right _ (List.mem_map_of_mem hi))
  have hpackages : ∀ p ∈ h.package.toList, p.name.Named := fun p hp =>
    hnamed _ (List.mem_append_left _ (List.mem_map_of_mem hp))
  rw [Header.lexemes, tokens_append, List.append_assoc]
  refine (Repeats.laid 1 _ (by simp [LaidPackage.lexemes]) fun p hp line k => ?_).append
    (Repeats.laid _ k (by simp [LaidImport.lexemes]) fun i hi line k => ?_)
  · have hword : Avoids ["import"] (Lexeme.tokens .modern line p.lexemes ++ k) :=
      Avoids.cons.mpr (by decide : "package" ∉ ["import"])
    exact Modern.reads_partStep table (by simp [LaidPackage.lexemes, Lexeme.tokens])
      (.ifFalse (.notNext hword (by simp)) (.ifTrue (.next rfl)
        (.bind (Modern.reads_laidPackage table (hpackages p hp)) .pure)))
  · exact Modern.reads_partStep table (by simp [LaidImport.lexemes, Lexeme.tokens])
      (.ifTrue (.next rfl) (.bind (Modern.reads_laidImport (himports i hi)) .pure))

theorem Classic.header_of_read (hnamed : ∀ n ∈ h.names, n.Named) (hfit : Fit h.lexemes rest)
    (hplain : ¬ ['\\', 'u'] <:+: render h.lexemes ++ rest) (hwhole : h.Whole (h.text rest))
    (hread : Classic.read (h.text rest) = .ok u) :
    u.package = h.packageName LaidName.joined ∧ u.imports = h.importDecls LaidName.joined := by
  have hpast := hwhole.classic
  rw [Classic.read] at hread
  rw [Classic.endsImports] at hpast
  cases hts : Classic.tokens (h.text rest) with
  | none => simp [hts] at hread
  | some ts =>
    obtain ⟨more, rfl⟩ := Classic.tokens_text hfit hplain hts
    simp only [hts] at hread hpast
    have hmore : Avoids ["import"] more := by
      rw [List.drop_left' (length_tokens 1 h.lexemes)] at hpast
      cases more with
      | nil => simp
      | cons t more => simpa [fits, Token.is] using hpast
    split at hread
    · rename_i v p hrun
      rw [← Except.ok.inj hread]
      exact Classic.outcome_header _ hnamed hwhole.some hmore hrun
    · simp at hread
    · simp at hread

/-- Only the parts of a header tell a package or imports. -/
theorem Modern.unitOf_header (h : Header) {more : List Modern.UnitPart}
    (hmore : ∀ x ∈ more, x.package? = none ∧ x.import? = none) :
    (Modern.unitOf (h.parts ++ more)).package = h.packageName LaidName.written ∧
      (Modern.unitOf (h.parts ++ more)).imports = h.importDecls LaidName.written := by
  have hpackages : more.filterMap Modern.UnitPart.package? = [] :=
    List.filterMap_eq_nil_iff.mpr fun x hx => (hmore x hx).1
  have himports : more.filterMap Modern.UnitPart.import? = [] :=
    List.filterMap_eq_nil_iff.mpr fun x hx => (hmore x hx).2
  unfold Modern.unitOf Header.parts Header.packageName Header.importDecls
  simp only [List.filterMap_append, hpackages, himports]
  cases h.package with
  | none => simp [List.filterMap_map, Function.comp_def]
  | some p => simp [List.filterMap_map, List.filterMap_cons, Function.comp_def]

theorem Modern.header_of_read (hnamed : ∀ n ∈ h.names, n.Named) (hfit : Fit h.lexemes rest)
    (hwhole : h.Whole (h.text rest)) (hread : Modern.read (h.text rest) = some u) :
    u.package = h.packageName LaidName.written ∧ u.imports = h.importDecls LaidName.written := by
  have hpast := hwhole.modern
  rw [Modern.read] at hread
  rw [Modern.declaresPast] at hpast
  cases hts : Modern.tokens (h.text rest) with
  | none => simp [hts] at hread
  | some ts =>
    obtain ⟨more, rfl⟩ := Modern.tokens_text hfit hwhole.some hts
    simp only [hts] at hread hpast
    split at hpast
    · rename_i parts p hrun
      obtain ⟨later, rfl⟩ := (Modern.repeats_header _ hnamed).exists_more hrun
      have hlength : h.parts.length = h.package.toList.length + h.imports.length := by
        simp [Header.parts]
      have hlater : ∀ x ∈ later, x.package? = none ∧ x.import? = none := by
        rw [List.drop_left' hlength] at hpast
        simpa using hpast
      have hunit := congrArg (outcome · ⟨Lexeme.tokens .modern 1 h.lexemes ++ more, []⟩)
        (Modern.compilationUnit_eq (Modern.phrases (4 * (Lexeme.tokens .modern 1 h.lexemes ++
          more).length + 8)))
      simp only [outcome_bind, hrun] at hunit
      unfold outcome at hunit
      rw [hunit] at hread
      rw [← Option.some.inj hread]
      exact Modern.unitOf_header h hlater
    · simp at hpast

end Runs

/-! ### Agreement -/

/-- The gaps inside the names of a header are laid out as its other gaps are. -/
theorem Header.laid_of_fit {h : Header} {rest : List Char} (hfit : Fit h.lexemes rest)
    {n : LaidName} (hn : n ∈ h.names) {s : LaidSegment} (hs : s ∈ n.more) :
    Laid s.before ∧ Laid s.after := by
  have hname : n.lexemes ⊆ h.lexemes := by
    rcases List.mem_append.mp hn with hn | hn
    · obtain ⟨p, hp, rfl⟩ := List.mem_map.mp hn
      refine fun l hl => List.mem_append_left _ (List.mem_flatMap.mpr ⟨p, hp, ?_⟩)
      simp [LaidPackage.lexemes, hl]
    · obtain ⟨i, hi, rfl⟩ := List.mem_map.mp hn
      refine fun l hl => List.mem_append_right _ (List.mem_flatMap.mpr ⟨i, hi, ?_⟩)
      simp [LaidImport.lexemes, hl]
  have hsegment : s.lexemes ⊆ n.lexemes := fun l hl =>
    List.mem_cons_of_mem _ (List.mem_flatMap.mpr ⟨s, hs, hl⟩)
  exact ⟨laid_of_mem hfit (hname (hsegment (List.mem_cons_self))),
    laid_of_mem hfit (hname (hsegment (List.mem_cons_of_mem _ List.mem_cons_self)))⟩

/-- Two spellings of a header are the same if they are on each of its names. -/
theorem Header.spelled_eq_iff (h : Header) (spelled spelled' : LaidName → String) :
    (h.packageName spelled = h.packageName spelled' ∧
      h.importDecls spelled = h.importDecls spelled') ↔ ∀ n ∈ h.names, spelled n = spelled' n := by
  obtain ⟨package, imports⟩ := h
  have himports : imports.map (LaidImport.declared spelled) =
      imports.map (LaidImport.declared spelled') ↔ ∀ i ∈ imports, spelled i.name = spelled' i.name := by
    rw [List.map_inj_left]
    simp [LaidImport.declared]
  simp only [packageName, importDecls, himports, names, List.mem_append, List.mem_map, or_imp,
    forall_and, forall_exists_index, and_imp, forall_apply_eq_imp_iff₂]
  cases package <;> simp

end Java

open Java Lexeme

/-- Where both grammars accept a text whose header is laid out with any gaps, the older one reports
the names of the header with points between their segments, the current one as they are written. So
they agree exactly where no gap stands inside a name. The segments are words of ASCII, no annotation
stands in front of the package, and there is no Unicode escape in the whole text, since only the
older grammar decodes it before it looks for words. -/
theorem Grammar.agree_iff_tight {h : Header} {rest : List Char} {u v : UnitDecl}
    {origin : Option String} (hnamed : ∀ n ∈ h.names, n.Named) (hfit : Fit h.lexemes rest)
    (hplain : ¬ ['\\', 'u'] <:+: render h.lexemes ++ rest) (hwhole : h.Whole (h.text rest))
    (hclassic : Grammar.classic.read (h.text rest) origin = .ok u)
    (hmodern : Grammar.modern.read (h.text rest) origin = .ok v) :
    (u.package = h.packageName LaidName.joined ∧ u.imports = h.importDecls LaidName.joined) ∧
    (v.package = h.packageName LaidName.written ∧ v.imports = h.importDecls LaidName.written) ∧
    ((u.package = v.package ∧ u.imports = v.imports) ↔ ∀ n ∈ h.names, n.Tight) := by
  have hu : Classic.read (h.text rest) = .ok u := by
    unfold read at hclassic
    cases hread : Classic.read (h.text rest) with
    | error e => simp [hread, Except.mapError] at hclassic
    | ok u' => simpa [hread, Except.mapError] using hclassic
  have hv : Modern.read (h.text rest) = some v := by
    unfold read at hmodern
    cases hread : Modern.read (h.text rest) with
    | none => simp [hread] at hmodern
    | some v' => simpa [hread] using hmodern
  obtain ⟨hpackage, himports⟩ := Classic.header_of_read hnamed hfit hplain hwhole hu
  obtain ⟨hpackage', himports'⟩ := Modern.header_of_read hnamed hfit hwhole hv
  refine ⟨⟨hpackage, himports⟩, ⟨hpackage', himports'⟩, ?_⟩
  rw [hpackage, himports, hpackage', himports', h.spelled_eq_iff]
  exact forall₂_congr fun n hn =>
    LaidName.joined_eq_written_iff fun s hs => Header.laid_of_fit hfit hn hs

namespace Java

/-- A package with blanks inside its name, and an import with a comment inside its name. -/
def spacedHeader : Header where
  package := some ⟨[], ⟨[.blanks " "], "a", [⟨[.blanks " "], [.blanks " "], "b"⟩]⟩, []⟩
  imports := [⟨[], none, ⟨[.blanks " "], "c", [⟨[], [.comment "/**/"], "d"⟩]⟩, none, []⟩]

def spacedText : String := spacedHeader.text []

theorem spacedHeader_fit : Fit spacedHeader.lexemes [] := by
  have hblank : Laid [.blanks " "] := .blanks (by decide) (by decide) (by simp) .nil
  have hcomment : Laid [.comment "/**/"] := Laid.block (by decide : _ = '/' :: '*' :: ([] ++ _))
    (by decide) .nil
  exact ⟨.nil, .word (by decide) (by decide), hblank, .word (by decide) (by decide), hblank,
    .mark (by decide) (by decide) (by decide), hblank, .word (by decide) (by decide), .nil,
    .mark (by decide) (by decide) (by decide), .nil, .word (by decide) (by decide), hblank,
    .word (by decide) (by decide), .nil, .mark (by decide) (by decide) (by decide), hcomment,
    .word (by decide) (by decide), .nil, .mark (by decide) (by decide) (by decide), trivial⟩

theorem spacedHeader_whole : spacedHeader.Whole spacedText :=
  ⟨by decide, by decide +kernel, by decide +kernel⟩

theorem exists_read_spacedText : ∃ u v, Grammar.classic.read spacedText none = .ok u ∧
    Grammar.modern.read spacedText none = .ok v := by
  have hclassic : (Grammar.classic.read spacedText none).toOption.isSome = true := by
    decide +kernel
  have hmodern : (Grammar.modern.read spacedText none).toOption.isSome = true := by
    decide +kernel
  cases hu : Grammar.classic.read spacedText none with
  | error e => simp [hu, Except.toOption] at hclassic
  | ok u =>
    cases hv : Grammar.modern.read spacedText none with
    | error e => simp [hv, Except.toOption] at hmodern
    | ok v => exact ⟨u, v, rfl, rfl⟩

end Java

theorem Grammar.agree_iff_tight_spaced :
    ∃ u v, Grammar.classic.read spacedText none = .ok u ∧
      Grammar.modern.read spacedText none = .ok v ∧
      u.package = "a.b" ∧ u.imports = [⟨"c.d", false, false⟩] ∧
      v.package = "a . b" ∧ v.imports = [⟨"c./**/d", false, false⟩] := by
  obtain ⟨u, v, hu, hv⟩ := exists_read_spacedText
  obtain ⟨⟨hpackage, himports⟩, ⟨hpackage', himports'⟩, -⟩ := Grammar.agree_iff_tight
    (by decide +kernel) spacedHeader_fit (by decide +kernel) spacedHeader_whole hu hv
  exact ⟨u, v, hu, hv, hpackage.trans (by decide +kernel), himports.trans (by decide +kernel),
    hpackage'.trans (by decide +kernel), himports'.trans (by decide +kernel)⟩

/-- The grammars accept a text and report two packages for it. -/
theorem Grammar.not_agree_on_spaced_package :
    ¬ ∀ text u v, Grammar.classic.read text none = .ok u → Grammar.modern.read text none = .ok v →
      u.package = v.package ∧ u.imports = v.imports := by
  intro hagree
  have hclassic : (Grammar.classic.read "package a . b; class C {}" none).toOption.map
      UnitDecl.package = some "a.b" := by
    decide +kernel
  have hmodern : (Grammar.modern.read "package a . b; class C {}" none).toOption.map
      UnitDecl.package = some "a . b" := by
    decide +kernel
  cases hu : Grammar.classic.read "package a . b; class C {}" none with
  | error e => simp [hu, Except.toOption] at hclassic
  | ok u =>
    cases hv : Grammar.modern.read "package a . b; class C {}" none with
    | error e => simp [hv, Except.toOption] at hmodern
    | ok v =>
      have hsame := (hagree _ u v hu hv).1
      have hpackage : u.package = "a.b" := by simpa [hu, Except.toOption] using hclassic
      have hpackage' : v.package = "a . b" := by simpa [hv, Except.toOption] using hmodern
      rw [hpackage, hpackage'] at hsame
      exact absurd hsame (by decide)

end JavaAtlas
