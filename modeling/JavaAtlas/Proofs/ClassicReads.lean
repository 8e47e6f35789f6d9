import JavaAtlas.Proofs.TypeReads

/-! The readers of Java 8 on printed declarations. Each answers what was printed and stops right
behind it; what may follow is said by the tokens to avoid. -/

namespace JavaAtlas.Java.Classic

open Reader

variable (table : Table) {k : List Token}

theorem reads_dimensions (n : Nat) (hk : Avoids ["["] k) :
    Reads dimensions (spell .classic (pairs n) ++ k) n k := by
  have hpairs : Repeats (do if ← tryAll ["[", "]"] then return some () else return none)
      (spell .classic (pairs n) ++ k) (List.replicate n ()) k :=
    repeats_pairs (fun _ => .ifTrue (.tryAll rfl rfl) .pure) n
  have hstop : Reads (do if ← tryAll ["[", "]"] then return some () else return none) k none k :=
    .ifFalse (.notTryAll hk (by simp)) .pure
  have hcount : Reads dimensions (spell .classic (pairs n) ++ k) (List.replicate n ()).length k :=
    .bind (.repeated hpairs hstop) .pure
  rwa [List.length_replicate] at hcount

/-- The segments of a name, each read by one reader. -/
theorem reads_segments {r : Reader String} {Q : List Token → Prop}
    (hr : ∀ (w : Word) k, IsIdentifier w.text → Q k → Reads r (w.token .classic :: k) w.text k)
    (hpoint : ∀ k, Q ((tight ".").token .classic :: k)) {name : String} (h : IsDotted name)
    (space : Bool) (hk : Q k) (hstop : Avoids ["."] k) :
    Reads (do return ".".intercalate (← separated "." r))
      (spell .classic (dotted space name) ++ k) name k := by
  obtain ⟨first, more, hsegments, hdotted⟩ := dotted_eq name
  unfold IsDotted at h
  rw [hsegments] at h
  have hfirst : ∀ k, Q k → Reads r ([(⟨space, first⟩ : Word).token .classic] ++ k) first k :=
    fun k => hr ⟨space, first⟩ k (h first (by simp))
  have hmore : ∀ s ∈ more, ∀ k, Q k → Reads r ([(tight s).token .classic] ++ k) s k :=
    fun s hs k => hr (tight s) k (h s (by simp [hs]))
  have hlist := Reads.separated hfirst hmore (t := (tight ".").token .classic) rfl hpoint hk hstop
  rw [List.map_id'] at hlist
  have hname : Reads (do return ".".intercalate (← separated "." r)) _
      (".".intercalate (first :: more)) k := .bind hlist .pure
  rw [intercalate_segments hsegments] at hname
  simpa [hdotted] using hname

theorem reads_qualifiedName {name : String} (h : IsDotted name) (space : Bool)
    (hk : Avoids ["."] k) :
    Reads qualifiedName (spell .classic (dotted space name) ++ k) name k :=
  reads_segments (Q := fun _ => True) (fun _ _ hw _ => .identifier hw.isWord) (fun _ => trivial) h
    space trivial hk

theorem reads_referenceType {name : String} (h : IsDotted name) (space : Bool)
    (hk : Avoids [".", "<"] k) :
    Reads (referenceType table) (spell .classic (dotted space name) ++ k) name k := by
  refine reads_segments (Q := Avoids ["<"]) (fun w k hw hk => ?_) (fun _ => by simp) h space
    (hk.mono (by simp)) (hk.mono (by simp))
  exact .bind (.identifier hw.isWord) (.ifFalse (.notNext hk (by simp)) .pure)

theorem isBasicType_eq_false {w : Word} (h : IsIdentifier w.text) :
    (w.token .classic).isBasicType = false := by
  have hbasic : w.text ∉ Token.basicTypes := h.notMem (by decide)
  simpa [Token.isBasicType] using hbasic

/-- The type of a class or an interface, or an array of them. -/
theorem reads_reference {t : TypeSpec} (hname : IsDotted t.name) (hdims : 0 ≤ t.dims) (space : Bool)
    (hk : Avoids typeMarks k) :
    Reads (do
      let name ← referenceType table
      return (⟨name, ← dimensions⟩ : TypeSpec)) (spell .classic (t.words space) ++ k) t k := by
  have hspec : (⟨t.name, (t.dims.toNat : Int)⟩ : TypeSpec) = t := by
    rw [Int.toNat_of_nonneg hdims]
  have hfollow : Avoids [".", "<"] (spell .classic (pairs t.dims.toNat) ++ k) :=
    avoids_pairs (by decide) _ (hk.mono (by simp [typeMarks]))
  rw [TypeSpec.words, spell_append, List.append_assoc, ← hspec]
  exact .bind (reads_referenceType table hname space hfollow)
    (.bind (reads_dimensions _ (hk.mono (by simp [typeMarks]))) .pure)

theorem reads_type {t : TypeSpec} (h : t.Printable) (space : Bool) (hk : Avoids typeMarks k) :
    Reads (type table) (spell .classic (t.words space) ++ k) t k := by
  obtain ⟨first, more, hsegments, hwords⟩ := dotted_eq t.name
  rcases h.name with hbasic | hdotted
  · have hsingle : ∀ b ∈ Token.basicTypes, Name.segments b = [b] := by decide
    obtain ⟨rfl, rfl⟩ : t.name = first ∧ [] = more := by
      simpa [hsingle _ hbasic] using hsegments
    have hspec : (⟨t.name, (t.dims.toNat : Int)⟩ : TypeSpec) = t := by
      rw [Int.toNat_of_nonneg h.dims]
    rw [TypeSpec.words, spell_append, List.append_assoc, ← hspec, hwords]
    refine .bind (.look 0) ?_
    simp only [spell_cons, List.cons_append, List.getElem?_cons_zero]
    rw [if_pos (by simpa [Token.isBasicType] using hbasic)]
    exact .bind .any (.bind (reads_dimensions _ (hk.mono (by simp [typeMarks]))) .pure)
  · have hfirst : IsIdentifier (⟨space, first⟩ : Word).text := hdotted first (by simp [hsegments])
    have hread := reads_reference table hdotted h.dims space hk
    rw [TypeSpec.words, hwords] at hread ⊢
    refine .bind (.look 0) ?_
    simp only [spell_cons, List.cons_append, List.getElem?_cons_zero]
    rw [if_neg (by simp [isBasicType_eq_false hfirst]), if_pos hfirst.isWord]
    exact hread

/-- A class or an interface where one is listed. -/
theorem reads_elementType {t : TypeSpec} (h : t.IsReference) (space : Bool)
    (hk : Avoids typeMarks k) :
    Reads (elementType table) (spell .classic (t.words space) ++ k) t k := by
  obtain ⟨first, more, hsegments, hwords⟩ := dotted_eq t.name
  have hfirst : IsIdentifier (⟨space, first⟩ : Word).text := h.name first (by simp [hsegments])
  have havoids : Avoids Token.basicTypes (spell .classic (t.words space) ++ k) := by
    rw [TypeSpec.words, hwords]
    exact hfirst.avoids (by decide)
  have hbasic : ∀ t : Token, t.isBasicType = true → t.text ∈ Token.basicTypes :=
    fun t ht => by simpa [Token.isBasicType] using ht
  exact .ifFalse (.sees (havoids.fits hbasic))
    (reads_reference table h.name (Int.le_of_eq h.dims.symm) space hk)

/-- Types with commas between them, each read by one reader. -/
theorem reads_listed {α : Type} {r : Reader α} {value : TypeSpec → α} {t : TypeSpec}
    {ts : List TypeSpec}
    (hr : ∀ t' ∈ t :: ts, ∀ k, Avoids typeMarks k →
      Reads r (spell .classic (t'.words true) ++ k) (value t') k)
    (hk : Avoids ("," :: typeMarks) k) :
    Reads (separated "," r) (spell .classic (listed TypeSpec.words true (t :: ts)) ++ k)
      ((t :: ts).map value) k := by
  have hlist := Reads.separated (hr t (by simp)) (fun s (hs : s ∈ ts) => hr s (by simp [hs]))
    (t := (tight ",").token .classic) rfl (fun _ => by simp [typeMarks]) (hk.mono (by simp))
    (hk.mono (by simp))
  simpa [listed] using hlist

theorem reads_typesAfter {keyword : String} {ts : List TypeSpec} (h : ∀ t ∈ ts, t.IsReference)
    (hk : Avoids (keyword :: "," :: typeMarks) k) :
    Reads (typesAfter table keyword) (spell .classic (TypeSpec.clause keyword ts) ++ k) ts k := by
  cases ts with
  | nil => exact .ifFalse (.notTry1 hk (by simp)) .pure
  | cons t ts =>
    have hlist := reads_listed (fun t' ht' k => reads_elementType table (h t' ht') true)
      (hk.mono (List.subset_cons_self _ _))
    rw [List.map_id'] at hlist
    exact .ifTrue (.try1 rfl) hlist

theorem reads_throwsClause {ts : List TypeSpec} (h : ∀ t ∈ ts, t.IsReference)
    (hk : Avoids ("throws" :: "," :: typeMarks) k) :
    Reads throwsClause (spell .classic (TypeSpec.clause "throws" ts) ++ k) ts k := by
  cases ts with
  | nil => exact .ifFalse (.notTry1 hk (by simp)) .pure
  | cons t ts =>
    have hname : ∀ t' ∈ t :: ts, ∀ k, Avoids typeMarks k →
        Reads qualifiedName (spell .classic (t'.words true) ++ k) t'.name k := by
      intro t' ht' k hk
      rw [TypeSpec.words, (h t' ht').dims]
      simpa [pairs] using reads_qualifiedName (h t' ht').name true (hk.mono (by simp [typeMarks]))
    have hlist := reads_listed hname (hk.mono (List.subset_cons_self _ _))
    have hspecs : ((t :: ts).map TypeSpec.name).map (fun name => (⟨name, 0⟩ : TypeSpec)) =
        t :: ts := by
      rw [List.map_map]
      refine (List.map_congr_left fun t' ht' => ?_).trans (List.map_id' _)
      simp only [Function.comp_apply, ← (h t' ht').dims]
    have hread : Reads throwsClause _ _ k := .ifTrue (.try1 (rfl : ((spaced "throws").token
      .classic).text = "throws")) (.bind hlist .pure)
    rwa [hspecs] at hread

/-! ### Parameters -/

theorem reads_noAnnotationNext {words : List String} (hk : Avoids words k) (hword : "@" ∈ words) :
    Reads nextAnnotation k false k := by
  have hahead : annotationAhead k = false := by
    cases k with
    | nil => rfl
    | cons t k =>
      have ht : t.text ≠ "@" := fun heq => Avoids.cons.mp hk (heq ▸ hword)
      simp [annotationAhead, Token.is, ht]
  exact .bind .ahead (hahead ▸ .pure)

theorem reads_variableModifiers (hk : Avoids ["final", "@"] k) :
    Reads (variableModifiers table) k () k :=
  .bind (.repeated .nil (.ifFalse (.notTry1 hk (by simp))
    (.ifFalse (reads_noAnnotationNext hk (by simp)) .pure))) .pure

theorem reads_parameter {p : ParamDecl} (h : p.Printable) (space : Bool) (hk : Avoids ["["] k) :
    Reads (parameter table) (spell .classic (p.words space) ++ k) p k := by
  have hmodifiers : ∀ {t : TypeSpec} {k : List Token}, t.Printable →
      Reads (variableModifiers table) (spell .classic (t.words space) ++ k) ()
        (spell .classic (t.words space) ++ k) := fun ht =>
    reads_variableModifiers table (avoids_type ht space (by decide) (by decide))
  have hname : IsIdentifier (spaced p.name).text := h.name
  cases hvariadic : p.variadic with
  | true =>
    obtain ⟨t, ht, hp, hwords⟩ := exists_type_of_variadic h hvariadic space
    have hread : Reads (parameter table) (spell .classic (p.words space) ++ k)
        ⟨p.name, ⟨t.name, t.dims + (0 : Nat) + 1⟩, true⟩ k := by
      rw [hwords, spell_append, List.append_assoc]
      refine .bind (hmodifiers ht) (.bind (reads_type table ht space ?_) ?_)
      · simp [typeMarks]
      · exact .bind (.try1 rfl) (.bind (.identifier hname.isWord)
          (.bind (reads_dimensions 0 hk) .pure))
    rwa [Int.natCast_zero, Int.add_zero, ← hp] at hread
  | false =>
    have hread : Reads (parameter table) (spell .classic (p.words space) ++ k)
        ⟨p.name, ⟨p.type.name, p.type.dims + (0 : Nat) + 0⟩, false⟩ k := by
      rw [words_of_fixed hvariadic, spell_append, List.append_assoc]
      refine .bind (hmodifiers h.type) (.bind (reads_type table h.type space ?_) ?_)
      · exact hname.avoids (by decide)
      · exact .bind (.notTry1 (hname.avoids (by decide) : Avoids ["..."] _) (by simp))
          (.bind (.identifier hname.isWord) (.bind (reads_dimensions 0 hk) .pure))
    rwa [Int.natCast_zero, Int.add_zero, Int.add_zero, ← hvariadic] at hread

theorem reads_parametersUpTo {p : ParamDecl} {ps : List ParamDecl}
    (h : ∀ q ∈ p :: ps, q.Printable) (hfixed : ∀ q ∈ (p :: ps).dropLast, q.variadic = false)
    (space : Bool) (hk : Avoids [",", "["] k) {n : Nat} (hn : ps.length < n) :
    Reads (parametersUpTo table n)
      (spell .classic (listed ParamDecl.words space (p :: ps)) ++ k) (p :: ps) k := by
  induction ps generalizing p space n with
  | nil =>
    obtain ⟨n, rfl⟩ : ∃ m, n = m + 1 := ⟨n - 1, by simp at hn; omega⟩
    have hread := reads_parameter table (h p (by simp)) space (hk.mono (by simp))
    rw [listed, List.flatMap_nil, List.append_nil]
    refine .bind hread ?_
    cases hvariadic : p.variadic with
    | true =>
      rw [if_pos rfl]
      exact .pure
    | false =>
      rw [if_neg (by simp)]
      exact .ifFalse (.notTry1 hk (by simp)) .pure
  | cons q ps ih =>
    obtain ⟨n, rfl⟩ : ∃ m, n = m + 1 := ⟨n - 1, by simp at hn; omega⟩
    -- Only the last parameter may have dots, so a comma is asked for behind this one.
    have hvariadic : p.variadic = false := hfixed p (by simp)
    have hmore := ih (p := q) (fun r hr => h r (List.mem_cons_of_mem p hr))
      (fun r hr => hfixed r (List.mem_cons_of_mem p hr)) true (n := n) (by simpa using hn)
    have hread := reads_parameter table (h p (by simp)) space
      (k := (tight ",").token .classic ::
        (spell .classic (listed ParamDecl.words true (q :: ps)) ++ k)) (by simp)
    have hwords : listed ParamDecl.words space (p :: q :: ps) =
        p.words space ++ tight "," :: listed ParamDecl.words true (q :: ps) := by simp [listed]
    rw [hwords, spell_append, spell_cons, List.append_assoc]
    refine .bind hread ?_
    rw [if_neg (by simp [hvariadic])]
    exact .ifTrue (.try1 rfl) (.bind hmore .pure)

theorem reads_parameters {ps : List ParamDecl} (h : ∀ p ∈ ps, p.Printable)
    (hfixed : ∀ p ∈ ps.dropLast, p.variadic = false) :
    Reads (parameters table) ((tight "(").token .classic ::
      (spell .classic (listed ParamDecl.words false ps) ++ (tight ")").token .classic :: k)) ps k := by
  cases ps with
  | nil => exact .bind (.expect rfl) (.ifTrue (.try1 rfl) .pure)
  | cons p ps =>
    have hopen : Avoids [")"] (spell .classic (listed ParamDecl.words false (p :: ps)) ++
        (tight ")").token .classic :: k) := by
      rw [listed, spell_append, List.append_assoc]
      exact avoids_parameter (h p (by simp)) false (by decide)
    have hlength := length_le_listed ParamDecl.words false p ps
    refine .bind (.expect rfl) (.ifFalse (.notTry1 hopen (by simp)) (.bind .ahead (.bind
      (reads_parametersUpTo table h hfixed false (by simp) ?_) (.bind (.expect rfl) .pure))))
    simp only [List.length_append, length_spell, List.length_cons]
    omega

/-! ### Members -/

theorem reads_block : Reads (block table)
    ((spaced leftBrace).token .classic :: (spaced rightBrace).token .classic :: k) () k :=
  .bind (.expect rfl) (.bind (.untilNext .nil rfl) (.expect rfl))

theorem reads_methodBody (bodied : Bool) :
    Reads (methodBody table) (spell .classic (bodyWords bodied) ++ k) () k := by
  cases bodied with
  | true => exact .ifTrue (.next rfl) (reads_block table)
  | false => exact .ifFalse (.notNext (Avoids.cons.mpr (by decide : ";" ∉ [leftBrace])) (by simp)) (.expect rfl)

section Methods

variable {m : MethodDecl} (h : m.Printable) (bodied : Bool)

include h

/-- What follows the parameters of a method. -/
theorem reads_methodEnd :
    Avoids ["["] (spell .classic (TypeSpec.clause "throws" m.throws ++
      bodyWords (bodied || m.isConstructor)) ++ k) ∧
    Reads throwsClause (spell .classic (TypeSpec.clause "throws" m.throws ++
      bodyWords (bodied || m.isConstructor)) ++ k) m.throws
      (spell .classic (bodyWords (bodied || m.isConstructor)) ++ k) := by
  rw [spell_append, List.append_assoc]
  refine ⟨avoids_clause (by decide) _ (avoids_bodyWords (by decide) (by decide) _), ?_⟩
  exact reads_throwsClause h.throws (avoids_bodyWords (by decide) (by decide) _)

theorem reads_methodRest {t : TypeSpec} (hreturns : m.returns = some t)
    (hcon : m.isConstructor = false) :
    Reads (methodRest table m.modifiers t m.name) (spell .classic (m.rest bodied) ++ k) m k := by
  obtain ⟨hdims, hthrows⟩ := reads_methodEnd (k := k) h bodied
  have hread : Reads (methodRest table m.modifiers t m.name) (spell .classic (m.rest bodied) ++ k)
      ⟨m.name, some ⟨t.name, t.dims + (0 : Nat)⟩, m.params, m.modifiers, false, m.throws⟩ k := by
    simp only [MethodDecl.rest, spell_cons, spell_append _ (_ :: _), List.cons_append,
      List.append_assoc]
    exact .bind (reads_parameters table h.params h.fixed) (.bind (reads_dimensions 0 hdims)
      (.bind hthrows (.bind (reads_methodBody table _) .pure)))
  rwa [Int.natCast_zero, Int.add_zero, eq_of_returns hreturns hcon] at hread

theorem reads_voidMethodRest (hreturns : m.returns = some ⟨"void", 0⟩)
    (hcon : m.isConstructor = false) :
    Reads (voidMethodRest table m.modifiers m.name) (spell .classic (m.rest bodied) ++ k) m k := by
  obtain ⟨-, hthrows⟩ := reads_methodEnd (k := k) h bodied
  have hread : Reads (voidMethodRest table m.modifiers m.name)
      (spell .classic (m.rest bodied) ++ k)
      ⟨m.name, some ⟨"void", 0⟩, m.params, m.modifiers, false, m.throws⟩ k := by
    simp only [MethodDecl.rest, spell_cons, spell_append _ (_ :: _), List.cons_append,
      List.append_assoc]
    exact .bind (reads_parameters table h.params h.fixed)
      (.bind hthrows (.bind (reads_methodBody table _) .pure))
  rwa [eq_of_returns hreturns hcon] at hread

theorem reads_constructorRest (hcon : m.isConstructor = true) :
    Reads (constructorRest table m.modifiers m.name) (spell .classic (m.rest bodied) ++ k) m k := by
  obtain ⟨-, hthrows⟩ := reads_methodEnd (k := k) h bodied
  have hbody : bodyWords (bodied || m.isConstructor) = [spaced leftBrace, spaced rightBrace] := by
    simp [hcon, bodyWords]
  have hread : Reads (constructorRest table m.modifiers m.name)
      (spell .classic (m.rest bodied) ++ k)
      ⟨m.name, none, m.params, m.modifiers, true, m.throws⟩ k := by
    simp only [MethodDecl.rest, spell_cons, spell_append _ (_ :: _), List.cons_append,
      List.append_assoc]
    refine .bind (reads_parameters table h.params h.fixed) (.bind hthrows ?_)
    rw [hbody]
    exact .bind (reads_block table) .pure
  rwa [eq_of_constructed h hcon] at hread

end Methods

theorem reads_modifiers {leading : List Word} (h : AreModifiers (leading.map Word.text))
    (hk : Avoids ("@" :: modifiers) k) :
    Reads (modifiersAndAnnotations table) (spell .classic leading ++ k) (leading.map Word.text)
      k := by
  have hmodifier : ∀ w ∈ leading, isModifier (w.token .classic) = true := by
    intro w hw
    have hall : ∀ w ∈ sharedModifiers,
      kindOf .classic w = .reserved ∧ w ∈ modifiers := by decide
    obtain ⟨hkind, hmem⟩ := hall w.text (h.subset (List.mem_map_of_mem hw))
    have hreserved : (w.token .classic).kind = .reserved := hkind
    simp [isModifier, hreserved, hmem]
    rfl
  have hstop : fits [isModifier] k = false :=
    (hk.mono (List.subset_cons_self _ _)).fits fun t ht => by
      simp only [isModifier, Bool.and_eq_true, List.contains_eq_mem, decide_eq_true_eq] at ht
      exact ht.2
  have hread : Reads (modifiersAndAnnotations table)
      ((leading.flatMap fun w => [w.token .classic]) ++ k)
      (leading.map fun w => [w.text]).flatten k := by
    refine .bind (.repeated (.each (fun w hw k => ?_) (by simp)) ?_) .pure
    · exact .ifTrue (.sees (by simp [fits, hmodifier w hw])) (.bind .any .pure)
    · exact .ifFalse (.sees hstop) (.ifFalse (reads_noAnnotationNext hk (by simp)) .pure)
  rwa [← List.map_eq_flatMap, ← List.flatMap_def, ← List.map_eq_flatMap] at hread

theorem reads_noTypeDeclaration (modifiers : List String)
    (hk : Avoids ["class", "interface", "enum", "@"] k) :
    Reads (typeDeclaration? table modifiers) k none k :=
  .bind (.look 0) (TypeReaders.reads_noDeclaration _ (hk.mono (by simp)) (.notNextAll hk (by simp)))

theorem reads_spacedModifiers {mods : List String} (h : AreModifiers mods)
    (hk : Avoids ("@" :: modifiers) k) :
    Reads (modifiersAndAnnotations table) (spell .classic (mods.map spaced) ++ k) mods k := by
  have hread : Reads (modifiersAndAnnotations table) (spell .classic (mods.map spaced) ++ k)
      ((mods.map spaced).map Word.text) k :=
    reads_modifiers table ((map_text_spaced mods).symm ▸ h) hk
  rwa [map_text_spaced] at hread

/-- A name in front of a parenthesis is a constructor's, and no type is followed by one. -/
theorem fits_constructor {t : TypeSpec} {w : Word} (hw : IsIdentifier w.text) :
    fits [Token.isWord, Token.is "("] (spell .classic (t.words true) ++ w.token .classic :: k) =
      false := by
  obtain ⟨first, tail, -, hspell, htail⟩ := exists_spell_type (g := .classic) t true
  have hsecond : Avoids ["("] (tail ++ w.token .classic :: k) :=
    htail (by decide) (by decide) (hw.avoids (by decide))
  rw [hspell]
  exact fits_second hsecond (by simp [Token.is])

/-- What is left of a member of a class that is no type and has a result: a constructor, a method or
fields. -/
def plainMember (table : Table) (modifiers : List String) : Reader Members := do
  if ← sees [Token.isWord, Token.is "("] then
    return .ofMethod (← constructorRest table modifiers (← identifier))
  else
    let spec ← type table
    let name ← identifier
    if ← next "(" then return .ofMethod (← methodRest table modifiers spec name)
    else fieldsRest table modifiers spec name

theorem reads_classMember {mods : List String} (hmods : AreModifiers mods) {core : List Token}
    (hcore : Avoids memberWords core) {m : Members} (h : Reads (plainMember table mods) core m k) :
    Reads (classMember table) (spell .classic (mods.map spaced) ++ core) m k := by
  refine .bind (reads_spacedModifiers table hmods (hcore.mono (by decide))) ?_
  rw [ordered_eq_self hmods]
  exact .ifFalse (.notTry1 hcore (by decide)) (.ifFalse (.notNext hcore (by decide))
    (.bind (reads_noTypeDeclaration table _ (hcore.mono (by decide))) h))

theorem reads_classMember_field {f : FieldDecl} (h : f.Printable) :
    Reads (classMember table) (spell .classic f.words ++ k) { fields := [f] } k := by
  have hname : IsIdentifier (spaced f.name).text := h.name
  have hend : Avoids ["(", "[", "=", ","] ((tight ";").token .classic :: k) := by simp
  have hplain : Reads (plainMember table f.modifiers) (spell .classic (f.type.words true) ++
      (spaced f.name).token .classic :: (tight ";").token .classic :: k)
      { fields := [⟨f.name, ⟨f.type.name, f.type.dims + (0 : Nat)⟩, f.modifiers⟩] } k := by
    refine .ifFalse (.sees (fits_constructor hname)) ?_
    refine .bind (reads_type table h.type true (hname.avoids (by decide)))
      (.bind (.identifier hname.isWord) (.ifFalse (.notNext hend (by simp)) ?_))
    refine .bind (.bind (reads_dimensions 0 (hend.mono (by simp)))
      (.ifFalse (.notTry1 hend (by simp)) .pure)) ?_
    exact .bind (.repeated .nil (.ifFalse (.notTry1 hend (by simp)) .pure))
      (.bind (.expect rfl) .pure)
  rw [Int.natCast_zero, Int.add_zero] at hplain
  rw [spell_field]
  exact reads_classMember table h.modifiers (avoids_type h.type true (by decide) (by decide)) hplain

theorem reads_classMember_constructor {m : MethodDecl} (h : m.Printable)
    (hcon : m.isConstructor = true) (bodied : Bool) :
    Reads (classMember table) (spell .classic (m.words bodied) ++ k) (.ofMethod m) k := by
  have hname : IsIdentifier (spaced m.name).text := h.name
  have hparenthesis : fits [Token.isWord, Token.is "("] ((spaced m.name).token .classic ::
      (spell .classic (m.rest bodied) ++ k)) = true := by
    simp [fits, hname.isWord, Token.is, MethodDecl.rest]
  rw [spell_constructor (h.constructed hcon)]
  exact reads_classMember table h.modifiers (hname.avoids (by decide))
    (.ifTrue (.sees hparenthesis) (.bind (.identifier hname.isWord)
      (.bind (reads_constructorRest table h bodied hcon) .pure)))

theorem reads_classMember_method {m : MethodDecl} (h : m.Printable)
    (hcon : m.isConstructor = false) (bodied : Bool) :
    Reads (classMember table) (spell .classic (m.words bodied) ++ k) (.ofMethod m) k := by
  have hname : IsIdentifier (spaced m.name).text := h.name
  obtain ⟨t, hreturns, rfl | ht⟩ := h.returns hcon
  · have hcore : Avoids ("@" :: modifiers) ((spaced "void").token .classic ::
        (spaced m.name).token .classic :: (spell .classic (m.rest bodied) ++ k)) :=
      Avoids.cons.mpr (by decide)
    rw [spell_method hreturns, words_void]
    refine .bind (reads_spacedModifiers table h.modifiers hcore) ?_
    rw [ordered_eq_self h.modifiers]
    exact .ifTrue (.try1 rfl) (.bind (.identifier hname.isWord)
      (.bind (reads_voidMethodRest table h bodied hreturns hcon) .pure))
  · rw [spell_method hreturns]
    refine reads_classMember table h.modifiers (avoids_type ht true (by decide) (by decide)) ?_
    exact .ifFalse (.sees (fits_constructor hname))
      (.bind (reads_type table ht true (hname.avoids (by decide)))
        (.bind (.identifier hname.isWord) (.ifTrue (.next rfl)
          (.bind (reads_methodRest table h bodied hreturns hcon) .pure))))

/-! ### Types -/

variable {style : Style} {t : TypeDecl}

theorem reads_typeDeclaration? (hread : (typeReaders table).ReadsTypes .classic style [t])
    (space : Bool) :
    Reads (typeDeclaration? table t.modifiers)
      ((⟨space, t.kind.word⟩ : Word).token .classic :: (spell .classic (t.rest style) ++ k))
      (some (t.onLine 1)) k :=
  .bind (.look 0) (hread t (by simp) space k)

theorem reads_classMember_type (hread : (typeReaders table).ReadsTypes .classic style [t])
    (h : t.Printable) :
    Reads (classMember table) (spell .classic (t.words style true) ++ k) (.ofType (t.onLine 1))
      k := by
  obtain ⟨leading, space, htexts, hmods, hspell⟩ := exists_spell_typeDecl style h true
  rw [hspell]
  refine .bind (reads_modifiers table hmods (avoids_keyword h (by decide) space)) ?_
  rw [htexts, ordered_eq_self (modifiers_of_printable h)]
  refine .ifFalse (.notTry1 (avoids_keyword h (by decide) space : Avoids ["void", "<"] _)
    (by simp)) ?_
  refine .ifFalse (.notNext (avoids_keyword h (by decide) space : Avoids ["void", "<"] _)
    (by simp)) ?_
  exact .bind (reads_typeDeclaration? table hread space) .pure

/-- What is left of a member of an interface that is no type and has no type parameters: a method or
constants. -/
def plainInterfaceMember (table : Table) (modifiers : List String) : Reader Members := do
  if ← try1 "void" then
    return .ofMethod (← voidMethodRest table modifiers (← identifier))
  else
    let spec ← type table
    let name ← identifier
    if ← next "(" then return .ofMethod (← methodRest table modifiers spec name)
    else
      let constants ← constantsRest table modifiers spec name
      expect ";"
      return constants

theorem reads_interfaceMember {mods : List String} (hmods : AreModifiers mods) {core : List Token}
    (hcore : Avoids (memberWords.erase "void") core) {m : Members}
    (h : Reads (plainInterfaceMember table mods) core m k) :
    Reads (interfaceMember table) (spell .classic (mods.map spaced) ++ core) m k := by
  have hstart : Avoids [";"] (spell .classic (mods.map spaced) ++ core) :=
    avoids_modifiers ((map_text_spaced mods).symm ▸ hmods) (by decide) (hcore.mono (by decide))
  refine .ifFalse (.notTry1 hstart (by simp)) ?_
  refine .bind (reads_spacedModifiers table hmods (hcore.mono (by decide))) ?_
  rw [ordered_eq_self hmods]
  exact .bind (reads_noTypeDeclaration table _ (hcore.mono (by decide)))
    (.ifFalse (.notNext hcore (by decide)) h)

theorem reads_interfaceMember_method {m : MethodDecl} (h : m.Printable)
    (hcon : m.isConstructor = false) (bodied : Bool) :
    Reads (interfaceMember table) (spell .classic (m.words bodied) ++ k) (.ofMethod m) k := by
  have hname : IsIdentifier (spaced m.name).text := h.name
  obtain ⟨t, hreturns, rfl | ht⟩ := h.returns hcon
  · have hcore : Avoids (memberWords.erase "void") ((spaced "void").token .classic ::
        (spaced m.name).token .classic :: (spell .classic (m.rest bodied) ++ k)) :=
      Avoids.cons.mpr (by decide : "void" ∉ memberWords.erase "void")
    rw [spell_method hreturns, words_void]
    exact reads_interfaceMember table h.modifiers hcore (.ifTrue (.try1 rfl)
      (.bind (.identifier hname.isWord)
        (.bind (reads_voidMethodRest table h bodied hreturns hcon) .pure)))
  · have hcore : Avoids memberWords (spell .classic (t.words true) ++
        (spaced m.name).token .classic :: (spell .classic (m.rest bodied) ++ k)) :=
      avoids_type ht true (by decide) (by decide)
    rw [spell_method hreturns]
    exact reads_interfaceMember table h.modifiers (hcore.mono (by decide))
      (.ifFalse (.notTry1 hcore (by decide))
        (.bind (reads_type table ht true (hname.avoids (by decide)))
          (.bind (.identifier hname.isWord) (.ifTrue (.next rfl)
            (.bind (reads_methodRest table h bodied hreturns hcon) .pure)))))

theorem reads_interfaceMember_type (hread : (typeReaders table).ReadsTypes .classic style [t])
    (h : t.Printable) :
    Reads (interfaceMember table) (spell .classic (t.words style true) ++ k)
      (.ofType (t.onLine 1)) k := by
  obtain ⟨leading, space, htexts, hmods, hspell⟩ := exists_spell_typeDecl style h true
  have hstart : Avoids [";"] (spell .classic leading ++
      (⟨space, t.kind.word⟩ : Word).token .classic :: (spell .classic (t.rest style) ++ k)) :=
    avoids_modifiers hmods (by decide) (avoids_keyword h (by decide) space)
  rw [hspell]
  refine .ifFalse (.notTry1 hstart (by simp)) ?_
  refine .bind (reads_modifiers table hmods (avoids_keyword h (by decide) space)) ?_
  rw [htexts, ordered_eq_self (modifiers_of_printable h)]
  exact .bind (reads_typeDeclaration? table hread space) .pure

theorem readsMembers (style : Style) :
    (bodyReaders table).ReadsMembers (typeReaders table) .classic style where
  field := reads_classMember_field table
  constructed := reads_classMember_constructor table
  method := reads_classMember_method table
  interfaceMethod := reads_interfaceMember_method table
  type h hread := reads_classMember_type table hread h
  interfaceType h hread := reads_interfaceMember_type table hread h

theorem reads_superclass {superclass : Option TypeSpec} (h : ∀ s ∈ superclass, s.IsReference)
    (hk : Avoids ("extends" :: typeMarks) k) :
    Reads (Classic.superclass table)
      (spell .classic (superclass.toList.flatMap fun s => spaced "extends" :: s.words true) ++ k)
      superclass k := by
  cases superclass with
  | none => exact .ifFalse (.notTry1 hk (by simp)) .pure
  | some s =>
    have htype := reads_type table (h s rfl).printable true (hk.mono (List.subset_cons_self _ _))
    rw [Option.toList_some, List.flatMap_singleton]
    exact .ifTrue (.try1 rfl) (.bind htype .pure)

theorem readsHeaders : (typeReaders table).ReadsHeaders .classic where
  superclass := reads_superclass table
  typesAfter := reads_typesAfter table
  clauses _ := .pure

theorem readsTypes {n : Nat} (h : t.Printable) (hn : (t.rest style).length ≤ n) :
    (typeReaders (phrases n)).ReadsTypes .classic style [t] :=
  TypeReaders.reads_declaration? (fun n => typeReaders (phrases n)) (fun _ => readsHeaders _)
    (fun _ => readsMembers _ style) (fun _ => rfl) h hn

/-! ### Units -/

/-- The segments of an import after the first. A star is none of them. -/
theorem reads_importSegments {more : List String} (h : ∀ s ∈ more, IsIdentifier s)
    (hk : fits [Token.is ".", Token.is "*"] k = true ∨ Avoids ["."] k) :
    Reads (repeated do
      if ← nextAll [".", "*"] then return none
      if ← try1 "." then return some (← identifier) else return none)
      ((more.flatMap fun s => spell .classic [tight ".", tight s]) ++ k) more k := by
  have hstep : ∀ s ∈ more, ∀ k, Reads (do
      if ← nextAll [".", "*"] then return none
      if ← try1 "." then return some (← identifier) else return none)
      (spell .classic [tight ".", tight s] ++ k) (some s) k := by
    intro s hs k
    have hname : IsIdentifier (tight s).text := h s hs
    have hstar : Avoids ["*"] ((tight s).token .classic :: k) := hname.avoids (by decide)
    exact .ifFalse (.sees (fits_second hstar (by simp [Token.is])))
      (.ifTrue (.try1 rfl) (.bind (.identifier hname.isWord) .pure))
  have hmore : Repeats _ (_ ++ k) _ k := .each hstep (by simp)
  rw [List.map_id'] at hmore
  refine .repeated hmore ?_
  rcases hk with hstar | hend
  · exact .ifTrue (.sees hstar) .pure
  · exact .ifFalse (.notNextAll hend (by simp)) (.ifFalse (.notTry1 hend (by simp)) .pure)

theorem reads_importDeclaration {i : ImportDecl} (h : IsDotted i.name) (space : Bool) :
    Reads importDeclaration (spell .classic (i.words space) ++ k) i k := by
  obtain ⟨first, more, hsegments, hdotted⟩ := dotted_eq i.name
  unfold IsDotted at h
  rw [hsegments] at h
  have hfirst : IsIdentifier (spaced first).text := h first (by simp)
  have hmore : ∀ s ∈ more, IsIdentifier s := fun s hs => h s (by simp [hs])
  have hend : Avoids ["."] ((tight ";").token .classic :: k) := by simp
  have hread : Reads importDeclaration (spell .classic (i.words space) ++ k)
      ⟨".".intercalate (first :: more), i.isStatic, i.onDemand⟩ k := by
    simp only [ImportDecl.words, hdotted, spell_cons, spell_append, spell_flatMap, spell_nil,
      List.cons_append, List.append_assoc, List.nil_append]
    refine .bind (.expect rfl) ?_
    refine .bind (reads_static i.isStatic (hfirst.avoids (by decide)))
      (.bind (.identifier hfirst.isWord) ?_)
    cases i.onDemand with
    | true =>
      exact .bind (reads_importSegments hmore (.inl rfl))
        (.bind (.tryAll rfl rfl) (.bind (.expect rfl) .pure))
    | false =>
      exact .bind (reads_importSegments hmore (.inr hend))
        (.bind (.notTryAll hend (by simp)) (.bind (.expect rfl) .pure))
  rwa [intercalate_segments hsegments] at hread

theorem reads_typeDeclaration {n : Nat} (h : t.Printable) (hn : (t.rest style).length ≤ n)
    (space : Bool) :
    Reads (typeDeclaration (phrases n)) (spell .classic (t.words style space) ++ k) (t.onLine 1)
      k := by
  obtain ⟨leading, s, htexts, hmods, hspell⟩ := exists_spell_typeDecl style h space
  rw [hspell]
  refine .bind (reads_modifiers _ hmods (avoids_keyword h (by decide) s)) ?_
  rw [htexts, ordered_eq_self (modifiers_of_printable h)]
  exact .bind (reads_typeDeclaration? _ (readsTypes h hn) s) .pure

theorem reads_unitPart {n : Nat} (h : t.Printable) (hn : (t.rest style).length ≤ n)
    (space : Bool) :
    Reads (unitPart (phrases n)) (spell .classic (t.words style space) ++ k) (some (t.onLine 1))
      k := by
  have hstart : Avoids [";"] (spell .classic (t.words style space) ++ k) :=
    avoids_typeDecl h space (by decide)
  exact .bind (.tryCatch (.ifFalse (.notTry1 hstart (by simp))
    (.bind (reads_typeDeclaration h hn space) .pure))) .pure

theorem reads_imports {imports : List ImportDecl} (h : ∀ i ∈ imports, IsDotted i.name)
    (space : Bool) (hk : Avoids ["import"] k) :
    Reads (repeated (whenNext "import" importDeclaration))
      (spell .classic (row ImportDecl.words space imports) ++ k) imports k := by
  have hstep : ∀ i ∈ imports, ∀ space k, Reads (whenNext "import" importDeclaration)
      (spell .classic (i.words space) ++ k) (some i) k :=
    fun i hi space k => .whenNext rfl (reads_importDeclaration (h i hi) space)
  have himports : Repeats _ (_ ++ k) _ k := repeats_row hstep (by simp [ImportDecl.words]) space
  rw [List.map_id'] at himports
  exact .repeated himports (.notWhenNext hk)

theorem reads_types {types : List TypeDecl} (h : ∀ t ∈ types, t.Printable) {n : Nat}
    (hn : ∀ t ∈ types, (t.rest style).length ≤ n) (space : Bool) :
    Reads (repeated do
        if (← ahead).isEmpty then return none else return some (← unitPart (phrases n)))
      (spell .classic (row (TypeDecl.words style) space types))
      (types.map fun t => some (t.onLine 1)) [] := by
  have hstep : ∀ t ∈ types, ∀ space k, Reads (do
        if (← ahead).isEmpty then return none else return some (← unitPart (phrases n)))
      (spell .classic (t.words style space) ++ k) (some (some (t.onLine 1))) k := by
    intro t ht space k
    refine .bind .ahead ?_
    rw [if_neg (by simp [TypeDecl.words_eq, TypeDecl.rest])]
    exact .bind (reads_unitPart (h t ht) (hn t ht) space) .pure
  have htypes : Repeats _ (_ ++ []) _ [] :=
    repeats_row hstep (by simp [TypeDecl.words_eq, TypeDecl.rest]) space
  rw [List.append_nil] at htypes
  exact .repeated htypes (.bind .ahead .pure)

/-- The imports and the types of a unit, after its package. -/
theorem reads_afterPackage {u : UnitDecl} (h : u.Printable) {n : Nat}
    (hn : ∀ t ∈ u.types, (t.rest style).length ≤ n) (space space' : Bool) (package : Option String) :
    Reads (do
      let imports ← repeated (whenNext "import" importDeclaration)
      let parts ← repeated do
        if (← ahead).isEmpty then return none else return some (← unitPart (phrases n))
      return ({ package := package.getD "", imports, types := parts.filterMap id } : UnitDecl))
      (spell .classic (row ImportDecl.words space u.imports ++
        row (TypeDecl.words style) space' u.types))
      { package := package.getD "", imports := u.imports
        types := u.types.map (TypeDecl.onLine 1) } [] := by
  have hvalue : (u.types.map fun t => some (t.onLine 1)).filterMap id =
      u.types.map (TypeDecl.onLine 1) := by
    rw [List.filterMap_map]
    exact congrFun (List.filterMap_eq_map (f := TypeDecl.onLine 1)) u.types
  rw [spell_append, ← hvalue]
  exact .bind (reads_imports h.imports space (avoids_typeDecls h.types space' (by decide)))
    (.bind (reads_types h.types hn space') .pure)

theorem reads_noAnnotations (hk : Avoids ["@"] k) :
    Reads (repeated do
      if ← nextAnnotation then return some (← annotationUse table) else return none) k [] k :=
  .repeated .nil (.ifFalse (reads_noAnnotationNext hk (by simp)) .pure)

/-- Outside all trials, a unit without a package leaves the place as it was. -/
theorem outcome_noPackage (hk : Avoids ["package", "@"] k) :
    outcome (packageDeclaration table) ⟨k, []⟩ = (.ok none, ⟨k, []⟩) := by
  have hmark : outcome mark ⟨k, []⟩ = (.ok (), ⟨k, [k]⟩) := rfl
  have hannotations := reads_noAnnotations table (hk.mono (by simp)) [k]
  have hpackage : outcome (try1 "package") ⟨k, [k]⟩ = (.ok false, ⟨k, [k]⟩) :=
    Reads.notTry1 hk (by simp) [k]
  simp only [packageDeclaration, outcome_bind, hmark, hannotations, hpackage]
  rfl

/-- Where the package's keyword comes next, the mark is given up before the name is read. -/
theorem outcome_packageDeclaration {t semicolon : Token} {ts : List Token} {name : String}
    (ht : t.text = "package") (hname : Reads qualifiedName ts name (semicolon :: k))
    (hsemicolon : semicolon.text = ";") :
    outcome (packageDeclaration table) ⟨t :: ts, []⟩ = (.ok (some name), ⟨k, []⟩) := by
  have hmark : outcome mark ⟨t :: ts, []⟩ = (.ok (), ⟨t :: ts, [t :: ts]⟩) := rfl
  have hunmark : outcome unmark ⟨ts, [t :: ts]⟩ = (.ok (), ⟨ts, []⟩) := rfl
  have hat : Avoids ["@"] (t :: ts) := Avoids.cons.mpr (by simp [ht])
  have hannotations := reads_noAnnotations table hat [t :: ts]
  have hpackage : outcome (try1 "package") ⟨t :: ts, [t :: ts]⟩ = (.ok true, ⟨ts, [t :: ts]⟩) :=
    Reads.try1 ht _
  have hend : outcome (expect ";") ⟨semicolon :: k, []⟩ = (.ok (), ⟨k, []⟩) :=
    Reads.expect hsemicolon _
  simp only [packageDeclaration, outcome_bind, hmark, hannotations, hpackage, if_true, hunmark,
    hname [], hend]
  rfl

theorem outcome_package {name : String} (h : IsDotted name) :
    outcome (packageDeclaration table)
      ⟨spell .classic (tight "package" :: (dotted true name ++ [tight ";"])) ++ k, []⟩ =
      (.ok (some name), ⟨k, []⟩) := by
  rw [spell_cons, spell_append, List.cons_append, List.append_assoc]
  exact outcome_packageDeclaration table rfl (reads_qualifiedName h true (by simp)) rfl

theorem avoids_importsAndTypes {u : UnitDecl} (h : u.Printable) (space space' : Bool) :
    Avoids ["package", "@"] (spell .classic (row ImportDecl.words space u.imports ++
      row (TypeDecl.words style) space' u.types)) := by
  cases u.imports with
  | nil => exact avoids_typeDecls h.types space' (by decide)
  | cons i imports => exact Avoids.cons.mpr (by decide : "import" ∉ ["package", "@"])

theorem outcome_compilationUnit {u : UnitDecl} (h : u.Printable) {n : Nat}
    (hn : ∀ t ∈ u.types, (t.rest style).length ≤ n) :
    outcome (compilationUnit (phrases n)) ⟨spell .classic (u.words style), []⟩ =
      (.ok (u.onLine 1), ⟨[], []⟩) := by
  have hafter := reads_afterPackage h hn (u.package ≠ "") (u.package ≠ "" ∨ u.imports ≠ [])
  rw [compilationUnit, outcome_bind]
  rcases h.package with hempty | hpackage
  · have hwords : u.words style = row ImportDecl.words (u.package ≠ "") u.imports ++
        row (TypeDecl.words style) (u.package ≠ "" ∨ u.imports ≠ []) u.types := by
      simp [UnitDecl.words, hempty]
    have hunit : u.onLine 1 = ⟨"", u.imports, u.types.map (TypeDecl.onLine 1)⟩ := by
      rw [UnitDecl.onLine, hempty]
    rw [hwords, outcome_noPackage _ (avoids_importsAndTypes h _ _), hunit]
    exact hafter none []
  · have hne : u.package ≠ "" := by
      intro heq
      exact absurd (heq ▸ hpackage : IsDotted "") (by decide)
    have hwords : u.words style = (tight "package" :: (dotted true u.package ++ [tight ";"])) ++
        (row ImportDecl.words (u.package ≠ "") u.imports ++
          row (TypeDecl.words style) (u.package ≠ "" ∨ u.imports ≠ []) u.types) := by
      simp [UnitDecl.words, hne]
    rw [hwords, spell_append, outcome_package _ hpackage]
    exact hafter (some u.package) []

/-- A printed unit is read as it was. -/
theorem read_words {u : UnitDecl} (h : u.Printable) : read (u.print style) = .ok (u.onLine 1) := by
  have htokens : tokens (u.print style) = some (spell .classic (u.words style)) :=
    (h.sound_words style).classic_tokens
  have hn : ∀ t ∈ u.types,
      (t.rest style).length ≤ 4 * (spell .classic (u.words style)).length + 8 :=
    fun t ht => length_rest_le_spell ht
  have hunit := outcome_compilationUnit h hn
  unfold outcome at hunit
  rw [read, htokens]
  simp only [hunit]

end JavaAtlas.Java.Classic
