import JavaAtlas.Proofs.ModernReads

/-! The members, types and units of current Java on printed declarations. -/

namespace JavaAtlas.Java.Modern

open Reader

variable (table : Table) {k : List Token}

/-! ### Members -/

theorem reads_noTypeDeclaration (start : Lead)
    (hk : Avoids ["class", "interface", "enum", "@", "record"] k) :
    Reads (typeDeclaration? table start true) k none k :=
  .bind (TypeReaders.reads_noDeclaration _ (hk.mono (by simp))
    (reads_noAnnotationType hk (by simp))) (.bind (.notNext hk (by simp)) .pure)

/-- A type is followed neither by a parenthesis nor by a brace. -/
theorem reads_notNameBefore (t : TypeSpec) {w : Word} (hw : IsIdentifier w.text) {mark : String}
    (hmark : mark ∈ ["(", leftBrace]) :
    Reads (nextNameBefore mark) (spell .modern (t.words true) ++ w.token .modern :: k) false
      (spell .modern (t.words true) ++ w.token .modern :: k) := by
  obtain ⟨first, tail, -, hspell, htail⟩ := exists_spell_type (g := .modern) t true
  have hsecond : Avoids ["(", leftBrace] (tail ++ w.token .modern :: k) :=
    htail (by decide) (by decide) (hw.avoids (by decide))
  rw [hspell]
  refine .sees (fits_second hsecond fun t ht => ?_)
  rwa [show t.text = mark by simpa [Token.is] using ht]

/-- A member of a class or an interface with a type, after its modifiers. -/
theorem reads_methodOrFields_field {f : FieldDecl} (h : f.Printable) {start : Lead}
    (hstart : start.modifiers = f.modifiers) :
    Reads (methodOrFields table start) (spell .modern (f.type.words true) ++
      (spaced f.name).token .modern :: (tight ";").token .modern :: k) { fields := [f] } k := by
  have hname : IsIdentifier (spaced f.name).text := h.name
  have hend : Avoids ["(", "[", "@", "=", ","] ((tight ";").token .modern :: k) :=
    Avoids.cons.mpr (by decide : ";" ∉ ["(", "[", "@", "=", ","])
  have hread : Reads (methodOrFields table start) (spell .modern (f.type.words true) ++
      (spaced f.name).token .modern :: (tight ";").token .modern :: k)
      { fields := [⟨f.name, ⟨f.type.name, f.type.dims + (0 : Nat)⟩, start.modifiers⟩] } k := by
    refine .bind (reads_type table (isWritten_of_printable h.type) true
      (hname.avoids (by decide))) (.bind (.identifier hname.isWord) ?_)
    refine .bind (.notNext hend (by simp)) ?_
    rw [Bool.and_false, if_neg (by simp)]
    exact .bind (reads_dimensions table 0 (hend.mono (by simp)))
      (.ifFalse (.notTry1 hend (by simp)) (.bind (.repeated .nil (.ifFalse
        (.notTry1 hend (by simp)) .pure)) (.bind (.expect rfl) .pure)))
  simpa [hstart] using hread

theorem reads_methodOrFields_method {m : MethodDecl} (h : m.Printable) (bodied : Bool)
    {t : TypeSpec} (ht : IsWritten t) (hreturns : m.returns = some t)
    (hcon : m.isConstructor = false) {start : Lead} (hstart : start.modifiers = m.modifiers) :
    Reads (methodOrFields table start) (spell .modern (t.words true) ++
      (spaced m.name).token .modern :: (spell .modern (m.rest bodied) ++ k)) (.ofMethod m) k := by
  have hname : IsIdentifier (spaced m.name).text := h.name
  have hline : m.name ≠ "_" := fun heq =>
    h.name.notMem (by decide : ["_"] ⊆ unnamed) (by simp [heq])
  refine .bind (reads_type table ht true (hname.avoids (by decide)))
    (.bind (.identifier hname.isWord) (.bind (.next rfl) ?_))
  rw [Bool.and_true, if_pos (by simpa using hline)]
  exact .bind (reads_methodRest table h bodied hreturns hcon hstart) .pure

theorem exists_written {m : MethodDecl} (h : m.Printable) (hcon : m.isConstructor = false) :
    ∃ t, m.returns = some t ∧ IsWritten t := by
  obtain ⟨t, hreturns, rfl | ht⟩ := h.returns hcon
  · exact ⟨_, hreturns, isWritten_void⟩
  · exact ⟨t, hreturns, isWritten_of_printable ht⟩

section Typed

variable {words : List String} {t : TypeSpec} {name : String} {m : Members} {rest : List Token}

/-- The modifiers in front of a member with a type. -/
theorem reads_lead_typed (rest : List Token) (hmods : AreModifiers words) (ht : IsWritten t)
    (hname : IsIdentifier name) :
    Reads (lead table) (spell .modern (words.map spaced) ++
      (spell .modern (t.words true) ++ (spaced name).token .modern :: rest)) ⟨some 1, words⟩
      (spell .modern (t.words true) ++ (spaced name).token .modern :: rest) := by
  have hword : IsIdentifier (spaced name).text := hname
  have hleading : AreModifiers ((words.map spaced).map Word.text) :=
    (map_text_spaced words).symm ▸ hmods
  have hhyphen : NoHyphen (spell .modern (t.words true) ++ (spaced name).token .modern :: rest) :=
    noHyphen_type t true (hword.avoids (by decide))
  have hread := reads_lead table hleading (avoids_written ht true (by decide) (by decide)) hhyphen
    (line_type t true)
  rwa [map_text_spaced] at hread

/-- A member with a type, where a constructor might stand. -/
theorem reads_classMember_typed (hmods : AreModifiers words) (ht : IsWritten t)
    (hname : IsIdentifier name)
    (h : Reads (methodOrFields table ⟨some 1, words⟩)
      (spell .modern (t.words true) ++ (spaced name).token .modern :: rest) m k) :
    Reads (classMember table) (spell .modern (words.map spaced) ++
      (spell .modern (t.words true) ++ (spaced name).token .modern :: rest)) m k := by
  have hword : IsIdentifier (spaced name).text := hname
  have hcore : Avoids ["class", "interface", "enum", "@", "record", "<"]
      (spell .modern (t.words true) ++ (spaced name).token .modern :: rest) :=
    avoids_written ht true (by decide) (by decide)
  refine .bind (reads_lead_typed table rest hmods ht hname) ?_
  exact .bind (reads_noTypeDeclaration table _ (hcore.mono (by simp)))
    (.ifFalse (.notNext hcore (by simp)) (.ifFalse (reads_notNameBefore t hword (by simp))
      (.ifFalse (reads_notNameBefore t hword (by simp)) h)))

theorem reads_interfaceMember_typed (hmods : AreModifiers words) (ht : IsWritten t)
    (hname : IsIdentifier name)
    (h : Reads (methodOrFields table ⟨some 1, words⟩)
      (spell .modern (t.words true) ++ (spaced name).token .modern :: rest) m k) :
    Reads (interfaceMember table) (spell .modern (words.map spaced) ++
      (spell .modern (t.words true) ++ (spaced name).token .modern :: rest)) m k := by
  have hcore : Avoids (memberWords.erase "void")
      (spell .modern (t.words true) ++ (spaced name).token .modern :: rest) :=
    avoids_written ht true (by decide) (by decide)
  have hstart : Avoids [";"] (spell .modern (words.map spaced) ++
      (spell .modern (t.words true) ++ (spaced name).token .modern :: rest)) :=
    avoids_modifiers ((map_text_spaced words).symm ▸ hmods) (by decide) (hcore.mono (by decide))
  refine .ifFalse (.notTry1 hstart (by simp)) (.bind (reads_lead_typed table rest hmods ht hname) ?_)
  exact .bind (reads_noTypeDeclaration table _ (hcore.mono (by decide)))
    (.ifFalse (.notNext hcore (by decide)) h)

end Typed

theorem reads_classMember_field {f : FieldDecl} (h : f.Printable) :
    Reads (classMember table) (spell .modern f.words ++ k) { fields := [f] } k := by
  rw [spell_field]
  exact reads_classMember_typed table h.modifiers (isWritten_of_printable h.type) h.name
    (reads_methodOrFields_field table h rfl)

theorem reads_classMember_constructor {m : MethodDecl} (h : m.Printable)
    (hcon : m.isConstructor = true) (bodied : Bool) :
    Reads (classMember table) (spell .modern (m.words bodied) ++ k) (.ofMethod m) k := by
  have hname : IsIdentifier (spaced m.name).text := h.name
  have hcore : Avoids ["class", "interface", "enum", "@", "record", "<"]
      ((spaced m.name).token .modern :: (spell .modern (m.rest bodied) ++ k)) :=
    hname.avoids (by decide)
  have hword : m.name ∉ typeWords := h.name.notMem (by decide)
  have hbefore : fits [Token.isWordExcept typeWords, Token.is "("]
      ((spaced m.name).token .modern :: (spell .modern (m.rest bodied) ++ k)) = true := by
    simp [fits, Token.isWordExcept, hname.isWord, hword, MethodDecl.rest, Token.is]
  have hleading : AreModifiers ((m.modifiers.map spaced).map Word.text) :=
    (map_text_spaced m.modifiers).symm ▸ h.modifiers
  have hsecond : Avoids ["-"] (spell .modern (m.rest bodied) ++ k) :=
    Avoids.cons.mpr (by decide : "(" ∉ ["-"])
  rw [spell_constructor (h.constructed hcon)]
  refine .bind (reads_lead table hleading (hname.avoids (by decide)) (noHyphen_second hsecond) rfl) ?_
  exact .bind (reads_noTypeDeclaration table _ (hcore.mono (by simp)))
    (.ifFalse (.notNext hcore (by simp)) (.ifTrue (.sees hbefore)
      (.bind (reads_constructor table h hcon bodied (map_text_spaced _)) .pure)))

theorem reads_classMember_method {m : MethodDecl} (h : m.Printable)
    (hcon : m.isConstructor = false) (bodied : Bool) :
    Reads (classMember table) (spell .modern (m.words bodied) ++ k) (.ofMethod m) k := by
  obtain ⟨t, hreturns, ht⟩ := exists_written h hcon
  rw [spell_method hreturns]
  exact reads_classMember_typed table h.modifiers ht h.name
    (reads_methodOrFields_method table h bodied ht hreturns hcon rfl)

theorem reads_interfaceMember_method {m : MethodDecl} (h : m.Printable)
    (hcon : m.isConstructor = false) (bodied : Bool) :
    Reads (interfaceMember table) (spell .modern (m.words bodied) ++ k) (.ofMethod m) k := by
  obtain ⟨t, hreturns, ht⟩ := exists_written h hcon
  rw [spell_method hreturns]
  exact reads_interfaceMember_typed table h.modifiers ht h.name
    (reads_methodOrFields_method table h bodied ht hreturns hcon rfl)

/-! ### Types -/

variable {style : Style} {t : TypeDecl}

/-- No modifier with a hyphen starts like the keyword of a type. -/
theorem noHyphen_keyword (h : t.Printable) (space : Bool) :
    NoHyphen ((⟨space, t.kind.word⟩ : Word).token .modern :: k) :=
  noHyphen_first (avoids_keyword h (by decide) space)

theorem reads_typeDeclaration? (hread : (typeReaders table).ReadsTypes .modern style [t])
    (records space : Bool) :
    Reads (typeDeclaration? table ⟨some 1, t.modifiers⟩ records)
      ((⟨space, t.kind.word⟩ : Word).token .modern :: (spell .modern (t.rest style) ++ k))
      (some (.ofType (t.onLine 1))) k :=
  .bind (hread t (by simp) space k) .pure

/-- The modifiers in front of a type. -/
theorem reads_lead_type (style : Style) {leading : List Word} (space : Bool) (h : t.Printable)
    (htexts : leading.map Word.text = t.modifiers) (hmods : AreModifiers (leading.map Word.text)) :
    Reads (lead table) (spell .modern leading ++
      (⟨space, t.kind.word⟩ : Word).token .modern :: (spell .modern (t.rest style) ++ k))
      ⟨some 1, t.modifiers⟩
      ((⟨space, t.kind.word⟩ : Word).token .modern :: (spell .modern (t.rest style) ++ k)) := by
  have hread := reads_lead table (k := _ :: (spell .modern (t.rest style) ++ k)) hmods
    (avoids_keyword h (by decide) space) (noHyphen_keyword h space) rfl
  rwa [htexts] at hread

theorem reads_classMember_type (hread : (typeReaders table).ReadsTypes .modern style [t])
    (h : t.Printable) :
    Reads (classMember table) (spell .modern (t.words style true) ++ k) (.ofType (t.onLine 1))
      k := by
  obtain ⟨leading, space, htexts, hmods, hspell⟩ := exists_spell_typeDecl style h true
  rw [hspell]
  exact .bind (reads_lead_type table style space h htexts hmods)
    (.bind (reads_typeDeclaration? table hread true space) .pure)

theorem reads_interfaceMember_type (hread : (typeReaders table).ReadsTypes .modern style [t])
    (h : t.Printable) :
    Reads (interfaceMember table) (spell .modern (t.words style true) ++ k)
      (.ofType (t.onLine 1)) k := by
  obtain ⟨leading, space, htexts, hmods, hspell⟩ := exists_spell_typeDecl style h true
  have hstart : Avoids [";"] (spell .modern leading ++
      (⟨space, t.kind.word⟩ : Word).token .modern :: (spell .modern (t.rest style) ++ k)) :=
    avoids_modifiers hmods (by decide) (avoids_keyword h (by decide) space)
  rw [hspell]
  exact .ifFalse (.notTry1 hstart (by simp)) (.bind (reads_lead_type table style space h htexts hmods)
    (.bind (reads_typeDeclaration? table hread true space) .pure))

theorem readsMembers (style : Style) :
    (bodyReaders table).ReadsMembers (typeReaders table) .modern style where
  field := reads_classMember_field table
  constructed := reads_classMember_constructor table
  method := reads_classMember_method table
  interfaceMethod := reads_interfaceMember_method table
  type h hread := reads_classMember_type table hread h
  interfaceType h hread := reads_interfaceMember_type table hread h

theorem reads_superclassClause {superclass : Option TypeSpec}
    (h : ∀ s ∈ superclass, s.IsReference) (hk : Avoids ("extends" :: typeMarks) k) :
    Reads (superclassClause table)
      (spell .modern (superclass.toList.flatMap fun s => spaced "extends" :: s.words true) ++ k)
      superclass k := by
  cases superclass with
  | none => exact .ifFalse (.notTry1 hk (by simp)) .pure
  | some s =>
    have htype := reads_annotatedType table (isWritten_of_printable (h s rfl).printable) true
      (hk.mono (List.subset_cons_self _ _))
    rw [Option.toList_some, List.flatMap_singleton]
    exact .ifTrue (.try1 rfl) (.bind (reads_leadingComments_type s true) (.bind htype .pure))

theorem reads_noPermits (hk : Avoids ["permits"] k) : Reads (permitsClause table) k () k :=
  .bind (.ifFalse (.notTry1 hk (by simp)) .pure) .pure

theorem readsHeaders : (typeReaders table).ReadsHeaders .modern where
  superclass := reads_superclassClause table
  typesAfter := reads_typesAfter table
  clauses := reads_noPermits table

theorem readsTypes {n : Nat} (h : t.Printable) (hn : (t.rest style).length ≤ n) :
    (typeReaders (phrases n)).ReadsTypes .modern style [t] :=
  TypeReaders.reads_declaration? (fun n => typeReaders (phrases n)) (fun _ => readsHeaders _)
    (fun _ => readsMembers _ style) (fun _ => rfl) h hn

/-! ### Units -/

theorem reads_importDeclaration {i : ImportDecl} (h : IsDotted i.name) (space : Bool) :
    Reads importDeclaration (spell .modern (i.words space) ++ k) i k := by
  obtain ⟨first, more, hsegments, hdotted⟩ := dotted_eq i.name
  have hfirst : IsIdentifier (spaced first).text := h first (by simp [hsegments])
  have hstatic : Avoids ["static"] (spell .modern (dotted true i.name) ++
      (spell .modern (if i.onDemand then [tight ".", tight "*"] else []) ++
        (tight ";").token .modern :: k)) := by
    rw [hdotted]
    exact hfirst.avoids (by decide)
  simp only [ImportDecl.words, spell_cons, spell_append, spell_nil, List.cons_append,
    List.append_assoc, List.nil_append]
  refine .bind (.expect rfl) (.bind (reads_static i.isStatic hstatic) ?_)
  obtain ⟨name, isStatic, onDemand⟩ := i
  cases onDemand with
  | true =>
    have hstar : fits [Token.is ".", Token.isWord] ((tight ".").token .modern ::
        (tight "*").token .modern :: (tight ";").token .modern :: k) = false := by
      simp [fits, isWord_mark (w := tight "*") (by decide)]
    exact .bind (reads_nameText h true hstar) (.bind (.tryAll rfl rfl) (.bind (.expect rfl) .pure))
  | false =>
    have hend : Avoids ["."] ((tight ";").token .modern :: k) := by simp
    exact .bind (reads_nameText h true (hend.fits (by simp [Token.is])))
      (.bind (.notTryAll hend (by simp)) (.bind (.expect rfl) .pure))

theorem reads_packageDeclaration {name : String} (h : IsDotted name) (space : Bool) :
    Reads (packageDeclaration table)
      (spell .modern (⟨space, "package"⟩ :: (dotted true name ++ [tight ";"])) ++ k) name k := by
  have hat : Avoids ["@"] ((⟨space, "package"⟩ : Word).token .modern ::
      (spell .modern (dotted true name) ++ (tight ";").token .modern :: k)) :=
    Avoids.cons.mpr (by decide : "package" ∉ ["@"])
  have hend : Avoids ["."] ((tight ";").token .modern :: k) := by simp
  simp only [spell_cons, spell_append, spell_nil, List.cons_append, List.append_assoc,
    List.nil_append]
  exact .bind (reads_annotations table hat (by simp)) (.bind (.expect rfl)
    (.bind (reads_nameText h true (hend.fits (by simp [Token.is]))) (.bind (.expect rfl) .pure)))

theorem reads_part_import {i : ImportDecl} (h : IsDotted i.name) (space : Bool) :
    Reads (part table true) (spell .modern (i.words space) ++ k) (.imported i) k :=
  .ifTrue (.next rfl) (.bind (reads_importDeclaration h space) .pure)

theorem reads_part_package {name : String} (h : IsDotted name) (space : Bool) :
    Reads (part table true)
      (spell .modern (⟨space, "package"⟩ :: (dotted true name ++ [tight ";"])) ++ k)
      (.package name) k := by
  have hword : Avoids ["import"] (spell .modern (⟨space, "package"⟩ ::
      (dotted true name ++ [tight ";"])) ++ k) :=
    Avoids.cons.mpr (by decide : "package" ∉ ["import"])
  exact .ifFalse (.notNext hword (by simp)) (.ifTrue (.next rfl)
    (.bind (reads_packageDeclaration table h space) .pure))

/-- The words that start a declaration of a type. -/
def typeStarts : List String := sharedModifiers ++ ["class", "interface"]

theorem exists_typeStart (style : Style) (h : t.Printable) (space : Bool) :
    ∃ (w : Word) (rest : List Token), w.text ∈ typeStarts ∧
      spell .modern (t.words style space) ++ k = w.token .modern :: rest := by
  obtain ⟨leading, s, htexts, hmods, hspell⟩ := exists_spell_typeDecl (k := k) style h space
  rw [hspell]
  cases leading with
  | nil =>
    refine ⟨⟨s, t.kind.word⟩, _, ?_, rfl⟩
    rcases kind_of_printable h with hkind | hkind <;> simp [hkind, TypeKind.word, typeStarts]
  | cons w leading => exact ⟨w, _, List.mem_append_left _ (hmods.subset (by simp)), rfl⟩

/-- No statement starts where a type does. -/
theorem reads_noStatement {w : Word} (hw : w.text ∈ typeStarts) :
    Reads (keywordStatement? table) (w.token .modern :: k) false (w.token .modern :: k) := by
  have havoids : Avoids [leftBrace, ";", "if", "while", "for", "do", "assert", "break", "continue",
      "return", "throw", "switch", "synchronized", "try"] (w.token .modern :: k) :=
    Avoids.cons.mpr ((by decide : ∀ s ∈ typeStarts, s ∉ [leftBrace, ";", "if", "while", "for",
      "do", "assert", "break", "continue", "return", "throw", "switch", "synchronized", "try"]) _ hw)
  have hword : w.text ∈ statementWords := (by decide : typeStarts ⊆ statementWords) hw
  have hlabel : fits [Token.isWordExcept statementWords, Token.is ":"] (w.token .modern :: k) =
      false := by
    simp [fits, Token.isWordExcept, hword]
  exact .ifFalse (.notNext havoids (by simp)) (.ifFalse (.notTry1 havoids (by simp))
    (.ifFalse (.sees hlabel) (.ifFalse (.notTry1 havoids (by simp))
    (.ifFalse (.notTry1 havoids (by simp)) (.ifFalse (.notTry1 havoids (by simp))
    (.ifFalse (.notTry1 havoids (by simp)) (.ifFalse (.notTry1 havoids (by simp))
    (.ifFalse (.notTry1 havoids (by simp)) (.ifFalse (.notTry1 havoids (by simp))
    (.ifFalse (.notTry1 havoids (by simp)) (.ifFalse (.notTry1 havoids (by simp))
    (.ifFalse (.notNext havoids (by simp)) (.ifFalse (.notNextAll havoids (by simp))
    (.ifFalse (.notTry1 havoids (by simp)) .pure))))))))))))))

theorem reads_nextModifiers {leading : List Word} (h : AreModifiers (leading.map Word.text))
    (hk : Avoids modifierWords k) (hhyphen : NoHyphen k) :
    Reads (nextModifiers true) (spell .modern leading ++ k) (!leading.isEmpty)
      (spell .modern leading ++ k) := by
  have hsealed : Avoids ["sealed"] (spell .modern leading ++ k) :=
    avoids_modifiers h (by decide) (hk.mono (by decide))
  refine .ifFalse (.notNext hsealed (by simp)) ?_
  cases leading with
  | nil => exact .bind (.notNextIn hk (List.Subset.refl _)) (.bind (.sees hhyphen) .pure)
  | cons w leading =>
    have hword : w.text ∈ modifierWords :=
      (by decide : sharedModifiers ⊆ modifierWords) (h.subset (by simp))
    have hin : fits [fun t => modifierWords.contains t.text]
        (spell .modern (w :: leading) ++ k) = true := by
      simp [fits, hword]
    exact .bind (.sees hin) (.bind (.sees rfl) .pure)

/-- A type is the part of a unit that starts with its modifiers or its keyword. -/
theorem reads_part_type {n : Nat} (h : t.Printable) (hn : (t.rest style).length ≤ n)
    (space : Bool) :
    Reads (part (phrases n) true) (spell .modern (t.words style space) ++ k)
      (.declared (.ofType (t.onLine 1))) k := by
  obtain ⟨w, rest, hw, hstart⟩ := exists_typeStart style (k := k) h space
  have havoids : Avoids ["import", "package", "@", "open", "module", "record"]
      (w.token .modern :: rest) :=
    Avoids.cons.mpr ((by decide : ∀ s ∈ typeStarts,
      s ∉ ["import", "package", "@", "open", "module", "record"]) _ hw)
  have hmodule : Reads nextModule (w.token .modern :: rest) false (w.token .modern :: rest) :=
    .bind (.notNextAll havoids (by simp)) (.bind (.sees ((havoids.mono (by simp) :
      Avoids ["module"] _).fits (by simp [Token.is]))) .pure)
  have hrecord : fits [Token.is "record", Token.isWordExcept ["instanceof"]]
      (w.token .modern :: rest) = false :=
    (havoids.mono (by simp) : Avoids ["record"] _).fits (by simp [Token.is])
  rw [hstart]
  -- No other part of a unit starts like a type, so every test for one fails.
  refine .ifFalse (.notNext havoids (by simp)) (.ifFalse (.notNext havoids (by simp)) ?_)
  refine .bind (.notNext havoids (by simp)) (.bind (reads_noAnnotationType havoids (by simp)) ?_)
  refine .ifFalse hmodule (.ifFalse (reads_noStatement _ hw) ?_)
  obtain ⟨leading, s, htexts, hmods, hspell⟩ := exists_spell_typeDecl (k := k) style h space
  have hhyphen := noHyphen_keyword (k := spell .modern (t.rest style) ++ k) h s
  have hmodifiers := reads_nextModifiers hmods (avoids_keyword h (by decide) s) hhyphen
  have hlead := reads_lead_type (phrases n) (k := k) style s h htexts hmods
  have hdecl := fun records => reads_typeDeclaration? (k := k) _ (readsTypes h hn) records s
  rw [← hspell, hstart] at hmodifiers hlead
  cases leading with
  | nil =>
    have hcore : w.token .modern :: rest = (⟨s, t.kind.word⟩ : Word).token .modern ::
        (spell .modern (t.rest style) ++ k) := hstart.symm.trans hspell
    refine .ifFalse hmodifiers (.bind (.look 0) (.bind (.sees hrecord) ?_))
    rw [← htexts, ← hcore] at hdecl
    exact .bind (hdecl false) .pure
  | cons v leading =>
    exact .ifTrue hmodifiers (.bind (.bind hlead (.bind (hdecl true) .pure)) .pure)

/-- The parts of a unit. -/
def partStep (table : Table) : Reader (Option UnitPart) := do
  if (← ahead).isEmpty then return none else return some (← part table true)

theorem reads_partStep {ts : List Token} {p : UnitPart} (hts : ts ≠ [])
    (h : Reads (part table true) ts p k) : Reads (partStep table) ts (some p) k := by
  refine .bind .ahead ?_
  rw [if_neg (by simpa using hts)]
  exact .bind h .pure

theorem repeats_package {name : String} (h : name = "" ∨ IsDotted name) :
    Repeats (partStep table) (spell .modern (if name = "" then [] else
        tight "package" :: dotted true name ++ [tight ";"]) ++ k)
      (if name = "" then [] else [.package name]) k := by
  by_cases hempty : name = ""
  · rw [if_pos hempty, if_pos hempty]
    exact .nil
  · rw [if_neg hempty, if_neg hempty]
    have hpackage := reads_part_package table (k := k) (h.resolve_left hempty) false
    exact .cons (reads_partStep table (by simp) hpackage) (by simp; omega) .nil

theorem repeats_imports {imports : List ImportDecl} (h : ∀ i ∈ imports, IsDotted i.name)
    (space : Bool) :
    Repeats (partStep table) (spell .modern (row ImportDecl.words space imports) ++ k)
      (imports.map .imported) k := by
  have hstep : ∀ i ∈ imports, ∀ space k,
      Reads (partStep table) (spell .modern (i.words space) ++ k) (some (.imported i)) k :=
    fun i hi space k => reads_partStep table (by simp [ImportDecl.words])
      (reads_part_import table (h i hi) space)
  exact repeats_row hstep (by simp [ImportDecl.words]) space

theorem repeats_types {types : List TypeDecl} (h : ∀ t ∈ types, t.Printable) {n : Nat}
    (hn : ∀ t ∈ types, (t.rest style).length ≤ n) (space : Bool) :
    Repeats (partStep (phrases n)) (spell .modern (row (TypeDecl.words style) space types) ++ k)
      (types.map fun t => .declared (.ofType (t.onLine 1))) k := by
  have hstep : ∀ t ∈ types, ∀ space k, Reads (partStep (phrases n))
      (spell .modern (t.words style space) ++ k) (some (.declared (.ofType (t.onLine 1)))) k :=
    fun t ht space k => reads_partStep _ (by simp [TypeDecl.words_eq, TypeDecl.rest])
      (reads_part_type (h t ht) (hn t ht) space)
  exact repeats_row hstep (by simp [TypeDecl.words_eq, TypeDecl.rest]) space

/-- The parts of a printed unit. -/
def unitParts (u : UnitDecl) : List UnitPart :=
  (if u.package = "" then [] else [.package u.package]) ++
    u.imports.map .imported ++ u.types.map fun t => .declared (.ofType (t.onLine 1))

namespace UnitPart

@[simp] def package? : UnitPart → Option String
  | .package name => some name
  | _ => none

@[simp] def import? : UnitPart → Option ImportDecl
  | .imported i => some i
  | _ => none

@[simp] def types : UnitPart → List TypeDecl
  | .declared m => m.types
  | _ => []

end UnitPart

/-- The unit that is made of parts. -/
def unitOf (parts : List UnitPart) : UnitDecl :=
  { package := (parts.filterMap UnitPart.package?).getLastD ""
    imports := parts.filterMap UnitPart.import?
    types := (parts.map UnitPart.types).flatten }

/-- A unit is made of the parts of its text. -/
theorem compilationUnit_eq (table : Table) :
    compilationUnit table = do return unitOf (← repeated (partStep table)) := rfl

theorem unitOf_unitParts (u : UnitDecl) : unitOf (unitParts u) = u.onLine 1 := by
  have htypes : (u.types.map fun t => (Members.ofType (t.onLine 1)).types).flatten =
      u.types.map (TypeDecl.onLine 1) := by
    show (u.types.map fun t => [t.onLine 1]).flatten = _
    rw [← List.flatMap_def, ← List.map_eq_flatMap]
  unfold unitOf unitParts UnitDecl.onLine
  split
  · simp_all [List.filterMap_map, Function.comp_def]
  · simp_all [List.filterMap_map, List.filterMap_cons, Function.comp_def]

/-- The parts of a printed unit give it back. -/
theorem reads_compilationUnit {u : UnitDecl} (h : u.Printable) {n : Nat}
    (hn : ∀ t ∈ u.types, (t.rest style).length ≤ n) :
    Reads (compilationUnit (phrases n)) (spell .modern (u.words style)) (u.onLine 1) [] := by
  have hparts := ((repeats_package (phrases n) h.package).append
    (repeats_imports (phrases n) h.imports (u.package ≠ ""))).append
      (repeats_types (k := []) h.types hn (u.package ≠ "" ∨ u.imports ≠ []))
  rw [List.append_nil, ← spell_append, ← spell_append, ← List.append_assoc] at hparts
  rw [← unitOf_unitParts, compilationUnit_eq]
  exact .bind (.repeated hparts (.bind .ahead .pure)) .pure

/-- A printed unit is read as it was. -/
theorem read_words {u : UnitDecl} (h : u.Printable) :
    read (u.print style) = some (u.onLine 1) := by
  have htokens : tokens (u.print style) = some (spell .modern (u.words style)) :=
    (h.sound_words style).modern_tokens
  have hn : ∀ t ∈ u.types,
      (t.rest style).length ≤ 4 * (spell .modern (u.words style)).length + 8 :=
    fun t ht => length_rest_le_spell ht
  have hunit := reads_compilationUnit h hn []
  unfold outcome at hunit
  rw [read, htokens]
  simp only [hunit]

end JavaAtlas.Java.Modern
