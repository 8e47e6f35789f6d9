import JavaAtlas.Java.Body
import JavaAtlas.Proofs.Spelling

/-! Printed types in the readers that both grammars share. `TypeReaders.ReadsHeaders` and
`BodyReaders.ReadsMembers` say what a grammar has to read by itself: the clauses of a header and the
members of a body. From these, `reads_declaration?` reads types of any depth, by induction on the
levels of nesting. -/

namespace JavaAtlas

open Java Reader

/-- The body of a type in braces, in front of other tokens. -/
def TypeDecl.bracedBody (g : Grammar) (style : Style) (t : TypeDecl) (k : List Token) :
    List Token :=
  (spaced leftBrace).token g :: (spell g (t.body style) ++ (spaced rightBrace).token g :: k)

/-- What is reported for the body of a type. -/
def TypeDecl.membersOnLine (t : TypeDecl) (line : Int) : Members :=
  ⟨t.fields, t.methods, t.nested.map (onLine line)⟩

namespace Java

variable {g : Grammar} {k : List Token} {style : Style} {t : TypeDecl}

/-! ### Bodies -/

namespace Members

theorem concat_append (a b : List Members) : concat (a ++ b) = concat a ++ concat b := by
  induction a with
  | nil => rfl
  | cons m a ih =>
    have hcons : ∀ parts, concat (m :: parts) = m ++ concat parts := fun _ => rfl
    rw [List.cons_append, hcons, hcons, ih]
    show append _ (append _ _) = append (append _ _) _
    simp [append]

/-- The members of a body that declares one after the other. -/
theorem concat_parts (fields : List FieldDecl) (methods : List MethodDecl)
    (types : List TypeDecl) :
    concat (fields.map (fun f => { fields := [f] }) ++ (methods.map ofMethod ++
      types.map ofType)) = ⟨fields, methods, types⟩ := by
  have hfields : concat (fields.map fun f => { fields := [f] }) = ⟨fields, [], []⟩ := by
    induction fields with
    | nil => rfl
    | cons f fields ih =>
      show append _ (concat _) = _
      rw [ih]
      rfl
  have hmethods : concat (methods.map ofMethod) = ⟨[], methods, []⟩ := by
    induction methods with
    | nil => rfl
    | cons m methods ih =>
      show append _ (concat _) = _
      rw [ih]
      rfl
  have htypes : concat (types.map ofType) = ⟨[], [], types⟩ := by
    induction types with
    | nil => rfl
    | cons t types ih =>
      show append _ (concat _) = _
      rw [ih]
      rfl
  rw [concat_append, concat_append, hfields, hmethods, htypes]
  show append _ (append _ _) = _
  simp [append]

end Members

section Body

variable {part : Reader Members}

/-- The step of the loop over the members of a body. -/
def memberStep (part : Reader Members) : Reader (Option Members) := do
  if ← next rightBrace then return none else return some (← part)

/-- No member starts with the brace that closes a body, so the loop goes on at each of them. -/
theorem reads_memberStep {ts : List Token} {leading : List Word} {core : List Token} {m : Members}
    (hspell : ts = spell g leading ++ core) (hmods : AreModifiers (leading.map Word.text))
    (hcore : Avoids [rightBrace] core) (h : Reads part ts m k) :
    Reads (memberStep part) ts (some m) k := by
  subst hspell
  exact .ifFalse (.notNext (avoids_modifiers hmods (by decide) hcore) (by simp)) (.bind h .pure)

theorem repeats_fields {fields : List FieldDecl} (hfields : ∀ f ∈ fields, f.Printable)
    (h : ∀ f ∈ fields, ∀ k, Reads part (spell g f.words ++ k) { fields := [f] } k) :
    Repeats (memberStep part) (spell g (fields.flatMap FieldDecl.words) ++ k)
      (fields.map fun f => { fields := [f] }) k := by
  rw [spell_flatMap]
  refine .each (fun f hf k => ?_) (by simp [FieldDecl.words])
  obtain ⟨core, hspell, hcore⟩ := field_spell (g := g) (k := k) (hfields f hf)
  exact reads_memberStep hspell ((map_text_spaced _).symm ▸ (hfields f hf).modifiers)
    (hcore.mono (by decide)) (h f hf k)

theorem repeats_methods {methods : List MethodDecl} (hmethods : ∀ m ∈ methods, m.Printable)
    (bodied : MethodDecl → Bool)
    (h : ∀ m ∈ methods, ∀ k, Reads part (spell g (m.words (bodied m)) ++ k) (.ofMethod m) k) :
    Repeats (memberStep part) (spell g (methods.flatMap fun m => m.words (bodied m)) ++ k)
      (methods.map Members.ofMethod) k := by
  rw [spell_flatMap]
  refine .each (fun m hm k => ?_) (by simp [MethodDecl.words])
  obtain ⟨core, hspell, hcore⟩ := method_spell (g := g) (k := k) (hmethods m hm) (bodied m)
  exact reads_memberStep hspell ((map_text_spaced _).symm ▸ (hmethods m hm).modifiers)
    (hcore.mono (by decide)) (h m hm k)

theorem repeats_types {types : List TypeDecl} (htypes : ∀ n ∈ types, n.Printable)
    (h : ∀ n ∈ types, ∀ k, Reads part (spell g (n.words style true) ++ k) (.ofType (n.onLine 1)) k) :
    Repeats (memberStep part) (spell g (types.flatMap (TypeDecl.words style true)) ++ k)
      (types.map fun n => Members.ofType (n.onLine 1)) k := by
  rw [spell_flatMap]
  refine .each (fun n hn k => ?_) (by simp [TypeDecl.words_eq, TypeDecl.rest])
  obtain ⟨leading, core, hmods, hspell, hcore⟩ := type_spell (g := g) style (k := k) (htypes n hn)
  exact reads_memberStep hspell hmods (hcore.mono (by decide)) (h n hn k)

/-- A body whose members are read one after the other. -/
theorem reads_braced (hfields : ∀ f ∈ t.fields, f.Printable) (hmethods : ∀ m ∈ t.methods, m.Printable)
    (hnested : ∀ n ∈ t.nested, n.Printable)
    (hfield : ∀ f ∈ t.fields, ∀ k, Reads part (spell g f.words ++ k) { fields := [f] } k)
    (hmethod : ∀ m ∈ t.methods, ∀ k,
      Reads part (spell g (m.words (style t.kind m)) ++ k) (.ofMethod m) k)
    (htype : ∀ n ∈ t.nested, ∀ k,
      Reads part (spell g (n.words style true) ++ k) (.ofType (n.onLine 1)) k) :
    Reads (braced part) (t.bracedBody g style k) (t.membersOnLine 1) k := by
  have hparts := (repeats_fields hfields hfield).append
    ((repeats_methods hmethods (style t.kind) hmethod).append
      (repeats_types (k := (spaced rightBrace).token g :: k) hnested htype))
  have hconcat := Members.concat_parts t.fields t.methods (t.nested.map (TypeDecl.onLine 1))
  rw [List.map_map] at hconcat
  rw [TypeDecl.membersOnLine, ← hconcat, TypeDecl.bracedBody, TypeDecl.body]
  simp only [spell_append, List.append_assoc]
  exact .bind (.expect rfl) (.bind (.untilNext hparts rfl) (.bind (.expect rfl) .pure))

end Body

/-! ### Bodies of classes and interfaces -/

/-- The readers find the words of declared types, each after its modifiers. -/
def TypeReaders.ReadsTypes (r : TypeReaders) (g : Grammar) (style : Style) (ts : List TypeDecl) :
    Prop :=
  ∀ t ∈ ts, ∀ space k, Reads (r.declaration? ⟨some 1, t.modifiers⟩)
    ((⟨space, t.kind.word⟩ : Word).token g :: (spell g (t.rest style) ++ k)) (some (t.onLine 1)) k

/-- The readers of members read printed ones, as far as the types among them are read. -/
structure BodyReaders.ReadsMembers (r : BodyReaders) (types : TypeReaders) (g : Grammar)
    (style : Style) : Prop where
  field : ∀ {f : FieldDecl} {k}, f.Printable →
    Reads r.classMember (spell g f.words ++ k) { fields := [f] } k
  constructed : ∀ {m : MethodDecl} {k}, m.Printable → m.isConstructor = true → ∀ bodied,
    Reads r.classMember (spell g (m.words bodied) ++ k) (.ofMethod m) k
  method : ∀ {m : MethodDecl} {k}, m.Printable → m.isConstructor = false → ∀ bodied,
    Reads r.classMember (spell g (m.words bodied) ++ k) (.ofMethod m) k
  interfaceMethod : ∀ {m : MethodDecl} {k}, m.Printable → m.isConstructor = false → ∀ bodied,
    Reads r.interfaceMember (spell g (m.words bodied) ++ k) (.ofMethod m) k
  type : ∀ {t : TypeDecl} {k}, t.Printable → types.ReadsTypes g style [t] →
    Reads r.classMember (spell g (t.words style true) ++ k) (.ofType (t.onLine 1)) k
  interfaceType : ∀ {t : TypeDecl} {k}, t.Printable → types.ReadsTypes g style [t] →
    Reads r.interfaceMember (spell g (t.words style true) ++ k) (.ofType (t.onLine 1)) k

namespace BodyReaders

variable {r : BodyReaders} {types : TypeReaders}

/-- A member of a class starts with its modifiers, so it is neither a semicolon nor a block. -/
theorem reads_classPart {ts : List Token} {leading : List Word} {core : List Token} {m : Members}
    (hspell : ts = spell g leading ++ core) (hmods : AreModifiers (leading.map Word.text))
    (hcore : Avoids ["static", ";", leftBrace] core) (h : Reads r.classMember ts m k) :
    Reads r.classPart ts m k := by
  subst hspell
  have hstart : Avoids [";", leftBrace] (spell g leading ++ core) :=
    avoids_modifiers hmods (by decide) (hcore.mono (by simp))
  have hstatic := fits_static (g := g) hmods (hcore.mono (by simp))
  exact .ifFalse (.notTry1 hstart (by simp)) (.ifFalse (.sees hstatic)
    (.ifFalse (.notNext hstart (by simp)) h))

namespace ReadsMembers

variable (h : r.ReadsMembers types g style)

include h

theorem reads_classBody (hread : types.ReadsTypes g style t.nested)
    (hfields : ∀ f ∈ t.fields, f.Printable) (hmethods : ∀ m ∈ t.methods, m.Printable)
    (hnested : ∀ n ∈ t.nested, n.Printable) :
    Reads (r.body .ofClass) (t.bracedBody g style k) (t.membersOnLine 1) k := by
  refine reads_braced hfields hmethods hnested (fun f hf k => ?_) (fun m hm k => ?_) fun n hn k => ?_
  · obtain ⟨core, hspell, hcore⟩ := field_spell (g := g) (k := k) (hfields f hf)
    exact reads_classPart hspell ((map_text_spaced _).symm ▸ (hfields f hf).modifiers)
      (hcore.mono (by decide)) (h.field (hfields f hf))
  · obtain ⟨core, hspell, hcore⟩ := method_spell (g := g) (k := k) (hmethods m hm) (style t.kind m)
    refine reads_classPart hspell ((map_text_spaced _).symm ▸ (hmethods m hm).modifiers)
      (hcore.mono (by decide)) ?_
    cases hcon : m.isConstructor with
    | true => exact h.constructed (hmethods m hm) hcon _
    | false => exact h.method (hmethods m hm) hcon _
  · obtain ⟨leading, core, hmods, hspell, hcore⟩ := type_spell (g := g) style (k := k) (hnested n hn)
    exact reads_classPart hspell hmods (hcore.mono (by decide))
      (h.type (hnested n hn) fun n' hn' => hread n' (by simp_all))

theorem reads_interfaceBody (hread : types.ReadsTypes g style t.nested) (hfields : t.fields = [])
    (hmethods : ∀ m ∈ t.methods, m.Printable ∧ m.isConstructor = false)
    (hnested : ∀ n ∈ t.nested, n.Printable) :
    Reads (r.body .ofInterface) (t.bracedBody g style k) (t.membersOnLine 1) k := by
  refine reads_braced (by simp [hfields]) (fun m hm => (hmethods m hm).1) hnested (by simp [hfields])
    (fun m hm k => ?_) fun n hn k => ?_
  · exact h.interfaceMethod (hmethods m hm).1 (hmethods m hm).2 _
  · exact h.interfaceType (hnested n hn) fun n' hn' => hread n' (by simp_all)

end ReadsMembers

end BodyReaders

/-! ### Declarations -/

namespace TypeReaders

variable {r : TypeReaders}

/-- No type declaration starts where a member of another sort does. -/
theorem reads_noDeclaration (lead : Lead) (hk : Avoids ["class", "interface", "enum"] k)
    (hmark : Reads r.nextAnnotationType k false k) : Reads (r.declaration? lead) k none k :=
  .ifFalse (.notNext hk (by simp)) (.ifFalse (.notNext hk (by simp))
    (.ifFalse (.notNext hk (by simp)) (.ifFalse hmark .pure)))

/-- The readers of the clauses of a header read printed ones. -/
structure ReadsHeaders (r : TypeReaders) (g : Grammar) : Prop where
  superclass : ∀ {s : Option TypeSpec} {k}, (∀ t ∈ s, t.IsReference) →
    Avoids ("extends" :: typeMarks) k →
    Reads r.superclass (spell g (s.toList.flatMap fun t => spaced "extends" :: t.words true) ++ k) s k
  typesAfter : ∀ {keyword : String} {ts : List TypeSpec} {k}, (∀ t ∈ ts, t.IsReference) →
    Avoids (keyword :: "," :: typeMarks) k →
    Reads (r.typesAfter keyword) (spell g (TypeSpec.clause keyword ts) ++ k) ts k
  clauses : ∀ {k}, Avoids ["permits"] k → Reads r.clauses k () k

/-- The tokens that the readers of a header look for after its name. -/
def headerMarks : List String := "implements" :: "," :: "<" :: "extends" :: "permits" :: typeMarks

theorem avoids_bracedBody : Avoids headerMarks (t.bracedBody g style k) :=
  Avoids.cons.mpr (by decide : leftBrace ∉ headerMarks)

namespace ReadsHeaders

variable (h : r.ReadsHeaders g)

include h

theorem reads_classDeclaration (ht : t.Printable) (hkind : t.kind = .classType)
    (hbody : Reads (r.body .ofClass) (t.bracedBody g style k) (t.membersOnLine 1) k)
    (space : Bool) :
    Reads (r.classDeclaration ⟨some 1, t.modifiers⟩)
      ((⟨space, "class"⟩ : Word).token g :: (spell g (t.rest style) ++ k)) (t.onLine 1) k := by
  cases ht with
  | intro kind name modifiers superclass interfaces =>
    have hname : IsIdentifier (spaced t.name).text := name
    have hvalue : typeOf .classType t.name ⟨some 1, t.modifiers⟩ t.superclass t.interfaces
        (t.membersOnLine 1) = t.onLine 1 := by
      rw [TypeDecl.onLine_eq, typeOf, ← hkind]
      rfl
    have hbrace : Avoids headerMarks (t.bracedBody g style k) := avoids_bracedBody
    have hclause := avoids_clause (g := g) (by decide : "implements" ∉ "<" :: "extends" ::
      typeMarks) t.interfaces (hbrace.mono (by decide))
    have hangle := avoids_extends (g := g) t.superclass (by decide : "extends" ∉ ["<"])
      (hclause.mono (by simp))
    rw [← hvalue, spell_rest, hkind]
    refine .bind (.expect rfl) (.bind (.identifier hname.isWord)
      (.ifFalse (.notNext hangle (by simp)) ?_))
    refine .bind (h.superclass superclass (hclause.mono (List.subset_cons_self _ _))) ?_
    exact .bind (h.typesAfter interfaces (hbrace.mono (by decide)))
      (.bind (h.clauses (hbrace.mono (by decide))) (.bind hbody .pure))

theorem reads_interfaceDeclaration (ht : t.Printable) (hkind : t.kind = .interfaceType)
    (hbody : Reads (r.body .ofInterface) (t.bracedBody g style k) (t.membersOnLine 1) k)
    (space : Bool) :
    Reads (r.interfaceDeclaration ⟨some 1, t.modifiers⟩)
      ((⟨space, "interface"⟩ : Word).token g :: (spell g (t.rest style) ++ k)) (t.onLine 1) k := by
  cases ht with
  | intro kind name modifiers superclass interfaces _ _ abstract =>
    have hname : IsIdentifier (spaced t.name).text := name
    have hsuper := (abstract hkind).1
    have hvalue : typeOf .interfaceType t.name ⟨some 1, t.modifiers⟩ none t.interfaces
        (t.membersOnLine 1) = t.onLine 1 := by
      rw [TypeDecl.onLine_eq, typeOf, ← hkind, ← hsuper]
      rfl
    have hbrace : Avoids headerMarks (t.bracedBody g style k) := avoids_bracedBody
    have hclause := avoids_clause (g := g) (by decide : "extends" ∉ ["<"]) t.interfaces
      (hbrace.mono (by decide))
    rw [← hvalue, spell_rest, hkind, hsuper]
    refine .bind (.expect rfl) (.bind (.identifier hname.isWord)
      (.ifFalse (.notNext hclause (by simp)) ?_))
    exact .bind (h.typesAfter interfaces (hbrace.mono (by decide)))
      (.bind (h.clauses (hbrace.mono (by decide))) (.bind hbody .pure))

end ReadsHeaders

/-- A type is read wherever there is a level of nesting for each of its words. -/
theorem reads_declaration? (types : Nat → TypeReaders) {bodies : Nat → BodyReaders}
    (hheaders : ∀ n, (types n).ReadsHeaders g)
    (hmembers : ∀ n, (bodies n).ReadsMembers (types n) g style)
    (hbodies : ∀ n, (types (n + 1)).body = (bodies n).body) {n : Nat} (h : t.Printable)
    (hn : (t.rest style).length ≤ n) : (types n).ReadsTypes g style [t] := by
  simp only [ReadsTypes, List.mem_singleton, forall_eq]
  intro space k
  induction n generalizing t space k with
  | zero => simp [TypeDecl.rest] at hn
  | succ n ih =>
    have h' := h
    cases h' with
    | intro kind name modifiers superclass interfaces fields methods abstract nested =>
      have hread : (types n).ReadsTypes g style t.nested := by
        intro s hs space k
        have hlength : (s.rest style).length < (t.rest style).length := length_rest_lt hs
        exact ih (nested s hs) (by omega) space k
      rcases kind with hkind | hkind
      · have hbody := (hmembers n).reads_classBody (k := k) hread fields methods nested
        rw [← hbodies] at hbody
        have hdecl := (hheaders (n + 1)).reads_classDeclaration h hkind hbody space
        rw [hkind]
        exact .ifTrue (.next rfl) (.bind hdecl .pure)
      · obtain ⟨-, hfields, hconstructors⟩ := abstract hkind
        have hbody := (hmembers n).reads_interfaceBody (k := k) hread hfields
          (fun m hm => ⟨methods m hm, hconstructors m hm⟩) nested
        rw [← hbodies] at hbody
        have hdecl := (hheaders (n + 1)).reads_interfaceDeclaration h hkind hbody space
        have hword : Avoids ["class"] ((⟨space, "interface"⟩ : Word).token g ::
          (spell g (t.rest style) ++ k)) :=
          Avoids.cons.mpr (by decide : "interface" ∉ ["class"])
        rw [hkind]
        exact .ifFalse (.notNext hword (by simp)) (.ifTrue (.next rfl) (.bind hdecl .pure))

end TypeReaders

end Java

end JavaAtlas
