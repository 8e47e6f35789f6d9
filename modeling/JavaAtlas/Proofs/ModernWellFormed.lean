import JavaAtlas.Grammar
import JavaAtlas.Proofs.ClassicWellFormed

/-! The readers of current Java answer well-formed declarations, in the same steps as those of Java 8.
A type's name is a stretch of text here, and it is plain because type arguments and blanks are left
out of it. At the end both grammars come together in `Grammar.wellFormed_of_read`. -/

namespace JavaAtlas

theorem Generics.isNameChar_of_mem_compactFrom {depth : Int} {cs : List Char} {c : Char}
    (h : c ∈ compactFrom depth cs) : Java.isNameChar c = true := by
  induction cs generalizing depth with
  | nil => simp [compactFrom] at h
  | cons d cs ih =>
    rw [compactFrom] at h
    split at h
    · exact ih h
    · split at h
      · exact ih h
      · split at h
        · rcases List.mem_cons.mp h with rfl | h
          · simp_all [Java.isNameChar]
          · exact ih h
        · exact ih h

namespace Java.Modern

open Reader

/-! ### Types and parameters -/

theorem isPlain_compact (cs : List Char) : Name.IsPlain (String.ofList (Generics.compact cs)) := by
  intro c hc
  rw [String.toList_ofList] at hc
  exact Generics.isNameChar_of_mem_compactFrom hc

theorem yields_typeExcept (table : Table) (words : List String) :
    Yields (typeExcept table words) TypeSpec.WellFormed :=
  .skip fun _ => .skip fun n => .pure ⟨isPlain_compact _, Int.natCast_nonneg n⟩

theorem yields_annotatedType (table : Table) :
    Yields (annotatedType table) TypeSpec.WellFormed :=
  .skip fun _ => yields_typeExcept table []

theorem yields_withTokens {α : Type} {r : Reader α} {P : α → Prop} (h : Yields r P) :
    Yields (withTokens r) fun x => P x.1 :=
  .skip fun _ => .bind h fun _ ha => .skip fun _ => .pure ha

theorem yields_typeAmong (table : Table) (words : Keywords) :
    Yields (typeAmong table words) TypeSpec.WellFormed := by
  refine .bind (yields_withTokens (yields_typeExcept table words.first)) fun x hx => ?_
  exact .ite (.skip fun _ => .optional fun _ => .pure hx) (.pure hx)

theorem yields_leadingComments : Yields leadingComments fun ts => ∀ t ∈ ts, t.WellFormed := by
  refine .skip fun _ => .pure fun t ht => ?_
  obtain ⟨c, -, rfl⟩ := List.mem_map.mp ht
  exact ⟨isPlain_compact _, Int.le_refl _⟩

theorem yields_typeList (table : Table) :
    Yields (typeList table) fun ts => ∀ t ∈ ts, t.WellFormed := by
  have hstep : Yields (do
      if ← next "," then
        let beforeComma ← leadingComments
        expect ","
        let beforeType ← leadingComments
        return some (beforeComma ++ beforeType ++ [← annotatedType table])
      else return none) fun o => ∀ ts, o = some ts → ∀ t ∈ ts, t.WellFormed := by
    refine .skip fun _ => .ite ?_ .stop
    refine .bind yields_leadingComments fun a ha => .skip fun _ =>
      .bind yields_leadingComments fun b hb => .bind (yields_annotatedType table) fun c hc =>
        .pure ?_
    rintro ts ⟨⟩ t ht
    rcases List.mem_append.mp ht with ht | ht
    · exact (List.mem_append.mp ht).elim (ha t) (hb t)
    · exact List.mem_singleton.mp ht ▸ hc
  refine .bind yields_leadingComments fun comments hcomments =>
    .bind (yields_annotatedType table) fun first hfirst => .bind (.repeated hstep)
      fun rest hrest => .pure fun t ht => ?_
  rcases List.mem_append.mp ht with ht | ht
  · exact hcomments t ht
  · rcases List.mem_cons.mp ht with rfl | ht
    · exact hfirst
    · obtain ⟨ts, hts, ht⟩ := List.mem_flatten.mp ht
      exact hrest ts hts t ht

theorem yields_typesAfter (table : Table) (word : String) :
    Yields (typesAfter table word) fun ts => ∀ t ∈ ts, t.WellFormed :=
  .skip fun _ => .ite (yields_typeList table) (.pure (by simp))

theorem wellFormed_variadicType {comments : List TypeSpec} {spec : TypeSpec}
    (hcomments : ∀ t ∈ comments, t.WellFormed) (hspec : spec.WellFormed) :
    (variadicType comments spec).WellFormed ∧ 1 ≤ (variadicType comments spec).dims := by
  cases comments with
  | nil =>
    have hdims := hspec.dims
    exact ⟨hspec.addDims 1, by simp only [variadicType]; omega⟩
  | cons c comments => exact ⟨⟨(hcomments c (by simp)).name, Int.zero_le_ofNat 1⟩, Int.le_refl 1⟩

theorem yields_parameter (table : Table) (words : Keywords) :
    Yields (parameter table words) ParamDecl.WellFormed := by
  refine .skip fun modified => .either yields_leadingComments (.pure (by simp))
    fun comments hcomments => .bind (yields_typeAmong table _) fun spec hspec => .skip fun _ => ?_
  refine .ite (.skip fun _ => .skip fun _ => ?_) (.skip fun v => ?_)
  · have hvariadic := wellFormed_variadicType hcomments hspec
    exact .pure ⟨hvariadic.1, fun _ => hvariadic.2⟩
  · exact .pure ⟨hspec.addDims v.2, by simp⟩

theorem yields_parameterList (table : Table) (words : Keywords) :
    Yields (parameterList table words) fun ps => ∀ p ∈ ps, p.WellFormed := by
  refine .skip fun _ => .ite (.pure (by simp)) ?_
  refine .bind (yields_parameter table words) fun first hfirst => .bind
    (.repeated (.skip fun _ => .ite (.item (yields_parameter table {})) .stop)) fun rest hrest =>
    .skip fun _ => .pure ?_
  simpa using ⟨hfirst, hrest⟩

theorem yields_parameters (table : Table) :
    Yields (parameters table) fun ps => ∀ p ∈ ps, p.WellFormed := by
  have hothers : Yields (do
      if ← try1 ")" then return []
      expect ","
      parameterList table {}) fun ps => ∀ p ∈ ps, p.WellFormed :=
    .skip fun _ => .ite (.pure (by simp)) (.skip fun _ => yields_parameterList table _)
  refine .skip fun _ => .skip fun _ => .ite ?_ (.skip fun _ => ?_)
  · exact .orElse (yields_parameterList table _) (.skip fun _ => hothers)
  · exact .ite hothers (yields_parameterList table _)

/-! ### Members -/

theorem yields_lead (table : Table) :
    Yields (lead table) fun start => Modifier.InOrder start.modifiers :=
  .skip fun _ => .skip fun words => .pure (Modifier.inOrder_ordered words)

section Members

variable (table : Table) {start : Lead} (hstart : Modifier.InOrder start.modifiers)

include hstart

theorem yields_methodRest {spec : TypeSpec} (hspec : spec.WellFormed) (name : String) :
    Yields (methodRest table start spec name) MethodDecl.WellFormed := by
  refine .bind (yields_parameters table) fun params hparams => .skip fun extra =>
    .bind (yields_typesAfter table _) fun throws hthrows => .skip fun _ => ?_
  have hmethod : MethodDecl.WellFormed
      { name, returns := some ⟨spec.name, spec.dims + extra⟩, params
        modifiers := start.modifiers, throws } :=
    MethodDecl.wellFormed_of_returns hstart (hspec.addDims extra) hparams hthrows
  exact .ite (.skip fun _ => .pure hmethod) (.skip fun _ => .pure hmethod)

theorem yields_method : Yields (method table start) MethodDecl.WellFormed :=
  .bind (yields_typeExcept table []) fun _ hspec => .skip fun _ =>
    yields_methodRest table hstart hspec _

theorem yields_constructor : Yields (constructor table start) MethodDecl.WellFormed := by
  refine .skip fun name => .bind (yields_parameters table) fun params hparams =>
    .bind (yields_typesAfter table _) fun throws hthrows => .skip fun _ => .pure ?_
  exact ⟨hstart, by simp, by simp, hparams, hthrows⟩

/-- Fields have no methods beside them. -/
theorem yields_fieldsRest {spec : TypeSpec} (hspec : spec.WellFormed) (name : String) :
    Yields (fieldsRest table start spec name) fun m => m.WellFormed ∧ m.AreElements := by
  refine .skip fun extra => .skip fun _ => .optional fun _ => .skip fun more => .skip fun _ =>
    .pure ⟨Members.wellFormed_ofFields fun f hf => ?_, Members.areElements_ofFields _⟩
  obtain ⟨v, -, rfl⟩ := List.mem_map.mp hf
  exact ⟨hstart, hspec.addDims v.2⟩

theorem yields_methodOrFields : Yields (methodOrFields table start) Members.WellFormed := by
  refine .bind (yields_typeExcept table []) fun spec hspec => .skip fun name => .skip fun _ => ?_
  refine .ite (.bind (yields_methodRest table hstart hspec name) fun m hm => ?_) ?_
  · exact .pure (Members.wellFormed_ofMethod hm)
  · exact (yields_fieldsRest table hstart hspec name).mono fun _ h => h.1

theorem yields_elementRest {spec : TypeSpec} (hspec : spec.WellFormed) (name : String) :
    Yields (elementRest table start spec name) fun m => m.WellFormed ∧ m.IsElement := by
  refine .skip fun _ => .skip fun _ => .skip fun extra => .skip fun _ => .optional fun _ =>
    .skip fun _ => .pure ⟨?_, rfl, rfl⟩
  exact MethodDecl.wellFormed_of_returns hstart (hspec.addDims extra) (by simp) (by simp)

end Members

/-! ### Type declarations and bodies -/

theorem yields_superclassClause (table : Table) :
    Yields (superclassClause table) fun o => ∀ s, o = some s → s.WellFormed := by
  refine .skip fun _ => .ite ?_ .stop
  refine .bind yields_leadingComments fun comments hcomments =>
    .bind (yields_annotatedType table) fun spec hspec => .pure fun s hs => ?_
  rcases List.mem_append.mp (List.mem_of_head? hs) with h | h
  · exact hcomments s h
  · exact List.mem_singleton.mp h ▸ hspec

variable {table : Table}

/-- What the readers of a header answer is well-formed, whatever there is in bodies. -/
theorem wellFormed_typeReaders
    (hbody : ∀ b : Body, b.IsPlain → Yields (table (.body b)) b.Reports) :
    (typeReaders table).WellFormed where
  superclass := yields_superclassClause table
  typesAfter := yields_typesAfter table
  body := hbody

/-- A declared type stands alone, without methods beside it. -/
theorem yields_typeDeclaration? (htable : (typeReaders table).WellFormed) {start : Lead}
    (hstart : Modifier.InOrder start.modifiers) (records : Bool) :
    Yields (typeDeclaration? table start records)
      fun o => ∀ m, o = some m → m.WellFormed ∧ m.AreElements := by
  refine .bind (htable.yields_declaration? hstart) fun o ho => ?_
  cases o with
  | some t =>
    refine .pure ?_
    rintro m ⟨⟩
    exact ⟨Members.wellFormed_ofType (ho t rfl), Members.areElements_ofType t⟩
  | none =>
    refine .skip fun _ => .ite (.skip fun _ => .pure ?_) .stop
    rintro m ⟨⟩
    exact ⟨Members.wellFormed_empty, Members.areElements_ofFields []⟩

theorem yields_classMember (htable : (typeReaders table).WellFormed) :
    Yields (classMember table) Members.WellFormed := by
  refine .bind (yields_lead table) fun start hstart => ?_
  have hconstructor : Yields (do return Members.ofMethod (← constructor table start))
      Members.WellFormed :=
    .bind (yields_constructor table hstart) fun _ hm => .pure (Members.wellFormed_ofMethod hm)
  refine .bind (yields_typeDeclaration? htable hstart true) fun o ho => ?_
  cases o with
  | some m => exact .pure (ho m rfl).1
  | none =>
    refine .skip fun _ => .ite (.skip fun _ => .skip fun _ => .ite hconstructor ?_) ?_
    · exact .skip fun _ => .bind (yields_method table hstart) fun _ hm =>
        .pure (Members.wellFormed_ofMethod hm)
    · refine .skip fun _ => .ite hconstructor (.skip fun _ => .ite ?_ ?_)
      · exact .skip fun _ => .skip fun _ => .pure Members.wellFormed_empty
      · exact yields_methodOrFields table hstart

theorem yields_interfaceMember (htable : (typeReaders table).WellFormed) :
    Yields (interfaceMember table) Members.WellFormed := by
  refine .skip fun _ => .ite (.pure Members.wellFormed_empty) ?_
  refine .bind (yields_lead table) fun start hstart =>
    .bind (yields_typeDeclaration? htable hstart true) fun o ho => ?_
  cases o with
  | some m => exact .pure (ho m rfl).1
  | none =>
    refine .skip fun _ => .ite ?_ (yields_methodOrFields table hstart)
    have hgeneric : Yields (genericMethod table start) MethodDecl.WellFormed :=
      .skip fun _ => .skip fun _ => yields_method table hstart
    exact .bind hgeneric fun _ hm => .pure (Members.wellFormed_ofMethod hm)

theorem yields_annotationPart (htable : (typeReaders table).WellFormed) :
    Yields (annotationPart table) fun m => m.WellFormed ∧ m.AreElements := by
  refine .skip fun _ => .ite
    (.pure ⟨Members.wellFormed_empty, Members.areElements_ofFields []⟩) ?_
  refine .bind (yields_lead table) fun start hstart =>
    .bind (yields_typeDeclaration? htable hstart false) fun o ho => ?_
  cases o with
  | some m => exact .pure (ho m rfl)
  | none =>
    refine .bind (yields_typeExcept table []) fun spec hspec => .skip fun name => .skip fun _ => ?_
    refine .ite ?_ (yields_fieldsRest table hstart hspec name)
    exact .bind (yields_elementRest table hstart hspec name) fun _ hm =>
      .pure ⟨Members.wellFormed_ofMethod hm.1, Members.areElements_ofMethod hm.2⟩

theorem wellFormed_bodyReaders (htable : (typeReaders table).WellFormed) :
    (bodyReaders table).WellFormed where
  classMember := yields_classMember htable
  interfaceMember := yields_interfaceMember htable
  annotationElement := yields_annotationPart htable

/-- Bodies contain each other, one level of nesting at a time. -/
theorem wellFormed_phrases (depth : Nat) : (typeReaders (phrases depth)).WellFormed := by
  induction depth with
  | zero => exact wellFormed_typeReaders fun _ _ => .throw _
  | succ depth ih =>
    exact wellFormed_typeReaders fun _ hb => (wellFormed_bodyReaders ih).yields_body hb

/-! ### Units -/

/-- The types that a part of a unit declares are well-formed. -/
def UnitPart.WellFormed : UnitPart → Prop
  | .declared m => ∀ t ∈ m.types, t.WellFormed
  | _ => True

theorem yields_modifiedPart (htable : (typeReaders table).WellFormed) (top : Bool) :
    Yields (do return UnitPart.declared (← modifiedPart table top)) UnitPart.WellFormed := by
  have hpart : Yields (modifiedPart table top) Members.WellFormed := by
    refine .bind (yields_lead table) fun start hstart =>
      .bind (yields_typeDeclaration? htable hstart true) fun o ho => ?_
    cases o with
    | some m => exact .pure (ho m rfl).1
    | none =>
      exact .ite (.skip fun _ => .pure Members.wellFormed_empty)
        (.skip fun _ => .pure Members.wellFormed_empty)
  exact .bind hpart fun _ hm => .pure hm.types

theorem yields_annotatedPart (htable : (typeReaders table).WellFormed) (top : Bool) :
    Yields (annotatedPart table top) UnitPart.WellFormed := by
  have hpackage : Yields (do return UnitPart.package (← packageDeclaration table))
      UnitPart.WellFormed := .skip fun _ => .pure ⟨⟩
  have hnothing : ∀ {r : Reader Unit}, Yields (do r; return .declared {}) UnitPart.WellFormed :=
    fun {_} => .skip fun _ => .pure Members.wellFormed_empty.types
  have hmodified := yields_modifiedPart htable top
  refine .skip fun _ => .ite hmodified (.skip fun _ => .ite (.orElse hpackage hnothing) ?_)
  exact .orElse hpackage (.orElse hnothing (.orElse hmodified hnothing))

theorem yields_part (htable : (typeReaders table).WellFormed) (top : Bool) :
    Yields (part table top) UnitPart.WellFormed := by
  have hempty : UnitPart.WellFormed (.declared {}) := Members.wellFormed_empty.types
  refine .skip fun _ => .ite (.skip fun _ => .pure ⟨⟩) ?_
  refine .skip fun _ => .ite (.skip fun _ => .pure ⟨⟩) ?_
  refine .skip fun _ => .skip fun _ => .ite (yields_annotatedPart htable top) ?_
  refine .skip fun _ => .ite (.skip fun _ => .pure hempty) ?_
  refine .skip fun _ => .ite (.pure hempty) ?_
  refine .skip fun _ => .ite (yields_modifiedPart htable top) ?_
  refine .skip fun _ => .skip fun records => ?_
  refine .bind (yields_typeDeclaration? htable (by simp [Modifier.InOrder]) records) fun o ho => ?_
  cases o with
  | some m => exact .pure (ho m rfl).1.types
  | none => exact .ite (.skip fun _ => .pure hempty) (.skip fun _ => .pure hempty)

theorem yields_compilationUnit (htable : (typeReaders table).WellFormed) :
    Yields (compilationUnit table) fun u => ∀ t ∈ u.types, t.WellFormed := by
  refine .bind (.repeated (.skip fun _ => .ite .stop (.item (yields_part htable true))))
    fun parts hparts => .pure fun t ht => ?_
  obtain ⟨ts, hts, ht⟩ := List.mem_flatten.mp ht
  obtain ⟨part, hpart, rfl⟩ := List.mem_map.mp hts
  cases part with
  | declared m => exact hparts _ hpart t ht
  | package name => simp at ht
  | imported i => simp at ht

/-- All types that a text in current Java declares are well-formed. -/
theorem wellFormed_of_read_eq_some {text : String} {u : UnitDecl} (h : read text = some u) :
    ∀ t ∈ u.types, t.WellFormed := by
  unfold read at h
  split at h
  · simp at h
  · split at h
    · rename_i unit p hrun
      obtain rfl := Option.some.inj h
      exact yields_compilationUnit (wellFormed_phrases _) _ _ _ hrun
    · simp at h

end Java.Modern

/-- Whatever text is read, and by whichever grammar: the declared types and all types nested in them
are well-formed. -/
theorem Grammar.wellFormed_of_read {g : Grammar} {text : String} {origin : Option String}
    {u : UnitDecl} (h : g.read text origin = .ok u) : ∀ t ∈ u.types, t.WellFormed := by
  cases g with
  | classic =>
    simp only [read, Except.mapError] at h
    split at h
    · simp at h
    · obtain rfl := Except.ok.inj h
      exact Java.Classic.wellFormed_of_read_eq_ok ‹_›
  | modern =>
    simp only [read] at h
    split at h
    · obtain rfl := Except.ok.inj h
      exact Java.Modern.wellFormed_of_read_eq_some ‹_›
    · simp at h

/-- An enum with a constant and a method of variable arity. -/
def enumText : String := "enum E { X; final public int f(B<E>... b) throws Z { } }"

theorem Grammar.wellFormed_of_read_enum :
    ∃ u, Grammar.modern.read enumText none = .ok u ∧
      u.types.map (fun t => (t.kind.word, t.methods.map MethodDecl.name)) = [("enum", ["f"])] ∧
      ∀ t ∈ u.types, t.WellFormed := by
  have htypes : (Grammar.modern.read enumText none).toOption.map
      (fun u => u.types.map fun t => (t.kind.word, t.methods.map MethodDecl.name)) =
      some [("enum", ["f"])] := by
    decide +kernel
  cases hread : Grammar.modern.read enumText none with
  | error e => simp [hread, Except.toOption] at htypes
  | ok u =>
    exact ⟨u, rfl, by simpa [hread, Except.toOption] using htypes,
      Grammar.wellFormed_of_read hread⟩

end JavaAtlas
