import JavaAtlas.Java.Classic.Unit
import JavaAtlas.Proofs.WellFormed

/-! The readers of Java 8 answer well-formed declarations. The proofs follow the readers from types up
to compilation units. Bodies contain each other: those of a depth are well-formed if those of the
depth below are. What stands in expressions and statements is not reported and plays no part. -/

namespace JavaAtlas.Java.Classic

open Reader

/-! ### Types and parameters -/

theorem yields_qualifiedName : Yields qualifiedName Name.IsPlain :=
  .bind (.separated _ yields_identifier) fun _ h => .pure (Name.isPlain_intercalate h)

theorem yields_referenceType (table : Table) : Yields (referenceType table) Name.IsPlain := by
  have hsegment : Yields (do
      let name ← identifier
      if ← next "<" then table.skip .typeArguments
      return name) Name.IsPlain := by
    refine .bind yields_identifier fun name hname => .skip fun _ => ?_
    exact .ite (.skip fun _ => .pure hname) (.pure hname)
  exact .bind (.separated _ hsegment) fun _ h => .pure (Name.isPlain_intercalate h)

theorem isPlain_of_isBasicType {t : Token} (h : t.isBasicType = true) : Name.IsPlain t.text := by
  have hall : Token.basicTypes.all fun w => w.toList.all isNameChar := by decide
  intro c hc
  exact List.all_eq_true.mp (List.all_eq_true.mp hall _ (List.contains_iff_mem.mp h)) c hc

theorem yields_type (table : Table) : Yields (type table) TypeSpec.WellFormed := by
  refine .skip fun o => ?_
  cases o with
  | none => exact .refuse
  | some t =>
    simp only
    split
    · exact .skip fun _ => .skip fun n =>
        .pure ⟨isPlain_of_isBasicType ‹_›, Int.natCast_nonneg n⟩
    · refine .ite (.bind (yields_referenceType table) fun _ h => .skip fun n => ?_) .refuse
      exact .pure ⟨h, Int.natCast_nonneg n⟩

theorem yields_elementType (table : Table) : Yields (elementType table) TypeSpec.WellFormed := by
  refine .seesAny (fun t ht => ?_) ?_
  · refine .skip fun _ => .skip fun _ => .skip fun n => .pure ⟨isPlain_of_isBasicType ht, ?_⟩
    exact Int.natCast_nonneg (1 + n)
  · exact .bind (yields_referenceType table) fun _ h =>
      .skip fun n => .pure ⟨h, Int.natCast_nonneg n⟩

theorem yields_typesAfter (table : Table) (word : String) :
    Yields (typesAfter table word) fun ts => ∀ t ∈ ts, t.WellFormed :=
  .skip fun _ => .ite (.separated _ (yields_elementType table)) (.pure (by simp))

theorem yields_throwsClause : Yields throwsClause fun ts => ∀ t ∈ ts, t.WellFormed := by
  refine .skip fun _ => .ite (.bind (.separated _ yields_qualifiedName) fun names h => .pure ?_)
    (.pure (by simp))
  intro t ht
  obtain ⟨n, hn, rfl⟩ := List.mem_map.mp ht
  exact ⟨h n hn, Int.le_refl _⟩

theorem yields_parameter (table : Table) : Yields (parameter table) ParamDecl.WellFormed := by
  refine .skip fun _ => .bind (yields_type table) fun spec hspec => .skip fun variadic =>
    .skip fun name => .skip fun extra => .pure ?_
  have hdims : 0 ≤ spec.dims + extra := (hspec.addDims extra).dims
  refine ⟨⟨hspec.name, ?_⟩, ?_⟩
  · show 0 ≤ spec.dims + extra + if variadic = true then 1 else 0
    split <;> omega
  · intro (hv : variadic = true)
    show 1 ≤ spec.dims + extra + if variadic = true then 1 else 0
    rw [if_pos hv]
    omega

theorem yields_parametersUpTo (table : Table) (n : Nat) :
    Yields (parametersUpTo table n) fun ps => ∀ p ∈ ps, p.WellFormed := by
  induction n with
  | zero => exact .throw _
  | succ n ih =>
    refine .bind (yields_parameter table) fun p hp => .ite (.pure (by simpa using hp)) ?_
    refine .skip fun _ => .ite (.bind ih fun ps hps => .pure ?_) (.pure (by simpa using hp))
    simpa using ⟨hp, hps⟩

theorem yields_parameters (table : Table) :
    Yields (parameters table) fun ps => ∀ p ∈ ps, p.WellFormed := by
  refine .skip fun _ => .skip fun _ => .ite (.pure (by simp)) (.skip fun _ => ?_)
  exact .bind (yields_parametersUpTo table _) fun _ h => .skip fun _ => .pure h

/-! ### Members -/

section Members

variable (table : Table) {modifiers : List String} (hmods : Modifier.InOrder modifiers)

include hmods

theorem yields_methodRest {spec : TypeSpec} (hspec : spec.WellFormed) (name : String) :
    Yields (methodRest table modifiers spec name) MethodDecl.WellFormed := by
  refine .bind (yields_parameters table) fun params hparams => .skip fun extra =>
    .bind yields_throwsClause fun throws hthrows => .skip fun _ => .pure ?_
  exact MethodDecl.wellFormed_of_returns hmods (hspec.addDims extra) hparams hthrows

theorem yields_voidMethodRest (name : String) :
    Yields (voidMethodRest table modifiers name) MethodDecl.WellFormed := by
  refine .bind (yields_parameters table) fun params hparams =>
    .bind yields_throwsClause fun throws hthrows => .skip fun _ => .pure ?_
  exact MethodDecl.wellFormed_of_returns hmods TypeSpec.wellFormed_void hparams hthrows

theorem yields_constructorRest (name : String) :
    Yields (constructorRest table modifiers name) MethodDecl.WellFormed := by
  refine .bind (yields_parameters table) fun params hparams =>
    .bind yields_throwsClause fun throws hthrows => .skip fun _ => .pure ?_
  exact ⟨hmods, by simp, by simp, hparams, hthrows⟩

theorem wellFormed_fieldsOf {spec : TypeSpec} (hspec : spec.WellFormed)
    (declared : List (String × Nat)) : (fieldsOf modifiers spec declared).WellFormed := by
  refine Members.wellFormed_ofFields fun f hf => ?_
  obtain ⟨⟨name, extra⟩, -, rfl⟩ := List.mem_map.mp hf
  exact ⟨hmods, hspec.addDims extra⟩

theorem yields_fieldsRest {spec : TypeSpec} (hspec : spec.WellFormed) (name : String) :
    Yields (fieldsRest table modifiers spec name) Members.WellFormed :=
  .skip fun _ => .skip fun _ => .skip fun _ => .pure (wellFormed_fieldsOf hmods hspec _)

theorem yields_constantsRest {spec : TypeSpec} (hspec : spec.WellFormed) (name : String) :
    Yields (constantsRest table modifiers spec name) Members.WellFormed :=
  .skip fun _ => .skip fun _ => .pure (wellFormed_fieldsOf hmods hspec _)

end Members

/-! ### Type declarations and bodies -/

variable {table : Table}

/-- What the readers of a header answer is well-formed, whatever there is in bodies. -/
theorem wellFormed_typeReaders
    (hbody : ∀ b : Body, b.IsPlain → Yields (table (.body b)) b.Reports) :
    (typeReaders table).WellFormed where
  superclass := .skip fun _ => .ite (.item (yields_type table)) .stop
  typesAfter := yields_typesAfter table
  body := hbody

theorem yields_typeDeclaration? (htable : (typeReaders table).WellFormed) {modifiers : List String}
    (hmods : Modifier.InOrder modifiers) :
    Yields (typeDeclaration? table modifiers) fun o => ∀ t, o = some t → t.WellFormed :=
  .skip fun _ => htable.yields_declaration? hmods

theorem yields_typeDeclaration (htable : (typeReaders table).WellFormed) :
    Yields (typeDeclaration table) TypeDecl.WellFormed := by
  refine .skip fun words => .bind (yields_typeDeclaration? htable (Modifier.inOrder_ordered words))
    fun o ho => ?_
  cases o with
  | some t => exact .pure (ho t rfl)
  | none => exact .refuse

theorem yields_ofMethod {r : Reader MethodDecl} (h : Yields r MethodDecl.WellFormed) :
    Yields (do return Members.ofMethod (← r)) Members.WellFormed :=
  .bind h fun _ hm => .pure (Members.wellFormed_ofMethod hm)

theorem yields_genericMember {modifiers : List String} (hmods : Modifier.InOrder modifiers) :
    Yields (genericMember table modifiers) MethodDecl.WellFormed := by
  refine .skip fun _ => .skip fun _ => .ite (.skip fun _ => yields_constructorRest table hmods _) ?_
  refine .skip fun _ => .ite (.skip fun _ => yields_voidMethodRest table hmods _) ?_
  exact .bind (yields_type table) fun _ hspec => .skip fun _ => yields_methodRest table hmods hspec _

theorem yields_classMember (htable : (typeReaders table).WellFormed) :
    Yields (classMember table) Members.WellFormed := by
  refine .skip fun words => ?_
  have hmods := Modifier.inOrder_ordered words
  refine .skip fun _ => .ite (.skip fun _ => yields_ofMethod (yields_voidMethodRest table hmods _)) ?_
  refine .skip fun _ => .ite (yields_ofMethod (yields_genericMember hmods)) ?_
  refine .bind (yields_typeDeclaration? htable hmods) fun o ho => ?_
  cases o with
  | some t => exact .pure (Members.wellFormed_ofType (ho t rfl))
  | none =>
    refine .skip fun _ => .ite
      (.skip fun _ => yields_ofMethod (yields_constructorRest table hmods _)) ?_
    refine .bind (yields_type table) fun spec hspec => .skip fun name => .skip fun _ => ?_
    exact .ite (yields_ofMethod (yields_methodRest table hmods hspec name))
      (yields_fieldsRest table hmods hspec name)

/-- The dimensions after the parameters are read, and the type in front of them is answered. -/
theorem yields_genericInterfaceMethod {modifiers : List String}
    (hmods : Modifier.InOrder modifiers) :
    Yields (genericInterfaceMethod table modifiers) MethodDecl.WellFormed := by
  refine .skip fun _ => .skip fun _ => .either (.pure TypeSpec.wellFormed_void) (yields_type table)
    fun spec hspec => .skip fun name => ?_
  have hrest : Yields (methodRest table modifiers spec name) fun m => m.isConstructor = false :=
    .skip fun _ => .skip fun _ => .skip fun _ => .skip fun _ => .pure rfl
  refine .bind (.and (yields_methodRest table hmods hspec name) hrest) fun m hm => .pure ?_
  exact ⟨hm.1.modifiers, by simp [hm.2], by simpa using hspec, hm.1.params, hm.1.throws⟩

theorem yields_interfaceMember (htable : (typeReaders table).WellFormed) :
    Yields (interfaceMember table) Members.WellFormed := by
  refine .skip fun _ => .ite (.pure Members.wellFormed_empty) (.skip fun words => ?_)
  have hmods := Modifier.inOrder_ordered words
  refine .bind (yields_typeDeclaration? htable hmods) fun o ho => ?_
  cases o with
  | some t => exact .pure (Members.wellFormed_ofType (ho t rfl))
  | none =>
    refine .skip fun _ => .ite (yields_ofMethod (yields_genericInterfaceMethod hmods)) ?_
    refine .skip fun _ => .ite
      (.skip fun _ => yields_ofMethod (yields_voidMethodRest table hmods _)) ?_
    refine .bind (yields_type table) fun spec hspec => .skip fun name => .skip fun _ => ?_
    refine .ite (yields_ofMethod (yields_methodRest table hmods hspec name)) ?_
    exact .bind (yields_constantsRest table hmods hspec name) fun _ h => .skip fun _ => .pure h

theorem yields_annotationElement (htable : (typeReaders table).WellFormed) :
    Yields (annotationElement table) fun m => m.WellFormed ∧ m.AreElements := by
  refine .skip fun words => ?_
  have hmods := Modifier.inOrder_ordered words
  refine .bind (yields_typeDeclaration? htable hmods) fun o ho => ?_
  cases o with
  | some t => exact .pure ⟨Members.wellFormed_ofType (ho t rfl), Members.areElements_ofType t⟩
  | none =>
    refine .bind (yields_type table) fun spec hspec => .skip fun name => .skip fun _ => ?_
    refine .ite (.skip fun _ => .skip fun _ => .skip fun _ => .optional fun _ => ?_) ?_
    · have hmethod : MethodDecl.WellFormed
          { name, returns := some spec, modifiers := Modifier.ordered words } :=
        MethodDecl.wellFormed_of_returns hmods hspec (by simp) (by simp)
      refine .bind (P := fun m => m.WellFormed ∧ m.AreElements) (.pure ?_) fun m hm =>
        .skip fun _ => .pure hm
      exact ⟨Members.wellFormed_ofMethod hmethod, Members.areElements_ofMethod ⟨rfl, rfl⟩⟩
    · have hfields : Yields (constantsRest table (Modifier.ordered words) spec name)
          Members.AreElements :=
        .skip fun _ => .skip fun _ => .pure (Members.areElements_ofFields _)
      exact .bind (.and (yields_constantsRest table hmods hspec name) hfields) fun m hm =>
        .skip fun _ => .pure hm

theorem wellFormed_bodyReaders (htable : (typeReaders table).WellFormed) :
    (bodyReaders table).WellFormed where
  classMember := yields_classMember htable
  interfaceMember := yields_interfaceMember htable
  annotationElement := yields_annotationElement htable

/-- Bodies contain each other, one level of nesting at a time. -/
theorem wellFormed_phrases (depth : Nat) : (typeReaders (phrases depth)).WellFormed := by
  induction depth with
  | zero => exact wellFormed_typeReaders fun _ _ => .throw _
  | succ depth ih =>
    exact wellFormed_typeReaders fun _ hb => (wellFormed_bodyReaders ih).yields_body hb

/-! ### Units -/

theorem yields_unitPart (htable : (typeReaders table).WellFormed) :
    Yields (unitPart table) fun o => ∀ t, o = some t → t.WellFormed := by
  -- What the guarded part returns comes back in either half of a sum.
  refine .bind (P := fun e => ∀ o t, (e = .error o ∨ e = .ok o) → o = some t → t.WellFormed)
    (.tryCatch (.skip fun _ => .ite ?_ (.bind (yields_typeDeclaration htable) fun t ht => ?_))
      fun e => ?_) fun e he => ?_
  · exact .pure (by rintro o t (⟨⟨⟩⟩ | ⟨⟨⟩⟩) ⟨⟩)
  · exact .pure (by rintro o u (⟨⟨⟩⟩ | ⟨⟨⟩⟩) ⟨⟩; exact ht)
  · cases e with
    | exhausted => exact .bind (P := fun _ => False) .refuse fun _ h => h.elim
    | refused line => exact .bind (P := fun _ => False) (.throw _) fun _ h => h.elim
  · cases e with
    | error o => exact .pure fun t ht => he o t (.inl rfl) ht
    | ok o => exact .pure fun t ht => he o t (.inr rfl) ht

theorem yields_compilationUnit (htable : (typeReaders table).WellFormed) :
    Yields (compilationUnit table) fun u => ∀ t ∈ u.types, t.WellFormed := by
  refine .skip fun _ => .skip fun _ => ?_
  have hstep : Yields (do
      if (← ahead).isEmpty then return none else return some (← unitPart table))
      fun o => ∀ part, o = some part → ∀ t, part = some t → t.WellFormed :=
    .skip fun _ => .ite .stop (.item (yields_unitPart htable))
  refine .bind (.repeated hstep) fun parts hparts => .pure fun t ht => ?_
  obtain ⟨part, hmem, hpart⟩ := List.mem_filterMap.mp ht
  exact hparts part hmem t hpart

/-- All types that a text in Java 8 declares are well-formed. -/
theorem wellFormed_of_read_eq_ok {text : String} {u : UnitDecl} (h : read text = .ok u) :
    ∀ t ∈ u.types, t.WellFormed := by
  unfold read at h
  split at h
  · simp at h
  · rename_i ts _
    split at h
    · rename_i unit p hrun
      obtain rfl := Except.ok.inj h
      exact yields_compilationUnit (wellFormed_phrases _) _ _ _ hrun
    · simp at h
    · simp at h

end JavaAtlas.Java.Classic
