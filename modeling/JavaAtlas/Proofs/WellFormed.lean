import JavaAtlas.Java.Body
import JavaAtlas.Modifier
import JavaAtlas.Proofs.Outcome
import Mathlib.Data.List.Nodup

/-! Well-formed declarations: what a caller of a reader of Java text may rely on, at every depth of
nesting. Then the parts of a body that readers put together, and the readers that both grammars
share: declarations of types are well-formed if their bodies are, and these if their members are. -/

namespace JavaAtlas

/-- A text without blanks and without brackets of type arguments. -/
def Name.IsPlain (name : String) : Prop := ∀ c ∈ name.toList, Java.isNameChar c = true

/-- Modifiers in canonical order, each of them once. -/
def Modifier.InOrder (words : List String) : Prop := words.Nodup ∧ words.Sublist canonical

structure TypeSpec.WellFormed (t : TypeSpec) : Prop where
  name : Name.IsPlain t.name
  dims : 0 ≤ t.dims

structure FieldDecl.WellFormed (f : FieldDecl) : Prop where
  modifiers : Modifier.InOrder f.modifiers
  type : f.type.WellFormed

structure ParamDecl.WellFormed (p : ParamDecl) : Prop where
  type : p.type.WellFormed
  variadic : p.variadic = true → 1 ≤ p.type.dims

structure MethodDecl.WellFormed (m : MethodDecl) : Prop where
  modifiers : Modifier.InOrder m.modifiers
  isConstructor : m.isConstructor = true ↔ m.returns = none
  returns : ∀ t, m.returns = some t → t.WellFormed
  params : ∀ p ∈ m.params, p.WellFormed
  throws : ∀ t ∈ m.throws, t.WellFormed

/-- The kinds of types that Java text declares. -/
def TypeKind.declared : List TypeKind :=
  [.classType, .interfaceType, .enumType, .annotationType]

/-- A method of an annotation type. -/
def MethodDecl.IsElement (m : MethodDecl) : Prop := m.params = [] ∧ m.throws = []

inductive TypeDecl.WellFormed : TypeDecl → Prop
  | intro {t : TypeDecl} (kind : t.kind ∈ TypeKind.declared)
      (modifiers : Modifier.InOrder t.modifiers)
      (superclass : ∀ s, t.superclass = some s → t.kind = .classType ∧ s.WellFormed)
      (interfaces : ∀ s ∈ t.interfaces, s.WellFormed)
      (fields : ∀ f ∈ t.fields, f.WellFormed)
      (methods : ∀ m ∈ t.methods, m.WellFormed)
      (elements : t.kind = .annotationType → ∀ m ∈ t.methods, m.IsElement)
      (nested : ∀ n ∈ t.nested, n.WellFormed) : WellFormed t

theorem Modifier.inOrder_ordered (words : List String) : InOrder (ordered words) :=
  ⟨(by decide : canonical.Nodup).filter _, List.filter_sublist⟩

theorem Modifier.inOrder_constant : InOrder ["public", "static", "final"] := by
  unfold InOrder
  decide

/-- Names with a point between each two of them. -/
theorem Name.isPlain_intercalate {names : List String} (h : ∀ n ∈ names, IsPlain n) :
    IsPlain (".".intercalate names) := by
  intro c hc
  rw [String.toList_intercalate] at hc
  induction names with
  | nil => simp at hc
  | cons n names ih =>
    cases names with
    | nil => exact h n (by simp) c (by simpa using hc)
    | cons m names =>
      simp only [List.map_cons, List.intercalate_cons_cons, List.mem_append] at hc
      rcases hc with (hc | hc) | hc
      · exact h n (by simp) c hc
      · rw [show c = '.' by simpa using hc]
        decide
      · exact ih (fun k hk => h k (by simp [hk])) (by simpa using hc)

theorem TypeSpec.WellFormed.addDims {t : TypeSpec} (h : t.WellFormed) (n : Nat) :
    TypeSpec.WellFormed ⟨t.name, t.dims + n⟩ :=
  ⟨h.name, Int.add_nonneg h.dims (Int.natCast_nonneg n)⟩

theorem TypeSpec.wellFormed_void : WellFormed ⟨"void", 0⟩ :=
  ⟨List.all_eq_true.mp (by decide), Int.le_refl _⟩

/-- A method that is no constructor. -/
theorem MethodDecl.wellFormed_of_returns {name : String} {spec : TypeSpec}
    {params : List ParamDecl} {modifiers : List String} {throws : List TypeSpec}
    (hmods : Modifier.InOrder modifiers) (hspec : spec.WellFormed)
    (hparams : ∀ p ∈ params, p.WellFormed) (hthrows : ∀ t ∈ throws, t.WellFormed) :
    WellFormed { name, returns := some spec, params, modifiers, throws } where
  modifiers := hmods
  isConstructor := by simp
  returns := by simpa using hspec
  params := hparams
  throws := hthrows

theorem FieldDecl.wellFormed_constant {enumName : String} (h : Name.IsPlain enumName)
    (name : String) : (Java.constantField enumName name).WellFormed :=
  ⟨Modifier.inOrder_constant, h, Int.le_refl _⟩

/-! ### Bodies -/

namespace Java

/-- The well-formed parts of a body. -/
structure Members.WellFormed (m : Members) : Prop where
  fields : ∀ f ∈ m.fields, f.WellFormed
  methods : ∀ d ∈ m.methods, d.WellFormed
  types : ∀ t ∈ m.types, t.WellFormed

/-- All methods of a body are elements of an annotation type. -/
def Members.AreElements (m : Members) : Prop := ∀ d ∈ m.methods, d.IsElement

namespace Members

theorem wellFormed_empty : WellFormed {} := ⟨by simp, by simp, by simp⟩

theorem wellFormed_ofMethod {d : MethodDecl} (h : d.WellFormed) : (ofMethod d).WellFormed :=
  ⟨by simp [ofMethod], by simpa [ofMethod] using h, by simp [ofMethod]⟩

theorem wellFormed_ofType {t : TypeDecl} (h : t.WellFormed) : (ofType t).WellFormed :=
  ⟨by simp [ofType], by simp [ofType], by simpa [ofType] using h⟩

theorem wellFormed_ofFields {fs : List FieldDecl} (h : ∀ f ∈ fs, f.WellFormed) :
    WellFormed { fields := fs } :=
  ⟨h, by simp, by simp⟩

theorem wellFormed_append {a b : Members} (ha : a.WellFormed) (hb : b.WellFormed) :
    (a ++ b).WellFormed where
  fields f hf := (List.mem_append.mp hf).elim (ha.fields f) (hb.fields f)
  methods d hd := (List.mem_append.mp hd).elim (ha.methods d) (hb.methods d)
  types t ht := (List.mem_append.mp ht).elim (ha.types t) (hb.types t)

theorem wellFormed_concat {parts : List Members} (h : ∀ m ∈ parts, m.WellFormed) :
    (concat parts).WellFormed := by
  induction parts with
  | nil => exact wellFormed_empty
  | cons m parts ih =>
    exact wellFormed_append (h m (by simp)) (ih fun n hn => h n (by simp [hn]))

/-- The constants of an enum, and the members after them. -/
theorem wellFormed_enum {enumName : String} (h : Name.IsPlain enumName) (constants : List String)
    {parts : List Members} (hparts : ∀ m ∈ parts, m.WellFormed) :
    WellFormed ({ fields := constants.map (constantField enumName) } ++ concat parts) := by
  refine wellFormed_append (wellFormed_ofFields fun f hf => ?_) (wellFormed_concat hparts)
  obtain ⟨constant, -, rfl⟩ := List.mem_map.mp hf
  exact FieldDecl.wellFormed_constant h constant

theorem areElements_ofType (t : TypeDecl) : (ofType t).AreElements :=
  fun _ hd => absurd hd List.not_mem_nil

theorem areElements_ofFields (fs : List FieldDecl) : AreElements { fields := fs } :=
  fun _ hd => absurd hd List.not_mem_nil

theorem areElements_ofMethod {d : MethodDecl} (h : d.IsElement) : (ofMethod d).AreElements :=
  fun _ he => List.mem_singleton.mp he ▸ h

theorem areElements_concat {parts : List Members} (h : ∀ m ∈ parts, m.AreElements) :
    (concat parts).AreElements := by
  induction parts with
  | nil => exact fun d hd => absurd hd (by simp [concat])
  | cons m parts ih =>
    intro d hd
    rcases List.mem_append.mp hd with hd | hd
    · exact h m (by simp) d hd
    · exact ih (fun n hn => h n (by simp [hn])) d hd

end Members

namespace Reader

theorem yields_identifier : Yields identifier Name.IsPlain := by
  refine .bind (.take _) fun t ht => .pure fun c hc => ?_
  exact List.all_eq_true.mp (t.spelled (Token.isWord_iff.mp ht)) c hc

section Body

variable {part : Reader Members}

theorem yields_braced (h : Yields part Members.WellFormed) :
    Yields (braced part) Members.WellFormed :=
  .skip fun _ => .bind (.untilNext _ h) fun _ h => .skip fun _ =>
    .pure (Members.wellFormed_concat h)

theorem yields_elements (h : Yields part fun m => m.WellFormed ∧ m.AreElements) :
    Yields (braced part) fun m => m.WellFormed ∧ m.AreElements :=
  .skip fun _ => .bind (.untilNext _ h) fun _ h => .skip fun _ =>
    .pure ⟨Members.wellFormed_concat fun m hm => (h m hm).1,
      Members.areElements_concat fun m hm => (h m hm).2⟩

end Body

end Reader

open Reader

/-- The name of an enum types its constants. -/
def Body.IsPlain : Body → Prop
  | .ofEnum name => Name.IsPlain name
  | _ => True

/-- What a body reports is well-formed, and an annotation type has elements only. -/
def Body.Reports (b : Body) (m : Members) : Prop :=
  m.WellFormed ∧ (b = .ofAnnotationType → m.AreElements)

/-- The members that the readers answer are well-formed. -/
structure BodyReaders.WellFormed (r : BodyReaders) : Prop where
  classMember : Yields r.classMember Members.WellFormed
  interfaceMember : Yields r.interfaceMember Members.WellFormed
  annotationElement : Yields r.annotationElement fun m => m.WellFormed ∧ m.AreElements

namespace BodyReaders.WellFormed

variable {r : BodyReaders} (h : r.WellFormed)

include h

theorem yields_classPart : Yields r.classPart Members.WellFormed := by
  refine .skip fun _ => .ite (.pure Members.wellFormed_empty) ?_
  refine .skip fun _ => .ite (.skip fun _ => .skip fun _ => .pure Members.wellFormed_empty) ?_
  exact .skip fun _ => .ite (.skip fun _ => .pure Members.wellFormed_empty) h.classMember

theorem yields_enumBody {enumName : String} (hname : Name.IsPlain enumName) :
    Yields (r.enumBody enumName) Members.WellFormed :=
  .skip fun _ => .skip fun names => .skip fun _ =>
    .either (.untilNext _ h.yields_classPart) (.pure (by simp))
      fun _ hparts => .skip fun _ => .pure (Members.wellFormed_enum hname names hparts)

theorem yields_body {b : Body} (hb : b.IsPlain) : Yields (r.body b) b.Reports := by
  cases b with
  | ofClass => exact (yields_braced h.yields_classPart).mono fun _ hm => ⟨hm, by simp⟩
  | ofInterface => exact (yields_braced h.interfaceMember).mono fun _ hm => ⟨hm, by simp⟩
  | ofEnum name => exact (h.yields_enumBody hb).mono fun _ hm => ⟨hm, by simp⟩
  | ofAnnotationType =>
    exact (yields_elements h.annotationElement).mono fun _ hm => ⟨hm.1, fun _ => hm.2⟩

end BodyReaders.WellFormed

/-- What the readers answer for the parts of a declaration is well-formed. -/
structure TypeReaders.WellFormed (r : TypeReaders) : Prop where
  superclass : Yields r.superclass fun o => ∀ s, o = some s → s.WellFormed
  typesAfter : ∀ keyword, Yields (r.typesAfter keyword) fun ts => ∀ t ∈ ts, t.WellFormed
  body : ∀ b : Body, b.IsPlain → Yields (r.body b) b.Reports

theorem wellFormed_typeOf {kind : TypeKind} {name : String} {lead : Lead}
    {superclass : Option TypeSpec} {interfaces : List TypeSpec} {body : Members}
    (hkind : kind ∈ TypeKind.declared) (hlead : Modifier.InOrder lead.modifiers)
    (hsuper : ∀ s, superclass = some s → kind = .classType ∧ s.WellFormed)
    (hinterfaces : ∀ s ∈ interfaces, s.WellFormed) (hbody : body.WellFormed)
    (helements : kind = .annotationType → body.AreElements) :
    (typeOf kind name lead superclass interfaces body).WellFormed :=
  .intro hkind hlead hsuper hinterfaces hbody.fields hbody.methods helements hbody.types

namespace TypeReaders.WellFormed

variable {r : TypeReaders} (h : r.WellFormed) {lead : Lead} (hlead : Modifier.InOrder lead.modifiers)

include h hlead

theorem yields_classDeclaration : Yields (r.classDeclaration lead) TypeDecl.WellFormed := by
  refine .skip fun _ => .skip fun name => .skip fun _ => .optional fun _ => ?_
  refine .bind h.superclass fun superclass hsuper => .bind (h.typesAfter _)
    fun interfaces hinterfaces => .skip fun _ => .bind (h.body _ ⟨⟩) fun body hbody => .pure ?_
  exact wellFormed_typeOf (by simp [TypeKind.declared]) hlead (fun s hs => ⟨rfl, hsuper s hs⟩)
    hinterfaces hbody.1 (by simp)

theorem yields_interfaceDeclaration :
    Yields (r.interfaceDeclaration lead) TypeDecl.WellFormed := by
  refine .skip fun _ => .skip fun name => .skip fun _ => .optional fun _ => ?_
  refine .bind (h.typesAfter _) fun interfaces hinterfaces => .skip fun _ =>
    .bind (h.body _ ⟨⟩) fun body hbody => .pure ?_
  exact wellFormed_typeOf (by simp [TypeKind.declared]) hlead (by simp) hinterfaces hbody.1
    (by simp)

theorem yields_enumDeclaration : Yields (r.enumDeclaration lead) TypeDecl.WellFormed := by
  refine .skip fun _ => .bind yields_identifier fun name hname => .bind (h.typesAfter _)
    fun interfaces hinterfaces => .bind (h.body (.ofEnum name) hname) fun body hbody => .pure ?_
  exact wellFormed_typeOf (by simp [TypeKind.declared]) hlead (by simp) hinterfaces hbody.1
    (by simp)

theorem yields_annotationDeclaration :
    Yields (r.annotationDeclaration lead) TypeDecl.WellFormed := by
  refine .skip fun _ => .skip fun name => .bind (h.body _ ⟨⟩) fun body hbody => .pure ?_
  exact wellFormed_typeOf (by simp [TypeKind.declared]) hlead (by simp) (by simp) hbody.1
    fun _ => hbody.2 rfl

theorem yields_declaration? :
    Yields (r.declaration? lead) fun o => ∀ t, o = some t → t.WellFormed := by
  refine .skip fun _ => .ite (.item (h.yields_classDeclaration hlead)) ?_
  refine .skip fun _ => .ite (.item (h.yields_interfaceDeclaration hlead)) ?_
  refine .skip fun _ => .ite (.item (h.yields_enumDeclaration hlead)) ?_
  exact .skip fun _ => .ite (.item (h.yields_annotationDeclaration hlead)) .stop

end TypeReaders.WellFormed

end Java

end JavaAtlas
