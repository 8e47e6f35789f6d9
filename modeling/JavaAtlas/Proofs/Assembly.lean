import JavaAtlas.Proofs.Scoping

/-! From declarations to classes. The classes of a unit mirror the declarations that it is assembled
from, at every depth and in the same order. Nothing gets lost but the return types of constructors,
every class knows the class around it, and every reference belongs to the unit and to the body in
which it is written: `SourceUnit.assemble_mirrors`. -/

namespace JavaAtlas

/-- Settling a method takes the return type away from a constructor and changes nothing else. -/
theorem MethodDecl.settled_eq (m : MethodDecl) :
    m.settled = { m with returns := if m.isConstructor then none else m.returns } := by
  cases m with
  | mk name returns params modifiers isConstructor throws => cases isConstructor <;> rfl

theorem TypeDecl.settled_eq (d : TypeDecl) :
    d.settled =
      { d with methods := d.methods.map MethodDecl.settled, nested := d.nested.map settled } := by
  cases d
  simp [settled]

/-- What passes from the member declarations to a declaration holds of all. -/
theorem TypeDecl.nested_induct {motive : TypeDecl → Prop}
    (h : ∀ d : TypeDecl, (∀ e ∈ d.nested, motive e) → motive d) (d : TypeDecl) : motive d := by
  refine h d fun e he => ?_
  have hsize : sizeOf e < sizeOf d := by
    cases d
    have hmem := List.sizeOf_lt_of_mem he
    simp only [TypeDecl.mk.sizeOf_spec] at hmem ⊢
    omega
  exact nested_induct h e
termination_by sizeOf d

/-- The types in the body of a declaration, without those that constructors return. -/
def TypeDecl.bodyTypes (d : TypeDecl) : List TypeSpec :=
  d.fields.map FieldDecl.type ++ d.methods.flatMap fun m =>
    m.params.map ParamDecl.type ++ (if m.isConstructor then none else m.returns).toList ++ m.throws

/-- The package in front of the names of classes, unless it is the one without a name. -/
def SourceUnit.packageNames (u : SourceUnit) : List String :=
  if u.package = "" then [] else [u.package]

/-- A type as it is written in a unit, in the body of a class or outside of all bodies. -/
def TypeSpec.refIn (u : SourceUnit) (scope : Option Class) (t : TypeSpec) : TypeRef :=
  { name := t.name, dims := t.dims, owner := some u, scope }

namespace Class

/-- What a class has of its declaration: all there is to see of it, its place, and references that
belong to the unit and stand in the class, or around it where they are part of its header. `names`
are those of the classes around it and its own. -/
structure Shows (u : SourceUnit) (around : Option Class) (names : List String) (d : TypeDecl)
    (c : Class) : Prop where
  name : c.name = d.name
  kind : c.kind = d.kind
  modifiers : c.decl.modifiers = d.modifiers
  line : c.decl.line = d.line
  fields : c.decl.fields = d.fields
  methods : c.decl.methods =
    d.methods.map fun m => { m with returns := if m.isConstructor then none else m.returns }
  unit : c.unit = some u
  enclosing : c.enclosing? = around
  fullName : c.fullName = Name.join (u.packageNames ++ names)
  superclass : c.superclass? = d.superclass.map (TypeSpec.refIn u around)
  interfaces : c.interfaces = d.interfaces.map (TypeSpec.refIn u around)
  bodyRefs : c.bodyRefs = d.bodyTypes.map (TypeSpec.refIn u (some c))

/-- The class and all classes inside it are those of a declaration, inside a class or at the top.
`names` are those of the classes around it. -/
inductive Mirrors (u : SourceUnit) : Option Class → List String → TypeDecl → Class → Prop
  | intro {around : Option Class} {names : List String} {d : TypeDecl} {c : Class} :
      c.Shows u around (names ++ [d.name]) d → c.members.length = d.nested.length →
      (∀ (i : Nat) (e : TypeDecl) (m : Class), d.nested[i]? = some e → c.members[i]? = some m →
        Mirrors u (some c) (names ++ [d.name]) e m) →
      Mirrors u around names d c

section Mirrors

variable {u : SourceUnit} {number : Nat} {around : Option Class} {names : List String}
  {d : TypeDecl} {c : Class}

/-- A class whose place and declaration are right shows its declaration. -/
theorem shows_of_settled (hdecl : c.decl = d.settled) (hkey : c.key = .source number)
    (hunit : c.unit = some u) (haround : c.enclosing? = around)
    (hfull : c.fullName = Name.join (u.packageNames ++ names)) :
    c.Shows u around names d := by
  rw [TypeDecl.settled_eq] at hdecl
  have hsource : c.inSource = true := by rw [inSource, hkey]
  have hheader : c.headerRef = TypeSpec.refIn u around := by
    funext t
    rw [headerRef, hsource, hunit, haround]
    rfl
  have hbody : c.bodyRef = TypeSpec.refIn u (some c) := by
    funext t
    rw [bodyRef, hsource, hunit]
    rfl
  refine
    { name := by rw [name, hdecl]
      kind := by rw [kind, hdecl]
      modifiers := by rw [hdecl]
      line := by rw [hdecl]
      fields := by rw [hdecl]
      methods := by simp only [hdecl, ← MethodDecl.settled_eq]
      unit := hunit
      enclosing := haround
      fullName := hfull
      superclass := by simp only [superclass?, hdecl, hheader]
      interfaces := by simp only [interfaces, hdecl, hheader]
      bodyRefs := ?_ }
  simp only [Class.bodyRefs, parameterRefs, returnRef?, hdecl, TypeDecl.bodyTypes, hbody,
    MethodDecl.settled_eq, List.map_append, List.map_map, List.map_flatMap, List.flatMap_map,
    Option.toList_map, Function.comp_def]

/-- A class mirrors the declaration that it has, and so do its members. -/
theorem mirrors_of_settled (hdecl : c.decl = d.settled) (hkey : c.key = .source number)
    (hunit : c.unit = some u) (haround : c.enclosing? = around)
    (hfull : c.fullName = Name.join (u.packageNames ++ (names ++ [d.name]))) :
    c.Mirrors u around names d := by
  -- the classes around change on the way down, so the place is general in the induction
  induction d using TypeDecl.nested_induct generalizing c around names with
  | _ d ih =>
    have hnested : c.decl.nested = d.nested.map TypeDecl.settled := by
      rw [hdecl, TypeDecl.settled_eq]
    refine .intro (shows_of_settled hdecl hkey hunit haround hfull) ?_ fun i e m he hm => ?_
    · simp [members, hnested]
    have hmem : m ∈ c.members := List.mem_of_getElem? hm
    obtain rfl : c.member i e.settled = m := by simpa [members, hnested, he] using hm
    refine ih e (List.mem_of_getElem? he) rfl hkey hunit (enclosing?_member hmem) ?_
    have hname : (c.member i e.settled).name = e.name := by
      rw [TypeDecl.settled_eq]
      rfl
    have hjoin := Name.join_concat (show u.packageNames ++ (names ++ [d.name]) ≠ [] by simp) e.name
    rw [fullName_member hmem, hfull, hname, ← hjoin, List.append_assoc]

end Mirrors

end Class

namespace SourceUnit

theorem within_package (u : SourceUnit) (name : String) :
    Name.within u.package name = Name.join (u.packageNames ++ [name]) := by
  rw [Name.within, packageNames]
  by_cases h : u.package = ""
  · simp [h, Name.join]
  · simp [h, Name.join]

/-- An assembled unit has the package, the imports and, tree by tree, the classes of its
declarations. All references in it belong to it. -/
theorem assemble_mirrors (number : Nat) (decl : UnitDecl) (origin : Option String) :
    let u := assemble (.source number) decl origin
    u.package = decl.package ∧ u.origin = origin ∧
      u.imports = (decl.imports.filter fun i => !i.isStatic).map
        (fun i => if i.onDemand then i.name ++ ".*" else i.name) ∧
      u.staticImports = (decl.imports.filter fun i => i.isStatic).map
        (fun i => if i.onDemand then i.name ++ ".*" else i.name) ∧
      u.tops.length = decl.types.length ∧
      (∀ (i : Nat) (d : TypeDecl) (c : Class), decl.types[i]? = some d → u.tops[i]? = some c →
        c.Mirrors u none [] d) ∧
      ∀ c ∈ u.classes,
        (∀ r ∈ c.headerRefs, r.owner = some u ∧ r.scope = c.enclosing?) ∧
        ∀ r ∈ c.bodyRefs, r.owner = some u ∧ r.scope = some c := by
  intro u
  refine ⟨rfl, rfl, rfl, rfl, ?_, fun i d c hd hc => ?_, fun c hc => ?_⟩
  · simp [u, tops, assemble]
  · have htop : c = u.top i d.settled := by
      simpa [u, tops, assemble, hd] using hc.symm
    have hname : c.name = d.name := by
      rw [htop, TypeDecl.settled_eq]
      rfl
    have hkey : c.key = .source number := by
      rw [htop]
      rfl
    refine Class.mirrors_of_settled ?_ hkey ?_ ?_ ?_
    · rw [htop]
      rfl
    · rw [htop]
      rfl
    · rw [htop]
      rfl
    · rw [fullName_of_mem_tops (List.mem_of_getElem? hc), hname, within_package, List.nil_append]
  · have hunit := unit_of_mem_classes hc
    have hkey : u.key = .source number := rfl
    have hsource := inSource_of_mem_classes hkey hc
    refine ⟨fun r hr => ?_, fun r hr => ?_⟩
    · obtain ⟨t, rfl⟩ := Class.exists_of_mem_headerRefs hr
      simp [Class.headerRef, hunit, hsource]
    · obtain ⟨t, rfl⟩ := Class.exists_of_mem_bodyRefs hr
      simp [Class.bodyRef, hunit, hsource]

end SourceUnit

end JavaAtlas
