import JavaAtlas.Members
import JavaAtlas.Proofs.Dangling
import Mathlib.Data.List.TakeWhile

/-! What simple names mean inside a unit. A name in the body of a class means a member of the class
or the class itself, or else a member of the class around it or that class itself, and so on
outwards, and in the end a top-level class of the unit. A name in the header of a class is one of
the body around it. The innermost class decides, and neither the registry nor the package nor the
imports have a say: `resolvedName_follows_scopes`. -/

namespace JavaAtlas

namespace Name

/-- A name without dots. -/
def IsSimple (name : String) : Prop := name ≠ "" ∧ '.' ∉ name.toList

theorem first_of_isSimple {name : String} (h : IsSimple name) :
    first name = name ∧ rest name = "" := by
  have hall : ∀ c ∈ name.toList, (c != '.') = true := by
    intro c hc
    have hne : c ≠ '.' := fun he => h.2 (he ▸ hc)
    simpa using hne
  have hsplit : splitFirst name = (name, "") := by
    rw [splitFirst, List.takeWhile_eq_self_iff.mpr hall, List.dropWhile_eq_nil_iff.mpr hall]
    simp
  rw [first, rest, hsplit]
  exact ⟨rfl, rfl⟩

end Name

/-! ### Paths -/

/-- The classes around a class from a top-level class of the unit on, and the class itself. -/
inductive SourceUnit.NestedAt (u : SourceUnit) : List Class → Class → Prop
  | top {c : Class} : c ∈ u.tops → NestedAt u [c] c
  | member {path : List Class} {c m : Class} :
      NestedAt u path c → m ∈ c.members → NestedAt u (path ++ [m]) m

namespace Class

def HasMember (c : Class) (name : String) : Prop := ∃ m ∈ c.members, m.name = name

/-- The name means something at the class: a member of it or the class itself. -/
def Binds (c : Class) (name : String) : Prop := c.HasMember name ∨ c.name = name

theorem fullName_member {c m : Class} (h : m ∈ c.members) :
    m.fullName = c.fullName ++ "." ++ m.name := by
  obtain ⟨i, d, -, rfl⟩ := mem_members_iff.mp h
  rfl

theorem enclosing?_member {c m : Class} (h : m ∈ c.members) : m.enclosing? = some c := by
  obtain ⟨i, d, -, rfl⟩ := mem_members_iff.mp h
  simp [enclosing?, member]

theorem scopes_of_mem_members {c m : Class} (h : m ∈ c.members) : m.scopes = m :: c.scopes := by
  obtain ⟨i, d, -, rfl⟩ := mem_members_iff.mp h
  exact scopes_member c i d

/-- The references in the body of a class: the types of its fields, and the parameters, return types
and exceptions of its methods. -/
def bodyRefs (c : Class) : List TypeRef :=
  c.decl.fields.map (fun f => c.bodyRef f.type) ++
    c.decl.methods.flatMap fun m =>
      c.parameterRefs m ++ (c.returnRef? m).toList ++ m.throws.map c.bodyRef

/-- The references in the header of a class. -/
def headerRefs (c : Class) : List TypeRef := c.superclass?.toList ++ c.interfaces

theorem exists_of_mem_bodyRefs {c : Class} {r : TypeRef} (h : r ∈ c.bodyRefs) :
    ∃ t, r = c.bodyRef t := by
  rcases List.mem_append.mp h with h | h
  · obtain ⟨f, -, rfl⟩ := List.mem_map.mp h
    exact ⟨f.type, rfl⟩
  · obtain ⟨m, -, h⟩ := List.mem_flatMap.mp h
    simp only [List.mem_append, parameterRefs, returnRef?, List.mem_map, Option.mem_toList,
      Option.map_eq_some_iff] at h
    rcases h with (⟨p, -, rfl⟩ | ⟨t, -, rfl⟩) | ⟨t, -, rfl⟩
    · exact ⟨p.type, rfl⟩
    · exact ⟨t, rfl⟩
    · exact ⟨t, rfl⟩

theorem exists_of_mem_headerRefs {c : Class} {r : TypeRef} (h : r ∈ c.headerRefs) :
    ∃ t, r = c.headerRef t := by
  simp only [headerRefs, superclass?, interfaces, List.mem_append, Option.mem_toList,
    Option.map_eq_some_iff, List.mem_map] at h
  rcases h with ⟨t, -, rfl⟩ | ⟨t, -, rfl⟩
  · exact ⟨t, rfl⟩
  · exact ⟨t, rfl⟩

end Class

namespace SourceUnit

variable {u : SourceUnit} {path : List Class} {c : Class}

theorem exists_nestedAt (hc : c ∈ u.classes) : ∃ path, u.NestedAt path c := by
  refine classes_induct (motive := fun c => ∃ path, u.NestedAt path c) ?_ ?_ hc
  · intro i d hd
    exact ⟨_, .top (mem_tops_iff.mpr ⟨i, d, hd, rfl⟩)⟩
  · rintro c i d hd ⟨path, hpath⟩
    exact ⟨_, .member hpath (Class.mem_members_iff.mpr ⟨i, d, hd, rfl⟩)⟩

theorem NestedAt.mem_classes (h : u.NestedAt path c) : c ∈ u.classes := by
  induction h with
  | top hc => exact mem_classes_of_mem_tops hc
  | member _ hm ih => exact mem_classes_of_mem_members ih hm

/-- The scopes of a class are its path from inside out. -/
theorem NestedAt.scopes_eq (h : u.NestedAt path c) : c.scopes = path.reverse := by
  induction h with
  | top hc =>
    obtain ⟨i, d, -, rfl⟩ := mem_tops_iff.mp hc
    rfl
  | member _ hm ih =>
    rw [Class.scopes_of_mem_members hm, ih]
    simp

/-- The path of the class around a class ends before the class. -/
theorem NestedAt.enclosing_cases (h : u.NestedAt path c) :
    c.enclosing? = none ∧ path.dropLast = [] ∨
      ∃ d, c.enclosing? = some d ∧ u.NestedAt path.dropLast d := by
  cases h with
  | top hc =>
    obtain ⟨i, d, -, rfl⟩ := mem_tops_iff.mp hc
    exact Or.inl ⟨rfl, rfl⟩
  | @member outer d _ hd hm =>
    refine Or.inr ⟨d, Class.enclosing?_member hm, ?_⟩
    rwa [List.dropLast_concat]

theorem key_of_mem_classes (hc : c ∈ u.classes) : c.key = u.key := by
  refine classes_induct (motive := fun c => c.key = u.key) ?_ ?_ hc
  · intro i d _
    rfl
  · intro c i d _ ih
    exact ih

theorem fullName_of_mem_tops (hc : c ∈ u.tops) : c.fullName = Name.within u.package c.name := by
  obtain ⟨i, d, -, rfl⟩ := mem_tops_iff.mp hc
  rfl

end SourceUnit

/-! ### The innermost class -/

/-- What a simple name means in the innermost body of a path: the class at the largest position that
binds the name decides, and there a member comes before the class itself. If there is no such class,
it is a top-level class of the unit. -/
inductive Means (u : SourceUnit) (path : List Class) (name : String) : String → Prop
  | member {i : Nat} {c : Class} : path[i]? = some c → c.HasMember name →
      (∀ j d, i < j → path[j]? = some d → ¬d.Binds name) →
      Means u path name (c.fullName ++ "." ++ name)
  | self {i : Nat} {c : Class} : path[i]? = some c → ¬c.HasMember name → c.name = name →
      (∀ j d, i < j → path[j]? = some d → ¬d.Binds name) → Means u path name c.fullName
  | top {c : Class} : (∀ d ∈ path, ¬d.Binds name) → c ∈ u.tops → c.name = name →
      Means u path name c.fullName

namespace Resolution

variable {u : SourceUnit} {path : List Class} {name full : String} {c : Class}

theorem visibleAt_of_hasMember (h : c.HasMember name) :
    ∃ m, visibleAt name c = some m ∧ m.fullName = c.fullName ++ "." ++ name ∧ m.name = name := by
  cases hfind : c.members.find? fun m => m.name == name with
  | none =>
    obtain ⟨m, hm, hname⟩ := h
    have hne := List.find?_eq_none.mp hfind m hm
    simp [hname] at hne
  | some m =>
    have hname : m.name = name := by simpa using List.find?_some hfind
    refine ⟨m, by rw [visibleAt, hfind], ?_, hname⟩
    rw [Class.fullName_member (List.mem_of_find?_eq_some hfind), hname]

theorem find?_members_eq_none (h : ¬c.HasMember name) :
    (c.members.find? fun m => m.name == name) = none := by
  apply List.find?_eq_none.mpr
  intro m hm hname
  exact h ⟨m, hm, by simpa using hname⟩

theorem visibleAt_self (h : ¬c.HasMember name) (hname : c.name = name) :
    visibleAt name c = some c := by
  rw [visibleAt, find?_members_eq_none h]
  simp [hname]

theorem visibleAt_eq_none_iff : visibleAt name c = none ↔ ¬c.Binds name := by
  constructor
  · rintro hnone (hmember | hname)
    · obtain ⟨m, hm, -⟩ := visibleAt_of_hasMember hmember
      simp [hnone] at hm
    · by_cases hmember : c.HasMember name
      · obtain ⟨m, hm, -⟩ := visibleAt_of_hasMember hmember
        simp [hnone] at hm
      · simp [visibleAt_self hmember hname] at hnone
  · intro h
    simp only [Class.Binds, not_or] at h
    rw [visibleAt, find?_members_eq_none h.1]
    simp [h.2]

theorem findSome?_visibleAt_eq_none (h : ∀ d ∈ path, ¬d.Binds name) :
    path.reverse.findSome? (visibleAt name) = none := by
  apply List.findSome?_eq_none_iff.mpr
  intro d hd
  exact visibleAt_eq_none_iff.mpr (h d (List.mem_reverse.mp hd))

/-- The search from inside out ends at the last class of the path that binds the name. -/
theorem findSome?_visibleAt {i : Nat} (hi : path[i]? = some c)
    (hlast : ∀ j d, i < j → path[j]? = some d → ¬d.Binds name) {m : Class}
    (hm : visibleAt name c = some m) : path.reverse.findSome? (visibleAt name) = some m := by
  obtain ⟨hlength, rfl⟩ := List.getElem?_eq_some_iff.mp hi
  have hsplit : path = path.take i ++ path[i] :: path.drop (i + 1) := by
    rw [List.getElem_cons_drop, List.take_append_drop]
  have hinner : (path.drop (i + 1)).reverse.findSome? (visibleAt name) = none := by
    apply findSome?_visibleAt_eq_none
    intro d hd
    obtain ⟨k, hk⟩ := List.getElem?_of_mem hd
    rw [List.getElem?_drop] at hk
    exact hlast (i + 1 + k) d (by omega) hk
  have hreverse : path.reverse =
      (path.drop (i + 1)).reverse ++ path[i] :: (path.take i).reverse := by
    conv_lhs => rw [hsplit]
    simp
  rw [hreverse, List.findSome?_append, hinner, Option.none_or, List.findSome?_cons, hm]

/-- The classes in whose bodies the scope stands. -/
def scopeChain (scope : Option Class) : List Class := (scope.map Class.scopes).getD []

theorem inScope?_eq_of_scopeChain {scope : Option Class}
    (hscope : scopeChain scope = path.reverse) :
    inScope? name u scope =
      match path.reverse.findSome? (visibleAt name) with
      | some c => some c
      | none => u.tops.find? fun c => c.name == name := by
  rw [inScope?, ← hscope]
  rfl

theorem exists_inScope?_of_means {scope : Option Class} (hscope : scopeChain scope = path.reverse)
    (h : Means u path name full) :
    ∃ c, inScope? name u scope = some c ∧ c.fullName = full ∧ c.name = name := by
  rw [inScope?_eq_of_scopeChain hscope]
  cases h with
  | member hi hmember hlast =>
    obtain ⟨m, hm, hfull, hname⟩ := visibleAt_of_hasMember hmember
    rw [findSome?_visibleAt hi hlast hm]
    exact ⟨m, rfl, hfull, hname⟩
  | @self i c hi hmember hname hlast =>
    rw [findSome?_visibleAt hi hlast (visibleAt_self hmember hname)]
    exact ⟨c, rfl, rfl, hname⟩
  | @top t hnone ht hname =>
    rw [findSome?_visibleAt_eq_none hnone]
    cases hfind : u.tops.find? fun c => c.name == name with
    | none =>
      have hne := List.find?_eq_none.mp hfind t ht
      simp [hname] at hne
    | some c =>
      have hcname : c.name = name := by simpa using List.find?_some hfind
      refine ⟨c, rfl, ?_, hcname⟩
      rw [SourceUnit.fullName_of_mem_tops (List.mem_of_find?_eq_some hfind),
        SourceUnit.fullName_of_mem_tops ht, hcname, hname]

/-- Only the path and the top-level classes can give a simple name a meaning. -/
theorem means_of_inScope? {scope : Option Class} (hscope : scopeChain scope = path.reverse)
    (h : inScope? name u scope = some c) : Means u path name c.fullName := by
  rw [inScope?_eq_of_scopeChain hscope] at h
  cases hfind : path.reverse.findSome? (visibleAt name) with
  | none =>
    rw [hfind] at h
    have hname : c.name = name := by simpa using List.find?_some h
    refine .top (fun d hd => ?_) (List.mem_of_find?_eq_some h) hname
    exact visibleAt_eq_none_iff.mp (List.findSome?_eq_none_iff.mp hfind d (List.mem_reverse.mpr hd))
  | some m =>
    obtain rfl : m = c := by simpa [hfind] using h
    obtain ⟨back, d, front, hsplit, hd, hnone⟩ := List.findSome?_eq_some_iff.mp hfind
    -- The search goes outwards, so none of the classes further in binds the name.
    have hpath : path = front.reverse ++ d :: back.reverse := by
      rw [← List.reverse_reverse path, hsplit]
      simp
    have hi : path[front.reverse.length]? = some d := by simp [hpath]
    have hlast : ∀ j e, front.reverse.length < j → path[j]? = some e → ¬e.Binds name := by
      intro j e hj he
      obtain ⟨k, rfl⟩ : ∃ k, j = front.reverse.length + (k + 1) :=
        ⟨j - front.reverse.length - 1, by omega⟩
      rw [hpath, List.getElem?_append_right (by omega), Nat.add_sub_cancel_left,
        List.getElem?_cons_succ] at he
      exact visibleAt_eq_none_iff.mp (hnone e (List.mem_reverse.mp (List.mem_of_getElem? he)))
    by_cases hmember : d.HasMember name
    · obtain ⟨m', hm', hfull, -⟩ := visibleAt_of_hasMember hmember
      obtain rfl : m' = m := Option.some.inj (hm'.symm.trans hd)
      rw [hfull]
      exact .member hi hmember hlast
    · have hname : d.name = name := by
        by_contra hne
        rw [visibleAt_eq_none_iff.mpr (by simp [Class.Binds, hmember, hne])] at hd
        simp at hd
      rw [visibleAt_self hmember hname] at hd
      obtain rfl : d = m := Option.some.inj hd
      exact .self hi hmember hname hlast

/-! ### References -/

theorem candidates_of_inScope? (hname : Name.IsSimple name) {scope : Option Class}
    (h : inScope? name u scope = some c) :
    ∃ others, candidates u scope name = ⟨c.fullName, .none⟩ :: others := by
  obtain ⟨hfirst, hrest⟩ := Name.first_of_isSimple hname
  rw [candidates_of_ne_empty hname.1, hfirst, hrest, candidatesFor, h]
  simp

/-- A name that means nothing in its scope is one of a unit without classes. -/
theorem candidates_of_out_of_scope (hname : Name.IsSimple name) {scope : Option Class}
    (h : inScope? name u scope = none) :
    candidates u scope name = candidates { u with types := [] } none name := by
  obtain ⟨hfirst, hrest⟩ := Name.first_of_isSimple hname
  have hempty : inScope? name { u with types := [] } none = none := rfl
  rw [candidates_of_ne_empty hname.1, candidates_of_ne_empty hname.1, hfirst, hrest,
    candidatesFor, candidatesFor, h, hempty]

theorem choose_of_needs_none (home : Option RegistryId) (full : String) (cs : List Candidate) :
    choose home (⟨full, .none⟩ :: cs) = .answer (some full) := by
  cases home <;> rfl

end Resolution

/-- The reference resolves as the path says, in any workspace and without a look-up. What means
nothing along the path resolves as in a unit of the same package and imports that has no classes. -/
structure FollowsScopes (w : Workspace) (u : SourceUnit) (path : List Class) (r : TypeRef) :
    Prop where
  inScope : ∀ full, Means u path r.name full →
    w.run r.resolvedName = (.ok (some full), w) ∧ w.run r.fullName = (.ok full, w)
  outOfScope : (∀ full, ¬Means u path r.name full) →
    w.run r.resolvedName = w.run (Resolution.resolve { u with types := [] } none r.name)

theorem followsScopes_of_scopeChain (w : Workspace) {u : SourceUnit} {number : Nat}
    (hkey : u.key = .source number) {path : List Class} {r : TypeRef} (howner : r.owner = some u)
    (hchain : Resolution.scopeChain r.scope = path.reverse) (hname : Name.IsSimple r.name)
    (hprimitive : r.isPrimitive = false) : FollowsScopes w u path r := by
  have hresolved : r.resolvedName = Resolution.resolve u r.scope r.name := by
    rw [TypeRef.resolvedName, hprimitive, howner]
    rfl
  refine ⟨fun full hmeans => ?_, fun hnone => ?_⟩
  · obtain ⟨c, hc, rfl, hcname⟩ := Resolution.exists_inScope?_of_means hchain hmeans
    obtain ⟨others, hothers⟩ := Resolution.candidates_of_inScope? hname hc
    have hquery : r.resolvedName = .home number fun _ => .answer (some c.fullName) := by
      rw [hresolved, Resolution.resolve, hothers, hkey]
      simp only [Query.homeOf, Query.home_bind, Query.answer_bind,
        Resolution.choose_of_needs_none]
    have hne : c.fullName ≠ "" := Class.fullName_ne_empty (hcname ▸ hname.1)
    refine ⟨by rw [hquery]; rfl, ?_⟩
    rw [TypeRef.fullName, hquery]
    simp [Workspace.run, hne]
  · have hscope : Resolution.inScope? r.name u r.scope = none := by
      apply Option.eq_none_iff_forall_not_mem.mpr
      intro c hc
      exact hnone _ (Resolution.means_of_inScope? hchain hc)
    rw [hresolved, Resolution.resolve, Resolution.resolve,
      Resolution.candidates_of_out_of_scope hname hscope]

section Classes

variable {u : SourceUnit} {number : Nat} {path : List Class} {c : Class}

theorem inSource_of_mem_classes (hkey : u.key = .source number) (hc : c ∈ u.classes) :
    c.inSource = true := by
  rw [Class.inSource, SourceUnit.key_of_mem_classes hc, hkey]

theorem scopeChain_bodyRef (hkey : u.key = .source number) (hpath : u.NestedAt path c)
    (t : TypeSpec) : Resolution.scopeChain (c.bodyRef t).scope = path.reverse := by
  rw [Class.bodyRef, inSource_of_mem_classes hkey hpath.mem_classes, ← hpath.scopes_eq]
  rfl

theorem scopeChain_headerRef (hkey : u.key = .source number) (hpath : u.NestedAt path c)
    (t : TypeSpec) : Resolution.scopeChain (c.headerRef t).scope = path.dropLast.reverse := by
  rw [Class.headerRef, inSource_of_mem_classes hkey hpath.mem_classes]
  rcases hpath.enclosing_cases with ⟨hnone, hempty⟩ | ⟨d, hd, hdpath⟩
  · rw [hempty, hnone]
    rfl
  · rw [hd, ← hdpath.scopes_eq]
    rfl

end Classes

/-- A simple name in an assembled unit means what the classes around it say, at any depth: in the
body of a class along the path to the class, in its header along the path to the class around it.
Whatever the registries hold, the innermost class that binds the name decides. -/
theorem resolvedName_follows_scopes (w : Workspace) (number : Nat) (decl : UnitDecl)
    (origin : Option String) :
    (∀ c ∈ (SourceUnit.assemble (.source number) decl origin).classes,
      ∃ path, (SourceUnit.assemble (.source number) decl origin).NestedAt path c) ∧
    ∀ path c, (SourceUnit.assemble (.source number) decl origin).NestedAt path c →
      ∀ r : TypeRef, Name.IsSimple r.name → r.isPrimitive = false →
        (r ∈ c.bodyRefs →
          FollowsScopes w (SourceUnit.assemble (.source number) decl origin) path r) ∧
        (r ∈ c.headerRefs →
          FollowsScopes w (SourceUnit.assemble (.source number) decl origin) path.dropLast r) := by
  have hkey : (SourceUnit.assemble (.source number) decl origin).key = .source number := rfl
  refine ⟨fun c hc => SourceUnit.exists_nestedAt hc, fun path c hpath r hname hprimitive => ?_⟩
  have hunit := SourceUnit.unit_of_mem_classes hpath.mem_classes
  refine ⟨fun hr => ?_, fun hr => ?_⟩
  · obtain ⟨t, rfl⟩ := Class.exists_of_mem_bodyRefs hr
    exact followsScopes_of_scopeChain w hkey hunit (scopeChain_bodyRef hkey hpath t) hname
      hprimitive
  · obtain ⟨t, rfl⟩ := Class.exists_of_mem_headerRefs hr
    exact followsScopes_of_scopeChain w hkey hunit (scopeChain_headerRef hkey hpath t) hname
      hprimitive

namespace History

def innermostDecl : TypeDecl := { name := "A" }

def innerDecl : TypeDecl :=
  { name := "B", superclass := some ⟨"A", 0⟩, fields := [{ name := "x", type := ⟨"A", 1⟩ }],
    nested := [innermostDecl] }

def outerDecl : TypeDecl := { name := "A", nested := [innerDecl] }

/-- A class `A` with a member `B` that extends `A` and has a member `A` of its own, in a unit that
imports another `A`. -/
def layeredDecl : UnitDecl :=
  { package := "p", imports := [{ name := "q.A" }], types := [outerDecl] }

def layered : SourceUnit := .assemble (.source 0) layeredDecl none

def layeredTop : Class := layered.top 0 outerDecl.settled

def layeredInner : Class := layeredTop.member 0 innerDecl.settled

theorem nestedAt_layeredInner : layered.NestedAt [layeredTop, layeredInner] layeredInner :=
  .member (.top (List.mem_singleton.mpr rfl)) (List.mem_singleton.mpr rfl)

/-- In the body of `B` the name means the member, in its header the class around. -/
theorem resolvedName_follows_scopes_layered :
    layered.NestedAt [layeredTop, layeredInner] layeredInner ∧
      layeredInner.bodyRef ⟨"A", 1⟩ ∈ layeredInner.bodyRefs ∧
      layeredInner.headerRef ⟨"A", 0⟩ ∈ layeredInner.headerRefs ∧
      ((after {} .null [.addUnit layered]).run (layeredInner.bodyRef ⟨"A", 1⟩).fullName).1 =
        .ok "p.A.B.A" ∧
      ((after {} .null [.addUnit layered]).run (layeredInner.headerRef ⟨"A", 0⟩).fullName).1 =
        .ok "p.A" := by
  have hbody : layeredInner.bodyRef ⟨"A", 1⟩ ∈ layeredInner.bodyRefs := List.mem_singleton.mpr rfl
  have hheader : layeredInner.headerRef ⟨"A", 0⟩ ∈ layeredInner.headerRefs :=
    List.mem_singleton.mpr rfl
  have hsimple : Name.IsSimple "A" := by
    rw [Name.IsSimple]
    decide
  obtain ⟨-, hfollows⟩ := resolvedName_follows_scopes (after {} .null [.addUnit layered]) 0
    layeredDecl none
  have hb := (hfollows _ _ nestedAt_layeredInner _ hsimple rfl).1 hbody
  have hh := (hfollows _ _ nestedAt_layeredInner _ hsimple rfl).2 hheader
  have hmember : Means layered [layeredTop, layeredInner] "A" "p.A.B.A" := by
    refine Means.member (i := 1) (c := layeredInner) rfl ⟨_, List.mem_singleton.mpr rfl, rfl⟩ ?_
    intro j d hj hd
    obtain ⟨hlength, -⟩ := List.getElem?_eq_some_iff.mp hd
    simp only [List.length_cons, List.length_nil] at hlength
    omega
  have hself : Means layered [layeredTop] "A" "p.A" := by
    refine Means.self (i := 0) (c := layeredTop) rfl ?_ rfl ?_
    · rintro ⟨m, hm, hname⟩
      obtain rfl : m = layeredInner := List.mem_singleton.mp hm
      exact absurd hname (by decide)
    · intro j d hj hd
      obtain ⟨hlength, -⟩ := List.getElem?_eq_some_iff.mp hd
      simp only [List.length_cons, List.length_nil] at hlength
      omega
  exact ⟨nestedAt_layeredInner, hbody, hheader, congrArg Prod.fst (hb.inScope _ hmember).2,
    congrArg Prod.fst (hh.inScope _ hself).2⟩

end History

end JavaAtlas
