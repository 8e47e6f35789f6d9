import JavaAtlas.Proofs.Scoping
import JavaAtlas.Proofs.Subtyping

/-! Derived classes. A class is told apart from others by its place, but what extends it is asked by
its name. So the derived classes of other names are the subtypes of the class, and among those of
the same name are all other declarations of the class that the registry has taken in:
`History.derived_after`. -/

namespace JavaAtlas

/-! ### Classes of one place -/

namespace SourceUnit

variable {u : SourceUnit} {c d : Class}

theorem mem_classes_cases (hc : c ∈ u.classes) :
    c ∈ u.tops ∨ ∃ x ∈ u.classes, c ∈ x.members := by
  obtain ⟨path, hpath⟩ := exists_nestedAt hc
  cases hpath with
  | top htop => exact .inl htop
  | member houter hmember => exact .inr ⟨_, houter.mem_classes, hmember⟩

theorem path_ne_nil (hc : c ∈ u.classes) : c.path ≠ [] := by
  refine classes_induct (motive := fun c => c.path ≠ []) ?_ ?_ hc
  · intro i d _
    simp [top]
  · intro c i d _ _
    simp [Class.member]

/-- At a place of a unit stands one class. -/
theorem eq_of_path_eq (hc : c ∈ u.classes) (hd : d ∈ u.classes) (hpath : c.path = d.path) :
    c = d := by
  suffices c ∈ u.classes ∧ ∀ d ∈ u.classes, c.path = d.path → c = d from this.2 d hd hpath
  -- A place in a class is one more step behind the place of that class, so that the paths of two
  -- classes, read from their ends, either both end at the top of the unit or lead to the same class.
  refine classes_induct
    (motive := fun c => c ∈ u.classes ∧ ∀ d ∈ u.classes, c.path = d.path → c = d) ?_ ?_ hc
  · intro i e he
    refine ⟨mem_classes_of_mem_tops (mem_tops_iff.mpr ⟨i, e, he, rfl⟩), fun d hd hpath => ?_⟩
    rcases mem_classes_cases hd with htop | ⟨x, hx, hmember⟩
    · obtain ⟨j, e', he', rfl⟩ := mem_tops_iff.mp htop
      obtain rfl : i = j := by simpa [top] using hpath
      obtain rfl : e = e' := Option.some.inj (he.symm.trans he')
      rfl
    · obtain ⟨j, e', -, rfl⟩ := Class.mem_members_iff.mp hmember
      have hlength := congrArg List.length hpath
      have hpos := List.length_pos_iff.mpr (path_ne_nil hx)
      simp only [top, Class.member, List.length_append, List.length_singleton] at hlength
      omega
  · intro x i e he ih
    refine ⟨mem_classes_of_mem_members ih.1 (Class.mem_members_iff.mpr ⟨i, e, he, rfl⟩), ?_⟩
    intro d hd hpath
    rcases mem_classes_cases hd with htop | ⟨y, hy, hmember⟩
    · obtain ⟨j, e', -, rfl⟩ := mem_tops_iff.mp htop
      have hlength := congrArg List.length hpath
      have hpos := List.length_pos_iff.mpr (path_ne_nil ih.1)
      simp only [top, Class.member, List.length_append, List.length_singleton] at hlength
      omega
    · obtain ⟨j, e', he', rfl⟩ := Class.mem_members_iff.mp hmember
      obtain ⟨hxy, hij⟩ := List.append_inj' hpath rfl
      obtain rfl := ih.2 y hy hxy
      obtain rfl : i = j := by simpa using hij
      obtain rfl : e = e' := Option.some.inj (he.symm.trans he')
      rfl

end SourceUnit

/-- Classes of units that are told apart by their keys are told apart by their places. -/
theorem Class.same_iff {us : List SourceUnit}
    (hkeys : ∀ u ∈ us, ∀ u' ∈ us, u.key = u'.key → u = u') {c d : Class}
    (hc : c ∈ us.flatMap SourceUnit.classes) (hd : d ∈ us.flatMap SourceUnit.classes) :
    d.same c = true ↔ d = c := by
  refine ⟨fun h => ?_, fun h => by simp [same, h]⟩
  obtain ⟨u, hu, hcu⟩ := List.mem_flatMap.mp hc
  obtain ⟨u', hu', hdu⟩ := List.mem_flatMap.mp hd
  obtain ⟨hkey, hpath⟩ : d.key = c.key ∧ d.path = c.path := by simpa [same] using h
  rw [SourceUnit.key_of_mem_classes hdu, SourceUnit.key_of_mem_classes hcu] at hkey
  obtain rfl := hkeys u' hu' u hu hkey
  exact SourceUnit.eq_of_path_eq hdu hcu hpath

/-! ### Classes that are asked for -/

/-- A question was answered with yes. -/
def isYes : Except EntryError Bool → Bool
  | .ok b => b
  | .error _ => false

namespace Class

theorem eval_selected {v : View} {question : Class → Query Bool} {cs ds : List Class}
    (h : (selected question cs).eval v = .ok ds) :
    ds = cs.filter fun c => isYes ((question c).eval v) := by
  induction cs generalizing ds with
  | nil =>
    obtain rfl : [] = ds := by simpa [selected] using h
    rfl
  | cons c cs ih =>
    rw [selected, Query.eval_bind] at h
    cases hc : (question c).eval v with
    | error e => simp [hc] at h
    | ok b =>
      cases b with
      | false =>
        rw [List.filter_cons_of_neg (by simp [hc, isYes])]
        exact ih (by simpa [hc] using h)
      | true =>
        rw [List.filter_cons_of_pos (by simp [hc, isYes])]
        rw [hc] at h
        cases hrest : (selected question cs).eval v with
        | error e => simp [hrest] at h
        | ok rest =>
          rw [← ih hrest]
          simpa [hrest] using h.symm

/-- Every class is itself, whatever can be looked up. -/
theorem eval_isA_self (v : View) (c : Class) {name : String} (h : c.fullName = name) :
    (c.isA name).eval v = .ok true := by
  simp [isA, anyIsA, h]

/-- A class is what the first of its known supertypes is called. -/
theorem eval_isA_of_supertypes (v : View) {c d : Class} {more : List Class} {name : String}
    (hname : c.fullName ≠ name) (hroot : name ≠ rootName)
    (habove : c.supertypes.eval v = .ok (d :: more)) (h : d.fullName = name) :
    (c.isA name).eval v = .ok true := by
  rw [isA, Query.eval_bind, Query.eval_knownNames, Query.ok_bind,
    anyIsA_enter hname (by simp) fun hr => hroot hr.2, Query.eval_bind, habove, Query.ok_bind,
    List.cons_append, anyIsA_target h]
  rfl

/-- The derived classes of a class in its registry are those other than it that are it by name. -/
theorem eval_derived {v : View} {c : Class} {id : RegistryId} {ds : List Class}
    (hhome : c.registry?.eval v = .ok (some id)) (h : c.derived.eval v = .ok ds) :
    ds = ((v.sources id).flatMap SourceUnit.classes).filter fun d =>
      !d.same c && isYes ((d.isA c.fullName).eval v) := by
  rw [derived, Query.eval_bind, hhome, Query.ok_bind, Query.eval_bind, Query.eval_classesOf,
    Query.ok_bind] at h
  rw [eval_selected h]
  refine List.filter_congr fun d _ => ?_
  cases d.same c <;> simp [isYes]

/-- The other declarations of a class. -/
def namesakes (c : Class) (cs : List Class) : List Class :=
  cs.filter fun d => d.fullName == c.fullName && !d.same c

/-! ### Names and places -/

section Selection

variable {cs : List Class} {c : Class} {yes : Class → Bool}
  (hsame : ∀ d ∈ cs, d.same c = true ↔ d = c)

include hsame

theorem filter_ne_selection :
    ((cs.filter fun d => !d.same c && yes d).filter fun d => d.fullName != c.fullName) =
      cs.filter fun d => d.fullName != c.fullName && yes d := by
  rw [List.filter_filter]
  refine List.filter_congr fun d hd => ?_
  by_cases hname : d.fullName = c.fullName
  · simp [hname]
  · have hother : d.same c = false := by
      rw [← Bool.not_eq_true, hsame d hd]
      exact fun h => hname (congrArg Class.fullName h)
    simp [hother]

variable (hself : ∀ d, d.fullName = c.fullName → yes d = true)

include hself

omit hsame in
theorem filter_eq_selection :
    ((cs.filter fun d => !d.same c && yes d).filter fun d => d.fullName == c.fullName) =
      c.namesakes cs := by
  rw [List.filter_filter]
  refine List.filter_congr fun d _ => ?_
  by_cases hname : d.fullName = c.fullName
  · simp [hname, hself d hname]
  · simp [beq_eq_false_iff_ne.mpr hname]

/-- To leave out the class is to leave out its name exactly if nothing else has that name. -/
theorem selection_eq_iff :
    ((cs.filter fun d => !d.same c && yes d) =
        cs.filter fun d => d.fullName != c.fullName && yes d) ↔
      ∀ d ∈ cs, d.fullName = c.fullName → d = c := by
  refine ⟨fun heq d hd hname => ?_, fun honce => ?_⟩
  · by_contra hne
    have hother : d.same c = false := by
      rw [← Bool.not_eq_true, hsame d hd]
      exact hne
    have hmem : d ∈ cs.filter fun d => !d.same c && yes d :=
      List.mem_filter.mpr ⟨hd, by simp [hother, hself d hname]⟩
    rw [heq, List.mem_filter] at hmem
    simp [hname] at hmem
  · rw [← filter_ne_selection hsame, eq_comm, List.filter_eq_self]
    intro d hd
    obtain ⟨hmem, hyes⟩ := List.mem_filter.mp hd
    rw [bne_iff_ne]
    intro hname
    simp [(hsame d hmem).mpr (honce d hmem hname)] at hyes

end Selection

end Class

namespace History

/-- The registered classes of other names that extend or implement a class. -/
def subtypesOf (w : Workspace) (cs : List Class) (c : Class) : List Class :=
  cs.filter fun d => d.fullName != c.fullName && isYes (w.run (d.isA c.fullName)).1

/-- An assembled class belongs to the registry that its unit was added to. -/
theorem registry?_of_mem_classes {tool : Tool} {grammar : Value} {steps : List Step}
    (hassembled : ∀ u ∈ units steps, u ∈ assembled steps) {c : Class}
    (hc : c ∈ (units steps).flatMap SourceUnit.classes) :
    c.registry?.eval (plain tool grammar (units steps) (resolvers steps)).view =
      .ok (some main) := by
  obtain ⟨u, hu, hcu⟩ := List.mem_flatMap.mp hc
  obtain ⟨n, hkey, -⟩ := mem_assembled (hassembled u hu)
  simp only [Class.registry?, SourceUnit.unit_of_mem_classes hcu, Query.eval_homeOf]
  rw [homeOf_plain hu (isHomed_of_source hkey)]

/-- The derived classes of a registered class are its subtypes of other names and, among them, all
other declarations of the class, in the order of the registry. So they are the subtypes alone
exactly if the class is declared once. They are found if the catalogs behind the registry are
complete. -/
theorem derived_after (tool : Tool) (grammar : Value) (steps : List Step)
    (hassembled : ∀ u ∈ units steps, u ∈ assembled steps) {cs : List Class}
    (hcs : ((after tool grammar steps).run (.classesOf main)).1 = .ok cs) {c : Class}
    (hc : c ∈ cs) :
    (∀ ds, ((after tool grammar steps).run c.derived).1 = .ok ds →
      ds.Sublist cs ∧
      (ds.filter fun d => d.fullName != c.fullName) = subtypesOf (after tool grammar steps) cs c ∧
      (ds.filter fun d => d.fullName == c.fullName) = c.namesakes cs ∧
      (ds = subtypesOf (after tool grammar steps) cs c ↔
        ∀ d ∈ cs, d.fullName = c.fullName → d = c)) ∧
    ((∀ r ∈ resolvers steps, r.isTotal = true) →
      ∃ ds, ((after tool grammar steps).run c.derived).1 = .ok ds) := by
  obtain rfl : (units steps).flatMap SourceUnit.classes = cs := by
    simpa [classesOf_after] using hcs
  refine ⟨fun ds hds => ?_, fun htotal => ?_⟩
  · have hkeys : ∀ u ∈ units steps, ∀ u' ∈ units steps, u.key = u'.key → u = u' :=
      fun u hu u' hu' => eq_of_key_eq (hassembled u hu) (hassembled u' hu')
    have hself : ∀ d : Class, d.fullName = c.fullName →
        isYes ((after tool grammar steps).run (d.isA c.fullName)).1 = true := by
      intro d hname
      rw [run_after, Class.eval_isA_self _ d hname]
      rfl
    have hderived : ds = ((units steps).flatMap SourceUnit.classes).filter fun d =>
        !d.same c && isYes ((after tool grammar steps).run (d.isA c.fullName)).1 := by
      simp only [run_after] at hds ⊢
      exact Class.eval_derived (registry?_of_mem_classes hassembled hc) hds
    have hsame := fun d hd => Class.same_iff hkeys hc (d := d) hd
    rw [hderived]
    exact ⟨List.filter_sublist, Class.filter_ne_selection hsame, Class.filter_eq_selection hself,
      Class.selection_eq_iff hsame hself⟩
  · rw [run_after]
    exact exists_eval_of_isTotal htotal _

/-- A class, and in a second unit the class again and one that extends it. -/
def onceUnit : SourceUnit := { key := .source 0, package := "p", types := [{ name := "A" }] }

def againUnit : SourceUnit :=
  { key := .source 1, package := "p"
    types := [{ name := "A" }, { name := "B", superclass := some ⟨"A", 0⟩ }] }

def redeclared : List Step :=
  [.assemble { package := "p", types := onceUnit.types } none,
    .assemble { package := "p", types := againUnit.types } none, .addUnit onceUnit,
    .addUnit againUnit]

def onceA : Class := onceUnit.top 0 { name := "A" }

def againA : Class := againUnit.top 0 { name := "A" }

def extendingB : Class := againUnit.top 1 { name := "B", superclass := some ⟨"A", 0⟩ }

theorem isYes_extendingB :
    isYes ((after {} .null redeclared).run (extendingB.isA againA.fullName)).1 = true := by
  rw [run_after, Class.eval_isA_of_supertypes _ (by decide) (by decide) rfl rfl]
  rfl

theorem subtypesOf_redeclared :
    subtypesOf (after {} .null redeclared) [onceA, againA, extendingB] againA = [extendingB] := by
  have hnames : onceA.fullName = againA.fullName ∧ extendingB.fullName ≠ againA.fullName := by
    decide
  simp [subtypesOf, hnames, isYes_extendingB]

/-- Of other names than its own, only the class that extends it is derived from the second one. -/
theorem derived_after_redeclared :
    (∀ u ∈ units redeclared, u ∈ assembled redeclared) ∧
      ((after {} .null redeclared).run (.classesOf main)).1 = .ok [onceA, againA, extendingB] ∧
      ∃ ds, ((after {} .null redeclared).run againA.derived).1 = .ok ds ∧
        (ds.filter fun d => d.fullName != "p.A") = [extendingB] := by
  have hassembled : ∀ u ∈ units redeclared, u ∈ assembled redeclared := fun u hu => hu
  have hcs : ((after {} .null redeclared).run (.classesOf main)).1 =
      .ok [onceA, againA, extendingB] := rfl
  obtain ⟨hderived, hanswer⟩ :=
    derived_after {} .null redeclared hassembled hcs (c := againA) (by simp)
  obtain ⟨ds, hds⟩ := hanswer (by simp [resolvers, redeclared])
  obtain ⟨-, hsubtypes, -, -⟩ := hderived ds hds
  exact ⟨hassembled, hcs, ds, hds, hsubtypes.trans subtypesOf_redeclared⟩

/-- The first declaration of the class is listed as derived from the second one. -/
theorem derived_of_redeclared :
    ((after {} .null redeclared).run againA.derived).1 = .ok [onceA, extendingB] ∧
      onceA.fullName = againA.fullName ∧
      subtypesOf (after {} .null redeclared) [onceA, againA, extendingB] againA = [extendingB] := by
  refine ⟨?_, rfl, subtypesOf_redeclared⟩
  have hextending := isYes_extendingB
  have htotal : ∀ r ∈ resolvers redeclared, r.isTotal = true := by simp [resolvers, redeclared]
  obtain ⟨ds, hds⟩ : ∃ ds, againA.derived.eval
      (plain {} .null (units redeclared) (resolvers redeclared)).view = .ok ds :=
    exists_eval_of_isTotal htotal _
  have hclasses : ((plain {} .null (units redeclared) (resolvers redeclared)).view.sources
      main).flatMap SourceUnit.classes = [onceA, againA, extendingB] := rfl
  have honce : isYes ((onceA.isA againA.fullName).eval
      (plain {} .null (units redeclared) (resolvers redeclared)).view) = true := by
    rw [Class.eval_isA_self _ onceA (by decide)]
    rfl
  have hothers : onceA.same againA = false ∧ againA.same againA = true ∧
      extendingB.same againA = false := by decide
  rw [run_after] at hextending ⊢
  rw [hds, Class.eval_derived rfl hds, hclasses]
  simp [hothers, honce, hextending]

end History

end JavaAtlas
