import JavaAtlas.Proofs.Shadowing
import Mathlib.Tactic.ByContra

/-! The classes of a unit by name. A unit finds its classes by their simple names and by their full
names in one pass, depth first, so that the simple name of a class can stand in the way of the full
name of a later one. Where names have no dots this takes a full name without dots, too: only a
top-level class of the default package is missed, for a class of its name inside an earlier top-level
class, `SourceUnit.class?_own_iff`. -/

namespace JavaAtlas

/-! ### Trees -/

namespace Class

variable {c x t : Class}

theorem tree_eq_cons (t : Class) :
    t.tree = t :: treesOf { t with outer := t.decl :: t.outer } 0 t.decl.nested := by
  obtain ⟨key, unit, path, ⟨kind, name, modifiers, superclass, interfaces, fields, methods, nested,
    line⟩, outer⟩ := t
  rw [tree, treeOf]

/-- Around every other class of a tree stands a class. -/
theorem eq_or_outer_ne_nil_of_mem_tree (h : x ∈ t.tree) : x = t ∨ x.outer ≠ [] := by
  rw [tree_eq_cons] at h
  rcases List.mem_cons.mp h with rfl | h
  · exact .inl rfl
  · refine .inr (treesOf_induct (motive := fun x => x.outer ≠ []) ?_ ?_ h)
    · intro c i d _ _
      exact List.cons_ne_nil _ _
    · intro i d _
      exact List.cons_ne_nil _ _

theorem dot_mem_fullName (h : c.outer ≠ []) : '.' ∈ c.fullName.toList := by
  obtain ⟨d, outer, houter⟩ := List.exists_cons_of_ne_nil h
  rw [fullName, houter, fullNameIn, String.toList_append, String.toList_append]
  simp

end Class

/-- A place in a list of lists is one in a list. -/
theorem exists_split_flatMap {α β : Type} {f : α → List β} {as : List α} {front back : List β}
    {x : β} (h : as.flatMap f = front ++ x :: back) :
    ∃ before a after inner rest, as = before ++ a :: after ∧ f a = inner ++ x :: rest ∧
      front = before.flatMap f ++ inner := by
  induction as generalizing front with
  | nil => simp at h
  | cons a as ih =>
    rw [List.flatMap_cons] at h
    rcases Class.append_cons_cases h with ⟨rest, ha, -⟩ | ⟨more, rfl, hlater⟩
    · exact ⟨[], a, as, front, rest, rfl, ha, rfl⟩
    · obtain ⟨before, b, after, inner, rest, rfl, hb, rfl⟩ := ih hlater
      exact ⟨a :: before, b, after, inner, rest, rfl, hb, by simp⟩

namespace SourceUnit

variable {u : SourceUnit} {c d : Class} {name : String}

/-! ### Names in the way -/

/-- In front of all classes whose full name this is stands one of another full name that has it as
its simple name. -/
def Hides (u : SourceUnit) (name : String) : Prop :=
  ∃ front e back, u.classes = front ++ e :: back ∧ e.name = name ∧ e.fullName ≠ name ∧
    ∀ x ∈ front, x.fullName ≠ name

/-- In front of all top-level classes of this name stands one that has a class of this name
inside. -/
def Captures (u : SourceUnit) (name : String) : Prop :=
  ∃ front t back, u.tops = front ++ t :: back ∧ (∀ s ∈ front ++ [t], s.name ≠ name) ∧
    ∃ m ∈ t.tree, m.name = name

theorem exists_class? (hc : c ∈ u.classes) :
    ∃ d ∈ u.classes, u.class? c.fullName = some d := by
  cases hfind : u.class? c.fullName with
  | none => simpa using List.find?_eq_none.mp hfind c hc
  | some d => exact ⟨d, List.mem_of_find?_eq_some hfind, rfl⟩

/-- What is found under a name has it as its full name unless another class is in the way. -/
theorem fullName_class?_iff (h : u.class? name = some d) : d.fullName = name ↔ ¬u.Hides name := by
  obtain ⟨hd, first, rest, hsplit, hfirst⟩ := List.find?_eq_some_iff_append.mp h
  have hneither : ∀ x ∈ first, x.name ≠ name ∧ x.fullName ≠ name := by
    intro x hx
    have hno := hfirst x hx
    simp only [Bool.not_eq_true', Bool.or_eq_false_iff, beq_eq_false_iff_ne, ne_eq] at hno
    exact ⟨Ne.symm hno.1, Ne.symm hno.2⟩
  constructor
  · rintro hfull ⟨front, e, back, hsplit', hname, hother, hfront⟩
    have hboth : first ++ d :: rest = front ++ e :: back := hsplit.symm.trans hsplit'
    rcases Class.append_cons_cases hboth with ⟨more, rfl, -⟩ | ⟨more, rfl, hmore⟩
    · exact (hneither e (by simp)).1 hname
    · cases more with
      | nil =>
        obtain ⟨rfl, -⟩ := List.cons.inj hmore
        exact hother hfull
      | cons y more =>
        obtain ⟨rfl, -⟩ := List.cons.inj hmore
        exact hfront d (by simp) hfull
  · intro hnone
    by_contra hother
    have hname : d.name = name := by
      simp only [Bool.or_eq_true, beq_iff_eq] at hd
      rcases hd with hd | hd
      · exact hd.symm
      · exact absurd hd.symm hother
    exact hnone ⟨first, d, rest, hsplit, hname, hother, fun x hx => (hneither x hx).2⟩

/-! ### Names without dots -/

theorem fullName_of_mem_tops_default (hpackage : u.package = "") (hc : c ∈ u.tops) :
    c.fullName = c.name := by
  rw [fullName_of_mem_tops hc, hpackage]
  rfl

/-- Without dots are only the full names of top-level classes in the default package. -/
theorem package_of_dot_notMem (hc : c ∈ u.classes) (hdot : '.' ∉ c.fullName.toList) :
    u.package = "" ∧ c ∈ u.tops := by
  obtain ⟨t, ht, hct⟩ := List.mem_flatMap.mp hc
  rcases Class.eq_or_outer_ne_nil_of_mem_tree hct with rfl | houter
  · refine ⟨?_, ht⟩
    by_contra hpackage
    rw [fullName_of_mem_tops ht, Name.within, if_neg (by simpa using hpackage)] at hdot
    simp at hdot
  · exact absurd (Class.dot_mem_fullName houter) hdot

theorem captures_of_hides (hpackage : u.package = "") (hc : c ∈ u.tops) (h : u.Hides c.fullName) :
    u.Captures c.name := by
  rw [fullName_of_mem_tops_default hpackage hc] at h
  obtain ⟨front, e, back, hsplit, hname, hother, hfront⟩ := h
  obtain ⟨before, t, after, inner, rest, htops, htree, rfl⟩ := exists_split_flatMap hsplit
  have htop {s : Class} (hs : s ∈ before ++ [t]) : s.fullName = s.name := by
    apply fullName_of_mem_tops_default hpackage
    rw [htops, List.append_cons]
    exact List.mem_append_left after hs
  refine ⟨before, t, after, htops, fun s hs => ?_, e, by simp [htree], hname⟩
  rw [← htop hs]
  rcases List.mem_append.mp hs with hs | hs
  · refine hfront s (List.mem_append_left _ (List.mem_flatMap.mpr ⟨s, hs, ?_⟩))
    exact Class.self_mem_treeOf s s.decl
  · obtain rfl := List.mem_singleton.mp hs
    -- the top of the tree stands in front of the class inside it
    rw [Class.tree_eq_cons] at htree
    cases inner with
    | nil =>
      obtain ⟨rfl, -⟩ := List.cons.inj htree
      exact hother
    | cons y inner =>
      obtain ⟨rfl, -⟩ := List.cons.inj htree
      exact hfront s (by simp)

section Plain

variable (hplain : ∀ x ∈ u.classes, '.' ∉ x.name.toList)

include hplain

theorem hides_of_captures (hpackage : u.package = "") (hc : c ∈ u.tops) (h : u.Captures c.name) :
    u.Hides c.fullName := by
  rw [fullName_of_mem_tops_default hpackage hc]
  obtain ⟨before, t, after, htops, hnames, m, hm, hname⟩ := h
  obtain ⟨inner, rest, htree⟩ := List.append_of_mem hm
  have hdot : '.' ∉ c.name.toList := hplain c (mem_classes_of_mem_tops hc)
  -- a class of one of these trees is its top, or has a dot in its full name
  have hother {s x : Class} (hs : s ∈ before ++ [t]) (hx : x ∈ s.tree) : x.fullName ≠ c.name := by
    rcases Class.eq_or_outer_ne_nil_of_mem_tree hx with rfl | houter
    · have hx : x ∈ u.tops := by
        rw [htops, List.append_cons]
        exact List.mem_append_left after hs
      rw [fullName_of_mem_tops_default hpackage hx]
      exact hnames x hs
    · intro heq
      exact hdot (heq ▸ Class.dot_mem_fullName houter)
  refine ⟨before.flatMap Class.tree ++ inner, m, rest ++ after.flatMap Class.tree, ?_, hname,
    hother (by simp) hm, fun x hx => ?_⟩
  · simp [classes, htops, htree]
  · rcases List.mem_append.mp hx with hx | hx
    · obtain ⟨s, hs, hx⟩ := List.mem_flatMap.mp hx
      exact hother (List.mem_append_left _ hs) hx
    · exact hother (s := t) (by simp) (by simp [htree, hx])

theorem hides_iff (hc : c ∈ u.classes) :
    u.Hides c.fullName ↔ u.package = "" ∧ c ∈ u.tops ∧ u.Captures c.name := by
  constructor
  · intro h
    obtain ⟨front, e, back, hsplit, hname, -, -⟩ := id h
    have he : e ∈ u.classes := by simp [hsplit]
    obtain ⟨hpackage, htop⟩ := package_of_dot_notMem hc (hname ▸ hplain e he)
    exact ⟨hpackage, htop, captures_of_hides hpackage htop h⟩
  · rintro ⟨hpackage, htop, h⟩
    exact hides_of_captures hplain hpackage htop h

end Plain

/-- A unit always finds something under the full name of one of its classes. It is a class of that
full name unless a class of that simple name is in the way. Where names have no dots, this can only
happen to a top-level class of the default package, and it does exactly if a class of its name stands
inside a top-level class in front of the first one of that name. -/
theorem class?_own_iff (hc : c ∈ u.classes) :
    ∃ d ∈ u.classes, u.class? c.fullName = some d ∧
      (d.fullName = c.fullName ↔ ¬u.Hides c.fullName) ∧
      ((∀ x ∈ u.classes, '.' ∉ x.name.toList) →
        (u.Hides c.fullName ↔ u.package = "" ∧ c ∈ u.tops ∧ u.Captures c.name)) := by
  obtain ⟨d, hd, hfind⟩ := exists_class? hc
  exact ⟨d, hd, hfind, fullName_class?_iff hfind, fun hplain => hides_iff hplain hc⟩

/-- A class with a member, and behind it a class of the member's name. -/
def homonymsDecl (package : String) : UnitDecl :=
  { package, types := [{ name := "A", nested := [{ name := "B" }] }, { name := "B" }] }

def homonyms (package : String) : SourceUnit := .assemble (.source 0) (homonymsDecl package) none

/-- In a named package the member is not in the way. -/
theorem class?_own_iff_homonyms :
    (homonyms "p").top 1 { name := "B" } ∈ (homonyms "p").classes ∧
      (∀ x ∈ (homonyms "p").classes, '.' ∉ x.name.toList) ∧
      ∃ d, (homonyms "p").class? "p.B" = some d ∧ d.fullName = "p.B" := by
  have hc : (homonyms "p").top 1 { name := "B" } ∈ (homonyms "p").classes :=
    mem_classes_of_mem_tops (mem_tops_iff.mpr ⟨1, { name := "B" }, rfl, rfl⟩)
  have hplain : ∀ x ∈ (homonyms "p").classes, '.' ∉ x.name.toList := by decide
  obtain ⟨d, -, hfind, hiff, hhides⟩ := class?_own_iff hc
  refine ⟨hc, hplain, d, hfind, hiff.mpr fun h => ?_⟩
  obtain ⟨hpackage, -, -⟩ := (hhides hplain).mp h
  exact absurd hpackage (by decide)

/-- In the default package it is found in place of the class behind it. -/
theorem class?_of_homonym :
    (homonyms "").top 1 { name := "B" } ∈ (homonyms "").classes ∧
      ((homonyms "").top 1 { name := "B" }).fullName = "B" ∧
      ((homonyms "").class? "B").map Class.fullName = some "A.B" := by
  refine ⟨mem_classes_of_mem_tops (mem_tops_iff.mpr ⟨1, { name := "B" }, rfl, rfl⟩), ?_, ?_⟩
  · decide
  · decide

end SourceUnit

end JavaAtlas
