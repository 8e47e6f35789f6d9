import JavaAtlas.Proofs.BinaryNames
import JavaAtlas.Proofs.Shadowing

/-! Member classes by name. Inside a class a dotted name leads down from member to member, and a
registry finds a class of any depth by its full name. Where no two classes have the same full name,
both ways lead to the same class: `Reachable.memberNamed?_iff_descends`. -/

namespace JavaAtlas

/-- The names of a dotted name lead down one by one. -/
theorem Class.descent_join {ns : List String} (hne : ns ≠ []) (hns : ∀ n ∈ ns, Name.IsSimple n) :
    descent (Name.join ns) = ns := by
  have hlast : ns.getLast? ≠ some "" := fun h => (hns "" (List.mem_of_getLast? h)).1 rfl
  simp [descent, Name.segments_join hne fun n hn => (hns n hn).2, hlast]

/-- Member classes of the given names, each one inside the one before, from a class down to
another. -/
inductive Class.Descends : Class → List String → Class → Prop
  | here (c : Class) : Descends c [] c
  | member {c m d : Class} {n : String} {ns : List String} (inside : m ∈ c.members)
      (named : m.name = n) (further : Descends m ns d) : Descends c (n :: ns) d

namespace Class

variable {c d : Class} {ns : List String}

/-- The names on the way down are those that a full name adds. -/
theorem Descends.fullName (h : c.Descends ns d) : d.fullName = Name.join (c.fullName :: ns) := by
  induction h with
  | here c => simp [Name.join]
  | @member c m d n ns inside named further ih =>
    have hmember : m.fullName = Name.join [c.fullName, n] := by
      simpa [Name.join, named] using fullName_member inside
    by_cases hnil : ns = []
    · rw [ih, hnil, hmember]
      simp [Name.join]
    · calc d.fullName
          = Name.join [m.fullName] ++ "." ++ Name.join ns := by
            rw [ih, ← Name.join_append (by simp) hnil, List.singleton_append]
        _ = Name.join [c.fullName, n] ++ "." ++ Name.join ns := by simp [Name.join, hmember]
        _ = Name.join (c.fullName :: n :: ns) := by
            rw [← Name.join_append (by simp) hnil]
            rfl

/-- Classes among which the members of each stand, and no two of the same full name. -/
structure Distinct (cs : List Class) : Prop where
  members : ∀ c ∈ cs, ∀ m ∈ c.members, m ∈ cs
  names : (cs.map Class.fullName).Nodup

namespace Distinct

variable {cs : List Class}

theorem eq_of_fullName (h : Distinct cs) (hc : c ∈ cs) (hd : d ∈ cs)
    (hname : c.fullName = d.fullName) : c = d :=
  List.inj_on_of_nodup_map h.names hc hd hname

theorem mem_of_descends (h : Distinct cs) (hc : c ∈ cs) (hdown : c.Descends ns d) : d ∈ cs := by
  induction hdown with
  | here c => exact hc
  | member inside _ _ ih => exact ih (h.members _ hc _ inside)

/-- A class has no two members of one name, so that the first of a name is the only one. -/
theorem find?_members (h : Distinct cs) (hc : c ∈ cs) {m : Class} (hm : m ∈ c.members) :
    (c.members.find? fun x => x.name == m.name) = some m := by
  cases hfind : c.members.find? fun x => x.name == m.name with
  | none => simpa using List.find?_eq_none.mp hfind m hm
  | some x =>
    have hx := List.mem_of_find?_eq_some hfind
    have hname : x.name = m.name := by simpa using List.find?_some hfind
    congr 1
    refine h.eq_of_fullName (h.members c hc x hx) (h.members c hc m hm) ?_
    rw [fullName_member hx, fullName_member hm, hname]

/-- The way down by names is found wherever there is one. -/
theorem descend_eq_some_iff (h : Distinct cs) (hc : c ∈ cs) :
    c.descend ns = some d ↔ c.Descends ns d := by
  induction ns generalizing c with
  | nil =>
    refine ⟨fun hd => ?_, fun hd => ?_⟩
    · obtain rfl : c = d := by simpa [descend] using hd
      exact .here c
    · cases hd
      rfl
  | cons n ns ih =>
    rw [descend, Option.bind_eq_some_iff]
    refine ⟨?_, fun hd => ?_⟩
    · rintro ⟨m, hfind, hdown⟩
      have hm := List.mem_of_find?_eq_some hfind
      have hname : m.name = n := by simpa using List.find?_some hfind
      exact .member hm hname ((ih (h.members c hc m hm)).mp hdown)
    · cases hd with
      | member inside named further =>
        subst named
        exact ⟨_, h.find?_members hc inside, (ih (h.members c hc _ inside)).mpr further⟩

/-- Each of the classes is the last of its name. -/
theorem lastNamed (h : Distinct cs) (hc : c ∈ cs) : lastNamed cs c.fullName = some c := by
  cases hlast : JavaAtlas.lastNamed cs c.fullName with
  | none => exact absurd rfl (lastNamed_eq_none hlast c hc)
  | some d =>
    rw [h.eq_of_fullName (mem_of_lastNamed hlast) hc (fullName_of_lastNamed hlast)]

end Distinct

end Class

theorem Registry.mem_classes_of_mem_members {r : Registry} {c m : Class} (hc : c ∈ r.classes)
    (hm : m ∈ c.members) : m ∈ r.classes := by
  obtain ⟨u, hu, hc⟩ := List.mem_flatMap.mp hc
  exact List.mem_flatMap.mpr ⟨u, hu, SourceUnit.mem_classes_of_mem_members hc hm⟩

/-- Where the classes of a registry have different full names, a dotted name leads from one of them
to the class at the end of the chain of members with these names, if there is such a chain, and to
nothing otherwise. The registry finds the same class by its full name. -/
theorem Reachable.memberNamed?_iff_descends {tool : Tool} {w : Workspace} (h : Reachable tool w)
    {id : RegistryId} {cs : List Class} (hcs : (w.run (.classesOf id)).1 = .ok cs)
    (hdistinct : (cs.map Class.fullName).Nodup) {c : Class} (hc : c ∈ cs) {ns : List String}
    (hne : ns ≠ []) (hns : ∀ n ∈ ns, Name.IsSimple n) (d : Class) :
    (c.memberNamed? (Name.join ns) = some d ↔ c.Descends ns d) ∧
      (c.Descends ns d →
        (w.run (.classNamed id (c.fullName ++ "." ++ Name.join ns))).1 = .ok (some d)) := by
  have hfaithful := h.faithful.1
  rw [hfaithful.run_answer, Query.eval_classesOf] at hcs
  rw [hfaithful.run_answer, Query.eval_classNamed]
  cases hr : w.registry? id with
  | none =>
    obtain rfl : [] = cs := by simpa [Workspace.view, hr] using hcs
    cases hc
  | some r =>
    obtain rfl : r.classes = cs := by simpa [Workspace.view, hr, Registry.classes] using hcs
    have hclasses : Class.Distinct r.classes :=
      ⟨fun x hx m hm => Registry.mem_classes_of_mem_members hx hm, hdistinct⟩
    refine ⟨?_, fun hdown => ?_⟩
    · rw [Class.memberNamed?, Class.descent_join hne hns]
      exact hclasses.descend_eq_some_iff hc
    · have hname : c.fullName ++ "." ++ Name.join ns = d.fullName := by
        rw [hdown.fullName, ← List.singleton_append, Name.join_append (by simp) hne]
        simp [Name.join]
      have hlast := hclasses.lastNamed (hclasses.mem_of_descends hc hdown)
      have hempty : c.fullName ++ "." ++ Name.join ns ≠ "" := by simp
      simp only [Workspace.view, hr]
      rw [← hname] at hlast
      exact Registry.known_of_lastNamed hlast hempty w.tool id

namespace History

/-- Classes inside classes, of which two have the same simple name. -/
def deepDecl : TypeDecl :=
  { name := "A", nested := [{ name := "B", nested := [{ name := "A" }] }, { name := "C" }] }

def deepUnit : SourceUnit := { key := .source 0, package := "p", types := [deepDecl] }

def deepSteps : List Step :=
  [.assemble { package := "p", types := [deepDecl] } none, .addUnit deepUnit,
    .addResolver { resolver := circleCatalog }, .ask (Query.classNamed main "p.A.B.A")]

/-- The innermost of the classes. -/
def deepest : Class :=
  ((deepUnit.top 0 deepDecl).member 0 { name := "B", nested := [{ name := "A" }] }).member 0
    { name := "A" }

theorem memberNamed?_iff_descends_deep :
    (∃ cs, ((after {} .null deepSteps).run (.classesOf main)).1 = .ok cs ∧
      (cs.map Class.fullName).Nodup ∧ deepUnit.top 0 deepDecl ∈ cs) ∧
      (∀ n ∈ ["B", "A"], Name.IsSimple n) ∧
      (deepUnit.top 0 deepDecl).memberNamed? "B.A" = some deepest ∧
      ((after {} .null deepSteps).run (.classNamed main "p.A.B.A")).1 = .ok (some deepest) := by
  have hcs : ((after {} .null deepSteps).run (.classesOf main)).1 = .ok deepUnit.classes := rfl
  have hdistinct : (deepUnit.classes.map Class.fullName).Nodup := by decide
  have hc : deepUnit.top 0 deepDecl ∈ deepUnit.classes :=
    SourceUnit.mem_classes_of_mem_tops List.mem_cons_self
  have hns : ∀ n ∈ ["B", "A"], Name.IsSimple n := by simp [Name.IsSimple]
  have hdown : (deepUnit.top 0 deepDecl).Descends ["B", "A"] deepest :=
    .member List.mem_cons_self rfl (.member List.mem_cons_self rfl (.here deepest))
  obtain ⟨hiff, hfound⟩ := (reachable_after {} .null deepSteps).memberNamed?_iff_descends hcs
    hdistinct hc (by simp) hns deepest
  exact ⟨⟨_, hcs, hdistinct, hc⟩, hns, hiff.mpr hdown, hfound hdown⟩

end History

end JavaAtlas
