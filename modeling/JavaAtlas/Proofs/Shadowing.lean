import JavaAtlas.Proofs.Naming
import JavaAtlas.Proofs.Scoping

/-! Classes that take the place of others. Classes stand in a registry in the order in which a unit
holds them: a class before its members, with nothing but inner classes between the two, so that
`Placed` says what stands in front of a class and what behind it. A redeclaration takes the place
of a class but not of the members that it does not repeat: the class found around a member is the
one that the member stands in exactly if it has a member of that name. -/

namespace JavaAtlas

namespace Class

/-! ### The order of classes -/

/-- How a class stands in a list: the class around it is the one around the whole list, or stands in
front with nothing but classes of longer names behind it, and its members stand behind it. -/
structure Placed (around : Option Class) (front : List Class) (c : Class) (back : List Class) :
    Prop where
  enclosed : ∀ p, c.enclosing? = some p →
    (around = some p ∧ ∀ x ∈ front, p.fullName.length < x.fullName.length) ∨
      ∃ before between, front = before ++ p :: between ∧
        ∀ x ∈ between, p.fullName.length < x.fullName.length
  members : ∀ m ∈ c.members, m ∈ back

theorem length_fullName_member (c : Class) (i : Nat) (d : TypeDecl) :
    c.fullName.length < (c.member i d).fullName.length := by
  have hname : (c.member i d).fullName = c.fullName ++ "." ++ d.name := rfl
  have hdot : ".".length = 1 := rfl
  rw [hname, String.length_append, String.length_append, hdot]
  omega

/-- The place of the members of a class, whatever declaration stands at it. -/
def inside (c : Class) (d : TypeDecl) : Class := { c with decl := d, outer := c.decl :: c.outer }

/-- Inside a class all names are longer than its own. -/
theorem length_lt_of_mem_treesOf {c x : Class} {e : TypeDecl} {position : Nat} {ds : List TypeDecl}
    (h : x ∈ treesOf (c.inside e) position ds) : c.fullName.length < x.fullName.length := by
  refine treesOf_induct (motive := fun x => c.fullName.length < x.fullName.length) ?_ ?_ h
  · intro y i d _ ih
    exact Nat.lt_trans ih (y.length_fullName_member i d)
  · intro i d _
    exact c.length_fullName_member (position + i) d

/-- A place in two lists one after the other is one in the first or in the second. -/
theorem append_cons_cases {α : Type} {as bs front back : List α} {x : α}
    (h : as ++ bs = front ++ x :: back) :
    (∃ rest, as = front ++ x :: rest ∧ back = rest ++ bs) ∨
      ∃ rest, front = as ++ rest ∧ bs = rest ++ x :: back := by
  rcases List.append_eq_append_iff.mp h with ⟨rest, rfl, hbs⟩ | ⟨rest, rfl, hback⟩
  · exact .inr ⟨rest, rfl, hbs⟩
  · cases rest with
    | nil => exact .inr ⟨[], by simp, by simpa using hback.symm⟩
    | cons y rest =>
      obtain ⟨rfl, rfl⟩ := List.cons.inj hback
      exact .inl ⟨rest, rfl, rfl⟩

/-- Every class of a list stands behind the one around it and in front of its members. -/
def Ordered (around : Option Class) (cs : List Class) : Prop :=
  ∀ ⦃front c back⦄, cs = front ++ c :: back → Placed around front c back

theorem ordered_nil (around : Option Class) : Ordered around [] := by
  intro front c back h
  simp at h

theorem Ordered.append {around : Option Class} {cs ds : List Class} (hcs : Ordered around cs)
    (hds : Ordered around ds)
    (hlong : ∀ p, around = some p → ∀ x ∈ cs, p.fullName.length < x.fullName.length) :
    Ordered around (cs ++ ds) := by
  intro front c back h
  rcases append_cons_cases h with ⟨rest, hfirst, rfl⟩ | ⟨rest, rfl, hlater⟩
  · have hplaced := hcs hfirst
    exact ⟨hplaced.enclosed, fun m hm => List.mem_append_left ds (hplaced.members m hm)⟩
  · have hplaced := hds hlater
    refine ⟨fun p hp => ?_, hplaced.members⟩
    rcases hplaced.enclosed p hp with ⟨haround, hrest⟩ | ⟨before, between, rfl, hbetween⟩
    · refine .inl ⟨haround, fun x hx => ?_⟩
      rcases List.mem_append.mp hx with hx | hx
      · exact hlong p haround x hx
      · exact hrest x hx
    · exact .inr ⟨cs ++ before, between, by simp, hbetween⟩

theorem ordered_flatMap {α : Type} {f : α → List Class} {as : List α}
    (h : ∀ a ∈ as, Ordered none (f a)) : Ordered none (as.flatMap f) := by
  induction as with
  | nil => exact ordered_nil none
  | cons a as ih =>
    rw [List.flatMap_cons]
    refine (h a List.mem_cons_self).append (ih fun b hb => h b (List.mem_cons_of_mem a hb)) ?_
    simp

theorem enclosing?_place (c : Class) (position : Nat) (d : TypeDecl) :
    (c.member position d).enclosing? = some c := by
  simp [enclosing?, member]

mutual

theorem ordered_treeOf (c : Class) (d : TypeDecl) :
    Ordered (enclosing? { c with decl := d }) (c.treeOf d) := by
  match d with
  | { nested, .. } =>
    intro front x back h
    rw [treeOf] at h
    cases front with
    | nil =>
      obtain ⟨rfl, rfl⟩ := List.cons.inj h
      refine ⟨fun p hp => .inl ⟨hp, by simp⟩, fun m hm => ?_⟩
      obtain ⟨i, e, he, rfl⟩ := mem_members_iff.mp hm
      have hmem (c : Class) : { c with path := c.path ++ [i], decl := e } ∈ c.treesOf 0 nested := by
        have hi := mem_treesOf_of_getElem? c 0 he
        rwa [Nat.zero_add] at hi
      exact hmem _
    | cons root front =>
      obtain ⟨hroot, hrest⟩ := List.cons.inj h
      -- behind the root stand the trees of its members, around which the root stands
      have hplaced : Placed (some root) front x back := by
        refine ordered_treesOf root c.decl 0 nested ?_
        rw [← hroot]
        exact hrest
      refine ⟨fun p hp => ?_, hplaced.members⟩
      rcases hplaced.enclosed p hp with ⟨hsame, hfront⟩ | ⟨before, between, rfl, hbetween⟩
      · obtain rfl := Option.some.inj hsame
        exact .inr ⟨[], front, rfl, hfront⟩
      · exact .inr ⟨root :: before, between, rfl, hbetween⟩

theorem ordered_treesOf (c : Class) (e : TypeDecl) (position : Nat) (ds : List TypeDecl) :
    Ordered (some c) (treesOf (c.inside e) position ds) := by
  match ds with
  | [] => exact ordered_nil _
  | d :: ds =>
    have hfirst : Ordered (enclosing? (c.member position d)) ((c.member position e).treeOf d) :=
      ordered_treeOf (c.member position e) d
    rw [enclosing?_place] at hfirst
    refine hfirst.append (ordered_treesOf c e (position + 1) ds) ?_
    rintro p hp x hx
    obtain rfl := Option.some.inj hp
    have hmem : x ∈ treesOf (c.inside e) position (d :: ds) := List.mem_append_left _ hx
    exact length_lt_of_mem_treesOf hmem

end

end Class

open JavaAtlas.Class

theorem SourceUnit.ordered_classes (u : SourceUnit) : Ordered none u.classes := by
  refine ordered_flatMap fun c hc => ?_
  obtain ⟨i, d, -, rfl⟩ := SourceUnit.mem_tops_iff.mp hc
  exact ordered_treeOf (u.top i d) d

theorem Registry.ordered_classes (r : Registry) : Ordered none r.classes :=
  ordered_flatMap fun u _ => u.ordered_classes

/-- A class of a unit with a class around it is a member of that. -/
theorem SourceUnit.mem_members_of_enclosing? {u : SourceUnit} {c p : Class} (hc : c ∈ u.classes)
    (hp : c.enclosing? = some p) : c ∈ p.members := by
  revert hp
  refine classes_induct (motive := fun c => c.enclosing? = some p → c ∈ p.members) ?_ ?_ hc
  · intro i d _ hp
    simp [top, enclosing?] at hp
  · intro x i d hd _ hp
    rw [enclosing?_place] at hp
    obtain rfl := Option.some.inj hp
    exact mem_members_iff.mpr ⟨i, d, hd, rfl⟩

/-- No class stands around one that a resolver answers. -/
theorem Resolver.enclosing?_of_answer {r : Resolver} {tool : Tool} {key : UnitKey} {name : String}
    {c : Class} (h : r.answer tool key name = .ok (some c)) : c.enclosing? = none := by
  rcases r.answer_cases tool key name with hnone | ⟨e, origin, -, he⟩ | ⟨_, _, _, hbare⟩
  · simp [hnone] at h
  · rw [he, Entry.toClass] at h
    cases hd : e.declaration (Name.splitQualified name).2 with
    | error _ =>
      simp only [hd] at h
      cases h
    | ok d =>
      simp only [hd] at h
      cases h
      rfl
  · rw [hbare] at h
    cases h
    rfl

/-! ### What is found around a class -/

/-- The class that is found under a name is the last one that has it. -/
theorem lastNamed_eq_some_split {cs : List Class} {name : String} {c : Class} :
    lastNamed cs name = some c ↔ c.fullName = name ∧
      ∃ front back, cs = front ++ c :: back ∧ ∀ d ∈ back, d.fullName ≠ name := by
  rw [lastNamed, List.find?_eq_some_iff_append]
  simp only [beq_iff_eq, Bool.not_eq_true', beq_eq_false_iff_ne]
  refine and_congr_right fun _ => ⟨?_, ?_⟩
  · rintro ⟨front, back, hcs, hfront⟩
    refine ⟨back.reverse, front.reverse, ?_, by simpa using hfront⟩
    rw [← List.reverse_reverse cs, hcs]
    simp
  · rintro ⟨front, back, rfl, hback⟩
    exact ⟨back.reverse, front.reverse, by simp, by simpa using hback⟩

theorem lastNamed_eq_none {cs : List Class} {name : String} (h : lastNamed cs name = none) :
    ∀ d ∈ cs, d.fullName ≠ name := by
  intro d hd
  simpa using List.find?_eq_none.mp h d (List.mem_reverse.mpr hd)

section Found

variable {cs : List Class} {name : String} {c p : Class}

/-- Under the name of the class around a found class either that class is found, or one that stands
behind the found class and has no member of its name. -/
theorem lastNamed_enclosing (hcs : Ordered none cs) (hc : lastNamed cs name = some c)
    (hp : c.enclosing? = some p) (hmember : c ∈ p.members) :
    ∃ q, lastNamed cs p.fullName = some q ∧
      (q = p ∨ ¬q.HasMember c.name ∧ ∃ front back, cs = front ++ c :: back ∧ q ∈ back) := by
  obtain ⟨hname, front, back, hsplit, hlast⟩ := lastNamed_eq_some_split.mp hc
  have hfull := fullName_member hmember
  cases hback : lastNamed back p.fullName with
  | some q =>
    refine ⟨q, ?_, .inr ⟨?_, front, back, hsplit, mem_of_lastNamed hback⟩⟩
    · rw [hsplit, List.append_cons, lastNamed_append, hback]
      rfl
    · -- a member of that name would stand behind the found class, which is the last of its name
      rintro ⟨m, hm, hmname⟩
      obtain ⟨hqname, first, rest, rfl, -⟩ := lastNamed_eq_some_split.mp hback
      have hplaced : Placed none (front ++ c :: first) q rest := hcs (by simp [hsplit])
      refine hlast m (by simp [hplaced.members m hm]) ?_
      rw [fullName_member hm, hqname, hmname, ← hfull, hname]
  | none =>
    refine ⟨p, lastNamed_eq_some_split.mpr ⟨rfl, ?_⟩, .inl rfl⟩
    rcases (hcs hsplit).enclosed p hp with ⟨hnone, -⟩ | ⟨before, between, rfl, hbetween⟩
    · cases hnone
    refine ⟨before, between ++ c :: back, by simp [hsplit], fun d hd => ?_⟩
    have hlonger {x : Class} (hx : p.fullName.length < x.fullName.length) :
        x.fullName ≠ p.fullName := fun h => by simp [h] at hx
    rcases List.mem_append.mp hd with hd | hd
    · exact hlonger (hbetween d hd)
    rcases List.mem_cons.mp hd with rfl | hd
    · refine hlonger ?_
      rw [hfull, String.length_append, String.length_append]
      exact Nat.lt_of_lt_of_le (Nat.lt_succ_self _) (Nat.le_add_right _ _)
    · exact lastNamed_eq_none hback d hd

end Found

/-- A class of a unit is found in a registry only as the last of its name. -/
theorem Registry.lastNamed_of_known {r : Registry} {tool : Tool} {id : RegistryId} {name : String}
    {c p : Class} (hc : r.known tool id name = .ok (some c)) (hp : c.enclosing? = some p) :
    lastNamed r.classes name = some c ∧ c ∈ p.members := by
  rcases lookup_cases hc with hlast | ⟨s, -, hs⟩
  · refine ⟨hlast, ?_⟩
    obtain ⟨u, -, hu⟩ := List.mem_flatMap.mp (mem_of_lastNamed hlast)
    exact SourceUnit.mem_members_of_enclosing? hu hp
  · rw [Resolver.enclosing?_of_answer hs] at hp
    cases hp

theorem Registry.known_of_lastNamed {r : Registry} {name : String} {c : Class}
    (hc : lastNamed r.classes name = some c) (hname : name ≠ "") (tool : Tool) (id : RegistryId) :
    r.known tool id name = .ok (some c) := by
  have hempty : name.isEmpty = false := by simpa using hname
  simp [known, lookup, hempty, hc]

/-- A class that is found has the class around it found, too, exactly if the class that is found
under that one's name has a member of its name. What else is found there stands behind it: a later
declaration that took the outer class's place and left the member to be found beside it. -/
theorem Reachable.classNamed_enclosing_iff {tool : Tool} {w : Workspace} (h : Reachable tool w)
    {id : RegistryId} {name : String} {c p : Class}
    (hc : (w.run (.classNamed id name)).1 = .ok (some c)) (hp : c.enclosing? = some p) :
    ((w.run (.classNamed id p.fullName)).1 = .ok (some p) ↔
      ∃ q, (w.run (.classNamed id p.fullName)).1 = .ok (some q) ∧ q.HasMember c.name) ∧
    (p.fullName ≠ "" → ∃ q, (w.run (.classNamed id p.fullName)).1 = .ok (some q) ∧
      (q = p ∨ ∃ front back, (w.run (.classesOf id)).1 = .ok (front ++ c :: back) ∧ q ∈ back)) := by
  have hfaithful := h.faithful.1
  simp only [hfaithful.run_answer, Query.eval_classNamed, Query.eval_classesOf] at hc ⊢
  cases hr : w.registry? id with
  | none => simp [Workspace.view, hr] at hc
  | some r =>
    have hfind (n : String) : w.view.find id n = r.known w.tool id n := by
      simp [Workspace.view, hr]
    have hsources : (w.view.sources id).flatMap SourceUnit.classes = r.classes := by
      simp [Workspace.view, hr, Registry.classes]
    rw [hfind] at hc
    rw [hfind, hsources]
    obtain ⟨hlast, hmember⟩ := Registry.lastNamed_of_known hc hp
    obtain ⟨q, hq, hcases⟩ := lastNamed_enclosing r.ordered_classes hlast hp hmember
    refine ⟨⟨fun hfound => ⟨p, hfound, c, hmember, rfl⟩, ?_⟩, fun hne => ?_⟩
    · rintro ⟨q', hq', hhas⟩
      -- the empty name finds nothing, and any other the last class that has it
      have hne : p.fullName ≠ "" := by
        intro hempty
        simp [Registry.known, lookup, hempty] at hq'
      rw [Registry.known_of_lastNamed hq hne] at hq' ⊢
      obtain rfl : q = q' := by simpa using hq'
      rcases hcases with rfl | ⟨hnone, -⟩
      · rfl
      · exact absurd hhas hnone
    · refine ⟨q, Registry.known_of_lastNamed hq hne w.tool id, ?_⟩
      rcases hcases with rfl | ⟨-, front, back, hsplit, hback⟩
      · exact .inl rfl
      · exact .inr ⟨front, back, by rw [hsplit], hback⟩

namespace History

/-- A class with two members. -/
def fullerDecl : TypeDecl := { name := "A", nested := [{ name := "B" }, { name := "C" }] }

/-- The same class with one of them. -/
def barerDecl : TypeDecl := { name := "A", nested := [{ name := "C" }] }

def fullerUnit : SourceUnit := { key := .source 0, package := "p", types := [fullerDecl] }

def barerUnit : SourceUnit := { key := .source 1, package := "p", types := [barerDecl] }

/-- A class is added, and then another declaration of it, which lacks a member. -/
def shadowed : List Step :=
  [.assemble { package := "p", types := [fullerDecl] } none, .addUnit fullerUnit,
    .ask (Query.classNamed main "p.A.B"),
    .assemble { package := "p", types := [barerDecl] } none, .addUnit barerUnit]

/-- The first and the second declaration as classes. -/
def fullerClass : Class := fullerUnit.top 0 fullerDecl

def barerClass : Class := barerUnit.top 0 barerDecl

/-- The member that both declarations have is found with the class around it. -/
theorem classNamed_enclosing_iff_shadowed :
    ((after {} .null shadowed).run (.classNamed main "p.A.C")).1 =
        .ok (some (barerClass.member 0 { name := "C" })) ∧
      (barerClass.member 0 { name := "C" }).enclosing? = some barerClass ∧
      ((after {} .null shadowed).run (.classNamed main "p.A")).1 = .ok (some barerClass) := by
  have hc : ((after {} .null shadowed).run (.classNamed main "p.A.C")).1 =
      .ok (some (barerClass.member 0 { name := "C" })) := rfl
  have hp : (barerClass.member 0 { name := "C" }).enclosing? = some barerClass := rfl
  obtain ⟨hiff, -⟩ := (reachable_after {} .null shadowed).classNamed_enclosing_iff hc hp
  exact ⟨hc, hp, hiff.mpr ⟨barerClass, rfl, _, List.mem_cons_self, rfl⟩⟩

/-- The member that only the first one has is still found, and not the class around it. -/
theorem classNamed_of_shadowed_member :
    ((after {} .null shadowed).run (.classNamed main "p.A.B")).1 =
        .ok (some (fullerClass.member 0 { name := "B" })) ∧
      (fullerClass.member 0 { name := "B" }).enclosing? = some fullerClass ∧
      ((after {} .null shadowed).run (.classNamed main fullerClass.fullName)).1 =
        .ok (some barerClass) ∧
      fullerClass ≠ barerClass := by
  refine ⟨rfl, rfl, rfl, fun h => ?_⟩
  have hkey := congrArg Class.key h
  simp [fullerClass, barerClass, fullerUnit, barerUnit, SourceUnit.top] at hkey

end History

end JavaAtlas
