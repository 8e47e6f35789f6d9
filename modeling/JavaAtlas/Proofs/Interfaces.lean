import JavaAtlas.Proofs.Superclasses

/-! Interfaces. The search for the interfaces of a class starts with the class and its superclasses
and goes on from each interface that it finds, breadth first. It finds no name twice and nothing that
the class does not implement, and what it leaves behind is closed: an interface of a class that was
taken up was found. So it finds exactly the interfaces that the class is a subtype of, but for the
class itself: `History.mem_allInterfaces_iff`. -/

namespace JavaAtlas

open JavaAtlas.Class (rootName)
open Relation (ReflTransGen TransGen)

/-- The class declares a known interface. -/
def Implements (v : View) (c d : Class) : Prop := ∃ r ∈ c.interfaces, v.points r = .ok (some d)

variable {v : View} {names : Finset String} {known : Class → Prop} {bound : Nat}
  {met entered : List String} {queue ds : List Class}

theorem Implements.above {c d : Class} (h : Implements v c d) : Above v.points c d := by
  obtain ⟨r, hr, hd⟩ := h
  exact .interface hr hd

/-! ### The search -/

theorem nodup_of_eval_interfacesFrom
    (h : (Class.interfacesFrom bound met entered queue).eval v = .ok ds) :
    (ds.map Class.fullName).Nodup ∧ ∀ d ∈ ds, d.fullName ∉ met := by
  refine Class.interfacesFrom_induct
    (motive := fun _ met _ _ ds => (ds.map Class.fullName).Nodup ∧ ∀ d ∈ ds, d.fullName ∉ met)
    ?_ ?_ h
  · intro _ _ _ _ _
    simp
  · intro _ met _ c _ found more _ _ ih
    obtain ⟨hnodup, hnew⟩ := ih
    obtain ⟨hunmet, hmem⟩ := Class.unmet_spec met found
    constructor
    · rw [List.map_append, List.nodup_append]
      refine ⟨hunmet, hnodup, ?_⟩
      rintro x hx y hy rfl
      obtain ⟨d, hd, rfl⟩ := List.mem_map.mp hy
      exact hnew d hd (List.mem_append_left _ hx)
    · intro d hd
      rcases List.mem_append.mp hd with hd | hd
      · exact (hmem d hd).2
      · exact fun hmet => hnew d hd (List.mem_append_right _ hmet)

theorem implements_of_eval_interfacesFrom
    (h : (Class.interfacesFrom bound met entered queue).eval v = .ok ds) :
    ∀ d ∈ ds, ∃ x ∈ queue, TransGen (Implements v) x d := by
  refine Class.interfacesFrom_induct
    (motive := fun _ _ _ queue ds => ∀ d ∈ ds, ∃ x ∈ queue, TransGen (Implements v) x d) ?_ ?_ h
  · intro _ _ _ _ _
    simp
  · intro _ met entered c queue found more hfound _ ih d hd
    have hstep : ∀ y ∈ Class.unmet met found, TransGen (Implements v) c y := fun y hy =>
      .single ((Class.mem_of_eval_resolveAll hfound y).mp ((Class.unmet_spec met found).2 y hy).1)
    rcases List.mem_append.mp hd with hd | hd
    · exact ⟨c, List.mem_cons_self, hstep d hd⟩
    · obtain ⟨x, hx, hchain⟩ := ih d hd
      rcases List.mem_append.mp hx with hx | hx
      · exact ⟨x, List.mem_cons_of_mem c hx, hchain⟩
      · exact ⟨c, List.mem_cons_self, (hstep x (List.mem_of_mem_filter hx)).trans hchain⟩

/-- What is implemented by a class of the queue, or by one that was found and joined the queue, is
found unless it was met, if the bound does not cut the search short. -/
theorem closed_of_eval_interfacesFrom (hv : v.Within names)
    (hb : (Class.unmetNames names entered).card + queue.length ≤ bound)
    (h : (Class.interfacesFrom bound met entered queue).eval v = .ok ds) {x y : Class}
    (hx : x ∈ queue ∨ x ∈ ds ∧ x.fullName ∉ entered) (hy : Implements v x y) :
    y.fullName ∈ met ∨ y.fullName ∈ ds.map Class.fullName := by
  revert hb hx
  refine Class.interfacesFrom_induct
    (motive := fun bound met entered queue ds =>
      (Class.unmetNames names entered).card + queue.length ≤ bound →
      x ∈ queue ∨ x ∈ ds ∧ x.fullName ∉ entered →
      y.fullName ∈ met ∨ y.fullName ∈ ds.map Class.fullName) ?_ ?_ h
  · intro bound _ _ queue hstop hb hx
    obtain rfl : queue = [] := by
      rcases hstop with rfl | hqueue
      · exact List.eq_nil_of_length_eq_zero (by omega)
      · exact hqueue
    simp at hx
  · intro bound met entered c queue found more hfound hmore ih hb hx
    have hleft := Class.card_unmetNames_fresh hv hfound met entered
    rw [List.length_cons] at hb
    rw [List.map_append, List.mem_append]
    have hlater := ih (by rw [List.length_append]; omega)
    have hgoal (hx : x ∈ queue ++ (Class.unmet met found).filter
        (fun d => !entered.contains d.fullName) ∨
        x ∈ more ∧ x.fullName ∉ (Class.unmet met found).map Class.fullName ++ entered) :
        y.fullName ∈ met ∨ y.fullName ∈ (Class.unmet met found).map Class.fullName ∨
          y.fullName ∈ more.map Class.fullName := by
      rcases hlater hx with hy | hy
      · rcases List.mem_append.mp hy with hy | hy
        · exact Or.inr (Or.inl hy)
        · exact Or.inl hy
      · exact Or.inr (Or.inr hy)
    rcases hx with hx | ⟨hx, hentered⟩
    · rcases List.mem_cons.mp hx with rfl | hx
      · rcases Class.fullName_mem_unmet met ((Class.mem_of_eval_resolveAll hfound y).mpr hy) with
          hy | hy
        · exact Or.inl hy
        · exact Or.inr (Or.inl hy)
      · exact hgoal (Or.inl (List.mem_append_left _ hx))
    · rcases List.mem_append.mp hx with hx | hx
      · -- found now and not entered before, so it joins the queue
        have hfresh : x ∈ (Class.unmet met found).filter fun d => !entered.contains d.fullName :=
          List.mem_filter.mpr ⟨hx, by simpa using hentered⟩
        exact hgoal (Or.inl (List.mem_append_right _ hfresh))
      · have hnew := (nodup_of_eval_interfacesFrom hmore).2 x hx
        rw [List.mem_append, not_or] at hnew
        refine hgoal (Or.inr ⟨hx, ?_⟩)
        rw [List.mem_append, not_or]
        exact ⟨hnew.1, hentered⟩

/-! ### All interfaces of a class -/

theorem above_of_implements {c d : Class} (h : TransGen (Implements v) c d) :
    ReflTransGen (Above v.points) c d :=
  ReflTransGen.mono (fun _ _ => Implements.above) _ _ h.to_reflTransGen

/-- The interfaces of a class are found from the class and its superclasses on, with a bound that
does not cut the search short. -/
theorem exists_of_eval_allInterfaces (hv : v.Bounded) {c : Class}
    (h : c.allInterfaces.eval v = .ok ds) :
    ∃ above, c.superclasses.eval v = .ok above ∧
      (Class.interfacesFrom (v.reach + 1) [c.fullName] ((c :: above).map Class.fullName)
        (c :: above)).eval v = .ok ds := by
  rw [Class.eval_allInterfaces hv (Nat.lt_succ_self v.reach)] at h
  cases habove : c.superclasses.eval v with
  | error e => simp [habove] at h
  | ok above =>
    rw [habove] at h
    exact ⟨above, rfl, h⟩

namespace View.Ruled

variable {root : Class} (hv : v.Ruled known root)
include hv

theorem isInterface_of_implements {c d : Class} (hc : known c)
    (h : TransGen (Implements v) c d) : d.isInterface = true := by
  have hstep : ∀ x, known x → Implements v x d → d.isInterface = true := by
    rintro x hx ⟨r, hr, hd⟩
    exact hv.kinds.implemented x r d hx hr hd
  cases h with
  | single hd => exact hstep c hc hd
  | tail hx hd => exact hstep _ (hv.known_of_above hc (above_of_implements hx)) hd

section Search

variable {c : Class} (hc : known c) {above : List Class}
  (habove : c.superclasses.eval v = .ok above)
  (hsearch : (Class.interfacesFrom (v.reach + 1) [c.fullName] ((c :: above).map Class.fullName)
    (c :: above)).eval v = .ok ds)
include hc habove hsearch

/-- What the search finds is an interface that stands above the class. -/
theorem above_of_mem_interfaces {d : Class} (hd : d ∈ ds) :
    d.isInterface = true ∧ ReflTransGen (Above v.points) c d := by
  obtain ⟨x, hx, hchain⟩ := implements_of_eval_interfacesFrom hsearch d hd
  have hextends := (hv.mem_superclasses_iff hc habove).mp hx
  refine ⟨hv.isInterface_of_implements (hv.known_of_extends hc hextends) hchain, ?_⟩
  rcases hv.above_of_extends hc hextends with hx | ⟨rfl, -⟩
  · exact hx.trans (above_of_implements hchain)
  · -- the root implements nothing
    obtain ⟨y, ⟨r, hr, -⟩, -⟩ := TransGen.head'_iff.mp hchain
    rw [hv.interfaces_root] at hr
    simp at hr

/-- The class, its superclasses and what the search finds are closed under supertypes. -/
theorem mem_of_above {x y : Class} (hx : x ∈ c :: above ∨ x ∈ ds)
    (hy : Above v.points x y) : y ∈ c :: above ∨ y ∈ ds := by
  have hchain : ∀ z ∈ c :: above, known z := fun z hz =>
    hv.known_of_extends hc ((hv.mem_superclasses_iff hc habove).mp hz)
  have hfound : ∀ z ∈ ds, known z := fun z hz =>
    hv.known_of_above hc (hv.above_of_mem_interfaces hc habove hsearch hz).2
  have hknown : known y := by
    obtain ⟨id, name, hfind⟩ := find_of_above hy
    exact hv.found id name y hfind
  cases hy with
  | interface hr hy =>
    obtain ⟨names, hwithin, hleft⟩ := Class.within_superclasses hv.bounded habove
    have hentered : x ∈ c :: above ∨ x ∈ ds ∧ x.fullName ∉ (c :: above).map Class.fullName := by
      by_cases hname : x.fullName ∈ (c :: above).map Class.fullName
      · exact Or.inl (hv.mem_of_fullName_mem hchain (hx.elim (hchain x) (hfound x)) hname)
      · refine Or.inr ⟨hx.resolve_left fun hx => hname (List.mem_map_of_mem hx), hname⟩
    rcases closed_of_eval_interfacesFrom hwithin hleft hsearch hentered ⟨_, hr, hy⟩ with hy | hy
    · obtain rfl := hv.same y c hknown hc (by simpa using hy)
      exact Or.inl List.mem_cons_self
    · exact Or.inr (hv.mem_of_fullName_mem hfound hknown hy)
  | superclass hi hr hy =>
    rcases hx with hx | hx
    · -- a superclass of the chain is in the chain
      have hx := (hv.mem_superclasses_iff hc habove).mp hx
      exact Or.inl ((hv.mem_superclasses_iff hc habove).mpr (hx.tail (.of_superclass hr hy)))
    · have hkind := (hv.above_of_mem_interfaces hc habove hsearch hx).1
      rw [hi] at hkind
      simp at hkind

end Search

/-- The interfaces of a class are the known interfaces that it is a subtype of, but for itself. -/
theorem mem_interfaces_iff {c : Class} (hc : known c) (h : c.allInterfaces.eval v = .ok ds)
    {d : Class} :
    d ∈ ds ↔ known d ∧ d.isInterface = true ∧ d.fullName ≠ c.fullName ∧
      IsSubtype v.points c d.fullName := by
  obtain ⟨above, habove, hsearch⟩ := exists_of_eval_allInterfaces hv.bounded h
  constructor
  · intro hd
    obtain ⟨hkind, hchain⟩ := hv.above_of_mem_interfaces hc habove hsearch hd
    have hname := (nodup_of_eval_interfacesFrom hsearch).2 d hd
    exact ⟨hv.known_of_above hc hchain, hkind, by simpa using hname, d, hchain, Or.inl rfl⟩
  · rintro ⟨hd, hkind, hname, e, hchain, hend⟩
    have hclosed : e ∈ c :: above ∨ e ∈ ds := by
      clear hend
      induction hchain with
      | refl => exact Or.inl List.mem_cons_self
      | tail _ hy ih => exact hv.mem_of_above hc habove hsearch ih hy
    rcases ends_iff.mp hend with he | ⟨-, hroot⟩
    · obtain rfl := hv.same e d (hv.known_of_above hc hchain) hd he
      refine hclosed.resolve_left fun he => ?_
      -- superclasses are no interfaces
      rcases ReflTransGen.cases_tail ((hv.mem_superclasses_iff hc habove).mp he) with
        rfl | ⟨x, hx, hlast⟩
      · exact hname rfl
      · rw [hv.isInterface_of_extends (hv.known_of_extends hc hx) hlast] at hkind
        simp at hkind
    · obtain rfl := hv.same d root hd hv.rootKnown (hroot.trans hv.rootNamed.symm)
      rw [hv.rootKind] at hkind
      simp at hkind

end View.Ruled

namespace History

/-- The interfaces that are found for a class are exactly the known interfaces that it is a subtype
of, but for the class itself, and no name is among them twice. There is an answer if no resolver
fails, and a larger bound on the walk and on the search changes nothing. -/
theorem mem_allInterfaces_iff (tool : Tool) (grammar : Value) (steps : List Step)
    (hundotted : ∀ r ∈ resolvers steps, r.Undotted tool)
    (hkinds : WellKinded (pointsIn (after tool grammar steps))
      (FoundIn (after tool grammar steps)))
    (hroot : ∀ d, FoundIn (after tool grammar steps) d → d.fullName = rootName →
      d.isInterface = false)
    (c : Class) (hc : FoundIn (after tool grammar steps) c) :
    (∀ ds, ((after tool grammar steps).run c.allInterfaces).1 = .ok ds →
      (ds.map Class.fullName).Nodup ∧
      ∀ d b, ((after tool grammar steps).run (c.isA d.fullName)).1 = .ok b →
        (d ∈ ds ↔ FoundIn (after tool grammar steps) d ∧ d.isInterface = true ∧
          d.fullName ≠ c.fullName ∧ b = true)) ∧
    ((∀ r ∈ resolvers steps, r.isTotal = true) →
      (∃ ds, ((after tool grammar steps).run c.allInterfaces).1 = .ok ds) ∧
      ∀ f, ∃ b, ((after tool grammar steps).run (c.isA f)).1 = .ok b) ∧
    ∀ bound, (after tool grammar steps).reach < bound →
      ((after tool grammar steps).run (Class.chainAbove bound [c.fullName] c >>= fun above =>
        Class.interfacesFrom bound [c.fullName] ((c :: above).map Class.fullName)
          (c :: above))).1 =
        ((after tool grammar steps).run c.allInterfaces).1 := by
  have hreach := reach_after tool grammar steps
  simp only [run_after, pointsIn_after, foundIn_after, hreach] at *
  obtain ⟨root, hv⟩ := ruled_after hundotted hkinds hroot
  refine ⟨fun ds hds => ⟨?_, fun d b hb => ?_⟩, fun htotal => ?_, fun bound hbound => ?_⟩
  · obtain ⟨above, -, hsearch⟩ := exists_of_eval_allInterfaces hv.bounded hds
    exact (nodup_of_eval_interfacesFrom hsearch).1
  · rw [hv.mem_interfaces_iff hc hds, eval_isA_iff hv.bounded hv.found hv.same hc hb]
  · exact ⟨exists_eval_of_isTotal htotal _, fun f => exists_eval_of_isTotal htotal _⟩
  · rw [Class.eval_allInterfaces hv.bounded hbound, Query.eval_bind,
      Class.eval_superclasses hv.bounded hbound]

/-- In the circle the interface is implemented through the superclass. -/
theorem mem_allInterfaces_iff_circle :
    FoundIn (after {} .null rootedCircle) (circleUnit.top 0 circleDecl) ∧
      ∃ d, FoundIn (after {} .null rootedCircle) d ∧ d.isInterface = true ∧
        ((after {} .null rootedCircle).run (circleUnit.top 0 circleDecl).allInterfaces).1 =
          .ok [d] ∧
        ((after {} .null rootedCircle).run
          ((circleUnit.top 0 circleDecl).isA d.fullName)).1 = .ok true := by
  have hc : FoundIn (after {} .null rootedCircle) (circleUnit.top 0 circleDecl) := rfl
  have hundotted : ∀ r ∈ resolvers rootedCircle, r.Undotted {} :=
    fun r hr => Resolver.undotted_of_names (by revert r; decide)
  obtain ⟨hiff, htotal, -⟩ := mem_allInterfaces_iff {} .null rootedCircle hundotted
    wellKinded_rootedCircle isInterface_root_rootedCircle _ hc
  obtain ⟨d, hds⟩ : ∃ d, ((after {} .null rootedCircle).run
      (circleUnit.top 0 circleDecl).allInterfaces).1 = .ok [d] := ⟨_, rfl⟩
  obtain ⟨b, hb⟩ := (htotal (by decide)).2 d.fullName
  obtain ⟨hd, hkind, -, rfl⟩ := ((hiff _ hds).2 d b hb).mp List.mem_cons_self
  exact ⟨hc, d, hd, hkind, hds, hb⟩

/-- A class, and a root that is an interface. -/
def loneUnit : SourceUnit := { key := .source 0, package := "p", types := [{ name := "A" }] }

def oddlyRooted : List Step := [.addUnit (rootUnit .interfaceType), .addUnit loneUnit]

/-- A root that is an interface is not among the interfaces of a class, although the class is a
subtype of it. -/
theorem allInterfaces_oddlyRooted :
    (∀ r ∈ resolvers oddlyRooted, r.Undotted {}) ∧
      WellKinded (pointsIn (after {} .null oddlyRooted)) (FoundIn (after {} .null oddlyRooted)) ∧
      FoundIn (after {} .null oddlyRooted) (loneUnit.top 0 { name := "A" }) ∧
      FoundIn (after {} .null oddlyRooted) (rootClass .interfaceType) ∧
      (rootClass .interfaceType).isInterface = true ∧
      (rootClass .interfaceType).fullName ≠ (loneUnit.top 0 { name := "A" }).fullName ∧
      ((after {} .null oddlyRooted).run ((loneUnit.top 0 { name := "A" }).isA
        (rootClass .interfaceType).fullName)).1 = .ok true ∧
      ((after {} .null oddlyRooted).run (loneUnit.top 0 { name := "A" }).allInterfaces).1 =
        .ok [] := by
  have hkinds : WellKinded (pointsIn (after {} .null oddlyRooted))
      (FoundIn (after {} .null oddlyRooted)) :=
    .of_areWellKinded (fun _ => mem_knownClasses) (rootClass .interfaceType) rfl rfl rfl rfl rfl
  have hname : (rootClass .interfaceType).fullName = rootName := rfl
  have hisA : ((after {} .null oddlyRooted).run ((loneUnit.top 0 { name := "A" }).isA
      (rootClass .interfaceType).fullName)).1 = .ok true := by
    rw [hname]
    exact run_isA_root {} .null oddlyRooted rfl
  have hundotted : ∀ r ∈ resolvers oddlyRooted, r.Undotted {} :=
    fun r hr => Resolver.undotted_of_names (by revert r; decide)
  exact ⟨hundotted, hkinds, rfl, rfl, rfl, by decide, hisA, rfl⟩

end History

end JavaAtlas
