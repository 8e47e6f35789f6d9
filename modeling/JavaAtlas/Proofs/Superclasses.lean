import JavaAtlas.Proofs.Places
import JavaAtlas.Proofs.Precedence
import JavaAtlas.Proofs.Subtyping

/-! Superclasses and subtypes. The walk along superclasses takes the root for a superclass that is
not declared, and `isA` has a rule of its own for the root. If interfaces are implemented and classes
are extended, the two agree: the classes that a class is a subtype of are the class itself and its
superclasses, `History.isA_iff_mem_superclasses`. -/

namespace JavaAtlas

open JavaAtlas.Class (rootName)
open Relation (ReflTransGen)

/-- The class has a known superclass, declared or not. -/
def Extends (v : View) (c d : Class) : Prop := c.superclassClass.eval v = .ok (some d)

/-- The classes of a kind are all that can be found, and their names tell them apart. -/
structure View.Named (v : View) (known : Class → Prop) : Prop where
  bounded : v.Bounded
  found : ∀ id name c, v.find id name = .ok (some c) → known c
  same : ∀ c d, known c → known d → c.fullName = d.fullName → c = d

variable {v : View} {names : Finset String} {known : Class → Prop}

/-! ### The chain -/

/-- The superclass is declared, or it is what the name of the root stands for. -/
theorem extends_cases {c d : Class} (h : Extends v c d) :
    (∃ r, c.superclass? = some r ∧ v.points r = .ok (some d)) ∨
      c.isRooted = true ∧ c.fullName ≠ rootName ∧
        v.points { name := rootName, owner := c.unit } = .ok (some d) := by
  rw [Extends, Class.superclassClass, Class.effectiveSuperclass?] at h
  cases hs : c.superclass? with
  | some r =>
    rw [hs] at h
    exact Or.inl ⟨r, rfl, h⟩
  | none =>
    rw [hs] at h
    by_cases hnone : (c.isInterface || c.fullName == rootName) = true
    · simp [hnone] at h
    · simp only [hnone, Bool.false_eq_true, if_false] at h
      simp only [Bool.or_eq_true, beq_iff_eq, not_or] at hnone
      exact Or.inr ⟨isRooted_iff.mpr ⟨by simpa using hnone.1, hs⟩, hnone.2, h⟩

theorem Extends.of_superclass {c d : Class} {r : TypeRef} (hr : c.superclass? = some r)
    (hd : v.points r = .ok (some d)) : Extends v c d := by
  rw [Extends, Class.superclassClass, Class.effectiveSuperclass?, hr]
  exact hd

theorem Extends.of_isRooted {c d : Class} (hc : c.isRooted = true) (hname : c.fullName ≠ rootName)
    (hd : v.points { name := rootName, owner := c.unit } = .ok (some d)) : Extends v c d := by
  obtain ⟨hi, hs⟩ := isRooted_iff.mp hc
  have hnone : (c.isInterface || c.fullName == rootName) = false := by simp [hi, hname]
  rw [Extends, Class.superclassClass, Class.effectiveSuperclass?, hs]
  simp only [hnone, Bool.false_eq_true, if_false]
  exact hd

theorem extends_of_eval_chainAbove {bound : Nat} {met : List String} {c : Class}
    {ds : List Class} (h : (Class.chainAbove bound met c).eval v = .ok ds) :
    ∀ d ∈ ds, ReflTransGen (Extends v) c d := by
  induction bound generalizing met c ds with
  | zero =>
    obtain rfl : [] = ds := by simpa [Class.chainAbove] using h
    simp
  | succ bound ih =>
    rcases Class.eval_chainAbove_cases h with ⟨-, rfl⟩ | ⟨d, others, hd, -, hothers, rfl⟩
    · simp
    · intro x hx
      rcases List.mem_cons.mp hx with rfl | hx
      · exact .single hd
      · exact .head hd (ih hothers x hx)

/-- The superclass of a class of the chain was met or is in the chain, unless the bound cut it
short. -/
theorem closed_of_eval_chainAbove (hv : v.Within names) {bound : Nat} {met : List String}
    {c : Class} {ds : List Class} (hb : (Class.unmetNames names met).card < bound)
    (h : (Class.chainAbove bound met c).eval v = .ok ds) {x y : Class} (hx : x ∈ c :: ds)
    (hy : Extends v x y) : y.fullName ∈ met ∨ y.fullName ∈ ds.map Class.fullName := by
  induction bound generalizing met c ds with
  | zero => omega
  | succ bound ih =>
    rcases Class.eval_chainAbove_cases h with ⟨hmet, rfl⟩ | ⟨d, others, hd, hm, hothers, rfl⟩
    · obtain rfl : x = c := by simpa using hx
      exact Or.inl (hmet y hy)
    · have hless := Class.card_unmetNames_cons (Class.fullName_mem_of_eval_superclassClass hv hd) hm
      rcases List.mem_cons.mp hx with rfl | hx
      · -- a class has one superclass
        obtain rfl : d = y := by
          rw [Extends, hd] at hy
          simpa using hy
        exact Or.inr List.mem_cons_self
      · rcases ih (by omega) hothers hx with hy | hy
        · rcases List.mem_cons.mp hy with hy | hy
          · exact Or.inr (by simp [hy])
          · exact Or.inl hy
        · exact Or.inr (List.mem_cons_of_mem _ hy)

namespace View.Named

variable (hv : v.Named known)
include hv

theorem known_of_extends {c d : Class} (hc : known c) (h : ReflTransGen (Extends v) c d) :
    known d := by
  cases h with
  | refl => exact hc
  | tail _ hd =>
    obtain ⟨id, name, hfind⟩ := Class.find_of_eval_superclassClass hd
    exact hv.found id name d hfind

theorem known_of_above {c d : Class} (hc : known c) (h : ReflTransGen (Above v.points) c d) :
    known d := by
  cases h with
  | refl => exact hc
  | tail _ hd =>
    obtain ⟨id, name, hfind⟩ := find_of_above hd
    exact hv.found id name d hfind

theorem mem_of_fullName_mem {ds : List Class} (hds : ∀ x ∈ ds, known x) {d : Class} (hd : known d)
    (h : d.fullName ∈ ds.map Class.fullName) : d ∈ ds := by
  obtain ⟨x, hx, hname⟩ := List.mem_map.mp h
  obtain rfl := hv.same x d (hds x hx) hd hname
  exact hx

/-- A class and its superclasses are what the steps to superclasses lead to. -/
theorem mem_superclasses_iff {c : Class} (hc : known c) {ds : List Class}
    (h : c.superclasses.eval v = .ok ds) {d : Class} :
    d ∈ c :: ds ↔ ReflTransGen (Extends v) c d := by
  have hreach : ∀ x ∈ c :: ds, ReflTransGen (Extends v) c x := by
    intro x hx
    rcases List.mem_cons.mp hx with rfl | hx
    · exact .refl
    · exact extends_of_eval_chainAbove h x hx
  constructor
  · exact hreach d
  · intro hchain
    induction hchain with
    | refl => exact List.mem_cons_self
    | @tail x y hx hy ih =>
      obtain ⟨names, hcard, hwithin⟩ := hv.bounded
      have hle : (Class.unmetNames names [c.fullName]).card ≤ names.card :=
        Finset.card_filter_le _ _
      have hmem : y.fullName ∈ (c :: ds).map Class.fullName := by
        simpa using closed_of_eval_chainAbove hwithin (by omega) h ih hy
      refine hv.mem_of_fullName_mem ?_ (hv.known_of_extends hc (hx.tail hy)) hmem
      exact fun z hz => hv.known_of_extends hc (hreach z hz)

end View.Named

/-! ### Kinds of supertypes -/

/-- Among the known classes there is the root, which declares no supertypes; interfaces declare no
superclass; and what is extended is no interface, what is implemented is one. -/
structure WellKinded (points : Pointing) (known : Class → Prop) : Prop where
  root : ∃ d, known d ∧ d.fullName = rootName ∧ d.superclass? = none ∧ d.interfaces = []
  ofInterface : ∀ c, known c → c.isInterface = true → c.superclass? = none
  extended : ∀ c r d, known c → c.superclass? = some r → points r = .ok (some d) →
    d.isInterface = false
  implemented : ∀ c r d, known c → r ∈ c.interfaces → points r = .ok (some d) →
    d.isInterface = true

/-- What the reference points at is of the kind, as far as it is known. -/
def isOfKind (points : Pointing) (isInterface : Bool) (r : TypeRef) : Bool :=
  match points r with
  | .ok (some d) => d.isInterface == isInterface
  | _ => true

/-- The supertypes that some classes declare are of the kinds they should be. -/
def areWellKinded (points : Pointing) (cs : List Class) : Bool :=
  cs.all fun c => !(c.isInterface && c.superclass?.isSome) &&
    c.superclass?.all (isOfKind points false) && c.interfaces.all (isOfKind points true)

theorem isInterface_of_isOfKind {points : Pointing} {isInterface : Bool} {r : TypeRef}
    {d : Class} (h : isOfKind points isInterface r = true) (hd : points r = .ok (some d)) :
    d.isInterface = isInterface := by
  rw [isOfKind, hd] at h
  simpa using h

/-- Of finitely many known classes the kinds can be checked one after the other. -/
theorem WellKinded.of_areWellKinded {points : Pointing} {cs : List Class}
    (hcs : ∀ c, known c → c ∈ cs) (root : Class) (hroot : known root)
    (hname : root.fullName = rootName) (hsuperclass : root.superclass? = none)
    (hinterfaces : root.interfaces = []) (h : areWellKinded points cs = true) :
    WellKinded points known := by
  simp only [areWellKinded, List.all_eq_true, Bool.and_eq_true, Bool.not_eq_true'] at h
  refine ⟨⟨root, hroot, hname, hsuperclass, hinterfaces⟩, fun c hc hi => ?_,
    fun c r d hc hr hd => ?_, fun c r d hc hr hd => ?_⟩
  · obtain ⟨⟨hnone, -⟩, -⟩ := h c (hcs c hc)
    simpa [hi] using hnone
  · obtain ⟨⟨-, hkind⟩, -⟩ := h c (hcs c hc)
    rw [hr] at hkind
    exact isInterface_of_isOfKind hkind hd
  · obtain ⟨-, hkind⟩ := h c (hcs c hc)
    exact isInterface_of_isOfKind (hkind r hr) hd

/-- The view has kinds as they should be, and a root which is no interface and is known wherever
anything is. -/
structure View.Ruled (v : View) (known : Class → Prop) (root : Class) : Prop
    extends v.Named known where
  kinds : WellKinded v.points known
  rootKnown : known root
  rootNamed : root.fullName = rootName
  rootFound : ∀ id name c, v.find id name = .ok (some c) → v.find id rootName = .ok (some root)
  rootKind : root.isInterface = false

/-- The name of the root stands for the root in every unit whose registry knows it. -/
theorem points_root {u : SourceUnit} {id : RegistryId} (hhome : v.homeOf u.key = some id)
    {root : Class} (hroot : v.find id rootName = .ok (some root)) :
    v.points { name := rootName, owner := some u } = .ok (some root) := by
  obtain ⟨others, hcandidates⟩ : ∃ others,
      Resolution.candidates u none rootName = ⟨rootName, .known⟩ :: others := ⟨_, rfl⟩
  have hholds : (Resolution.holds (some id) ⟨rootName, .known⟩).eval v = .ok true := by
    rw [Resolution.eval_holds_some]
    simp [hroot, Except.map]
  have hresolved : (TypeRef.resolvedName { name := rootName, owner := some u }).eval v =
      .ok (some rootName) := by
    show (Resolution.resolve u none rootName).eval v = _
    rw [Resolution.eval_resolve, hcandidates, hhome]
    exact Resolution.eval_choose_eq_some_iff.mpr ⟨0, _, .head hholds, rfl⟩
  have hclass : ∀ u : SourceUnit, (TypeRef.isArray { name := rootName, owner := some u } ||
      TypeRef.isPrimitive { name := rootName, owner := some u }) = false := fun _ => rfl
  rw [View.points, TypeRef.eval_class?, hclass]
  simp [hhome, hresolved, hroot]

namespace View.Ruled

variable {root : Class} (hv : v.Ruled known root)
include hv

theorem superclass_root : root.superclass? = none := by
  obtain ⟨d, hd, hname, hnone, -⟩ := hv.kinds.root
  obtain rfl := hv.same d root hd hv.rootKnown (hname.trans hv.rootNamed.symm)
  exact hnone

theorem interfaces_root : root.interfaces = [] := by
  obtain ⟨d, hd, hname, -, hnone⟩ := hv.kinds.root
  obtain rfl := hv.same d root hd hv.rootKnown (hname.trans hv.rootNamed.symm)
  exact hnone

theorem eq_root_of_points {owner : Option SourceUnit} {d : Class}
    (h : v.points { name := rootName, owner } = .ok (some d)) : d = root := by
  obtain ⟨id, name, hfind, hhome⟩ := TypeRef.find_of_eval_class? h
  cases owner with
  | none => simp at hhome
  | some u =>
    have hroot := points_root hhome (hv.rootFound id name d hfind)
    rw [h] at hroot
    simpa using hroot

theorem above_or_root {c d : Class} (hc : known c) (h : Extends v c d) :
    c.isInterface = false ∧ Above v.points c d ∨
      c.isRooted = true ∧ c.fullName ≠ rootName ∧ d = root := by
  rcases extends_cases h with ⟨r, hr, hd⟩ | ⟨hrooted, hname, hd⟩
  · have hi : c.isInterface = false := by
      by_contra hi
      have hnone := hv.kinds.ofInterface c hc (by simpa using hi)
      rw [hr] at hnone
      simp at hnone
    exact Or.inl ⟨hi, .superclass hi hr hd⟩
  · exact Or.inr ⟨hrooted, hname, hv.eq_root_of_points hd⟩

theorem isInterface_of_extends {c d : Class} (hc : known c) (h : Extends v c d) :
    d.isInterface = false := by
  rcases extends_cases h with ⟨r, hr, hd⟩ | ⟨-, -, hd⟩
  · exact hv.kinds.extended c r d hc hr hd
  · rw [hv.eq_root_of_points hd]
    exact hv.rootKind

/-- Steps to superclasses lead to declared supertypes, or to the root from a class that does not
declare it. -/
theorem above_of_extends {c d : Class} (hc : known c) (h : ReflTransGen (Extends v) c d) :
    ReflTransGen (Above v.points) c d ∨ d = root ∧ IsSubtype v.points c rootName := by
  induction h with
  | refl => exact Or.inl .refl
  | @tail x y hx hy ih =>
    -- no step leads on from the root, so only the last one can be to a root that is not declared
    have hroot : x ≠ root := by
      rintro rfl
      rcases extends_cases hy with ⟨r, hr, -⟩ | ⟨-, hname, -⟩
      · rw [hv.superclass_root] at hr
        simp at hr
      · exact hname hv.rootNamed
    obtain habove | ⟨hx', -⟩ := ih
    · rcases hv.above_or_root (hv.known_of_extends hc hx) hy with ⟨-, hy⟩ | ⟨hrooted, -, rfl⟩
      · exact Or.inl (habove.tail hy)
      · exact Or.inr ⟨rfl, x, habove, ends_iff.mpr (Or.inr ⟨hrooted, rfl⟩)⟩
    · exact absurd hx' hroot

/-- Only steps to superclasses lead to a class that is no interface. -/
theorem extends_of_above {c d : Class} (hc : known c) (h : ReflTransGen (Above v.points) c d)
    (hd : d.isInterface = false) : ReflTransGen (Extends v) c d := by
  induction h with
  | refl => exact .refl
  | @tail x y hx hy ih =>
    cases hy with
    | interface hr hy =>
      have hi := hv.kinds.implemented x _ y (hv.known_of_above hc hx) hr hy
      rw [hd] at hi
      simp at hi
    | superclass hi hr hy => exact (ih hi).tail (.of_superclass hr hy)

/-- Where all classes that do not declare a superclass have the root, the classes among the
supertypes of a class are what the steps to superclasses lead to. -/
theorem isSubtype_iff_extends
    (hrooted : ∀ x, known x → x.isRooted = true → x.fullName ≠ rootName → Extends v x root)
    {c d : Class} (hc : known c) (hclass : c.isInterface = false) (hd : known d) :
    IsSubtype v.points c d.fullName ∧ d.isInterface = false ↔ ReflTransGen (Extends v) c d := by
  constructor
  · rintro ⟨⟨x, habove, hend⟩, hkind⟩
    have hx := hv.known_of_above hc habove
    rcases ends_iff.mp hend with hname | ⟨hx', hname⟩
    · obtain rfl := hv.same x d hx hd hname
      exact hv.extends_of_above hc habove hkind
    · -- the chain ends below the root, at a class that does not declare it
      obtain rfl := hv.same d root hd hv.rootKnown (hname.trans hv.rootNamed.symm)
      have hchain := hv.extends_of_above hc habove (isRooted_iff.mp hx').1
      by_cases hself : x.fullName = rootName
      · obtain rfl := hv.same x d hx hd (hself.trans hname.symm)
        exact hchain
      · exact hchain.tail (hrooted x hx hx' hself)
  · intro hchain
    constructor
    · rcases hv.above_of_extends hc hchain with habove | ⟨rfl, hsub⟩
      · exact ⟨d, habove, Or.inl rfl⟩
      · rw [hv.rootNamed]
        exact hsub
    · cases hchain with
      | refl => exact hclass
      | tail hx hd => exact hv.isInterface_of_extends (hv.known_of_extends hc hx) hd

end View.Ruled

theorem Resolver.undotted_of_names {r : Resolver} {tool : Tool}
    (h : ∀ name ∈ r.names tool, name.toList.head? ≠ some '.') : r.Undotted tool := by
  intro key name c hc
  have hne : r.answer tool key name ≠ .ok none := by simp [hc]
  exact h name (mem_names_of_answer hne)

namespace History

/-- The registry has the class under its name. -/
def FoundIn (w : Workspace) (c : Class) : Prop :=
  (w.run (.classNamed main c.fullName)).1 = .ok (some c)

theorem foundIn_after (tool : Tool) (grammar : Value) (steps : List Step) :
    FoundIn (after tool grammar steps) = IsOwn tool (units steps) (resolvers steps) := by
  funext c
  rw [FoundIn, run_after, Query.eval_classNamed, plain_find, IsOwn]

/-- All classes that the registries of a workspace know. -/
def knownClasses (w : Workspace) : List Class := Workspace.foundFrom w.tool 0 w.registries

variable {tool : Tool} {grammar : Value} {steps : List Step}

theorem mem_knownClasses {c : Class} (h : FoundIn (after tool grammar steps) c) :
    c ∈ knownClasses (after tool grammar steps) := by
  have hfaithful := faithful_after tool grammar steps
  rw [FoundIn, hfaithful.run_answer, Query.eval_classNamed] at h
  exact hfaithful.mem_foundFrom h

theorem named_after (hundotted : ∀ r ∈ resolvers steps, r.Undotted tool) :
    (plain tool grammar (units steps) (resolvers steps)).view.Named
      (IsOwn tool (units steps) (resolvers steps)) where
  bounded := bounded_after tool grammar steps
  found _ _ _ h := isOwn_of_undotted hundotted h
  same _ _ hc hd hname := hc.eq_of_fullName_eq hd hname

theorem ruled_after (hundotted : ∀ r ∈ resolvers steps, r.Undotted tool)
    (hkinds : WellKinded (plain tool grammar (units steps) (resolvers steps)).view.points
      (IsOwn tool (units steps) (resolvers steps)))
    (hroot : ∀ d, IsOwn tool (units steps) (resolvers steps) d → d.fullName = rootName →
      d.isInterface = false) :
    ∃ root, (plain tool grammar (units steps) (resolvers steps)).view.Ruled
      (IsOwn tool (units steps) (resolvers steps)) root := by
  obtain ⟨root, hknown, hname, -, -⟩ := hkinds.root
  refine ⟨root, named_after hundotted, hkinds, hknown, hname, fun id name c hfind => ?_,
    hroot root hknown hname⟩
  by_cases hid : id = main
  · rw [hid, plain_find, ← hname]
    exact hknown
  · rw [plain_find_of_ne hid] at hfind
    simp at hfind

/-- A class that is no interface and declares no superclass is a subtype of the root. -/
theorem run_isA_root (tool : Tool) (grammar : Value) (steps : List Step) {c : Class}
    (hc : c.isRooted = true) :
    ((after tool grammar steps).run (c.isA rootName)).1 = .ok true := by
  rw [run_after, Class.isA, Query.eval_bind, Query.eval_knownNames, Query.ok_bind]
  by_cases hname : c.fullName = rootName
  · rw [Class.anyIsA_target hname]
    rfl
  · rw [Class.anyIsA_root hname List.not_mem_nil hc rfl]
    rfl

/-- The unit of a class that is found belongs to the registry, as all registered units do. -/
theorem homeOf_of_isOwn {us : List SourceUnit} {rs : List Resolver}
    (hhomed : ∀ u ∈ us, isHomed u = true) {c : Class} (hc : IsOwn tool us rs c) {u : SourceUnit}
    (hu : c.unit = some u) : (plain tool grammar us rs).view.homeOf u.key = some main := by
  rcases lookup_cases hc with hl | ⟨r, -, hr⟩
  · obtain ⟨u', hu', hmem⟩ := List.mem_flatMap.mp (mem_of_lastNamed hl)
    obtain rfl : u = u' := by simpa [hu] using SourceUnit.unit_of_mem_classes hmem
    exact homeOf_plain hu' (hhomed u hu')
  · rw [Resolver.key_of_answer hr hu]
    rfl

/-- A class in a unit that declares no superclass has the root. -/
theorem extends_root {us : List SourceUnit} {rs : List Resolver} {root : Class}
    (hv : (plain tool grammar us rs).view.Ruled (IsOwn tool us rs) root)
    (hhomed : ∀ u ∈ us, isHomed u = true) {c : Class} (hc : IsOwn tool us rs c)
    (hrooted : c.isRooted = true) (hname : c.fullName ≠ rootName) (hunit : c.unit.isSome = true) :
    Extends (plain tool grammar us rs).view c root := by
  obtain ⟨u, hu⟩ := Option.isSome_iff_exists.mp hunit
  have hfound : (plain tool grammar us rs).view.find main rootName = .ok (some root) := by
    rw [plain_find, ← hv.rootNamed]
    exact hv.rootKnown
  refine .of_isRooted hrooted hname ?_
  rw [hu]
  exact points_root (homeOf_of_isOwn hhomed hc hu) hfound

/-- The classes that a class is a subtype of are the class itself and its superclasses, each of a
different name. The chain has an end and an answer if no resolver fails, and a larger bound on its
length changes nothing. A class that has the root for its superclass without saying so must stand in
a unit, or it does not see the root. -/
theorem isA_iff_mem_superclasses (tool : Tool) (grammar : Value) (steps : List Step)
    (hundotted : ∀ r ∈ resolvers steps, r.Undotted tool)
    (hhomed : ∀ u ∈ units steps, isHomed u = true)
    (hkinds : WellKinded (pointsIn (after tool grammar steps))
      (FoundIn (after tool grammar steps)))
    (hroot : ∀ d, FoundIn (after tool grammar steps) d → d.fullName = rootName →
      d.isInterface = false)
    (hhoused : ∀ d, FoundIn (after tool grammar steps) d → d.isRooted = true →
      d.fullName ≠ rootName → d.unit.isSome = true)
    (c : Class) (hc : FoundIn (after tool grammar steps) c) (hclass : c.isInterface = false) :
    (∀ ds, ((after tool grammar steps).run c.superclasses).1 = .ok ds →
      ((c :: ds).map Class.fullName).Nodup ∧
      ∀ f b, ((after tool grammar steps).run (c.isA f)).1 = .ok b →
        (b = true ∧ (∃ d, ((after tool grammar steps).run (.classNamed main f)).1 =
            .ok (some d) ∧ d.isInterface = false) ↔
          f ∈ (c :: ds).map Class.fullName)) ∧
    ((∀ r ∈ resolvers steps, r.isTotal = true) →
      (∃ ds, ((after tool grammar steps).run c.superclasses).1 = .ok ds) ∧
      ∀ f, ∃ b, ((after tool grammar steps).run (c.isA f)).1 = .ok b) ∧
    ∀ bound, (after tool grammar steps).reach < bound →
      ((after tool grammar steps).run (Class.chainAbove bound [c.fullName] c)).1 =
        ((after tool grammar steps).run c.superclasses).1 := by
  have hreach := reach_after tool grammar steps
  simp only [run_after, pointsIn_after, foundIn_after, hreach] at *
  obtain ⟨root, hv⟩ := ruled_after hundotted hkinds hroot
  have hrooted : ∀ x, IsOwn tool (units steps) (resolvers steps) x → x.isRooted = true →
      x.fullName ≠ rootName →
      Extends (plain tool grammar (units steps) (resolvers steps)).view x root :=
    fun x hx hx' hname => extends_root hv hhomed hx hx' hname (hhoused x hx hx' hname)
  refine ⟨fun ds hds => ⟨?_, fun f b hb => ?_⟩, fun htotal => ?_, fun bound hbound => ?_⟩
  · obtain ⟨names, -, hwithin⟩ := hv.bounded
    exact (Class.nodup_of_eval_superclasses hwithin hds).1
  · rw [eval_isA_iff hv.bounded hv.found hv.same hc hb, Query.eval_classNamed, plain_find]
    constructor
    · rintro ⟨hsub, d, hfind, hd⟩
      obtain rfl := fullName_of_lookup hundotted hfind
      have hmem := (hv.isSubtype_iff_extends hrooted hc hclass hfind).mp ⟨hsub, hd⟩
      exact List.mem_map_of_mem ((hv.mem_superclasses_iff hc hds).mpr hmem)
    · intro hf
      obtain ⟨d, hd, rfl⟩ := List.mem_map.mp hf
      have hchain := (hv.mem_superclasses_iff hc hds).mp hd
      have hknown := hv.known_of_extends hc hchain
      obtain ⟨hsub, hkind⟩ := (hv.isSubtype_iff_extends hrooted hc hclass hknown).mpr hchain
      exact ⟨hsub, d, hknown, hkind⟩
  · exact ⟨exists_eval_of_isTotal htotal _, fun f => exists_eval_of_isTotal htotal _⟩
  · exact (Class.eval_superclasses hv.bounded hbound c).symm

def rootDecl (kind : TypeKind) : TypeDecl := { kind, name := "Object" }

def rootUnit (kind : TypeKind) : SourceUnit :=
  { key := .source 1, package := "java.lang", types := [rootDecl kind] }

def rootClass (kind : TypeKind) : Class := (rootUnit kind).top 0 (rootDecl kind)

/-- Two classes that extend each other, one of which implements an interface, and the root. -/
def rootedCircle : List Step := .addUnit (rootUnit .classType) :: circle

theorem wellKinded_rootedCircle :
    WellKinded (pointsIn (after {} .null rootedCircle)) (FoundIn (after {} .null rootedCircle)) :=
  .of_areWellKinded (fun _ => mem_knownClasses) (rootClass .classType) rfl rfl rfl rfl rfl

theorem isInterface_root_rootedCircle (d : Class) (hd : FoundIn (after {} .null rootedCircle) d) :
    d.fullName = rootName → d.isInterface = false := by
  have hall : ∀ d ∈ knownClasses (after {} .null rootedCircle),
      d.fullName = rootName → d.isInterface = false := by decide
  exact hall d (mem_knownClasses hd)

/-- In the circle each class is a subtype of the other, but not of the root. -/
theorem isA_iff_mem_superclasses_circle :
    FoundIn (after {} .null rootedCircle) (circleUnit.top 0 circleDecl) ∧
      ((after {} .null rootedCircle).run ((circleUnit.top 0 circleDecl).isA "p.B")).1 = .ok true ∧
      ((after {} .null rootedCircle).run ((circleUnit.top 0 circleDecl).isA rootName)).1 =
        .ok false := by
  have hc : FoundIn (after {} .null rootedCircle) (circleUnit.top 0 circleDecl) := rfl
  have hundotted : ∀ r ∈ resolvers rootedCircle, r.Undotted {} :=
    fun r hr => Resolver.undotted_of_names (by revert r; decide)
  have hhoused : ∀ d ∈ knownClasses (after {} .null rootedCircle), d.unit.isSome = true := by
    decide
  obtain ⟨hiff, htotal, -⟩ := isA_iff_mem_superclasses {} .null rootedCircle hundotted (by decide)
    wellKinded_rootedCircle isInterface_root_rootedCircle
    (fun d hd _ _ => hhoused d (mem_knownClasses hd)) _ hc rfl
  obtain ⟨d, hds, hname⟩ : ∃ d, ((after {} .null rootedCircle).run
      (circleUnit.top 0 circleDecl).superclasses).1 = .ok [d] ∧ d.fullName = "p.B" :=
    ⟨_, rfl, rfl⟩
  obtain ⟨-, hmem⟩ := hiff _ hds
  have hanswer := (htotal (by decide)).2
  refine ⟨hc, ?_, ?_⟩
  · obtain ⟨b, hb⟩ := hanswer "p.B"
    obtain ⟨rfl, -⟩ := (hmem "p.B" b hb).mpr (by simp [hname])
    exact hb
  · obtain ⟨b, hb⟩ := hanswer rootName
    cases b with
    | false => exact hb
    | true =>
      have hroot := (hmem rootName true hb).mp ⟨rfl, rootClass .classType, rfl, rfl⟩
      rw [List.map_cons, List.map_singleton, hname] at hroot
      exact absurd hroot (by decide)

/-- A class that stands in no unit, and the root. -/
def unhoused : List Step :=
  [.addUnit (rootUnit .classType), .addResolver { resolver := .bare [("p.A", .classType)] }]

def unhousedClass : Class :=
  { key := .outside (some main) "p.A", unit := none, path := [0], decl := { name := "p.A" } }

/-- A class that stands in no unit is a subtype of the root, but the root is none of its
superclasses. -/
theorem superclasses_unhoused :
    (∀ r ∈ resolvers unhoused, r.Undotted {}) ∧ (∀ u ∈ units unhoused, isHomed u = true) ∧
      WellKinded (pointsIn (after {} .null unhoused)) (FoundIn (after {} .null unhoused)) ∧
      (∀ d, FoundIn (after {} .null unhoused) d → d.fullName = rootName →
        d.isInterface = false) ∧
      FoundIn (after {} .null unhoused) unhousedClass ∧ unhousedClass.isInterface = false ∧
      ((after {} .null unhoused).run (unhousedClass.isA rootName)).1 = .ok true ∧
      ((after {} .null unhoused).run (.classNamed main rootName)).1 =
        .ok (some (rootClass .classType)) ∧
      (rootClass .classType).isInterface = false ∧
      ((after {} .null unhoused).run unhousedClass.superclasses).1 = .ok [] ∧
      rootName ∉ [unhousedClass].map Class.fullName := by
  have hundotted : ∀ r ∈ resolvers unhoused, r.Undotted {} :=
    fun r hr => Resolver.undotted_of_names (by revert r; decide)
  have hroot : ∀ d ∈ knownClasses (after {} .null unhoused),
      d.fullName = rootName → d.isInterface = false := by decide
  have hkinds : WellKinded (pointsIn (after {} .null unhoused))
      (FoundIn (after {} .null unhoused)) :=
    .of_areWellKinded (fun _ => mem_knownClasses) (rootClass .classType) rfl rfl rfl rfl rfl
  have hisA := run_isA_root {} .null unhoused (c := unhousedClass) rfl
  exact ⟨hundotted, by decide, hkinds, fun d hd => hroot d (mem_knownClasses hd), rfl, rfl, hisA,
    rfl, rfl, rfl, by decide⟩

end History

end JavaAtlas
