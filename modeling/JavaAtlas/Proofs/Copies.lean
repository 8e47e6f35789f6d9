import JavaAtlas.Proofs.Renumbering
import JavaAtlas.Proofs.Walk

/-! Registries that are copies of others under new numbers. What is asked about a class of a copy
has the same answer as what is asked about the class it stands for, up to the numbers. Each walk
through a hierarchy goes the same way in both, and since no walk needs its bound, it does not matter
that there are more names around the copy. -/

namespace JavaAtlas

/-- The unit, if there is one, belongs to the registry. -/
def View.IsHome (v : View) (id : RegistryId) (unit : Option SourceUnit) : Prop :=
  ∀ u, unit = some u → v.homeOf u.key = some id

/-- One registry of a view has a copy in another view. What the registry finds belongs to it. -/
structure Copies (ρ : Renumbering) (id : RegistryId) (v v' : View) : Prop where
  home : ∀ n, v.home n = some id → v'.home (ρ.number n) = some (ρ.registry id)
  sources : v'.sources (ρ.registry id) = (v.sources id).map ρ.unit
  reach : v.reach ≤ v'.reach
  find : ∀ name, v'.find (ρ.registry id) name = ρ.found (v.find id name)
  own : ∀ name c, v.find id name = .ok (some c) → v.IsHome id c.unit

namespace Copies

variable {ρ : Renumbering} {id : RegistryId} {v v' : View}

theorem homeOf (h : Copies ρ id v v') {key : UnitKey} (hk : v.homeOf key = some id) :
    v'.homeOf (ρ.key key) = some (ρ.registry id) := by
  cases key with
  | source n => exact h.home n hk
  | outside registry name =>
    obtain rfl : registry = some id := hk
    rfl

/-! ### Names and references -/

theorem eval_holds (h : Copies ρ id v v') (c : Resolution.Candidate) :
    (Resolution.holds (some (ρ.registry id)) c).eval v' =
      (Resolution.holds (some id) c).eval v := by
  obtain ⟨name, needs⟩ := c
  have hknown : (Query.classNamed (ρ.registry id) name >>= fun c =>
        Query.answer c.isSome).eval v' =
      (Query.classNamed id name >>= fun c => Query.answer c.isSome).eval v := by
    rw [Query.eval_bind, Query.eval_bind, Query.eval_classNamed, Query.eval_classNamed, h.find]
    rcases v.find id name with e | _ | c
    · rfl
    · rfl
    · rfl
  cases needs with
  | none => rfl
  | known => exact hknown
  | notMissing => exact hknown

theorem eval_choose (h : Copies ρ id v v') (cs : List Resolution.Candidate) :
    (Resolution.choose (some (ρ.registry id)) cs).eval v' =
      (Resolution.choose (some id) cs).eval v := by
  induction cs with
  | nil => rfl
  | cons c cs ih =>
    rw [Resolution.choose, Resolution.choose, Query.eval_bind, Query.eval_bind, h.eval_holds]
    rcases (Resolution.holds (some id) c).eval v with e | _ | _
    · rfl
    · exact ih
    · rfl

/-- A name in a unit stands for the same in the copy of the unit. -/
theorem eval_resolve (h : Copies ρ id v v') {u : SourceUnit} (hu : v.homeOf u.key = some id)
    (scope : Option Class) (name : String) :
    (Resolution.resolve (ρ.unit u) (scope.map ρ.cls) name).eval v' =
      (Resolution.resolve u scope name).eval v := by
  have hu' : v'.homeOf (ρ.unit u).key = some (ρ.registry id) := h.homeOf hu
  rw [Resolution.resolve, Resolution.resolve, Query.eval_bind, Query.eval_bind, Query.eval_homeOf,
    Query.eval_homeOf, hu, hu', Query.ok_bind, Query.ok_bind, Renumbering.candidates_eq]
  exact h.eval_choose _

theorem eval_resolvedName (h : Copies ρ id v v') {r : TypeRef} (hr : v.IsHome id r.owner) :
    (ρ.ref r).resolvedName.eval v' = r.resolvedName.eval v := by
  rw [TypeRef.resolvedName, TypeRef.resolvedName, Renumbering.ref_isPrimitive]
  split
  · rfl
  cases ho : r.owner with
  | none => simp [ho]
  | some u =>
    simp only [Renumbering.ref_owner, ho, Option.map_some]
    exact h.eval_resolve (hr u ho) r.scope r.name

theorem eval_class? (h : Copies ρ id v v') {r : TypeRef} (hr : v.IsHome id r.owner) :
    (ρ.ref r).class?.eval v' = ρ.found (r.class?.eval v) := by
  rw [TypeRef.eval_class?, TypeRef.eval_class?, Renumbering.ref_isArray,
    Renumbering.ref_isPrimitive]
  split
  · rfl
  cases ho : r.owner with
  | none => simp [ho]
  | some u =>
    have hu := hr u ho
    have hu' : v'.homeOf (ρ.unit u).key = some (ρ.registry id) := h.homeOf hu
    simp only [Renumbering.ref_owner, ho, Option.map_some, Option.bind_some, hu, hu',
      h.eval_resolvedName hr]
    rcases r.resolvedName.eval v with e | _ | full
    · rfl
    · rfl
    · exact h.find full

/-- What a reference in the registry points at belongs to the registry. -/
theorem isHome_of_eval_class? (h : Copies ρ id v v') {r : TypeRef} (hr : v.IsHome id r.owner)
    {d : Class} (hd : r.class?.eval v = .ok (some d)) : v.IsHome id d.unit := by
  obtain ⟨home, name, hfind, hhome⟩ := TypeRef.find_of_eval_class? hd
  obtain ⟨u, hu, hk⟩ := Option.bind_eq_some_iff.mp hhome
  have hsame : some home = some id := hk.symm.trans (hr u hu)
  obtain rfl : home = id := Option.some.inj hsame
  exact h.own name d hfind

theorem eval_resolveAll (h : Copies ρ id v v') {rs : List TypeRef}
    (hrs : ∀ r ∈ rs, v.IsHome id r.owner) :
    (Class.resolveAll (rs.map ρ.ref)).eval v' =
      ((Class.resolveAll rs).eval v).map (List.map ρ.cls) := by
  induction rs with
  | nil => rfl
  | cons r rs ih =>
    rw [List.map_cons, Class.resolveAll, Class.resolveAll, Query.eval_bind, Query.eval_bind,
      h.eval_class? (hrs r List.mem_cons_self)]
    cases r.class?.eval v with
    | error e => rfl
    | ok found =>
      have hfound : ρ.found (.ok found) = .ok (found.map ρ.cls) := rfl
      simp only [hfound, Query.ok_bind, Query.eval_bind,
        ih fun s hs => hrs s (List.mem_cons_of_mem r hs)]
      cases (Class.resolveAll rs).eval v with
      | error e => rfl
      | ok others => cases found <;> rfl

theorem isHome_of_eval_resolveAll (h : Copies ρ id v v') {rs : List TypeRef}
    (hrs : ∀ r ∈ rs, v.IsHome id r.owner) {ds : List Class}
    (hds : (Class.resolveAll rs).eval v = .ok ds) : ∀ d ∈ ds, v.IsHome id d.unit := by
  intro d hd
  obtain ⟨r, hr, hrd⟩ := (Class.mem_of_eval_resolveAll hds d).mp hd
  exact h.isHome_of_eval_class? (hrs r hr) hrd

/-! ### Walks -/

theorem owner_of_mem_interfaces {c : Class} {r : TypeRef} (h : r ∈ c.interfaces) :
    r.owner = c.unit := by
  obtain ⟨t, -, rfl⟩ := List.mem_map.mp h
  rfl

theorem owner_of_superclass? {c : Class} {r : TypeRef} (h : c.superclass? = some r) :
    r.owner = c.unit := by
  obtain ⟨t, -, rfl⟩ := Option.map_eq_some_iff.mp h
  rfl

theorem owner_of_mem_supertypeRefs {c : Class} {r : TypeRef} (h : r ∈ c.supertypeRefs) :
    r.owner = c.unit := by
  rcases List.mem_append.mp h with h | h
  · exact owner_of_mem_interfaces h
  · split at h
    · simp at h
    · exact owner_of_superclass? (Option.mem_toList.mp h)

theorem owner_of_effectiveSuperclass? {c : Class} {r : TypeRef}
    (h : c.effectiveSuperclass? = some r) : r.owner = c.unit := by
  rw [Class.effectiveSuperclass?] at h
  cases hs : c.superclass? with
  | some s =>
    rw [hs] at h
    obtain rfl : s = r := Option.some.inj h
    exact owner_of_superclass? hs
  | none =>
    simp only [hs] at h
    split at h
    · simp at h
    · obtain rfl := Option.some.inj h
      rfl

section Walks

variable {c : Class}

theorem eval_supertypes (h : Copies ρ id v v') (hc : v.IsHome id c.unit) :
    (ρ.cls c).supertypes.eval v' = (c.supertypes.eval v).map (List.map ρ.cls) := by
  rw [Class.supertypes, Class.supertypes, Renumbering.cls_supertypeRefs]
  apply h.eval_resolveAll
  intro r hr
  rw [owner_of_mem_supertypeRefs hr]
  exact hc

theorem isHome_of_eval_supertypes (h : Copies ρ id v v') (hc : v.IsHome id c.unit)
    {ds : List Class} (hds : c.supertypes.eval v = .ok ds) : ∀ d ∈ ds, v.IsHome id d.unit := by
  apply h.isHome_of_eval_resolveAll _ hds
  intro r hr
  rw [owner_of_mem_supertypeRefs hr]
  exact hc

theorem eval_anyIsA (h : Copies ρ id v v') {target : String} {bound : Nat} {met : List String}
    {stack : List Class} (hstack : ∀ c ∈ stack, v.IsHome id c.unit) :
    (Class.anyIsA target bound met (stack.map ρ.cls)).eval v' =
      (Class.anyIsA target bound met stack).eval v := by
  -- the walk asks only for names, and these are the same in the copy
  induction bound, met, stack using Class.anyIsA_induct target with
  | empty bound met =>
    rw [List.map_nil, Class.anyIsA]
    rfl
  | found bound met c rest ht =>
    rw [List.map_cons, Class.anyIsA_target ht,
      Class.anyIsA_target ((ρ.cls_fullName c).trans ht)]
    rfl
  | skip bound met c rest ht hm ih =>
    rw [List.map_cons, Class.anyIsA_met ht hm, Class.anyIsA_met (by simpa using ht)
      (by simpa using hm)]
    exact ih fun d hd => hstack d (List.mem_cons_of_mem c hd)
  | stop met c rest ht hm =>
    rw [List.map_cons, Class.anyIsA_zero ht hm, Class.anyIsA_zero (by simpa using ht)
      (by simpa using hm)]
    rfl
  | root bound met c rest ht hm hr htarget =>
    rw [List.map_cons, Class.anyIsA_root ht hm hr htarget,
      Class.anyIsA_root (by simpa using ht) (by simpa using hm) (by simpa using hr) htarget]
    rfl
  | enter bound met c rest ht hm hr ih =>
    have hc := hstack c List.mem_cons_self
    rw [List.map_cons, Class.anyIsA_enter ht hm hr,
      Class.anyIsA_enter (by simpa using ht) (by simpa using hm) (by simpa using hr),
      Query.eval_bind, Query.eval_bind, h.eval_supertypes hc, Renumbering.cls_fullName]
    cases ha : c.supertypes.eval v with
    | error e => rfl
    | ok above =>
      have hnext : ∀ d ∈ above ++ rest, v.IsHome id d.unit := by
        intro d hd
        rcases List.mem_append.mp hd with hd | hd
        · exact h.isHome_of_eval_supertypes hc ha d hd
        · exact hstack d (List.mem_cons_of_mem c hd)
      have hsame := ih above hnext
      rw [List.map_append] at hsame
      exact hsame

theorem eval_superclassClass (h : Copies ρ id v v') (hc : v.IsHome id c.unit) :
    (ρ.cls c).superclassClass.eval v' = ρ.found (c.superclassClass.eval v) := by
  rw [Class.superclassClass, Class.superclassClass, Renumbering.cls_effectiveSuperclass?]
  cases hr : c.effectiveSuperclass? with
  | none => rfl
  | some r =>
    apply h.eval_class?
    rw [owner_of_effectiveSuperclass? hr]
    exact hc

theorem isHome_of_eval_superclassClass (h : Copies ρ id v v') (hc : v.IsHome id c.unit)
    {d : Class} (hd : c.superclassClass.eval v = .ok (some d)) : v.IsHome id d.unit := by
  rw [Class.superclassClass] at hd
  cases hr : c.effectiveSuperclass? with
  | none => simp [hr] at hd
  | some r =>
    rw [hr] at hd
    refine h.isHome_of_eval_class? ?_ hd
    rw [owner_of_effectiveSuperclass? hr]
    exact hc

theorem eval_chainAbove (h : Copies ρ id v v') (hc : v.IsHome id c.unit) (bound : Nat)
    (met : List String) :
    (Class.chainAbove bound met (ρ.cls c)).eval v' =
      ((Class.chainAbove bound met c).eval v).map (List.map ρ.cls) := by
  induction bound generalizing met c with
  | zero => rfl
  | succ bound ih =>
    rw [Class.eval_chainAbove_succ, Class.eval_chainAbove_succ, h.eval_superclassClass hc]
    rcases hs : c.superclassClass.eval v with e | _ | d
    · rfl
    · rfl
    · have hd := h.isHome_of_eval_superclassClass hc hs
      simp only [Renumbering.found_some, Query.ok_bind, Renumbering.cls_fullName, ih hd]
      split
      · rfl
      · cases (Class.chainAbove bound (d.fullName :: met) d).eval v with
        | error e => rfl
        | ok ds => rfl

theorem isHome_of_eval_chainAbove (h : Copies ρ id v v') (hc : v.IsHome id c.unit) {bound : Nat}
    {met : List String} {ds : List Class}
    (hds : (Class.chainAbove bound met c).eval v = .ok ds) : ∀ d ∈ ds, v.IsHome id d.unit := by
  induction bound generalizing met c ds with
  | zero =>
    obtain rfl : [] = ds := by simpa [Class.chainAbove] using hds
    simp
  | succ bound ih =>
    rcases Class.eval_chainAbove_cases hds with ⟨-, rfl⟩ | ⟨d, others, hs, -, hothers, rfl⟩
    · simp
    · -- The superclass was found in the same registry, so the walk does not leave it.
      have hd := h.isHome_of_eval_superclassClass hc hs
      exact List.forall_mem_cons.mpr ⟨hd, ih hd hothers⟩

theorem eval_interfacesFrom (h : Copies ρ id v v') (bound : Nat) (met entered : List String)
    {queue : List Class} (hqueue : ∀ c ∈ queue, v.IsHome id c.unit) :
    (Class.interfacesFrom bound met entered (queue.map ρ.cls)).eval v' =
      ((Class.interfacesFrom bound met entered queue).eval v).map (List.map ρ.cls) := by
  induction bound generalizing met entered queue with
  | zero => rfl
  | succ bound ih =>
    cases queue with
    | nil => rfl
    | cons c queue =>
      have hrefs : ∀ r ∈ c.interfaces, v.IsHome id r.owner := by
        intro r hr
        rw [owner_of_mem_interfaces hr]
        exact hqueue c List.mem_cons_self
      rw [List.map_cons, Class.eval_interfacesFrom_succ, Class.eval_interfacesFrom_succ,
        Renumbering.cls_interfaces, h.eval_resolveAll hrefs]
      cases hds : (Class.resolveAll c.interfaces).eval v with
      | error e => rfl
      | ok ds =>
        have hfound := h.isHome_of_eval_resolveAll hrefs hds
        have hnext : ∀ d ∈ queue ++ (Class.unmet met ds).filter fun d =>
            !entered.contains d.fullName, v.IsHome id d.unit := by
          intro d hd
          rcases List.mem_append.mp hd with hd | hd
          · exact hqueue d (List.mem_cons_of_mem c hd)
          · exact hfound d ((Class.unmet_spec met ds).2 d (List.mem_of_mem_filter hd)).1
        -- the names that were met and entered are the same in both, so the same classes are fresh
        have hsame := ih ((Class.unmet met ds).map Class.fullName ++ met)
          ((Class.unmet met ds).map Class.fullName ++ entered) hnext
        rw [List.map_append] at hsame
        simp only [Except.map, Query.ok_bind, Renumbering.unmet_cls,
          Renumbering.map_fullName_cls, List.filter_map, Function.comp_def,
          Renumbering.cls_fullName]
        rw [hsame]
        cases (Class.interfacesFrom bound ((Class.unmet met ds).map Class.fullName ++ met)
            ((Class.unmet met ds).map Class.fullName ++ entered)
            (queue ++ (Class.unmet met ds).filter fun d =>
              !entered.contains d.fullName)).eval v with
        | error e => rfl
        | ok more => simp [Except.map]

/-- Whether a class is of a type does not depend on its number. -/
theorem eval_isA (h : Copies ρ id v v') (hv : v.Bounded) (hc : v.IsHome id c.unit)
    (target : String) : ((ρ.cls c).isA target).eval v' = (c.isA target).eval v := by
  have hreach : v.reach < v'.reach + 1 := Nat.lt_succ_of_le h.reach
  have hstack : ∀ d ∈ [c], v.IsHome id d.unit := by simpa using hc
  rw [Class.eval_isA hv hreach]
  exact h.eval_anyIsA hstack

theorem eval_superclasses (h : Copies ρ id v v') (hv : v.Bounded) (hc : v.IsHome id c.unit) :
    (ρ.cls c).superclasses.eval v' = (c.superclasses.eval v).map (List.map ρ.cls) := by
  have hreach : v.reach < v'.reach + 1 := Nat.lt_succ_of_le h.reach
  rw [Class.eval_superclasses hv hreach, ← h.eval_chainAbove hc, Class.superclasses,
    Query.eval_bind, Query.eval_knownNames, Query.ok_bind, Renumbering.cls_fullName]

theorem eval_allInterfaces (h : Copies ρ id v v') (hv : v.Bounded) (hc : v.IsHome id c.unit) :
    (ρ.cls c).allInterfaces.eval v' = (c.allInterfaces.eval v).map (List.map ρ.cls) := by
  have hreach : v.reach < v'.reach + 1 := Nat.lt_succ_of_le h.reach
  rw [Class.eval_allInterfaces hv hreach, Class.allInterfaces, Query.eval_bind,
    h.eval_superclasses hv hc]
  cases habove : c.superclasses.eval v with
  | error e => rfl
  | ok above =>
    have hqueue : ∀ d ∈ c :: above, v.IsHome id d.unit := by
      intro d hd
      rcases List.mem_cons.mp hd with rfl | hd
      · exact hc
      · exact h.isHome_of_eval_chainAbove hc habove d hd
    have hsame := h.eval_interfacesFrom (v'.reach + 1) [c.fullName]
      ((c :: above).map Class.fullName) hqueue
    rw [Query.ok_bind, ← hsame]
    simp only [Except.map, Query.ok_bind, Query.eval_bind, Query.eval_knownNames,
      Renumbering.cls_fullName, List.map_cons, Renumbering.map_fullName_cls]

end Walks

end Copies

end JavaAtlas
