import JavaAtlas.Hierarchy
import JavaAtlas.Proofs.Reach

/-! Walks through hierarchies, as functions of a view. A walk enters no name twice, so it enters no
more classes than there are names, and the bounds that the walks are given never cut one short:
`eval_anyIsA_bound`, `eval_chainAbove_bound`, `eval_interfacesFrom_bound`. A walk without any bound
would end, too, and with the same answer. -/

namespace JavaAtlas

variable {v : View}

/-! ### References -/

theorem TypeRef.eval_class? (v : View) (r : TypeRef) :
    r.class?.eval v =
      if r.isArray || r.isPrimitive then .ok none
      else
        match r.owner.bind fun unit => v.homeOf unit.key with
        | none => .ok none
        | some id => r.resolvedName.eval v >>= fun
          | none => .ok none
          | some full => v.find id full := by
  rw [class?]
  split
  · rfl
  cases r.owner with
  | none => rfl
  | some unit =>
    simp only [Query.eval_bind, Query.eval_homeOf, Query.ok_bind, Option.bind_some]
    cases v.homeOf unit.key with
    | none => rfl
    | some id =>
      simp only [Query.eval_bind]
      rcases r.resolvedName.eval v with e | _ | full
      · rfl
      · rfl
      · exact Query.eval_classNamed v id full

/-- A class that a reference points at is one that the registry of its unit finds. -/
theorem TypeRef.find_of_eval_class? {r : TypeRef} {c : Class}
    (h : r.class?.eval v = .ok (some c)) :
    ∃ id name, v.find id name = .ok (some c) ∧
      (r.owner.bind fun unit => v.homeOf unit.key) = some id := by
  rw [eval_class?] at h
  split at h
  · simp at h
  split at h
  · simp at h
  next id hid =>
  rcases hn : r.resolvedName.eval v with e | _ | full
  · simp [hn] at h
  · simp [hn] at h
  · simp only [hn, Query.ok_bind] at h
    exact ⟨id, full, h, hid⟩

namespace Class

/-- The classes that some references point at, if looking them up does not fail. -/
theorem mem_of_eval_resolveAll {rs : List TypeRef} {ds : List Class}
    (h : (resolveAll rs).eval v = .ok ds) (d : Class) :
    d ∈ ds ↔ ∃ r ∈ rs, r.class?.eval v = .ok (some d) := by
  induction rs generalizing ds with
  | nil =>
    obtain rfl : [] = ds := by simpa [resolveAll] using h
    simp
  | cons r rs ih =>
    simp only [resolveAll, Query.eval_bind] at h
    cases hr : r.class?.eval v with
    | error e => simp [hr] at h
    | ok found =>
      cases hrs : (resolveAll rs).eval v with
      | error e => simp [hr, hrs] at h
      | ok others =>
        obtain rfl : found.toList ++ others = ds := by simpa [hr, hrs] using h
        simp [ih hrs, hr]

/-! ### Steps of the walks -/

section Steps

variable {target : String} {bound : Nat} {met : List String} {c : Class} {rest : List Class}

theorem anyIsA_target (h : c.fullName = target) :
    anyIsA target bound met (c :: rest) = .answer true := by
  rw [anyIsA.eq_def]
  simp [h]

theorem anyIsA_met (h : c.fullName ≠ target) (hm : c.fullName ∈ met) :
    anyIsA target bound met (c :: rest) = anyIsA target bound met rest := by
  rw [anyIsA.eq_def]
  simp [h, hm]

theorem anyIsA_zero (h : c.fullName ≠ target) (hm : c.fullName ∉ met) :
    anyIsA target 0 met (c :: rest) = .answer false := by
  rw [anyIsA.eq_def]
  simp [h, hm]

theorem anyIsA_root (h : c.fullName ≠ target) (hm : c.fullName ∉ met) (hr : c.isRooted = true)
    (ht : target = rootName) : anyIsA target (bound + 1) met (c :: rest) = .answer true := by
  rw [anyIsA.eq_def]
  subst ht
  simp [h, hm, hr]

theorem anyIsA_enter (h : c.fullName ≠ target) (hm : c.fullName ∉ met)
    (hr : ¬(c.isRooted = true ∧ target = rootName)) :
    anyIsA target (bound + 1) met (c :: rest) =
      c.supertypes >>= fun above => anyIsA target bound (c.fullName :: met) (above ++ rest) := by
  rw [anyIsA.eq_def]
  have hr' : (c.isRooted && target == rootName) = false := by
    rw [Bool.and_eq_false_iff]
    by_cases hc : c.isRooted = true
    · exact Or.inr (by simpa [hc] using hr)
    · exact Or.inl (by simpa using hc)
  simp [h, hm, hr']

end Steps

/-- What holds of every walk of `isA`: the stack is empty, the class on top is the target, was met,
comes when no more may be entered, is rooted and asked about the root, or is entered. -/
theorem anyIsA_induct (target : String) {motive : Nat → List String → List Class → Prop}
    (empty : ∀ bound met, motive bound met [])
    (found : ∀ bound met c rest, c.fullName = target → motive bound met (c :: rest))
    (skip : ∀ bound met c rest, c.fullName ≠ target → c.fullName ∈ met →
      motive bound met rest → motive bound met (c :: rest))
    (stop : ∀ met c rest, c.fullName ≠ target → c.fullName ∉ met → motive 0 met (c :: rest))
    (root : ∀ bound met c rest, c.fullName ≠ target → c.fullName ∉ met → c.isRooted = true →
      target = rootName → motive (bound + 1) met (c :: rest))
    (enter : ∀ bound met c rest, c.fullName ≠ target → c.fullName ∉ met →
      ¬(c.isRooted = true ∧ target = rootName) →
      (∀ above, motive bound (c.fullName :: met) (above ++ rest)) →
      motive (bound + 1) met (c :: rest))
    (bound : Nat) (met : List String) (stack : List Class) : motive bound met stack := by
  induction bound, met, stack using anyIsA.induct target with
  | case1 bound met => exact empty bound met
  | case2 bound met c rest ht => exact found bound met c rest (by simpa using ht)
  | case3 bound met c rest ht hm ih =>
    exact skip bound met c rest (by simpa using ht) (by simpa using hm) ih
  | case4 met c rest ht hm => exact stop met c rest (by simpa using ht) (by simpa using hm)
  | case5 met c rest ht hm bound hr =>
    have hr : c.isRooted = true ∧ target = rootName := by simpa using hr
    exact root bound met c rest (by simpa using ht) (by simpa using hm) hr.1 hr.2
  | case6 met c rest ht hm bound hr ih =>
    exact enter bound met c rest (by simpa using ht) (by simpa using hm) (by simpa using hr) ih

/-! ### Bounds -/

/-- The names of a set that were not met. -/
def unmetNames (names : Finset String) (met : List String) : Finset String :=
  names.filter (· ∉ met)

theorem card_unmetNames_cons {names : Finset String} {met : List String} {name : String}
    (hn : name ∈ names) (hm : name ∉ met) :
    (unmetNames names (name :: met)).card < (unmetNames names met).card := by
  apply Finset.card_lt_card
  refine Finset.ssubset_iff_subset_ne.mpr ⟨?_, ?_⟩
  · intro x hx
    simp only [unmetNames, Finset.mem_filter, List.mem_cons, not_or] at hx ⊢
    exact ⟨hx.1, hx.2.2⟩
  · intro he
    have hmem : name ∈ unmetNames names met := Finset.mem_filter.mpr ⟨hn, hm⟩
    rw [← he] at hmem
    simp [unmetNames] at hmem

variable {names : Finset String}

theorem fullName_mem_of_eval_resolveAll (hv : v.Within names) {rs : List TypeRef}
    {ds : List Class} (h : (resolveAll rs).eval v = .ok ds) : ∀ d ∈ ds, d.fullName ∈ names := by
  intro d hd
  obtain ⟨r, -, hr⟩ := (mem_of_eval_resolveAll h d).mp hd
  obtain ⟨id, name, hfind, -⟩ := TypeRef.find_of_eval_class? hr
  exact hv id name d hfind

/-- The walk of `isA` is never cut short if it may enter as many classes as there are names. -/
theorem eval_anyIsA_bound (hv : v.Within names) {target : String} {bound bound' : Nat}
    {met : List String} {stack : List Class} (hstack : ∀ c ∈ stack, c.fullName ∈ names)
    (hb : (unmetNames names met).card ≤ bound) (hb' : (unmetNames names met).card ≤ bound') :
    (anyIsA target bound met stack).eval v = (anyIsA target bound' met stack).eval v := by
  induction bound, met, stack using anyIsA_induct target generalizing bound' with
  | empty bound met => rw [anyIsA, anyIsA]
  | found bound met c rest ht => rw [anyIsA_target ht, anyIsA_target ht]
  | skip bound met c rest ht hm ih =>
    rw [anyIsA_met ht hm, anyIsA_met ht hm]
    exact ih (fun d hd => hstack d (List.mem_cons_of_mem c hd)) hb hb'
  | stop met c rest ht hm =>
    -- a name that was not met is still to be counted, so the bound is not zero
    have := card_unmetNames_cons (hstack c List.mem_cons_self) hm
    omega
  | root bound met c rest ht hm hr htarget =>
    have := card_unmetNames_cons (hstack c List.mem_cons_self) hm
    obtain ⟨n, rfl⟩ : ∃ n, bound' = n + 1 := ⟨bound' - 1, by omega⟩
    rw [anyIsA_root ht hm hr htarget, anyIsA_root ht hm hr htarget]
  | enter bound met c rest ht hm hr ih =>
    have hless := card_unmetNames_cons (hstack c List.mem_cons_self) hm
    obtain ⟨n, rfl⟩ : ∃ n, bound' = n + 1 := ⟨bound' - 1, by omega⟩
    rw [anyIsA_enter ht hm hr, anyIsA_enter ht hm hr, Query.eval_bind, Query.eval_bind]
    cases ha : c.supertypes.eval v with
    | error e => rfl
    | ok above =>
      refine ih above ?_ (by omega) (by omega)
      intro d hd
      rcases List.mem_append.mp hd with hd | hd
      · exact fullName_mem_of_eval_resolveAll hv ha d hd
      · exact hstack d (List.mem_cons_of_mem c hd)

/-- A superclass that is found is found by a registry. -/
theorem find_of_eval_superclassClass {c d : Class}
    (h : c.superclassClass.eval v = .ok (some d)) : ∃ id name, v.find id name = .ok (some d) := by
  rw [superclassClass] at h
  split at h
  · simp at h
  · obtain ⟨id, name, hfind, -⟩ := TypeRef.find_of_eval_class? h
    exact ⟨id, name, hfind⟩

theorem fullName_mem_of_eval_superclassClass (hv : v.Within names) {c d : Class}
    (h : c.superclassClass.eval v = .ok (some d)) : d.fullName ∈ names := by
  obtain ⟨id, name, hfind⟩ := find_of_eval_superclassClass h
  exact hv id name d hfind

theorem eval_chainAbove_succ (bound : Nat) (met : List String) (c : Class) :
    (chainAbove (bound + 1) met c).eval v =
      c.superclassClass.eval v >>= fun
        | none => .ok []
        | some d =>
          if d.fullName ∈ met then .ok []
          else (chainAbove bound (d.fullName :: met) d).eval v >>= fun ds => .ok (d :: ds) := by
  rw [chainAbove, Query.eval_bind]
  congr 1
  funext found
  cases found with
  | none => rfl
  | some d =>
    simp only [List.contains_eq_mem, decide_eq_true_eq]
    split
    · rfl
    · rw [Query.eval_bind]
      rfl

/-- The walk along superclasses is never cut short if it may enter one class more than there are
names left. -/
theorem eval_chainAbove_bound (hv : v.Within names) {bound bound' : Nat} {met : List String}
    {c : Class} (hb : (unmetNames names met).card < bound)
    (hb' : (unmetNames names met).card < bound') :
    (chainAbove bound met c).eval v = (chainAbove bound' met c).eval v := by
  induction bound generalizing bound' met c with
  | zero => omega
  | succ bound ih =>
    obtain ⟨n, rfl⟩ : ∃ n, bound' = n + 1 := ⟨bound' - 1, by omega⟩
    rw [eval_chainAbove_succ, eval_chainAbove_succ]
    rcases hs : c.superclassClass.eval v with e | _ | d
    · rfl
    · rfl
    · simp only [Query.ok_bind]
      split
      · rfl
      · next hm =>
        have hless := card_unmetNames_cons (fullName_mem_of_eval_superclassClass hv hs) hm
        have hsame : (chainAbove bound (d.fullName :: met) d).eval v =
            (chainAbove n (d.fullName :: met) d).eval v := ih (by omega) (by omega)
        rw [hsame]

/-- The chain ends at a class if the superclass is not known or was met, or it goes on there. -/
theorem eval_chainAbove_cases {bound : Nat} {met : List String} {c : Class} {ds : List Class}
    (h : (chainAbove (bound + 1) met c).eval v = .ok ds) :
    (∀ d, c.superclassClass.eval v = .ok (some d) → d.fullName ∈ met) ∧ ds = [] ∨
      ∃ d others, c.superclassClass.eval v = .ok (some d) ∧ d.fullName ∉ met ∧
        (chainAbove bound (d.fullName :: met) d).eval v = .ok others ∧ ds = d :: others := by
  rw [eval_chainAbove_succ] at h
  rcases hs : c.superclassClass.eval v with e | _ | d
  · simp [hs] at h
  · obtain rfl : [] = ds := by simpa [hs] using h
    exact Or.inl ⟨by simp, rfl⟩
  · simp only [hs, Query.ok_bind] at h
    split at h
    · next hm =>
      obtain rfl : [] = ds := by simpa using h
      exact Or.inl ⟨by simpa using hm, rfl⟩
    · next hm =>
      cases hc : (chainAbove bound (d.fullName :: met) d).eval v with
      | error e => simp [hc] at h
      | ok others =>
        obtain rfl : d :: others = ds := by simpa [hc] using h
        exact Or.inr ⟨d, others, rfl, hm, hc, rfl⟩

/-- No two superclasses of a chain have the same name, and none has a name that was met. -/
theorem nodup_of_eval_chainAbove (hv : v.Within names) {bound : Nat} {met : List String}
    {c : Class} {ds : List Class} (h : (chainAbove bound met c).eval v = .ok ds) :
    (ds.map fullName).Nodup ∧ ∀ d ∈ ds, d.fullName ∉ met ∧ d.fullName ∈ names := by
  induction bound generalizing met c ds with
  | zero =>
    obtain rfl : [] = ds := by simpa [chainAbove] using h
    simp
  | succ bound ih =>
    rcases eval_chainAbove_cases h with ⟨-, rfl⟩ | ⟨d, others, hs, hm, hc, rfl⟩
    · simp
    · obtain ⟨hnodup, hmem⟩ := ih hc
      refine ⟨List.nodup_cons.mpr ⟨?_, hnodup⟩, ?_⟩
      · intro hd
        obtain ⟨d', hd', he⟩ := List.mem_map.mp hd
        exact (hmem d' hd').1 (he ▸ List.mem_cons_self)
      · intro x hx
        rcases List.mem_cons.mp hx with rfl | hx
        · exact ⟨hm, fullName_mem_of_eval_superclassClass hv hs⟩
        · exact ⟨fun hx' => (hmem x hx).1 (List.mem_cons_of_mem _ hx'), (hmem x hx).2⟩

theorem unmet_spec (met : List String) (cs : List Class) :
    ((unmet met cs).map fullName).Nodup ∧
      ∀ d ∈ unmet met cs, d ∈ cs ∧ d.fullName ∉ met := by
  induction cs generalizing met with
  | nil => simp [unmet]
  | cons c cs ih =>
    rw [unmet]
    split
    · obtain ⟨hnodup, hmem⟩ := ih met
      exact ⟨hnodup, fun d hd => ⟨List.mem_cons_of_mem c (hmem d hd).1, (hmem d hd).2⟩⟩
    · next hc =>
      obtain ⟨hnodup, hmem⟩ := ih (c.fullName :: met)
      refine ⟨List.nodup_cons.mpr ⟨?_, hnodup⟩, ?_⟩
      · intro hd
        obtain ⟨d, hd, he⟩ := List.mem_map.mp hd
        exact (hmem d hd).2 (he ▸ List.mem_cons_self)
      · intro d hd
        rcases List.mem_cons.mp hd with rfl | hd
        · exact ⟨List.mem_cons_self, by simpa using hc⟩
        · obtain ⟨hin, hout⟩ := hmem d hd
          exact ⟨List.mem_cons_of_mem c hin, fun hx => hout (List.mem_cons_of_mem _ hx)⟩

/-- Of every name that was not met, the first class is taken. -/
theorem fullName_mem_unmet (met : List String) {cs : List Class} {d : Class} (hd : d ∈ cs) :
    d.fullName ∈ met ∨ d.fullName ∈ (unmet met cs).map fullName := by
  induction cs generalizing met with
  | nil => simp at hd
  | cons c cs ih =>
    rw [unmet]
    split
    · next hc =>
      rcases List.mem_cons.mp hd with rfl | hd
      · exact Or.inl (by simpa using hc)
      · exact ih met hd
    · rcases List.mem_cons.mp hd with rfl | hd
      · exact Or.inr List.mem_cons_self
      · rcases ih (c.fullName :: met) hd with h | h
        · rcases List.mem_cons.mp h with h | h
          · exact Or.inr (by simp [h])
          · exact Or.inl h
        · exact Or.inr (List.mem_cons_of_mem _ h)

/-- Entering some classes of different new names leaves at least so many names fewer. -/
theorem card_unmetNames_append {entered more : List String} {fresh : List Class}
    (hnodup : (fresh.map fullName).Nodup) (hmem : ∀ d ∈ fresh, d.fullName ∈ names)
    (hnew : ∀ d ∈ fresh, d.fullName ∉ entered) (hmore : ∀ d ∈ fresh, d.fullName ∈ more) :
    (unmetNames names (more ++ entered)).card + fresh.length ≤
      (unmetNames names entered).card := by
  have hcard : (fresh.map fullName).toFinset.card = fresh.length := by
    rw [List.toFinset_card_of_nodup hnodup, List.length_map]
  have hdisjoint :
      Disjoint (unmetNames names (more ++ entered)) (fresh.map fullName).toFinset := by
    rw [Finset.disjoint_left]
    intro x hx hf
    obtain ⟨d, hd, rfl⟩ := List.mem_map.mp (List.mem_toFinset.mp hf)
    simp only [unmetNames, Finset.mem_filter, List.mem_append, not_or] at hx
    exact hx.2.1 (hmore d hd)
  rw [← hcard, ← Finset.card_union_of_disjoint hdisjoint]
  apply Finset.card_le_card
  intro x hx
  simp only [unmetNames, Finset.mem_union, Finset.mem_filter, List.mem_append, not_or] at hx ⊢
  rcases hx with hx | hx
  · exact ⟨hx.1, hx.2.2⟩
  · obtain ⟨d, hd, rfl⟩ := List.mem_map.mp (List.mem_toFinset.mp hx)
    exact ⟨hmem d hd, hnew d hd⟩

/-- The classes that join the queue have new names, so that fewer are left for later. -/
theorem card_unmetNames_fresh (hv : v.Within names) {rs : List TypeRef} {ds : List Class}
    (hds : (resolveAll rs).eval v = .ok ds) (met entered : List String) :
    (unmetNames names ((unmet met ds).map fullName ++ entered)).card +
        ((unmet met ds).filter fun d => !entered.contains d.fullName).length ≤
      (unmetNames names entered).card := by
  obtain ⟨hnodup, hmem⟩ := unmet_spec met ds
  apply card_unmetNames_append
  · exact hnodup.sublist (List.filter_sublist.map fullName)
  · intro d hd
    exact fullName_mem_of_eval_resolveAll hv hds d (hmem d (List.mem_of_mem_filter hd)).1
  · intro d hd
    simpa using List.of_mem_filter hd
  · intro d hd
    exact List.mem_map_of_mem (List.mem_of_mem_filter hd)

theorem eval_interfacesFrom_succ (bound : Nat) (met entered : List String) (c : Class)
    (queue : List Class) :
    (interfacesFrom (bound + 1) met entered (c :: queue)).eval v =
      (resolveAll c.interfaces).eval v >>= fun ds =>
        (interfacesFrom bound ((unmet met ds).map fullName ++ met)
            ((unmet met ds).map fullName ++ entered)
            (queue ++ (unmet met ds).filter fun d => !entered.contains d.fullName)).eval v >>=
          fun more => .ok (unmet met ds ++ more) := by
  rw [interfacesFrom, Query.eval_bind]
  congr 1
  funext ds
  rw [Query.eval_bind]
  rfl

/-- What holds of every search for interfaces with an answer: it is over, or it takes up the first
class of the queue, and the known interfaces of that class that were not entered join the queue. -/
theorem interfacesFrom_induct
    {motive : Nat → List String → List String → List Class → List Class → Prop}
    (stop : ∀ bound met entered queue, bound = 0 ∨ queue = [] → motive bound met entered queue [])
    (take : ∀ bound met entered c queue found more,
      (resolveAll c.interfaces).eval v = .ok found →
      (interfacesFrom bound ((unmet met found).map fullName ++ met)
        ((unmet met found).map fullName ++ entered)
        (queue ++ (unmet met found).filter fun d => !entered.contains d.fullName)).eval v =
          .ok more →
      motive bound ((unmet met found).map fullName ++ met)
        ((unmet met found).map fullName ++ entered)
        (queue ++ (unmet met found).filter fun d => !entered.contains d.fullName) more →
      motive (bound + 1) met entered (c :: queue) (unmet met found ++ more))
    {bound : Nat} {met entered : List String} {queue ds : List Class}
    (h : (interfacesFrom bound met entered queue).eval v = .ok ds) :
    motive bound met entered queue ds := by
  induction bound generalizing met entered queue ds with
  | zero =>
    obtain rfl : [] = ds := by simpa [interfacesFrom] using h
    exact stop 0 met entered queue (Or.inl rfl)
  | succ bound ih =>
    cases queue with
    | nil =>
      obtain rfl : [] = ds := by simpa [interfacesFrom] using h
      exact stop (bound + 1) met entered [] (Or.inr rfl)
    | cons c queue =>
      rw [eval_interfacesFrom_succ] at h
      cases hfound : (resolveAll c.interfaces).eval v with
      | error e => simp [hfound] at h
      | ok found =>
        rw [hfound, Query.ok_bind] at h
        cases hmore : (interfacesFrom bound ((unmet met found).map fullName ++ met)
            ((unmet met found).map fullName ++ entered)
            (queue ++ (unmet met found).filter fun d => !entered.contains d.fullName)).eval v with
        | error e =>
          rw [hmore] at h
          simp at h
        | ok more =>
          rw [hmore] at h
          obtain rfl : unmet met found ++ more = ds := by simpa using h
          exact take bound met entered c queue found more hfound hmore (ih hmore)

/-- The search for interfaces is never cut short if it may take up as many classes as are in the
queue and as there are names that were not entered. -/
theorem eval_interfacesFrom_bound (hv : v.Within names) {bound bound' : Nat}
    {met entered : List String} {queue : List Class}
    (hb : (unmetNames names entered).card + queue.length ≤ bound)
    (hb' : (unmetNames names entered).card + queue.length ≤ bound') :
    (interfacesFrom bound met entered queue).eval v =
      (interfacesFrom bound' met entered queue).eval v := by
  induction bound generalizing bound' met entered queue with
  | zero =>
    obtain rfl : queue = [] := List.eq_nil_of_length_eq_zero (by omega)
    cases bound' <;> rfl
  | succ bound ih =>
    cases queue with
    | nil => cases bound' <;> rfl
    | cons c queue =>
      rw [List.length_cons] at hb hb'
      obtain ⟨n, rfl⟩ : ∃ n, bound' = n + 1 := ⟨bound' - 1, by omega⟩
      rw [eval_interfacesFrom_succ, eval_interfacesFrom_succ]
      cases hds : (resolveAll c.interfaces).eval v with
      | error e => rfl
      | ok ds =>
        simp only [Query.ok_bind]
        -- Each class that joins the queue has a name that was not entered before.
        have hleft := card_unmetNames_fresh hv hds met entered
        congr 1
        apply ih
        · rw [List.length_append]
          omega
        · rw [List.length_append]
          omega

/-! ### Whole walks -/

/-- The names of the classes that can be found and of one more class. -/
theorem within_insert (hv : v.Bounded) (c : Class) :
    ∃ names : Finset String, names.card ≤ v.reach + 1 ∧ c.fullName ∈ names ∧ v.Within names := by
  obtain ⟨names, hcard, hwithin⟩ := hv
  refine ⟨insert c.fullName names, ?_, Finset.mem_insert_self _ _, ?_⟩
  · have := Finset.card_insert_le c.fullName names
    omega
  · intro id name d hd
    exact Finset.mem_insert_of_mem (hwithin id name d hd)

/-- `isA` may be given any larger bound. -/
theorem eval_isA (hv : v.Bounded) {bound : Nat} (hb : v.reach < bound) (c : Class)
    (target : String) : (c.isA target).eval v = (anyIsA target bound [] [c]).eval v := by
  obtain ⟨names, hcard, hc, hwithin⟩ := within_insert hv c
  have hle : (unmetNames names []).card ≤ names.card := Finset.card_filter_le _ _
  have hstart : ∀ d ∈ [c], d.fullName ∈ names := by simpa using hc
  exact eval_anyIsA_bound hwithin hstart (by omega) (by omega)

/-- `superclasses` may be given any larger bound. -/
theorem eval_superclasses (hv : v.Bounded) {bound : Nat} (hb : v.reach < bound) (c : Class) :
    c.superclasses.eval v = (chainAbove bound [c.fullName] c).eval v := by
  obtain ⟨names, hcard, hwithin⟩ := hv
  have hle : (unmetNames names [c.fullName]).card ≤ names.card := Finset.card_filter_le _ _
  exact eval_chainAbove_bound hwithin (by omega) (by omega)

/-- A class and its superclasses have different names. -/
theorem nodup_of_eval_superclasses (hv : v.Within names) {c : Class} {above : List Class}
    (h : c.superclasses.eval v = .ok above) :
    ((c :: above).map fullName).Nodup ∧ ∀ d ∈ above, d.fullName ∈ names := by
  obtain ⟨hnodup, hmem⟩ := nodup_of_eval_chainAbove hv h
  refine ⟨List.nodup_cons.mpr ⟨?_, hnodup⟩, fun d hd => (hmem d hd).2⟩
  intro hc
  obtain ⟨d, hd, he⟩ := List.mem_map.mp hc
  exact (hmem d hd).1 (by simp [he])

/-- The search for interfaces starts with a bound that is large enough: the queue has classes of
different names, all of them among those that can be found. -/
theorem within_superclasses (hv : v.Bounded) {c : Class} {above : List Class}
    (h : c.superclasses.eval v = .ok above) :
    ∃ names : Finset String, v.Within names ∧
      (unmetNames names ((c :: above).map fullName)).card + (c :: above).length ≤ v.reach + 1 := by
  obtain ⟨names, hcard, hc, hwithin⟩ := within_insert hv c
  refine ⟨names, hwithin, ?_⟩
  obtain ⟨hnodup, hmem⟩ := nodup_of_eval_superclasses hwithin h
  have hleft : (unmetNames names ((c :: above).map fullName ++ [])).card + (c :: above).length ≤
      (unmetNames names []).card := by
    apply card_unmetNames_append hnodup
    · simpa using ⟨hc, hmem⟩
    · simp
    · exact fun d hd => List.mem_map_of_mem hd
  have hle : (unmetNames names []).card ≤ names.card := Finset.card_filter_le _ _
  rw [List.append_nil] at hleft
  omega

/-- `allInterfaces` may be given any larger bound. -/
theorem eval_allInterfaces (hv : v.Bounded) {bound : Nat} (hb : v.reach < bound) (c : Class) :
    c.allInterfaces.eval v = c.superclasses.eval v >>= fun above =>
      (interfacesFrom bound [c.fullName] ((c :: above).map fullName) (c :: above)).eval v := by
  rw [allInterfaces, Query.eval_bind]
  cases habove : c.superclasses.eval v with
  | error e => rfl
  | ok above =>
    obtain ⟨names, hwithin, hleft⟩ := within_superclasses hv habove
    exact eval_interfacesFrom_bound hwithin (by omega) (by omega)

end Class

end JavaAtlas
