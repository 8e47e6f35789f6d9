import JavaAtlas.Proofs.History
import JavaAtlas.Proofs.Outside
import JavaAtlas.Proofs.Walk
import Mathlib.Logic.Relation

/-! Subtypes. A class is a subtype of whatever a chain of declared supertypes leads to, and of the
root if the chain leads to a class that declares no superclass. The walk of `isA` decides this, also
where supertypes lead in a circle: it keeps the names of the classes it has entered, and the classes
it can find are told apart by their names. -/

namespace JavaAtlas

/-- What references point at. -/
abbrev Pointing : Type := TypeRef → Except EntryError (Option Class)

/-- A class declares a supertype: an interface, or a superclass unless it is an interface itself. -/
inductive Above (points : Pointing) (c : Class) : Class → Prop
  | interface {r : TypeRef} {d : Class} :
      r ∈ c.interfaces → points r = .ok (some d) → Above points c d
  | superclass {r : TypeRef} {d : Class} :
      c.isInterface = false → c.superclass? = some r → points r = .ok (some d) → Above points c d

/-- The chain of supertypes may end here: at a class of the name, or for the root at a class that is
no interface and declares no superclass. -/
def Ends (target : String) (d : Class) : Prop :=
  d.fullName = target ∨
    target = Class.rootName ∧ d.isInterface = false ∧ d.superclass? = none

/-- A chain of declared supertypes leads from the class to the target. -/
def IsSubtype (points : Pointing) (c : Class) (target : String) : Prop :=
  ∃ d, Relation.ReflTransGen (Above points) c d ∧ Ends target d

/-- What references point at in a view. -/
def View.points (v : View) : Pointing := fun r => r.class?.eval v

variable {v : View} {target : String}

theorem above_iff {points : Pointing} {c d : Class} :
    Above points c d ↔ ∃ r ∈ c.supertypeRefs, points r = .ok (some d) := by
  constructor
  · rintro (⟨hr, hd⟩ | ⟨hi, hr, hd⟩)
    · exact ⟨_, List.mem_append_left _ hr, hd⟩
    · refine ⟨_, List.mem_append_right _ ?_, hd⟩
      simp [hi, hr]
  · rintro ⟨r, hr, hd⟩
    rcases List.mem_append.mp hr with hr | hr
    · exact .interface hr hd
    · split at hr
      · simp at hr
      · next hi => exact .superclass (by simpa using hi) (by simpa using hr) hd

theorem mem_of_eval_supertypes {c : Class} {ds : List Class}
    (h : c.supertypes.eval v = .ok ds) (d : Class) : d ∈ ds ↔ Above v.points c d :=
  (Class.mem_of_eval_resolveAll h d).trans above_iff.symm

theorem isRooted_iff {c : Class} :
    c.isRooted = true ↔ c.isInterface = false ∧ c.superclass? = none := by
  simp [Class.isRooted, Class.superclass?]

theorem ends_iff {d : Class} :
    Ends target d ↔ d.fullName = target ∨ d.isRooted = true ∧ target = Class.rootName := by
  rw [Ends, isRooted_iff, and_comm]

/-- A class above another is one that a registry finds. -/
theorem find_of_above {c d : Class} (h : Above v.points c d) :
    ∃ id name, v.find id name = .ok (some d) := by
  obtain ⟨r, -, hr⟩ := above_iff.mp h
  obtain ⟨id, name, hfind, -⟩ := TypeRef.find_of_eval_class? hr
  exact ⟨id, name, hfind⟩

/-! ### The walk finds only supertypes -/

theorem isSubtype_of_eval_anyIsA {bound : Nat} {met : List String} {stack : List Class}
    (h : (Class.anyIsA target bound met stack).eval v = .ok true) :
    ∃ c ∈ stack, IsSubtype v.points c target := by
  induction bound, met, stack using Class.anyIsA_induct target with
  | empty bound met =>
    rw [Class.anyIsA] at h
    simp at h
  | found bound met c rest ht => exact ⟨c, List.mem_cons_self, c, .refl, Or.inl ht⟩
  | skip bound met c rest ht hm ih =>
    rw [Class.anyIsA_met ht hm] at h
    obtain ⟨d, hd, hsub⟩ := ih h
    exact ⟨d, List.mem_cons_of_mem c hd, hsub⟩
  | stop met c rest ht hm =>
    rw [Class.anyIsA_zero ht hm] at h
    simp at h
  | root bound met c rest ht hm hr htarget =>
    exact ⟨c, List.mem_cons_self, c, .refl, ends_iff.mpr (Or.inr ⟨hr, htarget⟩)⟩
  | enter bound met c rest ht hm hr ih =>
    rw [Class.anyIsA_enter ht hm hr, Query.eval_bind] at h
    cases ha : c.supertypes.eval v with
    | error e => simp [ha] at h
    | ok above =>
      rw [ha, Query.ok_bind] at h
      obtain ⟨d, hd, hsub⟩ := ih above h
      rcases List.mem_append.mp hd with hd | hd
      · obtain ⟨x, hx, hend⟩ := hsub
        have habove := (mem_of_eval_supertypes ha d).mp hd
        exact ⟨c, List.mem_cons_self, x, .head habove hx, hend⟩
      · exact ⟨d, List.mem_cons_of_mem c hd, hsub⟩

/-! ### The walk finds all supertypes -/

/-- The classes that were met are no ends, and what is above them was met or is still to come. The
classes meant are those of a kind that are told apart by their names. -/
def Explored (v : View) (target : String) (known : Class → Prop) (met : List String)
    (stack : List Class) : Prop :=
  ∀ c, known c → c.fullName ∈ met →
    ¬Ends target c ∧ ∀ d, Above v.points c d → d.fullName ∈ met ∨ d ∈ stack

variable {known : Class → Prop} {names : Finset String}

/-- A class on the stack that was met needs no second look. -/
theorem Explored.skip {met : List String} {c : Class} {rest : List Class}
    (h : Explored v target known met (c :: rest)) (hm : c.fullName ∈ met) :
    Explored v target known met rest := by
  intro x hx hxm
  refine ⟨(h x hx hxm).1, fun d hd => ?_⟩
  rcases (h x hx hxm).2 d hd with hd | hd
  · exact Or.inl hd
  · rcases List.mem_cons.mp hd with rfl | hd
    · exact Or.inl hm
    · exact Or.inr hd

/-- Entering a class puts what is above it on the stack. -/
theorem Explored.enter (hsame : ∀ c d, known c → known d → c.fullName = d.fullName → c = d)
    {met : List String} {c : Class} {above rest : List Class}
    (h : Explored v target known met (c :: rest)) (hc : known c) (hend : ¬Ends target c)
    (ha : c.supertypes.eval v = .ok above) :
    Explored v target known (c.fullName :: met) (above ++ rest) := by
  intro x hx hxm
  rcases List.mem_cons.mp hxm with hxm | hxm
  · obtain rfl := hsame x c hx hc hxm
    refine ⟨hend, fun d hd => Or.inr (List.mem_append_left rest ?_)⟩
    exact (mem_of_eval_supertypes ha d).mpr hd
  · refine ⟨(h x hx hxm).1, fun d hd => ?_⟩
    rcases (h x hx hxm).2 d hd with hd | hd
    · exact Or.inl (List.mem_cons_of_mem _ hd)
    · rcases List.mem_cons.mp hd with rfl | hd
      · exact Or.inl List.mem_cons_self
      · exact Or.inr (List.mem_append_right above hd)

/-- A walk that finds nothing has met everything above the stack, and no end. -/
theorem explored_of_eval_anyIsA (hv : v.Within names)
    (hknown : ∀ id name c, v.find id name = .ok (some c) → known c)
    (hsame : ∀ c d, known c → known d → c.fullName = d.fullName → c = d)
    {bound : Nat} {met : List String} {stack : List Class}
    (hstack : ∀ c ∈ stack, c.fullName ∈ names ∧ known c)
    (hb : (Class.unmetNames names met).card ≤ bound) (hmet : Explored v target known met stack)
    (h : (Class.anyIsA target bound met stack).eval v = .ok false) :
    ∃ done : List String, met ⊆ done ∧ (∀ c ∈ stack, c.fullName ∈ done) ∧
      Explored v target known done [] := by
  induction bound, met, stack using Class.anyIsA_induct target with
  | empty bound met => exact ⟨met, List.Subset.refl met, by simp, hmet⟩
  | found bound met c rest ht =>
    rw [Class.anyIsA_target ht] at h
    simp at h
  | skip bound met c rest ht hm ih =>
    rw [Class.anyIsA_met ht hm] at h
    obtain ⟨done, hsub, hrest, hdone⟩ :=
      ih (fun d hd => hstack d (List.mem_cons_of_mem c hd)) hb (hmet.skip hm) h
    refine ⟨done, hsub, ?_, hdone⟩
    intro d hd
    rcases List.mem_cons.mp hd with rfl | hd
    · exact hsub hm
    · exact hrest d hd
  | stop met c rest ht hm =>
    -- The bound counts the names that were not met, and this is one of them.
    have := Class.card_unmetNames_cons (hstack c List.mem_cons_self).1 hm
    omega
  | root bound met c rest ht hm hr htarget =>
    rw [Class.anyIsA_root ht hm hr htarget] at h
    simp at h
  | enter bound met c rest ht hm hr ih =>
    obtain ⟨hcn, hck⟩ := hstack c List.mem_cons_self
    have hless := Class.card_unmetNames_cons hcn hm
    have hend : ¬Ends target c := by
      rw [ends_iff, not_or]
      exact ⟨ht, hr⟩
    rw [Class.anyIsA_enter ht hm hr, Query.eval_bind] at h
    cases ha : c.supertypes.eval v with
    | error e => simp [ha] at h
    | ok above =>
      rw [ha, Query.ok_bind] at h
      -- What stands above was found by its name, so that name is one of those counted.
      have hstack' : ∀ d ∈ above ++ rest, d.fullName ∈ names ∧ known d := by
        intro d hd
        rcases List.mem_append.mp hd with hd | hd
        · obtain ⟨id, name, hfind⟩ := find_of_above ((mem_of_eval_supertypes ha d).mp hd)
          exact ⟨hv id name d hfind, hknown id name d hfind⟩
        · exact hstack d (List.mem_cons_of_mem c hd)
      obtain ⟨done, hsub, hrest, hdone⟩ :=
        ih above hstack' (by omega) (hmet.enter hsame hck hend ha) h
      refine ⟨done, fun x hx => hsub (List.mem_cons_of_mem _ hx), ?_, hdone⟩
      intro d hd
      rcases List.mem_cons.mp hd with rfl | hd
      · exact hsub List.mem_cons_self
      · exact hrest d (List.mem_append_right above hd)

/-- From a class among fully explored ones no chain leads to the target. -/
theorem not_isSubtype_of_explored
    (hknown : ∀ id name c, v.find id name = .ok (some c) → known c) {done : List String}
    (hdone : Explored v target known done []) {c : Class} (hc : known c)
    (hmem : c.fullName ∈ done) : ¬IsSubtype v.points c target := by
  rintro ⟨d, hchain, hend⟩
  have hd : known d ∧ d.fullName ∈ done := by
    clear hend
    induction hchain with
    | refl => exact ⟨hc, hmem⟩
    | tail _ habove ih =>
      obtain ⟨id, name, hfind⟩ := find_of_above habove
      refine ⟨hknown id name _ hfind, ?_⟩
      simpa using (hdone _ ih.1 ih.2).2 _ habove
  exact (hdone d hd.1 hd.2).1 hend

/-- Where classes are told apart by their names, `isA` decides whether one is a subtype. -/
theorem eval_isA_iff (hv : v.Bounded)
    (hknown : ∀ id name c, v.find id name = .ok (some c) → known c)
    (hsame : ∀ c d, known c → known d → c.fullName = d.fullName → c = d) {c : Class}
    (hc : known c) {b : Bool} (h : (c.isA target).eval v = .ok b) :
    b = true ↔ IsSubtype v.points c target := by
  cases b with
  | true =>
    obtain ⟨d, hd, hsub⟩ := isSubtype_of_eval_anyIsA h
    obtain rfl : d = c := by simpa using hd
    simpa using hsub
  | false =>
    obtain ⟨names, hcard, hcn, hwithin⟩ := Class.within_insert hv c
    have hle : (Class.unmetNames names []).card ≤ names.card := Finset.card_filter_le _ _
    have hstart : Explored v target known [] [c] := by
      intro x _ hx
      simp at hx
    obtain ⟨done, -, hdone, hexplored⟩ := explored_of_eval_anyIsA hwithin hknown hsame
      (by simpa using ⟨hcn, hc⟩) (by omega) hstart h
    have hnot := not_isSubtype_of_explored hknown hexplored hc (hdone c (by simp))
    simpa using hnot

namespace History

/-- What references point at in a workspace. -/
def pointsIn (w : Workspace) : Pointing := fun r => (w.run r.class?).1

theorem pointsIn_after (tool : Tool) (grammar : Value) (steps : List Step) :
    pointsIn (after tool grammar steps) =
      (plain tool grammar (units steps) (resolvers steps)).view.points := by
  funext r
  exact run_after tool grammar steps r.class?

/-- A look-up of a plain workspace that finds a class is one in its only registry. -/
theorem lookup_of_plain_find {tool : Tool} {grammar : Value} {us : List SourceUnit}
    {rs : List Resolver} {id : RegistryId} {name : String} {c : Class}
    (h : (plain tool grammar us rs).view.find id name = .ok (some c)) :
    lookup tool main (us.flatMap SourceUnit.classes) rs name = .ok (some c) := by
  by_cases hid : id = main
  · rw [hid, plain_find] at h
    exact h
  · rw [plain_find_of_ne hid] at h
    simp at h

/-- The class is found under its own name. -/
def IsOwn (tool : Tool) (us : List SourceUnit) (rs : List Resolver) (c : Class) : Prop :=
  lookup tool main (us.flatMap SourceUnit.classes) rs c.fullName = .ok (some c)

/-- Classes that are found under their own names are told apart by these. -/
theorem IsOwn.eq_of_fullName_eq {tool : Tool} {us : List SourceUnit} {rs : List Resolver}
    {c d : Class} (hc : IsOwn tool us rs c) (hd : IsOwn tool us rs d)
    (hname : c.fullName = d.fullName) : c = d := by
  simp only [IsOwn] at hc hd
  rw [hname, hd] at hc
  simpa using hc.symm

/-- If no resolver knows names with a dot in front, everything that is found has the name it was
looked up by. -/
theorem isOwn_of_undotted {tool : Tool} {grammar : Value} {us : List SourceUnit}
    {rs : List Resolver} (hundotted : ∀ r ∈ rs, r.Undotted tool) {id : RegistryId}
    {name : String} {c : Class}
    (h : (plain tool grammar us rs).view.find id name = .ok (some c)) : IsOwn tool us rs c := by
  have hlookup := lookup_of_plain_find h
  rw [IsOwn, fullName_of_lookup hundotted hlookup]
  exact hlookup

theorem isOwn_of_plain_find {tool : Tool} {grammar : Value} {us : List SourceUnit}
    {rs : List Resolver} (hcatalogs : ∀ r ∈ rs, r.isCatalog = true) {id : RegistryId}
    {name : String} {c : Class}
    (h : (plain tool grammar us rs).view.find id name = .ok (some c)) : IsOwn tool us rs c :=
  isOwn_of_undotted (fun r hr => Resolver.undotted_of_isCatalog (hcatalogs r hr) tool) h

theorem bounded_after (tool : Tool) (grammar : Value) (steps : List Step) :
    (plain tool grammar (units steps) (resolvers steps)).view.Bounded := by
  rw [← view_after]
  exact (faithful_after tool grammar steps).bounded

theorem reach_after (tool : Tool) (grammar : Value) (steps : List Step) :
    (after tool grammar steps).reach =
      (plain tool grammar (units steps) (resolvers steps)).view.reach := by
  rw [← view_after]
  rfl

/-- Every question has an answer if no resolver fails. -/
theorem exists_eval_of_isTotal {α : Type} {tool : Tool} {grammar : Value}
    {us : List SourceUnit} {rs : List Resolver} (htotal : ∀ r ∈ rs, r.isTotal = true) (q : Query α) :
    ∃ a, q.eval (plain tool grammar us rs).view = .ok a := by
  refine Query.exists_eval (fun id name => ?_) q
  by_cases hid : id = main
  · rw [hid, plain_find]
    exact exists_lookup_of_isTotal htotal name
  · exact ⟨none, plain_find_of_ne hid name⟩

/-- With catalogs behind the sources, `isA` says of a class that the registry has under its name
exactly whether it is a subtype. It has an answer if the entries of the catalogs are complete, and
the walk ends by itself: a larger bound on its length changes nothing. -/
theorem isA_iff_isSubtype (tool : Tool) (grammar : Value) (steps : List Step)
    (hcatalogs : ∀ r ∈ resolvers steps, r.isCatalog = true) (c : Class)
    (hc : ((after tool grammar steps).run (.classNamed main c.fullName)).1 = .ok (some c))
    (target : String) :
    (∀ b, ((after tool grammar steps).run (c.isA target)).1 = .ok b →
      (b = true ↔ IsSubtype (pointsIn (after tool grammar steps)) c target)) ∧
    ((∀ r ∈ resolvers steps, r.isComplete = true) →
      ∃ b, ((after tool grammar steps).run (c.isA target)).1 = .ok b) ∧
    ∀ bound, (after tool grammar steps).reach < bound →
      ((after tool grammar steps).run (Class.anyIsA target bound [] [c])).1 =
        ((after tool grammar steps).run (c.isA target)).1 := by
  have hreach : (after tool grammar steps).reach =
      (plain tool grammar (units steps) (resolvers steps)).view.reach := by
    rw [← view_after]
    rfl
  have hbounded := bounded_after tool grammar steps
  simp only [run_after, pointsIn_after, hreach] at hc ⊢
  refine ⟨fun b hb => ?_, fun hcomplete => ?_, fun bound hbound => ?_⟩
  · rw [Query.eval_classNamed, plain_find] at hc
    exact eval_isA_iff hbounded (fun _ _ _ hd => isOwn_of_plain_find hcatalogs hd)
      (fun _ _ hd he hname => hd.eq_of_fullName_eq he hname) hc hb
  · refine Query.exists_eval (fun id name => ?_) _
    by_cases hid : id = main
    · rw [hid, plain_find]
      exact exists_lookup hcomplete name
    · exact ⟨none, plain_find_of_ne hid name⟩
  · exact (Class.eval_isA hbounded hbound c target).symm

theorem isA_iff_isSubtype_circle :
    (∀ r ∈ resolvers circle, r.isCatalog = true ∧ r.isComplete = true) ∧
      ((after {} .null circle).run (.classNamed main "p.A")).1 =
        .ok (some (circleUnit.top 0 circleDecl)) ∧
      ((after {} .null circle).run ((circleUnit.top 0 circleDecl).isA "q.I")).1 = .ok true := by
  have hc : ((after {} .null circle).run
      (.classNamed main (circleUnit.top 0 circleDecl).fullName)).1 =
        .ok (some (circleUnit.top 0 circleDecl)) := rfl
  obtain ⟨hiff, hanswer, -⟩ := isA_iff_isSubtype {} .null circle (by decide) _ hc "q.I"
  obtain ⟨b, hb⟩ := hanswer (by decide)
  have hchain :
      IsSubtype (pointsIn (after {} .null circle)) (circleUnit.top 0 circleDecl) "q.I" :=
    ⟨_, .tail (.single (.superclass rfl rfl rfl))
      (.interface (List.mem_singleton.mpr rfl) rfl), Or.inl rfl⟩
  obtain rfl : b = true := (hiff b hb).mpr hchain
  exact ⟨by decide, hc, hb⟩

end History

end JavaAtlas
