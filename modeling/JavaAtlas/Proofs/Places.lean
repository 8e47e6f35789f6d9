import JavaAtlas.Resolution

/-! Classes at their places in a unit. The classes of a unit are its top-level classes and the
members of its classes, and nothing else: `SourceUnit.classes_induct`. So the classes around a class
of the unit are classes of the unit, and so is every class that a simple name can mean there:
`Resolution.mem_classes_of_inScope?`. -/

namespace JavaAtlas

namespace Class

/-! ### Trees -/

theorem self_mem_treeOf (c : Class) (d : TypeDecl) : { c with decl := d } ∈ c.treeOf d := by
  obtain ⟨_, _, _, _, _, _, _, nested, _⟩ := d
  rw [treeOf]
  exact List.mem_cons_self

theorem mem_treesOf_of_getElem? (c : Class) (position : Nat) {i : Nat} {ds : List TypeDecl}
    {d : TypeDecl} (h : ds[i]? = some d) :
    { c with path := c.path ++ [position + i], decl := d } ∈ c.treesOf position ds := by
  induction ds generalizing position i with
  | nil => simp at h
  | cons e ds ih =>
    rw [treesOf]
    cases i with
    | zero =>
      obtain rfl : e = d := by simpa using h
      exact List.mem_append_left _ (self_mem_treeOf { c with path := c.path ++ [position] } e)
    | succ i =>
      have hlater := ih (position + 1) (i := i) (by simpa using h)
      rw [show position + 1 + i = position + (i + 1) by omega] at hlater
      exact List.mem_append_right _ hlater

theorem mem_members_iff {c m : Class} :
    m ∈ c.members ↔ ∃ i d, c.decl.nested[i]? = some d ∧ m = c.member i d := by
  rw [members, List.mem_mapIdx]
  constructor
  · rintro ⟨i, hi, rfl⟩
    exact ⟨i, _, List.getElem?_eq_getElem hi, rfl⟩
  · rintro ⟨i, d, hd, rfl⟩
    obtain ⟨hi, rfl⟩ := List.getElem?_eq_some_iff.mp hd
    exact ⟨i, hi, rfl⟩

mutual

/-- With a class, its members are in a tree. -/
theorem member_mem_treeOf {c x : Class} {d : TypeDecl} (h : x ∈ c.treeOf d) {m : Class}
    (hm : m ∈ x.members) : m ∈ c.treeOf d := by
  match d with
  | { nested, .. } =>
    rw [treeOf] at h ⊢
    refine List.mem_cons_of_mem _ ?_
    rcases List.mem_cons.mp h with rfl | h
    · obtain ⟨i, e, he, rfl⟩ := mem_members_iff.mp hm
      have hroot (c : Class) : { c with path := c.path ++ [i], decl := e } ∈ c.treesOf 0 nested := by
        have hi := mem_treesOf_of_getElem? c 0 he
        rwa [Nat.zero_add] at hi
      exact hroot _
    · exact (member_mem_treesOf h hm :)

theorem member_mem_treesOf {c x : Class} {position : Nat} {ds : List TypeDecl}
    (h : x ∈ c.treesOf position ds) {m : Class} (hm : m ∈ x.members) :
    m ∈ c.treesOf position ds := by
  match ds with
  | [] => simp [treesOf] at h
  | d :: ds =>
    rw [treesOf] at h ⊢
    rcases List.mem_append.mp h with h | h
    · exact List.mem_append_left _ (member_mem_treeOf h hm)
    · exact List.mem_append_right _ (member_mem_treesOf h hm)

end

section Induction

variable {motive : Class → Prop}

mutual

/-- What passes from a class to its members holds in a whole tree if it holds at its top. -/
theorem treeOf_induct
    (member : ∀ c i d, c.decl.nested[i]? = some d → motive c → motive (c.member i d))
    {c x : Class} {d : TypeDecl} (top : motive { c with decl := d }) (h : x ∈ c.treeOf d) :
    motive x := by
  match d with
  | { nested, .. } =>
    rw [treeOf] at h
    rcases List.mem_cons.mp h with rfl | h
    · exact top
    · refine (treesOf_induct member (fun i e he => ?_) h :)
      rw [Nat.zero_add]
      exact member _ i e he top

theorem treesOf_induct
    (member : ∀ c i d, c.decl.nested[i]? = some d → motive c → motive (c.member i d))
    {c x : Class} {position : Nat} {ds : List TypeDecl}
    (tops : ∀ i d, ds[i]? = some d →
      motive { c with path := c.path ++ [position + i], decl := d })
    (h : x ∈ c.treesOf position ds) : motive x := by
  match ds with
  | [] => simp [treesOf] at h
  | d :: ds =>
    rw [treesOf] at h
    rcases List.mem_append.mp h with h | h
    · exact (treeOf_induct member (tops 0 d rfl) h :)
    · refine treesOf_induct member (fun i e he => ?_) h
      rw [show position + 1 + i = position + (i + 1) by omega]
      exact tops (i + 1) e he

end

end Induction

/-! ### Scopes -/

theorem scopesFrom_outer (c : Class) (outer outer' : List TypeDecl) :
    scopesFrom { c with outer := outer' } outer = scopesFrom c outer := by
  induction outer generalizing c with
  | nil => rfl
  | cons d outer ih =>
    rw [scopesFrom, scopesFrom]
    congr 1
    exact ih { c with path := c.path.dropLast, decl := d }

/-- Around a member stand its class and what stands around that. -/
theorem scopes_member (c : Class) (i : Nat) (d : TypeDecl) :
    (c.member i d).scopes = c.member i d :: c.scopes := by
  have hpath : (c.path ++ [i]).dropLast = c.path := by simp
  simp only [scopes, member, scopesFrom, hpath]
  congr 1
  exact scopesFrom_outer c c.outer (c.decl :: c.outer)

end Class

namespace SourceUnit

variable {u : SourceUnit} {c : Class}

theorem mem_tops_iff : c ∈ u.tops ↔ ∃ i d, u.types[i]? = some d ∧ c = u.top i d := by
  rw [tops, List.mem_mapIdx]
  constructor
  · rintro ⟨i, hi, rfl⟩
    exact ⟨i, _, List.getElem?_eq_getElem hi, rfl⟩
  · rintro ⟨i, d, hd, rfl⟩
    obtain ⟨hi, rfl⟩ := List.getElem?_eq_some_iff.mp hd
    exact ⟨i, hi, rfl⟩

/-- What holds of the top-level classes of a unit and passes from a class to its members holds of
all classes of the unit. -/
theorem classes_induct {motive : Class → Prop}
    (top : ∀ i d, u.types[i]? = some d → motive (u.top i d))
    (member : ∀ c i d, c.decl.nested[i]? = some d → motive c → motive (c.member i d))
    (hc : c ∈ u.classes) : motive c := by
  obtain ⟨t, ht, hc⟩ := List.mem_flatMap.mp hc
  obtain ⟨i, d, hd, rfl⟩ := mem_tops_iff.mp ht
  exact Class.treeOf_induct member (top i d hd) hc

theorem mem_classes_of_mem_tops (hc : c ∈ u.tops) : c ∈ u.classes :=
  List.mem_flatMap.mpr ⟨c, hc, Class.self_mem_treeOf c c.decl⟩

theorem mem_classes_of_mem_members (hc : c ∈ u.classes) {m : Class} (hm : m ∈ c.members) :
    m ∈ u.classes := by
  obtain ⟨t, ht, hc⟩ := List.mem_flatMap.mp hc
  exact List.mem_flatMap.mpr ⟨t, ht, Class.member_mem_treeOf hc hm⟩

theorem unit_of_mem_classes (hc : c ∈ u.classes) : c.unit = some u := by
  refine classes_induct (motive := fun c => c.unit = some u) ?_ ?_ hc
  · intro i d _
    rfl
  · intro c i d _ ih
    exact ih

theorem mem_classes_of_mem_scopes (hc : c ∈ u.classes) {s : Class} (hs : s ∈ c.scopes) :
    s ∈ u.classes := by
  suffices c ∈ u.classes ∧ ∀ s ∈ c.scopes, s ∈ u.classes from this.2 s hs
  refine classes_induct (motive := fun c => c ∈ u.classes ∧ ∀ s ∈ c.scopes, s ∈ u.classes)
    ?_ ?_ hc
  · intro i d hd
    have htop := mem_classes_of_mem_tops (mem_tops_iff.mpr ⟨i, d, hd, rfl⟩)
    refine ⟨htop, fun s hs => ?_⟩
    obtain rfl : s = u.top i d := by simpa [Class.scopes, Class.scopesFrom, top] using hs
    exact htop
  · intro c i d hd ih
    have hmember : c.member i d ∈ u.classes :=
      mem_classes_of_mem_members ih.1 (Class.mem_members_iff.mpr ⟨i, d, hd, rfl⟩)
    refine ⟨hmember, fun s hs => ?_⟩
    rw [Class.scopes_member] at hs
    rcases List.mem_cons.mp hs with rfl | hs
    · exact hmember
    · exact ih.2 s hs

end SourceUnit

namespace Resolution

theorem mem_of_visibleAt {head : String} {c m : Class} (h : visibleAt head c = some m) :
    m = c ∨ m ∈ c.members := by
  rw [visibleAt] at h
  split at h
  · next m' hm' =>
    obtain rfl : m' = m := Option.some.inj h
    exact Or.inr (List.mem_of_find?_eq_some hm')
  · split at h
    · exact Or.inl (Option.some.inj h).symm
    · simp at h

/-- A simple name in a unit can only mean a class of the unit, as long as its scope is one. -/
theorem mem_classes_of_inScope? {head : String} {u : SourceUnit} {scope : Option Class}
    (hscope : ∀ s, scope = some s → s ∈ u.classes) {c : Class}
    (h : inScope? head u scope = some c) : c ∈ u.classes := by
  rw [inScope?] at h
  split at h
  · next c' hc' =>
    obtain rfl : c' = c := Option.some.inj h
    obtain ⟨s, hs, hvisible⟩ := List.exists_of_findSome?_eq_some hc'
    have hmem : s ∈ u.classes := by
      cases scope with
      | none => simp at hs
      | some s' => exact SourceUnit.mem_classes_of_mem_scopes (hscope s' rfl) hs
    rcases mem_of_visibleAt hvisible with rfl | hm
    · exact hmem
    · exact SourceUnit.mem_classes_of_mem_members hmem hm
  · exact SourceUnit.mem_classes_of_mem_tops (List.mem_of_find?_eq_some h)

end Resolution

end JavaAtlas
