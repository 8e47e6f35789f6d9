import JavaAtlas.Proofs.History
import JavaAtlas.Proofs.Outside

/-! What a name stands for, and how that changes. A name stands for the first of its candidates that
holds: `eval_choose_eq_some_iff`. A registry that is given more units and resolvers knows every name
that it knew before, so a candidate that holds goes on holding, and a name that stood for a candidate
stands for that one or for one before it: `History.resolve_after_more`. -/

namespace JavaAtlas

namespace Resolution

/-- The candidate at a position holds, and none before it does. -/
structure FirstAt (verdict : Candidate → Except EntryError Bool) (cs : List Candidate)
    (position : Nat) (c : Candidate) : Prop where
  getElem : cs[position]? = some c
  holds : verdict c = .ok true
  before : ∀ j < position, ∀ d, cs[j]? = some d → verdict d = .ok false

variable {now later : Candidate → Except EntryError Bool} {c d : Candidate}
  {cs : List Candidate} {i j : Nat}

theorem FirstAt.head (h : now c = .ok true) : FirstAt now (c :: cs) 0 c :=
  ⟨rfl, h, fun j hj => absurd hj (Nat.not_lt_zero j)⟩

theorem FirstAt.tail (h : FirstAt now cs i c) (hd : now d = .ok false) :
    FirstAt now (d :: cs) (i + 1) c where
  getElem := h.getElem
  holds := h.holds
  before := by
    intro j hj e he
    cases j with
    | zero =>
      obtain rfl : d = e := by simpa using he
      exact hd
    | succ j => exact h.before j (by omega) e (by simpa using he)

/-- The first candidate of a list is the first that holds, or it does not hold and the first one
that does stands among the others. -/
theorem FirstAt.cons_cases (h : FirstAt now (d :: cs) i c) :
    i = 0 ∧ c = d ∧ now d = .ok true ∨
      ∃ k, i = k + 1 ∧ now d = .ok false ∧ FirstAt now cs k c := by
  cases i with
  | zero =>
    obtain rfl : d = c := by simpa using h.getElem
    exact Or.inl ⟨rfl, rfl, h.holds⟩
  | succ k =>
    have hd := h.before 0 (by omega) d rfl
    refine Or.inr ⟨k, rfl, hd, by simpa using h.getElem, h.holds, fun j hj e he => ?_⟩
    exact h.before (j + 1) (by omega) e (by simpa using he)

/-- Where a candidate still holds, the first one that holds stands no later. -/
theorem FirstAt.le (h : FirstAt now cs i c) (hc : later c = .ok true)
    (h' : FirstAt later cs j d) : j ≤ i := by
  apply Nat.le_of_not_lt
  intro hlt
  have hfalse := h'.before i hlt c h.getElem
  rw [hc] at hfalse
  simp at hfalse

variable {v : View} {home : Option RegistryId}

theorem eval_choose_cons (v : View) (home : Option RegistryId) (c : Candidate)
    (cs : List Candidate) :
    (choose home (c :: cs)).eval v = (Resolution.holds home c).eval v >>= fun b =>
      if b then .ok (some c.name) else (choose home cs).eval v := by
  rw [choose, Query.eval_bind]
  congr 1
  funext b
  cases b <;> rfl

/-- The answer is the name of the first candidate that holds. -/
theorem eval_choose_eq_some_iff {name : String} :
    (choose home cs).eval v = .ok (some name) ↔
      ∃ i c, FirstAt (fun c => (Resolution.holds home c).eval v) cs i c ∧ c.name = name := by
  induction cs with
  | nil =>
    constructor
    · intro h
      simp [choose] at h
    · rintro ⟨i, c, h, -⟩
      simpa using h.getElem
  | cons d cs ih =>
    rw [eval_choose_cons]
    constructor
    · intro h
      rcases hd : (Resolution.holds home d).eval v with e | _ | _
      · simp [hd] at h
      · rw [hd] at h
        obtain ⟨i, c, hc, hname⟩ := ih.mp h
        exact ⟨i + 1, c, hc.tail hd, hname⟩
      · rw [hd] at h
        have hname : d.name = name := by simpa using h
        exact ⟨0, d, .head hd, hname⟩
    · rintro ⟨i, c, hc, rfl⟩
      rcases hc.cons_cases with ⟨-, rfl, hd⟩ | ⟨k, -, hd, hc⟩
      · simp [hd]
      · have hrest := ih.mpr ⟨k, c, hc, rfl⟩
        simpa [hd] using hrest

theorem eval_choose_eq_none_iff :
    (choose home cs).eval v = .ok none ↔
      ∀ c ∈ cs, (Resolution.holds home c).eval v = .ok false := by
  induction cs with
  | nil => simp [choose]
  | cons d cs ih =>
    rw [eval_choose_cons, List.forall_mem_cons]
    rcases (Resolution.holds home d).eval v with e | _ | _
    · simp
    · simpa using ih
    · simp

/-- There is an answer if no candidate fails up to one that holds. -/
theorem exists_eval_choose (hi : cs[i]? = some c)
    (hc : (Resolution.holds home c).eval v = .ok true)
    (hbefore : ∀ j < i, ∀ d, cs[j]? = some d →
      ∃ b, (Resolution.holds home d).eval v = .ok b) :
    ∃ answer, (choose home cs).eval v = .ok answer := by
  induction cs generalizing i with
  | nil => simp at hi
  | cons d cs ih =>
    rw [eval_choose_cons]
    cases i with
    | zero =>
      obtain rfl : d = c := by simpa using hi
      exact ⟨some d.name, by simp [hc]⟩
    | succ i =>
      obtain ⟨b, hb⟩ := hbefore 0 (by omega) d rfl
      cases b with
      | true => exact ⟨some d.name, by simp [hb]⟩
      | false =>
        obtain ⟨answer, hanswer⟩ := ih (i := i) (by simpa using hi) fun j hj e he =>
          hbefore (j + 1) (by omega) e (by simpa using he)
        exact ⟨answer, by simpa [hb] using hanswer⟩

theorem eval_resolve (v : View) (u : SourceUnit) (scope : Option Class) (name : String) :
    (resolve u scope name).eval v =
      (choose (v.homeOf u.key) (candidates u scope name)).eval v := by
  rw [resolve, Query.eval_bind, Query.eval_homeOf, Query.ok_bind]

/-! ### More is known -/

/-- What a candidate needs is looked up in the registry of its unit. -/
theorem eval_holds_some (v : View) (id : RegistryId) (c : Candidate) :
    (Resolution.holds (some id) c).eval v =
      if c.needs = .none then .ok true else (v.find id c.name).map Option.isSome := by
  obtain ⟨name, needs⟩ := c
  have hknown : (Query.classNamed id name >>= fun c => Query.answer c.isSome).eval v =
      (v.find id name).map Option.isSome := by
    rw [Query.eval_bind, Query.eval_classNamed]
    cases v.find id name <;> rfl
  cases needs with
  | none => rfl
  | known => exact hknown
  | notMissing => exact hknown

theorem eval_holds_none (v : View) (c : Candidate) :
    (Resolution.holds none c).eval v = .ok (c.needs != .known) := by
  obtain ⟨name, needs⟩ := c
  cases needs <;> rfl

variable {v' : View}

/-- A candidate that holds goes on holding as long as no known name gets lost. -/
theorem eval_holds_mono
    (hknown : ∀ id name c, v.find id name = .ok (some c) → ∃ d, v'.find id name = .ok (some d))
    (h : (Resolution.holds home c).eval v = .ok true) :
    (Resolution.holds home c).eval v' = .ok true := by
  cases home with
  | none =>
    rw [eval_holds_none] at h ⊢
    exact h
  | some id =>
    rw [eval_holds_some] at h ⊢
    split
    · rfl
    · next hneeds =>
      rw [if_neg hneeds] at h
      rcases hfind : v.find id c.name with e | _ | x
      · simp [hfind, Except.map] at h
      · simp [hfind, Except.map] at h
      · obtain ⟨d, hd⟩ := hknown id c.name x hfind
        simp [hd, Except.map]

theorem exists_eval_holds
    (hfound : ∀ id name c, v.find id name = .ok c → ∃ d, v'.find id name = .ok d) {b : Bool}
    (h : (Resolution.holds home c).eval v = .ok b) :
    ∃ b', (Resolution.holds home c).eval v' = .ok b' := by
  cases home with
  | none => exact ⟨_, eval_holds_none v' c⟩
  | some id =>
    rw [eval_holds_some] at h ⊢
    split
    · exact ⟨true, rfl⟩
    · next hneeds =>
      rw [if_neg hneeds] at h
      cases hfind : v.find id c.name with
      | error e => simp [hfind, Except.map] at h
      | ok x =>
        obtain ⟨d, hd⟩ := hfound id c.name x hfind
        exact ⟨d.isSome, by simp [hd, Except.map]⟩

/-- What a candidate of a unit comes to in a workspace. -/
def verdict (w : Workspace) (u : SourceUnit) (c : Candidate) : Except EntryError Bool :=
  (w.run (Query.homeOf u.key >>= fun home => Resolution.holds home c)).1

end Resolution

/-! ### Looking up among more -/

section More

variable {tool : Tool} {id : RegistryId} {cs : List Class} {rs : List Resolver} {name : String}

/-- The new classes come first, and the new resolvers last. -/
theorem lookup_append (hname : name.isEmpty = false) (more : List Class)
    (others : List Resolver) :
    lookup tool id (cs ++ more) (rs ++ others) name =
      match lastNamed more name with
      | some c => .ok (some c)
      | none =>
        match lookup tool id cs rs name with
        | .ok none => Resolver.firstAnswer tool (.outside (some id) name) name others
        | answer => answer := by
  simp only [lookup, hname, Bool.false_eq_true, if_false, lastNamed_append]
  cases lastNamed more name with
  | some c => rfl
  | none =>
    cases lastNamed cs name with
    | some c => rfl
    | none => exact Resolver.firstAnswer_append ..

theorem lookup_of_isEmpty (hname : name.isEmpty = true) : lookup tool id cs rs name = .ok none := by
  rw [lookup, if_pos hname]

/-- A name that was known is known among more. -/
theorem exists_lookup_append {c : Class} (h : lookup tool id cs rs name = .ok (some c))
    (more : List Class) (others : List Resolver) :
    ∃ d, lookup tool id (cs ++ more) (rs ++ others) name = .ok (some d) := by
  cases hname : name.isEmpty with
  | true => simp [lookup_of_isEmpty hname] at h
  | false =>
    rw [lookup_append hname, h]
    cases lastNamed more name with
    | some d => exact ⟨d, rfl⟩
    | none => exact ⟨c, rfl⟩

/-- A look-up that did not fail does not fail for new resolvers that never do. -/
theorem exists_lookup_append_of_isTotal {c : Option Class} (h : lookup tool id cs rs name = .ok c)
    (more : List Class) {others : List Resolver} (hothers : ∀ r ∈ others, r.isTotal = true) :
    ∃ d, lookup tool id (cs ++ more) (rs ++ others) name = .ok d := by
  cases hname : name.isEmpty with
  | true => exact ⟨none, lookup_of_isEmpty hname⟩
  | false =>
    rw [lookup_append hname, h]
    cases lastNamed more name with
    | some d => exact ⟨some d, rfl⟩
    | none =>
      cases c with
      | some c => exact ⟨some c, rfl⟩
      | none => exact Resolver.exists_firstAnswer hothers tool _ name

end More

namespace History

variable {tool : Tool} {grammar : Value} {us : List SourceUnit} {rs : List Resolver}

theorem verdict_after (tool : Tool) (grammar : Value) (steps : List Step) (u : SourceUnit) :
    Resolution.verdict (after tool grammar steps) u =
      fun c => (Resolution.holds
        ((plain tool grammar (units steps) (resolvers steps)).view.homeOf u.key) c).eval
          (plain tool grammar (units steps) (resolvers steps)).view := by
  funext c
  rw [Resolution.verdict, run_after, Query.eval_bind, Query.eval_homeOf, Query.ok_bind]

theorem units_append (steps more : List Step) : units (steps ++ more) = units steps ++ units more :=
  List.filterMap_append

theorem resolvers_append (steps more : List Step) :
    resolvers (steps ++ more) = resolvers steps ++ resolvers more :=
  List.filterMap_append

theorem exists_plain_find_append {id : RegistryId} {name : String} {c : Class}
    (h : (plain tool grammar us rs).view.find id name = .ok (some c)) (more : List SourceUnit)
    (others : List Resolver) :
    ∃ d, (plain tool grammar (us ++ more) (rs ++ others)).view.find id name = .ok (some d) := by
  by_cases hid : id = main
  · subst hid
    rw [plain_find] at h ⊢
    rw [List.flatMap_append]
    exact exists_lookup_append h _ others
  · rw [plain_find_of_ne hid] at h
    simp at h

theorem exists_plain_find_append_of_isTotal {id : RegistryId} {name : String}
    {c : Option Class} (h : (plain tool grammar us rs).view.find id name = .ok c)
    (more : List SourceUnit) {others : List Resolver}
    (hothers : ∀ r ∈ others, r.isTotal = true) :
    ∃ d, (plain tool grammar (us ++ more) (rs ++ others)).view.find id name = .ok d := by
  by_cases hid : id = main
  · subst hid
    rw [plain_find] at h ⊢
    rw [List.flatMap_append]
    exact exists_lookup_append_of_isTotal h _ hothers
  · exact ⟨none, plain_find_of_ne hid name⟩

/-- Once a name in a registered unit stands for a candidate, it stands for that one or for one before
it, whatever is added and asked later. Only a new resolver that fails can keep it from standing for
anything. -/
theorem resolve_after_more (tool : Tool) (grammar : Value) (steps more : List Step)
    {u : SourceUnit} (hu : u ∈ units steps) (scope : Option Class) (name : String)
    {full : String}
    (h : ((after tool grammar steps).run (Resolution.resolve u scope name)).1 = .ok (some full)) :
    ∃ i c, Resolution.FirstAt (Resolution.verdict (after tool grammar steps) u)
        (Resolution.candidates u scope name) i c ∧ c.name = full ∧
      (∀ answer, ((after tool grammar (steps ++ more)).run
          (Resolution.resolve u scope name)).1 = .ok answer →
        ∃ j d, j ≤ i ∧ answer = some d.name ∧
          Resolution.FirstAt (Resolution.verdict (after tool grammar (steps ++ more)) u)
            (Resolution.candidates u scope name) j d) ∧
      ((∀ r ∈ resolvers more, r.isTotal = true) →
        ∃ answer, ((after tool grammar (steps ++ more)).run
          (Resolution.resolve u scope name)).1 = .ok answer) := by
  simp only [run_after, Resolution.eval_resolve, verdict_after, units_append,
    resolvers_append, homeOf_plain_append hu _ (resolvers steps)] at h ⊢
  obtain ⟨i, c, hfirst, hname⟩ := Resolution.eval_choose_eq_some_iff.mp h
  have hlater := Resolution.eval_holds_mono
    (fun _ _ _ hfind => exists_plain_find_append hfind (units more) (resolvers more)) hfirst.holds
  refine ⟨i, c, hfirst, hname, fun answer hanswer => ?_, fun hmore => ?_⟩
  · cases answer with
    | none =>
      -- the candidate that held still does
      have hfalse := Resolution.eval_choose_eq_none_iff.mp hanswer c
        (List.mem_of_getElem? hfirst.getElem)
      rw [hlater] at hfalse
      simp at hfalse
    | some full' =>
      obtain ⟨j, d, hfirst', rfl⟩ := Resolution.eval_choose_eq_some_iff.mp hanswer
      exact ⟨j, d, hfirst.le hlater hfirst', rfl, hfirst'⟩
  · refine Resolution.exists_eval_choose hfirst.getElem hlater fun j hj d hd => ?_
    exact Resolution.exists_eval_holds
      (fun _ _ _ hfind => exists_plain_find_append_of_isTotal hfind (units more) hmore)
      (hfirst.before j hj d hd)

/-- A unit that sees a class through an import on demand, until its own package has one. -/
def importer : SourceUnit :=
  { key := .source 0, package := "p", imports := ["q.*"], types := [{ name := "T" }] }

def imported : List Step :=
  [.addUnit importer, .addResolver { resolver := .catalog "c" [("q.A", {})] }]

def packaged : List Step :=
  [.ask (Query.classNamed main "p.A"), .addResolver { resolver := .catalog "d" [("p.A", {})] },
    .ask (Resolution.resolve importer none "A")]

theorem resolve_after_more_imported :
    importer ∈ units imported ∧
      ((after {} .null imported).run (Resolution.resolve importer none "A")).1 =
        .ok (some "q.A") ∧
      (∀ r ∈ resolvers packaged, r.isTotal = true) ∧
      ∃ i c j d, Resolution.FirstAt (Resolution.verdict (after {} .null imported) importer)
          (Resolution.candidates importer none "A") i c ∧ c.name = "q.A" ∧ j ≤ i ∧
        Resolution.FirstAt (Resolution.verdict (after {} .null (imported ++ packaged)) importer)
          (Resolution.candidates importer none "A") j d ∧ d.name = "p.A" := by
  have hbefore : ((after {} .null imported).run (Resolution.resolve importer none "A")).1 =
      .ok (some "q.A") := rfl
  have hafter : ((after {} .null (imported ++ packaged)).run
      (Resolution.resolve importer none "A")).1 = .ok (some "p.A") := rfl
  have hmem : importer ∈ units imported := List.mem_singleton.mpr rfl
  obtain ⟨i, c, hi, hc, hlater, -⟩ :=
    resolve_after_more {} .null imported packaged hmem none "A" hbefore
  obtain ⟨j, d, hj, hd, hfirst⟩ := hlater _ hafter
  exact ⟨hmem, hbefore, by decide, i, c, j, d, hi, hc, hj, hfirst, (Option.some.inj hd).symm⟩

end History

end JavaAtlas
