import JavaAtlas.Proofs.Places
import JavaAtlas.Proofs.Precedence
import JavaAtlas.Proofs.Walk

/-! Names that stand for nothing known. A candidate of a name comes by one of six rules. By every
rule but that of single-type imports, a candidate that holds names a class that the registry has:
the others are looked up, and the classes in scope are classes of a registered unit, which stay in
the index. So a reference that is resolved and points at no class comes from such an import:
`History.import_of_dangling`. -/

namespace JavaAtlas

namespace Name

/-- The segment in front of the first dot. -/
def first (name : String) : String := (splitFirst name).1

/-- What stands behind the first segment, with its dot. A dot at the end is as good as none. -/
def rest (name : String) : String :=
  if (splitFirst name).2.isEmpty then "" else "." ++ (splitFirst name).2

theorem within_ne_empty {outer name : String} (h : name ≠ "") : within outer name ≠ "" := by
  rw [within]
  split
  · exact h
  · intro he
    have hlength := congrArg String.length he
    simp only [String.length_append, String.length_empty] at hlength
    have hdot : ".".length = 1 := rfl
    omega

end Name

theorem Class.fullName_ne_empty {c : Class} (h : c.name ≠ "") : c.fullName ≠ "" := by
  rw [fullName]
  cases c.outer with
  | nil => exact Name.within_ne_empty h
  | cons d outer =>
    intro he
    have hlength := congrArg String.length he
    simp only [fullNameIn, String.length_append, String.length_empty] at hlength
    have hdot : ".".length = 1 := rfl
    omega

namespace Resolution

/-! ### Rules -/

/-- The ways in which a name can come to stand for something. -/
inductive Rule where
  | exactName
  | inScope
  | samePackage
  | singleImport
  | onDemand
  | implicit
deriving DecidableEq

/-- A rule offers a candidate for a name with the first segment `head` and the rest `suffix`. -/
inductive Offers (u : SourceUnit) (scope : Option Class) (head suffix : String) :
    Rule → Candidate → Prop
  | exactName : suffix ≠ "" → Offers u scope head suffix .exactName ⟨head ++ suffix, .known⟩
  | inScope {c : Class} : inScope? head u scope = some c →
      Offers u scope head suffix .inScope
        ⟨c.fullName ++ suffix, if suffix.isEmpty then .none else .notMissing⟩
  | samePackage :
      Offers u scope head suffix .samePackage ⟨Name.within u.package head ++ suffix, .known⟩
  | singleImport {i : String} :
      (u.imports.find? fun i => !isOnDemand i && Name.last i == head) = some i →
      Offers u scope head suffix .singleImport ⟨i ++ suffix, .none⟩
  | onDemand {i : String} : i ∈ u.imports → isOnDemand i = true →
      Offers u scope head suffix .onDemand ⟨onDemandFrom i ++ "." ++ head ++ suffix, .known⟩
  | implicit :
      Offers u scope head suffix .implicit ⟨implicitPackage ++ "." ++ head ++ suffix, .known⟩

variable {u : SourceUnit} {scope : Option Class} {head suffix name : String} {c : Candidate}

/-- The candidates are what the rules offer. -/
theorem mem_candidatesFor_iff :
    c ∈ candidatesFor u scope head suffix ↔ ∃ rule, Offers u scope head suffix rule c := by
  simp only [candidatesFor, List.mem_append]
  constructor
  · rintro (((((h | h) | h) | h) | h) | h)
    · split at h
      · simp at h
      · next hs =>
        obtain rfl := List.mem_singleton.mp h
        exact ⟨.exactName, .exactName (by simpa using hs)⟩
    · obtain ⟨x, hx, rfl⟩ := List.mem_map.mp h
      exact ⟨.inScope, .inScope (Option.mem_toList.mp hx)⟩
    · obtain rfl := List.mem_singleton.mp h
      exact ⟨.samePackage, .samePackage⟩
    · obtain ⟨i, hi, rfl⟩ := List.mem_map.mp h
      exact ⟨.singleImport, .singleImport (Option.mem_toList.mp hi)⟩
    · obtain ⟨i, hi, rfl⟩ := List.mem_map.mp h
      obtain ⟨hmem, hdemand⟩ := List.mem_filter.mp hi
      exact ⟨.onDemand, .onDemand hmem hdemand⟩
    · obtain rfl := List.mem_singleton.mp h
      exact ⟨.implicit, .implicit⟩
  · rintro ⟨rule, h⟩
    cases h with
    | exactName hs => simp [hs]
    | inScope hx => simp [hx]
    | samePackage => simp
    | singleImport hi => simp [hi]
    | onDemand hmem hdemand =>
      refine Or.inl (Or.inr (List.mem_map.mpr ⟨_, List.mem_filter.mpr ⟨hmem, hdemand⟩, rfl⟩))
    | implicit => simp

theorem candidates_of_ne_empty (h : name ≠ "") :
    candidates u scope name = candidatesFor u scope (Name.first name) (Name.rest name) := by
  have he : name.isEmpty = false := by simpa using h
  rw [candidates, he]
  rfl

theorem exists_offers_of_mem_candidates (h : c ∈ candidates u scope name) :
    ∃ rule, Offers u scope (Name.first name) (Name.rest name) rule c := by
  by_cases hname : name = ""
  · simp [candidates, hname] at h
  · rw [candidates_of_ne_empty hname] at h
    exact mem_candidatesFor_iff.mp h

/-! ### What holds is known -/

variable {v : View} {id : RegistryId}

/-- A candidate that has to be looked up is found where it holds. -/
theorem exists_find_of_eval_holds (hneeds : c.needs ≠ .none)
    (h : (Resolution.holds (some id) c).eval v = .ok true) :
    ∃ d, v.find id c.name = .ok (some d) := by
  rw [eval_holds_some, if_neg hneeds] at h
  rcases hfind : v.find id c.name with e | _ | d
  · simp [hfind, Except.map] at h
  · simp [hfind, Except.map] at h
  · exact ⟨d, rfl⟩

/-- Where the classes of a unit are known, so is what any rule but that of single-type imports
offers. -/
theorem exists_find_of_offers
    (hclasses : ∀ c ∈ u.classes, ∃ d, v.find id c.fullName = .ok (some d))
    (hscope : ∀ s, scope = some s → s ∈ u.classes) {rule : Rule}
    (hoffers : Offers u scope head suffix rule c) (hrule : rule ≠ .singleImport)
    (h : (Resolution.holds (some id) c).eval v = .ok true) :
    ∃ d, v.find id c.name = .ok (some d) := by
  cases hoffers with
  | exactName => exact exists_find_of_eval_holds (by simp) h
  | inScope hx =>
    by_cases hs : suffix = ""
    · subst hs
      obtain ⟨d, hd⟩ := hclasses _ (mem_classes_of_inScope? hscope hx)
      exact ⟨d, by simpa using hd⟩
    · exact exists_find_of_eval_holds (by simp [hs]) h
  | samePackage => exact exists_find_of_eval_holds (by simp) h
  | singleImport => exact absurd rfl hrule
  | onDemand => exact exists_find_of_eval_holds (by simp) h
  | implicit => exact exists_find_of_eval_holds (by simp) h

end Resolution

namespace TypeRef

variable {v : View} {u : SourceUnit} {r : TypeRef}

/-- A resolved reference stands for the first of its candidates that holds. -/
theorem exists_firstAt_of_isResolved (howner : r.owner = some u)
    (hprimitive : r.isPrimitive = false) (h : r.isResolved.eval v = .ok true) :
    ∃ position c, Resolution.FirstAt (fun c => (Resolution.holds (v.homeOf u.key) c).eval v)
        (Resolution.candidates u r.scope r.name) position c ∧
      r.resolvedName.eval v = .ok (some c.name) := by
  have hname : r.resolvedName.eval v =
      (Resolution.choose (v.homeOf u.key)
        (Resolution.candidates u r.scope r.name)).eval v := by
    rw [resolvedName, hprimitive, howner]
    exact Resolution.eval_resolve v u r.scope r.name
  rw [isResolved, Query.eval_bind] at h
  rcases hfull : r.resolvedName.eval v with e | _ | full
  · simp [hfull] at h
  · simp [hfull] at h
  · obtain ⟨position, c, hfirst, rfl⟩ :=
      Resolution.eval_choose_eq_some_iff.mp (hname.symm.trans hfull)
    exact ⟨position, c, hfirst, rfl⟩

/-- Where a resolved reference points at no class, its registry does not know the name. -/
theorem find_of_dangling {id : RegistryId} (howner : r.owner = some u)
    (hhome : v.homeOf u.key = some id) (hdims : r.dims = 0) (hprimitive : r.isPrimitive = false)
    {full : String} (hname : r.resolvedName.eval v = .ok (some full))
    (h : r.class?.eval v = .ok none) : v.find id full = .ok none := by
  have harray : r.isArray = false := by simp [isArray, hdims]
  rw [eval_class?, harray, hprimitive, howner] at h
  simpa [hhome, hname] using h

theorem eval_fullName {full : String} (hname : r.resolvedName.eval v = .ok (some full))
    (hne : full ≠ "") : r.fullName.eval v = .ok full := by
  rw [fullName, Query.eval_bind, hname]
  simp [hne]

end TypeRef

namespace History

open Resolution (Rule Offers)

variable {tool : Tool} {grammar : Value} {us : List SourceUnit} {rs : List Resolver}

/-- The classes of a registered unit stay known, if only through others that came later. -/
theorem exists_find_of_mem_classes {u : SourceUnit} (hu : u ∈ us) {c : Class}
    (hc : c ∈ u.classes) (hname : c.name ≠ "") :
    ∃ d, (plain tool grammar us rs).view.find main c.fullName = .ok (some d) := by
  have hmem : c ∈ us.flatMap SourceUnit.classes := List.mem_flatMap.mpr ⟨u, hu, hc⟩
  have hfull : c.fullName.isEmpty = false := by
    simpa using Class.fullName_ne_empty hname
  rw [plain_find, lookup, hfull]
  cases hl : lastNamed (us.flatMap SourceUnit.classes) c.fullName with
  | some d => exact ⟨d, rfl⟩
  | none =>
    have hnone := List.find?_eq_none.mp hl c (List.mem_reverse.mpr hmem)
    simp at hnone

/-- A reference in a registered unit that is resolved and points at no class comes from a single-type
import: its name is what is imported and the rest of the written name, and the registry does not
know that name. What any other rule offers and holds is the name of a class. -/
theorem import_of_dangling (tool : Tool) (grammar : Value) (steps : List Step) {u : SourceUnit}
    (hu : u ∈ units steps) (hhomed : isHomed u = true)
    (hnames : ∀ c ∈ u.classes, c.name ≠ "") {r : TypeRef} (howner : r.owner = some u)
    (hscope : ∀ s, r.scope = some s → s ∈ u.classes) (hdims : r.dims = 0)
    (hprimitive : r.isPrimitive = false) :
    (((after tool grammar steps).run r.isResolved).1 = .ok true →
      ((after tool grammar steps).run r.class?).1 = .ok none →
      ∃ i ∈ u.imports, Resolution.isOnDemand i = false ∧ Name.last i = Name.first r.name ∧
        ((after tool grammar steps).run r.resolvedName).1 =
          .ok (some (i ++ Name.rest r.name)) ∧
        (i ++ Name.rest r.name ≠ "" →
          ((after tool grammar steps).run r.fullName).1 = .ok (i ++ Name.rest r.name)) ∧
        ((after tool grammar steps).run (.classNamed main (i ++ Name.rest r.name))).1 =
          .ok none) ∧
    ∀ rule c, Offers u r.scope (Name.first r.name) (Name.rest r.name) rule c →
      rule ≠ .singleImport → Resolution.verdict (after tool grammar steps) u c = .ok true →
      ∃ d, ((after tool grammar steps).run (.classNamed main c.name)).1 = .ok (some d) := by
  simp only [run_after, verdict_after, Query.eval_classNamed]
  generalize hv : (plain tool grammar (units steps) (resolvers steps)).view = v
  have hhome : v.homeOf u.key = some main := by
    rw [← hv]
    exact homeOf_plain hu hhomed
  have hknown : ∀ rule c, Offers u r.scope (Name.first r.name) (Name.rest r.name) rule c →
      rule ≠ .singleImport → (Resolution.holds (v.homeOf u.key) c).eval v = .ok true →
      ∃ d, v.find main c.name = .ok (some d) := by
    intro rule c hoffers hrule hc
    rw [hhome] at hc
    refine Resolution.exists_find_of_offers (fun x hx => ?_) hscope hoffers hrule hc
    rw [← hv]
    exact exists_find_of_mem_classes hu hx (hnames x hx)
  refine ⟨fun hresolved hclass => ?_, hknown⟩
  obtain ⟨position, c, hfirst, hname⟩ :=
    TypeRef.exists_firstAt_of_isResolved howner hprimitive hresolved
  have hmissing := TypeRef.find_of_dangling howner hhome hdims hprimitive hname hclass
  obtain ⟨rule, hoffers⟩ := Resolution.exists_offers_of_mem_candidates
    (List.mem_of_getElem? hfirst.getElem)
  by_cases hrule : rule = .singleImport
  · subst hrule
    cases hoffers with
    | singleImport hi =>
      have hfound := List.find?_some hi
      simp only [Bool.and_eq_true, Bool.not_eq_true', beq_iff_eq] at hfound
      exact ⟨_, List.mem_of_find?_eq_some hi, hfound.1, hfound.2, hname,
        TypeRef.eval_fullName hname, hmissing⟩
  · obtain ⟨d, hd⟩ := hknown rule c hoffers hrule hfirst.holds
    rw [hd] at hmissing
    simp at hmissing

/-- A unit with two single-type imports, the first of a type without a name. No class of either is
there. -/
def estranged : SourceUnit :=
  { key := .source 0, package := "p", imports := ["", "q.A"], types := [{ name := "T" }] }

def estrangedOnly : List Step := [.addUnit estranged]

def estrangedRef (name : String) : TypeRef := { name, owner := some estranged }

theorem import_of_dangling_member :
    estranged ∈ units estrangedOnly ∧ isHomed estranged = true ∧
      (∀ c ∈ estranged.classes, c.name ≠ "") ∧ (estrangedRef "A.B").isPrimitive = false ∧
      ((after {} .null estrangedOnly).run (estrangedRef "A.B").fullName).1 = .ok "q.A.B" ∧
      ((after {} .null estrangedOnly).run (.classNamed main "q.A.B")).1 = .ok none := by
  have hmem : estranged ∈ units estrangedOnly := List.mem_singleton.mpr rfl
  have hnames : ∀ c ∈ estranged.classes, c.name ≠ "" := by decide
  obtain ⟨hdangling, -⟩ := import_of_dangling {} .null estrangedOnly hmem rfl hnames
    (r := estrangedRef "A.B") rfl (by simp [estrangedRef]) rfl rfl
  obtain ⟨i, hi, -, hlast, -, hfull, hmissing⟩ := hdangling rfl rfl
  obtain rfl : i = "q.A" := by
    rcases List.mem_cons.mp hi with rfl | hi
    · exact absurd hlast (by decide)
    · exact List.mem_singleton.mp hi
  exact ⟨hmem, rfl, hnames, rfl, hfull (by decide), hmissing⟩

/-- The full name is not always what is imported and the further segments: a dot at the end adds
none, and where nothing would be left, the name as written stays. -/
theorem fullName_of_final_dot :
    (estranged ∈ units estrangedOnly ∧ isHomed estranged = true ∧
      (∀ c ∈ estranged.classes, c.name ≠ "") ∧
      ∀ name ∈ [".", "A."], (estrangedRef name).isPrimitive = false ∧
        ((after {} .null estrangedOnly).run (estrangedRef name).isResolved).1 = .ok true ∧
        ((after {} .null estrangedOnly).run (estrangedRef name).class?).1 = .ok none) ∧
    (¬∃ i ∈ estranged.imports, Resolution.isOnDemand i = false ∧
      Name.last i = Name.first "." ∧
      ((after {} .null estrangedOnly).run (estrangedRef ".").fullName).1 =
        .ok (i ++ Name.rest ".")) ∧
    ¬∃ i ∈ estranged.imports, Resolution.isOnDemand i = false ∧
      Name.last i = Name.first "A." ∧
      ((after {} .null estrangedOnly).run (estrangedRef "A.").fullName).1 =
        .ok (Name.join (i :: (Name.segments "A.").tail)) := by
  have hdot : ((after {} .null estrangedOnly).run (estrangedRef ".").fullName).1 = .ok "." := rfl
  have htype : ((after {} .null estrangedOnly).run (estrangedRef "A.").fullName).1 =
      .ok "q.A" := rfl
  refine ⟨⟨List.mem_singleton.mpr rfl, rfl, by decide, ?_⟩, ?_, ?_⟩
  · intro name hname
    rcases List.mem_cons.mp hname with rfl | hname
    · exact ⟨rfl, rfl, rfl⟩
    · obtain rfl := List.mem_singleton.mp hname
      exact ⟨rfl, rfl, rfl⟩
  · rw [hdot]
    simp only [Except.ok.injEq]
    decide
  · rw [htype]
    simp only [Except.ok.injEq]
    decide

end History

end JavaAtlas
