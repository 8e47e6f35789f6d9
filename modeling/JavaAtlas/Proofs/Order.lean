import JavaAtlas.Proofs.History
import JavaAtlas.Proofs.Walk
import Mathlib.Data.List.Nodup

/-! The order of registration. Where no two classes of the units have the same name, no class
replaces another in the index, and so it does not matter in which order the units came: only a
question that lists the units can tell. Names, references and hierarchies are no such questions, and
the classes are the same in another order: `History.run_eq_of_perm_units`. -/

namespace JavaAtlas

/-! ### Questions that list no units -/

namespace Query

/-- The question does not ask for the units of a registry, whatever it is answered on the way. -/
inductive Unlisting {α : Type} : Query α → Prop
  | answer (a : α) : Unlisting (.answer a)
  | home {unit : Nat} {next : Option RegistryId → Query α} :
      (∀ r, Unlisting (next r)) → Unlisting (.home unit next)
  | reach {next : Nat → Query α} : (∀ n, Unlisting (next n)) → Unlisting (.reach next)
  | find {id : RegistryId} {name : String} {next : Option Class → Query α} :
      (∀ c, Unlisting (next c)) → Unlisting (.find id name next)

theorem Unlisting.bind {α β : Type} {q : Query α} {f : α → Query β} (hq : q.Unlisting)
    (hf : ∀ a, (f a).Unlisting) : (q >>= f).Unlisting := by
  induction hq with
  | answer a => exact hf a
  | home _ ih => exact .home ih
  | reach _ ih => exact .reach ih
  | find _ ih => exact .find ih

/-- Such a question cannot tell views apart that differ only in the units they list. -/
theorem Unlisting.eval_eq {α : Type} {q : Query α} (hq : q.Unlisting) {v v' : View}
    (hhome : v.home = v'.home) (hreach : v.reach = v'.reach) (hfind : v.find = v'.find) :
    q.eval v = q.eval v' := by
  induction hq with
  | answer a => rfl
  | home _ ih =>
    rw [eval, eval, hhome]
    exact ih _
  | reach _ ih =>
    rw [eval, eval, hreach]
    exact ih _
  | @find id name next _ ih =>
    rw [eval, eval, hfind]
    cases v'.find id name with
    | error e => rfl
    | ok c => exact ih c

theorem unlisting_homeOf (key : UnitKey) : (homeOf key).Unlisting := by
  cases key with
  | source number => exact .home fun r => .answer r
  | outside registry name => exact .answer registry

theorem unlisting_classNamed (id : RegistryId) (name : String) : (classNamed id name).Unlisting :=
  .find fun c => .answer c

end Query

open Query (Unlisting)

namespace Resolution

theorem unlisting_holds (home : Option RegistryId) (c : Candidate) :
    (Resolution.holds home c).Unlisting := by
  obtain ⟨name, needs⟩ := c
  cases needs with
  | none => exact .answer true
  | known =>
    cases home with
    | none => exact .answer false
    | some id => exact (Query.unlisting_classNamed id name).bind fun c => .answer c.isSome
  | notMissing =>
    cases home with
    | none => exact .answer true
    | some id => exact (Query.unlisting_classNamed id name).bind fun c => .answer c.isSome

theorem unlisting_choose (home : Option RegistryId) (cs : List Candidate) :
    (choose home cs).Unlisting := by
  induction cs with
  | nil => exact .answer none
  | cons c cs ih =>
    rw [choose]
    refine (unlisting_holds home c).bind fun b => ?_
    cases b with
    | true => exact .answer (some c.name)
    | false => exact ih

theorem unlisting_resolve (u : SourceUnit) (scope : Option Class) (name : String) :
    (resolve u scope name).Unlisting :=
  (Query.unlisting_homeOf u.key).bind fun home => unlisting_choose home _

end Resolution

namespace TypeRef

theorem unlisting_resolvedName (r : TypeRef) : r.resolvedName.Unlisting := by
  rw [resolvedName]
  split
  · exact .answer (some r.name)
  · split
    · exact .answer none
    · exact Resolution.unlisting_resolve _ r.scope r.name

theorem unlisting_class? (r : TypeRef) : r.class?.Unlisting := by
  rw [class?]
  split
  · exact .answer none
  split
  · exact .answer none
  · next unit _ =>
    refine (Query.unlisting_homeOf unit.key).bind fun home => ?_
    cases home with
    | none => exact .answer none
    | some id =>
      refine r.unlisting_resolvedName.bind fun full => ?_
      cases full with
      | none => exact .answer none
      | some full => exact Query.unlisting_classNamed id full

end TypeRef

namespace Class

theorem unlisting_resolveAll (rs : List TypeRef) : (resolveAll rs).Unlisting := by
  induction rs with
  | nil => exact .answer []
  | cons r rs ih => exact r.unlisting_class?.bind fun found => ih.bind fun others => .answer _

theorem unlisting_anyIsA (target : String) (bound : Nat) (met : List String)
    (stack : List Class) : (anyIsA target bound met stack).Unlisting := by
  induction bound, met, stack using anyIsA_induct target with
  | empty bound met =>
    rw [anyIsA]
    exact .answer false
  | found bound met c rest ht =>
    rw [anyIsA_target ht]
    exact .answer true
  | skip bound met c rest ht hm ih =>
    rw [anyIsA_met ht hm]
    exact ih
  | stop met c rest ht hm =>
    rw [anyIsA_zero ht hm]
    exact .answer false
  | root bound met c rest ht hm hr htarget =>
    rw [anyIsA_root ht hm hr htarget]
    exact .answer true
  | enter bound met c rest ht hm hr ih =>
    rw [anyIsA_enter ht hm hr]
    exact (unlisting_resolveAll c.supertypeRefs).bind ih

theorem unlisting_isA (c : Class) (target : String) : (c.isA target).Unlisting :=
  .reach fun n => unlisting_anyIsA target (n + 1) [] [c]

theorem unlisting_superclassClass (c : Class) : c.superclassClass.Unlisting := by
  rw [superclassClass]
  split
  · exact .answer none
  · exact TypeRef.unlisting_class? _

theorem unlisting_chainAbove (bound : Nat) (met : List String) (c : Class) :
    (chainAbove bound met c).Unlisting := by
  induction bound generalizing met c with
  | zero => exact .answer []
  | succ bound ih =>
    rw [chainAbove]
    refine c.unlisting_superclassClass.bind fun found => ?_
    cases found with
    | none => exact .answer []
    | some d =>
      dsimp only
      split
      · exact .answer []
      · exact (ih (d.fullName :: met) d).bind fun ds => .answer (d :: ds)

theorem unlisting_superclasses (c : Class) : c.superclasses.Unlisting :=
  .reach fun n => unlisting_chainAbove (n + 1) [c.fullName] c

theorem unlisting_interfacesFrom (bound : Nat) (met entered : List String)
    (queue : List Class) : (interfacesFrom bound met entered queue).Unlisting := by
  induction bound generalizing met entered queue with
  | zero => exact .answer []
  | succ bound ih =>
    cases queue with
    | nil => exact .answer []
    | cons c queue =>
      rw [interfacesFrom]
      exact (unlisting_resolveAll c.interfaces).bind fun ds => (ih _ _ _).bind fun more => .answer _

theorem unlisting_allInterfaces (c : Class) : c.allInterfaces.Unlisting :=
  c.unlisting_superclasses.bind fun _ => .reach fun n => unlisting_interfacesFrom (n + 1) _ _ _

end Class

/-! ### Classes of different names -/

section Distinct

variable {cs ds : List Class}

theorem lastNamed_eq_some_iff (hnames : (cs.map Class.fullName).Nodup) {name : String}
    {c : Class} : lastNamed cs name = some c ↔ c ∈ cs ∧ c.fullName = name := by
  constructor
  · exact fun h => ⟨mem_of_lastNamed h, fullName_of_lastNamed h⟩
  · rintro ⟨hc, rfl⟩
    cases hl : lastNamed cs c.fullName with
    | none =>
      have hne := List.find?_eq_none.mp hl c (List.mem_reverse.mpr hc)
      simp at hne
    | some d =>
      -- the names tell the classes apart
      have hsame := List.inj_on_of_nodup_map hnames (mem_of_lastNamed hl) hc
        (fullName_of_lastNamed hl)
      rw [hsame]

theorem lastNamed_perm (hnames : (cs.map Class.fullName).Nodup) (hperm : cs.Perm ds)
    (name : String) : lastNamed cs name = lastNamed ds name := by
  have hnames' : (ds.map Class.fullName).Nodup := (hperm.map _).nodup_iff.mp hnames
  apply Option.ext
  intro c
  rw [lastNamed_eq_some_iff hnames, lastNamed_eq_some_iff hnames', hperm.mem_iff]

theorem lookup_perm (hnames : (cs.map Class.fullName).Nodup) (hperm : cs.Perm ds) (tool : Tool)
    (id : RegistryId) (rs : List Resolver) (name : String) :
    lookup tool id cs rs name = lookup tool id ds rs name := by
  rw [lookup, lookup, lastNamed_perm hnames hperm]

/-- Of classes of different names none replaces another in the index. -/
theorem Registry.length_enterAll (index : List (String × Class))
    (hnames : (index.map Prod.fst ++ cs.map Class.fullName).Nodup) :
    (enterAll index cs).length = index.length + cs.length := by
  induction cs generalizing index with
  | nil => rfl
  | cons c cs ih =>
    have hfresh : c.fullName ∉ index.map Prod.fst := by
      intro hc
      exact (List.nodup_append.mp hnames).2.2 _ hc _ List.mem_cons_self rfl
    have henter : enter index c = (c.fullName, c) :: index := by
      rw [enter, List.filter_eq_self.mpr]
      rintro ⟨name, d⟩ hd
      have hne : name ≠ c.fullName := fun he => hfresh (he ▸ List.mem_map_of_mem hd)
      simpa using hne
    have hnext : (((c.fullName, c) :: index).map Prod.fst ++ cs.map Class.fullName).Nodup :=
      (List.perm_middle.symm.nodup_iff).mpr hnames
    have hcons : enterAll index (c :: cs) = enterAll (enter index c) cs := rfl
    rw [hcons, henter, ih _ hnext, List.length_cons, List.length_cons]
    omega

end Distinct

namespace History

variable {tool : Tool} {grammar : Value} {us vs : List SourceUnit} {rs : List Resolver}

theorem home_plain_perm (hperm : us.Perm vs) :
    (plain tool grammar us rs).view.home = (plain tool grammar vs rs).view.home := by
  funext n
  show (us.foldl settled []).lookup n = (vs.foldl settled []).lookup n
  rw [lookup_foldl_settled, lookup_foldl_settled, hperm.any_eq]

theorem reach_plain (us : List SourceUnit) :
    (plain tool grammar us rs).view.reach = rs.foldr (fun r n => r.reach tool + n)
      (Registry.enterAll [] (us.flatMap SourceUnit.classes)).length := by
  show Registry.reach _ tool + 0 = _
  rw [Nat.add_zero, Registry.reach_eq, Registry.resolvers, map_resolver_link]

section Distinct

variable (hperm : us.Perm vs)
  (hnames : ((us.flatMap SourceUnit.classes).map Class.fullName).Nodup)
include hperm hnames

theorem reach_plain_perm :
    (plain tool grammar us rs).view.reach = (plain tool grammar vs rs).view.reach := by
  have hclasses := hperm.flatMap_right SourceUnit.classes
  have hnames' := (hclasses.map Class.fullName).nodup_iff.mp hnames
  rw [reach_plain, reach_plain, Registry.length_enterAll [] hnames,
    Registry.length_enterAll [] hnames', hclasses.length_eq]

theorem find_plain_perm :
    (plain tool grammar us rs).view.find = (plain tool grammar vs rs).view.find := by
  funext id name
  by_cases hid : id = main
  · rw [hid, plain_find, plain_find, lookup_perm hnames (hperm.flatMap_right _)]
  · rw [plain_find_of_ne hid, plain_find_of_ne hid]

end Distinct

/-- A question that lists no units has the same answer whichever order the units came in. -/
theorem run_eq_of_unlisting (tool : Tool) (grammar : Value) {steps others : List Step}
    (hunits : (units steps).Perm (units others)) (hresolvers : resolvers steps = resolvers others)
    (hnames : (((units steps).flatMap SourceUnit.classes).map Class.fullName).Nodup) {α : Type}
    {q : Query α} (hq : q.Unlisting) :
    ((after tool grammar steps).run q).1 = ((after tool grammar others).run q).1 := by
  rw [run_after, run_after, hresolvers]
  exact hq.eval_eq (home_plain_perm hunits) (reach_plain_perm hunits hnames)
    (find_plain_perm hunits hnames)

/-- Units of which no two classes have the same name may be registered in any order: look-ups, names
in units and hierarchies come to the same, and the classes are the same in another order. -/
theorem run_eq_of_perm_units (tool : Tool) (grammar : Value) (steps others : List Step)
    (hunits : (units steps).Perm (units others)) (hresolvers : resolvers steps = resolvers others)
    (hnames : (((units steps).flatMap SourceUnit.classes).map Class.fullName).Nodup) :
    (∀ name, ((after tool grammar steps).run (.classNamed main name)).1 =
      ((after tool grammar others).run (.classNamed main name)).1) ∧
    (∀ u scope name, ((after tool grammar steps).run (Resolution.resolve u scope name)).1 =
      ((after tool grammar others).run (Resolution.resolve u scope name)).1) ∧
    (∀ (c : Class) target, ((after tool grammar steps).run (c.isA target)).1 =
      ((after tool grammar others).run (c.isA target)).1) ∧
    (∀ c : Class, ((after tool grammar steps).run c.superclasses).1 =
      ((after tool grammar others).run c.superclasses).1) ∧
    (∀ c : Class, ((after tool grammar steps).run c.allInterfaces).1 =
      ((after tool grammar others).run c.allInterfaces).1) ∧
    ∃ cs ds, ((after tool grammar steps).run (Query.classesOf main)).1 = .ok cs ∧
      ((after tool grammar others).run (Query.classesOf main)).1 = .ok ds ∧ cs.Perm ds := by
  have hsame {α : Type} {q : Query α} (hq : q.Unlisting) :=
    run_eq_of_unlisting tool grammar hunits hresolvers hnames hq
  refine ⟨fun name => hsame (Query.unlisting_classNamed main name),
    fun u scope name => hsame (Resolution.unlisting_resolve u scope name),
    fun c target => hsame (c.unlisting_isA target), fun c => hsame c.unlisting_superclasses,
    fun c => hsame c.unlisting_allInterfaces, ?_⟩
  exact ⟨_, _, classesOf_after tool grammar steps, classesOf_after tool grammar others,
    hunits.flatMap_right _⟩

/-- A unit with a class of the simple name of another unit's class, inside a class of its own. -/
def nestingUnit : SourceUnit :=
  { key := .source 1, package := "p", types := [{ name := "S", nested := [{ name := "A" }] }] }

def nestedLast : List Step := circle ++ [.addUnit nestingUnit]

def nestedFirst : List Step :=
  [.addUnit nestingUnit, .ask (Query.classNamed main "p.A"),
    .addResolver { resolver := circleCatalog }, .addUnit circleUnit]

theorem run_eq_of_perm_units_nested :
    (units nestedLast).Perm (units nestedFirst) ∧
      resolvers nestedLast = resolvers nestedFirst ∧
      (((units nestedLast).flatMap SourceUnit.classes).map Class.fullName).Nodup ∧
      ∃ d, d.fullName = "q.I" ∧
        ((after {} .null nestedLast).run (circleUnit.top 0 circleDecl).allInterfaces).1 =
          .ok [d] ∧
        ((after {} .null nestedFirst).run (circleUnit.top 0 circleDecl).allInterfaces).1 =
          .ok [d] := by
  have hunits : (units nestedLast).Perm (units nestedFirst) := List.Perm.swap ..
  have hnames : (((units nestedLast).flatMap SourceUnit.classes).map Class.fullName).Nodup := by
    decide
  obtain ⟨-, -, -, -, hinterfaces, -⟩ :=
    run_eq_of_perm_units {} .null nestedLast nestedFirst hunits rfl hnames
  obtain ⟨d, hname, hd⟩ : ∃ d, d.fullName = "q.I" ∧ ((after {} .null nestedLast).run
      (circleUnit.top 0 circleDecl).allInterfaces).1 = .ok [d] := ⟨_, rfl, rfl⟩
  exact ⟨hunits, rfl, hnames, d, hname, hd, (hinterfaces _).symm.trans hd⟩

end History

end JavaAtlas
