import JavaAtlas.Hierarchy
import JavaAtlas.Proofs.View

/-! What is done with one registry over time: units are assembled, units and resolvers are added and
questions are asked, in any order. Whatever was asked, and however the additions were mixed, the
registry is the same in the end but for what it remembers: `forget_after`. So a look-up answers what
the units and resolvers alone say, and questions can be put at any time without changing later
answers. -/

namespace JavaAtlas.History

/-- Something done with a registry. A question may be about anything, and its answer is of any
type. -/
inductive Step : Type 1 where
  | assemble (decl : UnitDecl) (origin : Option String)
  | addUnit (u : SourceUnit)
  | addResolver (link : Link)
  | ask {α : Type} (q : Query α)

/-- The units that are assembled, numbered in the order of their making. -/
def assembled (steps : List Step) : List SourceUnit :=
  (steps.filterMap fun
    | .assemble decl origin => some (decl, origin)
    | _ => none).mapIdx fun number (decl, origin) => .assemble (.source number) decl origin

/-- The units that are added, in order. -/
def units (steps : List Step) : List SourceUnit :=
  steps.filterMap fun
    | .addUnit u => some u
    | _ => none

/-- The resolvers that are added, in order. -/
def resolvers (steps : List Step) : List Resolver :=
  steps.filterMap fun
    | .addResolver link => some link.resolver
    | _ => none

/-- The only registry of the workspace. -/
def main : RegistryId := ⟨0⟩

/-- A workspace with an empty registry. -/
def start (tool : Tool) (grammar : Value) : Workspace := { registries := [{ grammar }], tool }

def Step.apply (w : Workspace) : Step → Workspace
  | .assemble decl origin => (w.assemble decl origin).2
  | .addUnit u => w.addUnit main u
  | .addResolver link => w.addResolver main link
  | .ask q => (w.run q).2

/-- The workspace after some steps. -/
def after (tool : Tool) (grammar : Value) (steps : List Step) : Workspace :=
  steps.foldl Step.apply (start tool grammar)

/-- The homes after the unit was given one. -/
def settled (homes : List (Nat × RegistryId)) (u : SourceUnit) : List (Nat × RegistryId) :=
  Workspace.homes (Workspace.settle { homes } u.key main)

/-- The workspace of some units and resolvers, with nothing remembered. -/
def plain (tool : Tool) (grammar : Value) (us : List SourceUnit) (rs : List Resolver) :
    Workspace where
  registries := [{
    grammar
    units := us
    index := Registry.enterAll [] (us.flatMap SourceUnit.classes)
    chain := rs.map fun resolver => { resolver } }]
  homes := us.foldl settled []
  tool

variable {tool : Tool} {grammar : Value} {us : List SourceUnit} {rs : List Resolver}
  {w : Workspace}

/-! ### One step -/

theorem faithful_start (tool : Tool) (grammar : Value) : (start tool grammar).Faithful := by
  intro id r hr
  obtain ⟨n⟩ := id
  cases n with
  | zero =>
    obtain rfl : { grammar } = r := Option.some.inj hr
    exact Registry.faithful_of_index rfl rfl rfl
  | succ n => simp [start, Workspace.registry?] at hr

theorem registry?_settle (w : Workspace) (key : UnitKey) (id id' : RegistryId) :
    Workspace.registry? (w.settle key id) id' = w.registry? id' := by
  cases key <;> rfl

theorem settle_tool (w : Workspace) (key : UnitKey) (id : RegistryId) :
    (w.settle key id).tool = w.tool := by
  cases key <;> rfl

theorem faithful_settle (h : w.Faithful) (key : UnitKey) (id : RegistryId) :
    (w.settle key id).Faithful := by
  intro id' r hr
  rw [registry?_settle] at hr
  rw [settle_tool]
  exact h id' r hr

theorem faithful_addUnit (h : w.Faithful) (id : RegistryId) (u : SourceUnit) :
    (w.addUnit id u).Faithful := by
  simp only [Workspace.addUnit]
  cases hr : w.registry? id with
  | none => exact h
  | some r =>
    have hs : (r.addUnit u).1.Faithful (w.settle u.key id).tool id := by
      rw [settle_tool]
      exact (h id r hr).addUnit u
    exact (faithful_settle h u.key id).setRegistry ((registry?_settle ..).trans hr) hs

theorem faithful_addResolver (h : w.Faithful) (id : RegistryId) (link : Link) :
    (w.addResolver id link).Faithful := by
  simp only [Workspace.addResolver]
  cases hr : w.registry? id with
  | none => exact h
  | some r => exact h.setRegistry hr ((h id r hr).addResolver link)

/-- A step keeps every registry faithful. -/
theorem Step.faithful (h : w.Faithful) (step : Step) : (step.apply w).Faithful := by
  cases step with
  | assemble decl origin => exact h
  | addUnit u => exact faithful_addUnit h main u
  | addResolver link => exact faithful_addResolver h main link
  | ask q => exact (h.run q).2.1

/-- The contents of a workspace that is plain but for what it remembers. -/
theorem contents (h : w.forget = plain tool grammar us rs) :
    ∃ r, w.registries = [r] ∧ r.grammar = grammar ∧ r.units = us ∧
      r.index = Registry.enterAll [] (us.flatMap SourceUnit.classes) ∧ r.resolvers = rs ∧
      w.homes = us.foldl settled [] ∧ w.tool = tool := by
  obtain ⟨r, hw, hr⟩ := List.map_eq_singleton_iff.mp (congrArg Workspace.registries h)
  have hrs : r.resolvers = rs := by
    rw [← Registry.forget_resolvers, hr]
    exact map_resolver_link rs
  exact ⟨r, hw, congrArg Registry.grammar hr, congrArg Registry.units hr,
    congrArg Registry.index hr, hrs, congrArg Workspace.homes h, congrArg Workspace.tool h⟩

theorem forget_addUnit (h : w.forget = plain tool grammar us rs) (u : SourceUnit) :
    (w.addUnit main u).forget = plain tool grammar (us ++ [u]) rs := by
  obtain ⟨r, hw, rfl, rfl, hi, rfl, hh, rfl⟩ := contents h
  obtain ⟨registries, homes, count, tool, trace⟩ := w
  obtain rfl : registries = [r] := hw
  obtain rfl : homes = _ := hh
  have hindex : Registry.enterAll r.index u.classes =
      Registry.enterAll [] ((r.units ++ [u]).flatMap SourceUnit.classes) := by
    rw [hi, List.flatMap_append, Registry.enterAll_append]
    simp
  simp only [plain, ← hindex, List.foldl_append, List.foldl_cons, List.foldl_nil]
  obtain ⟨key, package, imports, staticImports, types, origin⟩ := u
  cases key <;> rfl

theorem forget_addResolver (h : w.forget = plain tool grammar us rs) (link : Link) :
    (w.addResolver main link).forget = plain tool grammar us (rs ++ [link.resolver]) := by
  obtain ⟨r, hw, rfl, rfl, hi, rfl, hh, rfl⟩ := contents h
  obtain ⟨registries, homes, count, tool, trace⟩ := w
  obtain rfl : registries = [r] := hw
  obtain rfl : homes = _ := hh
  have hchain : (r.addResolver link).resolvers = r.resolvers ++ [link.resolver] := by
    simp [Registry.addResolver, Registry.resolvers]
  simp only [plain, ← hi, ← hchain]
  rfl

/-! ### All steps -/

theorem faithful_after (tool : Tool) (grammar : Value) (steps : List Step) :
    (after tool grammar steps).Faithful := by
  suffices ∀ w : Workspace, w.Faithful → (steps.foldl Step.apply w).Faithful from
    this _ (faithful_start tool grammar)
  induction steps with
  | nil => exact fun _ h => h
  | cons step steps ih => exact fun w h => ih _ (step.faithful h)

/-- But for what is remembered, a workspace is what its units and resolvers make it: neither the
questions nor the way in which units and resolvers took turns show. -/
theorem forget_after (tool : Tool) (grammar : Value) (steps : List Step) :
    (after tool grammar steps).forget = plain tool grammar (units steps) (resolvers steps) := by
  suffices ∀ (w : Workspace) us rs, w.Faithful → w.forget = plain tool grammar us rs →
      (steps.foldl Step.apply w).forget =
        plain tool grammar (us ++ units steps) (rs ++ resolvers steps) from
    this _ [] [] (faithful_start tool grammar) rfl
  induction steps with
  | nil =>
    intro w us rs _ hw
    simpa [units, resolvers] using hw
  | cons step steps ih =>
    intro w us rs hf hw
    have hf' := step.faithful hf
    cases step with
    | assemble decl origin => exact ih _ _ _ hf' hw
    | addUnit u => simpa [units, resolvers] using ih _ _ _ hf' (forget_addUnit hw u)
    | addResolver link => simpa [units, resolvers] using ih _ _ _ hf' (forget_addResolver hw link)
    | ask q => exact ih _ _ _ hf' ((hf.run q).2.2.trans hw)

theorem view_after (tool : Tool) (grammar : Value) (steps : List Step) :
    (after tool grammar steps).view =
      (plain tool grammar (units steps) (resolvers steps)).view := by
  rw [← forget_after, Workspace.view_forget]

/-- A question after some steps has the answer that the units and resolvers alone give it. -/
theorem run_after {α : Type} (tool : Tool) (grammar : Value) (steps : List Step) (q : Query α) :
    ((after tool grammar steps).run q).1 =
      q.eval (plain tool grammar (units steps) (resolvers steps)).view := by
  rw [(faithful_after tool grammar steps).run_answer, view_after]

theorem plain_find (name : String) :
    (plain tool grammar us rs).view.find main name =
      lookup tool main (us.flatMap SourceUnit.classes) rs name := by
  show lookup tool main _ (List.map Link.resolver _) name = _
  rw [map_resolver_link]
  rfl

/-- There is no other registry. -/
theorem plain_find_of_ne {id : RegistryId} (hid : id ≠ main) (name : String) :
    (plain tool grammar us rs).view.find id name = .ok none := by
  obtain ⟨n⟩ := id
  cases n with
  | zero => exact absurd rfl hid
  | succ n => rfl

/-! ### Units and their home -/

theorem lookup_settled (homes : List (Nat × RegistryId)) (u : SourceUnit) (n : Nat) :
    (settled homes u).lookup n = if u.key = .source n then some main else homes.lookup n := by
  rw [settled]
  cases hkey : u.key with
  | source number =>
    simp only [Workspace.settle, lookup_cons_ite, lookup_filter_ne, UnitKey.source.injEq]
    by_cases h : n = number
    · simp [h]
    · simp [h, Ne.symm h]
  | outside registry name => simp [Workspace.settle]

/-- The units of the registry are those that belong to it. -/
theorem lookup_foldl_settled (us : List SourceUnit) (homes : List (Nat × RegistryId)) (n : Nat) :
    (us.foldl settled homes).lookup n =
      if us.any fun u => u.key = .source n then some main else homes.lookup n := by
  induction us generalizing homes with
  | nil => rfl
  | cons u us ih =>
    rw [List.foldl_cons, ih, lookup_settled, List.any_cons]
    by_cases hany : (us.any fun u => u.key = .source n) = true
    · simp [hany]
    · simp [hany]

theorem mem_assembled {steps : List Step} {u : SourceUnit} (h : u ∈ assembled steps) :
    ∃ n, u.key = .source n ∧ (assembled steps)[n]? = some u := by
  obtain ⟨n, hn⟩ := List.getElem?_of_mem h
  refine ⟨n, ?_, hn⟩
  rw [assembled, List.getElem?_mapIdx] at hn
  obtain ⟨made, -, rfl⟩ := Option.map_eq_some_iff.mp hn
  rfl

/-- Units that were assembled are told apart by their keys. -/
theorem eq_of_key_eq {steps : List Step} {u u' : SourceUnit} (hu : u ∈ assembled steps)
    (hu' : u' ∈ assembled steps) (hkey : u.key = u'.key) : u = u' := by
  obtain ⟨n, hn, hget⟩ := mem_assembled hu
  obtain ⟨n', hn', hget'⟩ := mem_assembled hu'
  rw [hn, hn', UnitKey.source.injEq] at hkey
  rw [hkey, hget'] at hget
  exact (Option.some.inj hget).symm

/-- The unit is one that can belong to the registry: it was assembled, or it stands around a class
that the registry took in. A unit around a class that another registry took in keeps that registry,
see `Workspace.settle`. -/
def isHomed (u : SourceUnit) : Bool :=
  match u.key with
  | .source _ => true
  | .outside registry _ => registry = some main

theorem isHomed_of_source {u : SourceUnit} {n : Nat} (hn : u.key = .source n) :
    isHomed u = true := by
  rw [isHomed, hn]

/-- A registered unit belongs to the registry, if it can. -/
theorem homeOf_plain {u : SourceUnit} (hu : u ∈ us) (hhomed : isHomed u = true) :
    (plain tool grammar us rs).view.homeOf u.key = some main := by
  rw [isHomed] at hhomed
  cases hkey : u.key with
  | source n =>
    have hany : (us.any fun u => u.key = .source n) = true :=
      List.any_eq_true.mpr ⟨u, hu, by simp [hkey]⟩
    show (us.foldl settled []).lookup n = some main
    rw [lookup_foldl_settled, if_pos hany]
  | outside registry name =>
    rw [hkey] at hhomed
    exact of_decide_eq_true hhomed

/-- With more units, a registered unit still belongs to the registry that it belonged to. -/
theorem homeOf_plain_append {u : SourceUnit} (hu : u ∈ us) (more : List SourceUnit)
    (rs others : List Resolver) :
    (plain tool grammar (us ++ more) others).view.homeOf u.key =
      (plain tool grammar us rs).view.homeOf u.key := by
  cases hkey : u.key with
  | source n =>
    have hhomed := isHomed_of_source hkey
    rw [← hkey, homeOf_plain hu hhomed, homeOf_plain (List.mem_append_left more hu) hhomed]
  | outside registry name => rfl

/-! ### Answers -/

theorem classesOf_after (tool : Tool) (grammar : Value) (steps : List Step) :
    ((after tool grammar steps).run (Query.classesOf main)).1 =
      .ok ((units steps).flatMap SourceUnit.classes) := by
  rw [run_after, Query.eval_classesOf]
  rfl

/-- Whatever was added and asked before, a look-up answers as if the registry remembered nothing:
the last class of the name among all classes of the registry, or else the class of the first
resolver that knows it. -/
theorem classNamed_after (tool : Tool) (grammar : Value) (steps : List Step) (name : String) :
    ∃ cs, ((after tool grammar steps).run (Query.classesOf main)).1 = .ok cs ∧
      cs = (units steps).flatMap SourceUnit.classes ∧
      ((after tool grammar steps).run (Query.classNamed main name)).1 =
        lookup tool main cs (resolvers steps) name := by
  refine ⟨_, classesOf_after tool grammar steps, rfl, ?_⟩
  rw [run_after, Query.eval_classNamed, plain_find]

/-- Two histories with the same units and the same resolvers, each in the same order, cannot be told
apart by any question, however the additions take turns and whatever is asked in between. -/
theorem run_eq_of_same_additions {α : Type} (tool : Tool) (grammar : Value)
    (steps others : List Step) (hunits : units steps = units others)
    (hresolvers : resolvers steps = resolvers others) (q : Query α) :
    ((after tool grammar steps).run q).1 = ((after tool grammar others).run q).1 := by
  rw [run_after, run_after, hunits, hresolvers]

/-- A class of a unit and one of a catalog, which extend each other. -/
def circleDecl : TypeDecl := { name := "A", superclass := some ⟨"B", 0⟩ }

def circleUnit : SourceUnit := { key := .source 0, package := "p", types := [circleDecl] }

def circleCatalog : Resolver :=
  .catalog "c" [("p.B", { superclass := some "A", interfaces := ["q.I"] }),
    ("q.I", { kind := .interfaceType })]

def circle : List Step := [.addUnit circleUnit, .addResolver { resolver := circleCatalog }]

/-- The same, but the resolver comes first, and a question before each addition and at the end. -/
def askedCircle : List Step :=
  [.ask (Query.classNamed main "p.B"), .assemble { package := "p", types := [circleDecl] } none,
    .addResolver { resolver := circleCatalog }, .ask (Query.classNamed main "p.A"),
    .addUnit circleUnit, .ask (circleUnit.top 0 circleDecl).derived]

theorem run_eq_of_same_additions_circle :
    units askedCircle = units circle ∧ resolvers askedCircle = resolvers circle ∧
      ((after {} .null askedCircle).run (circleUnit.top 0 circleDecl).allInterfaces).1 =
        ((after {} .null circle).run (circleUnit.top 0 circleDecl).allInterfaces).1 :=
  ⟨rfl, rfl, run_eq_of_same_additions {} .null askedCircle circle rfl rfl _⟩

end JavaAtlas.History
