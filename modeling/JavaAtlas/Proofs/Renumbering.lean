import JavaAtlas.Hierarchy
import JavaAtlas.Proofs.Lookup

/-! Units and registries under other numbers. Numbers only tell units and registries apart, so a
class of a renumbered unit has the same name and place, names stand for the same there, and
resolvers answer the same under a renumbered key. -/

namespace JavaAtlas

/-- New numbers for units and registries. -/
structure Renumbering where
  number : Nat → Nat
  registry : RegistryId → RegistryId

namespace Renumbering

variable (ρ : Renumbering)

def key : UnitKey → UnitKey
  | .source number => .source (ρ.number number)
  | .outside registry name => .outside (registry.map ρ.registry) name

def unit (u : SourceUnit) : SourceUnit := { u with key := ρ.key u.key }

def cls (c : Class) : Class := { c with key := ρ.key c.key, unit := c.unit.map ρ.unit }

def ref (r : TypeRef) : TypeRef :=
  { r with owner := r.owner.map ρ.unit, scope := r.scope.map ρ.cls }

/-! ### Classes -/

@[simp] theorem unit_package (u : SourceUnit) : (ρ.unit u).package = u.package := rfl

@[simp] theorem unit_imports (u : SourceUnit) : (ρ.unit u).imports = u.imports := rfl

@[simp] theorem cls_unit (c : Class) : (ρ.cls c).unit = c.unit.map ρ.unit := rfl

@[simp] theorem cls_decl (c : Class) : (ρ.cls c).decl = c.decl := rfl

@[simp] theorem cls_name (c : Class) : (ρ.cls c).name = c.name := rfl

@[simp] theorem cls_isInterface (c : Class) : (ρ.cls c).isInterface = c.isInterface := rfl

@[simp] theorem cls_isRooted (c : Class) : (ρ.cls c).isRooted = c.isRooted := rfl

@[simp] theorem cls_inSource (c : Class) : (ρ.cls c).inSource = c.inSource := by
  simp only [Class.inSource, cls, key]
  cases c.key <;> rfl

@[simp] theorem cls_package (c : Class) : (ρ.cls c).package = c.package := by
  simp only [Class.package, cls_unit]
  cases c.unit <;> rfl

@[simp] theorem cls_fullName (c : Class) : (ρ.cls c).fullName = c.fullName := by
  simp only [Class.fullName, cls_package]
  rfl

@[simp] theorem map_fullName_cls (cs : List Class) :
    (cs.map ρ.cls).map Class.fullName = cs.map Class.fullName := by
  simp [Function.comp_def]

@[simp] theorem cls_members (c : Class) : (ρ.cls c).members = c.members.map ρ.cls := by
  simp only [Class.members, List.mapIdx_eq_zipIdx_map, List.map_map, cls_decl]
  rfl

theorem scopesFrom_cls (c : Class) (outer : List TypeDecl) :
    (ρ.cls c).scopesFrom outer = (c.scopesFrom outer).map ρ.cls := by
  induction outer generalizing c with
  | nil => rfl
  | cons d outer ih =>
    simp only [Class.scopesFrom, List.map_cons]
    congr 1
    exact ih { c with path := c.path.dropLast, decl := d }

@[simp] theorem cls_scopes (c : Class) : (ρ.cls c).scopes = c.scopes.map ρ.cls :=
  scopesFrom_cls ρ c c.outer

@[simp] theorem cls_enclosing? (c : Class) : (ρ.cls c).enclosing? = c.enclosing?.map ρ.cls := by
  obtain ⟨key, unit, path, decl, outer⟩ := c
  cases outer <;> rfl

mutual

theorem treeOf_cls (c : Class) (d : TypeDecl) :
    (ρ.cls c).treeOf d = (c.treeOf d).map ρ.cls := by
  match d with
  | { nested, .. } =>
    simp only [Class.treeOf, List.map_cons]
    congr 1
    exact treesOf_cls { c with outer := _ :: c.outer } 0 nested

theorem treesOf_cls (c : Class) (position : Nat) (ds : List TypeDecl) :
    (ρ.cls c).treesOf position ds = (c.treesOf position ds).map ρ.cls := by
  match ds with
  | [] => rfl
  | d :: ds =>
    simp only [Class.treesOf, List.map_append]
    congr 1
    · exact treeOf_cls { c with path := c.path ++ [position] } d
    · exact treesOf_cls c (position + 1) ds

end

@[simp] theorem unit_tops (u : SourceUnit) : (ρ.unit u).tops = u.tops.map ρ.cls := by
  simp only [SourceUnit.tops, List.mapIdx_eq_zipIdx_map, List.map_map]
  rfl

@[simp] theorem unit_classes (u : SourceUnit) : (ρ.unit u).classes = u.classes.map ρ.cls := by
  simp only [SourceUnit.classes, unit_tops, List.flatMap_map, List.map_flatMap]
  congr 1
  funext c
  exact treeOf_cls ρ c c.decl

theorem flatMap_classes (us : List SourceUnit) :
    (us.map ρ.unit).flatMap SourceUnit.classes = (us.flatMap SourceUnit.classes).map ρ.cls := by
  simp only [List.flatMap_map, List.map_flatMap, unit_classes]

/-! ### Names -/

@[simp] theorem visibleAt_cls (head : String) (c : Class) :
    Resolution.visibleAt head (ρ.cls c) = (Resolution.visibleAt head c).map ρ.cls := by
  simp only [Resolution.visibleAt, cls_members, List.find?_map, Function.comp_def, cls_name]
  cases c.members.find? fun m => m.name == head with
  | some m => rfl
  | none =>
    simp only [Option.map_none]
    by_cases h : c.name = head <;> simp [h]

theorem inScope?_eq (head : String) (u : SourceUnit) (scope : Option Class) :
    Resolution.inScope? head (ρ.unit u) (scope.map ρ.cls) =
      (Resolution.inScope? head u scope).map ρ.cls := by
  have hscopes : ((scope.map ρ.cls).map Class.scopes).getD [] =
      ((scope.map Class.scopes).getD []).map ρ.cls := by
    cases scope <;> simp
  have hvisible :
      Resolution.visibleAt head ∘ ρ.cls = Option.map ρ.cls ∘ Resolution.visibleAt head :=
    funext (visibleAt_cls ρ head)
  have htops : (ρ.unit u).tops.find? (fun c => c.name == head) =
      (u.tops.find? fun c => c.name == head).map ρ.cls := by
    rw [unit_tops, List.find?_map]
    rfl
  rw [Resolution.inScope?, Resolution.inScope?, hscopes, List.findSome?_map, hvisible,
    ← List.map_findSome?, htops]
  cases ((scope.map Class.scopes).getD []).findSome? (Resolution.visibleAt head) <;> rfl

/-- A name may stand for the same in a unit of another number. -/
@[simp] theorem candidates_eq (u : SourceUnit) (scope : Option Class) (name : String) :
    Resolution.candidates (ρ.unit u) (scope.map ρ.cls) name =
      Resolution.candidates u scope name := by
  have hscope (head suffix : String) :
      (Resolution.inScope? head (ρ.unit u) (scope.map ρ.cls)).toList.map (fun c =>
        (⟨c.fullName ++ suffix, if suffix.isEmpty then .none else .notMissing⟩ :
          Resolution.Candidate)) =
      (Resolution.inScope? head u scope).toList.map fun c =>
        ⟨c.fullName ++ suffix, if suffix.isEmpty then .none else .notMissing⟩ := by
    rw [inScope?_eq]
    cases Resolution.inScope? head u scope <;> simp
  simp only [Resolution.candidates, Resolution.candidatesFor, unit_package, unit_imports, hscope]

/-! ### References -/

@[simp] theorem ref_name (r : TypeRef) : (ρ.ref r).name = r.name := rfl

@[simp] theorem ref_owner (r : TypeRef) : (ρ.ref r).owner = r.owner.map ρ.unit := rfl

@[simp] theorem ref_scope (r : TypeRef) : (ρ.ref r).scope = r.scope.map ρ.cls := rfl

@[simp] theorem ref_isArray (r : TypeRef) : (ρ.ref r).isArray = r.isArray := rfl

@[simp] theorem ref_isPrimitive (r : TypeRef) : (ρ.ref r).isPrimitive = r.isPrimitive := rfl

theorem headerRef_cls (c : Class) (t : TypeSpec) :
    (ρ.cls c).headerRef t = ρ.ref (c.headerRef t) := by
  simp only [Class.headerRef, cls_inSource, cls_enclosing?, cls_unit, ref]
  cases c.inSource <;> rfl

@[simp] theorem cls_superclass? (c : Class) : (ρ.cls c).superclass? = c.superclass?.map ρ.ref := by
  simp only [Class.superclass?, cls_decl, Option.map_map]
  congr 1
  funext t
  exact headerRef_cls ρ c t

@[simp] theorem cls_interfaces (c : Class) : (ρ.cls c).interfaces = c.interfaces.map ρ.ref := by
  simp only [Class.interfaces, cls_decl, List.map_map]
  congr 1
  funext t
  exact headerRef_cls ρ c t

@[simp] theorem cls_supertypeRefs (c : Class) :
    (ρ.cls c).supertypeRefs = c.supertypeRefs.map ρ.ref := by
  simp only [Class.supertypeRefs, cls_interfaces, cls_isInterface, cls_superclass?,
    List.map_append]
  congr 1
  split
  · rfl
  · cases c.superclass? <;> rfl

@[simp] theorem cls_effectiveSuperclass? (c : Class) :
    (ρ.cls c).effectiveSuperclass? = c.effectiveSuperclass?.map ρ.ref := by
  simp only [Class.effectiveSuperclass?, cls_superclass?, cls_isInterface, cls_fullName]
  cases c.superclass? with
  | some r => rfl
  | none =>
    simp only [Option.map_none]
    split <;> rfl

theorem unmet_cls (met : List String) (cs : List Class) :
    Class.unmet met (cs.map ρ.cls) = (Class.unmet met cs).map ρ.cls := by
  induction cs generalizing met with
  | nil => rfl
  | cons c cs ih =>
    simp only [List.map_cons, Class.unmet, cls_fullName, ih]
    split <;> simp

/-! ### Look-ups -/

/-- The class that is found, under its new number. -/
def found (answer : Except EntryError (Option Class)) : Except EntryError (Option Class) :=
  answer.map (Option.map ρ.cls)

@[simp] theorem found_none : ρ.found (.ok none) = .ok none := rfl

@[simp] theorem found_some (c : Class) : ρ.found (.ok (some c)) = .ok (some (ρ.cls c)) := rfl

@[simp] theorem found_error (e : EntryError) : ρ.found (.error e) = .error e := rfl

theorem toClass_key (e : Entry) (key : UnitKey) (name origin : String) :
    (e.toClass (ρ.key key) name origin).map some =
      ρ.found ((e.toClass key name origin).map some) := by
  simp only [Entry.toClass]
  cases e.declaration (Name.splitQualified name).2 <;> rfl

theorem answer_key (r : Resolver) (tool : Tool) (key : UnitKey) (name : String) :
    r.answer tool (ρ.key key) name = ρ.found (r.answer tool key name) := by
  cases r with
  | catalog label entries =>
    simp only [Resolver.answer, Resolver.ask]
    cases Catalog.entry? entries name with
    | none => rfl
    | some e => exact toClass_key ρ e key name ("resolver:" ++ label)
  | binaries classpath command =>
    simp only [Resolver.answer, Resolver.ask]
    cases Resolver.commandOf tool command with
    | none => rfl
    | some command =>
      simp only [Resolver.answer_listFirst]
      cases (Name.binaryNames name).findSome? (Resolver.listing? tool) with
      | none => rfl
      | some e => exact toClass_key ρ e key name "resolver:javap"
  | bare kinds =>
    simp only [Resolver.answer, Resolver.ask]
    cases kinds.lookup name <;> rfl

theorem firstAnswer_key (tool : Tool) (key : UnitKey) (name : String) (rs : List Resolver) :
    Resolver.firstAnswer tool (ρ.key key) name rs =
      ρ.found (Resolver.firstAnswer tool key name rs) := by
  induction rs with
  | nil => rfl
  | cons r rs ih =>
    simp only [Resolver.firstAnswer, answer_key]
    rcases r.answer tool key name with e | _ | c
    · rfl
    · exact ih
    · rfl

theorem lastNamed_cls (cs : List Class) (name : String) :
    lastNamed (cs.map ρ.cls) name = (lastNamed cs name).map ρ.cls := by
  simp only [lastNamed, ← List.map_reverse, List.find?_map, Function.comp_def, cls_fullName]

/-- A registry of another number, with its classes under other numbers, knows the same. -/
theorem lookup_cls (tool : Tool) (id : RegistryId) (cs : List Class) (rs : List Resolver)
    (name : String) :
    lookup tool (ρ.registry id) (cs.map ρ.cls) rs name = ρ.found (lookup tool id cs rs name) := by
  have hchain := firstAnswer_key ρ tool (.outside (some id) name) name rs
  simp only [lookup, lastNamed_cls]
  split
  · rfl
  cases lastNamed cs name with
  | some c => rfl
  | none => exact hchain

/-- A place in the index, with the class under its new number. -/
def place (p : String × Class) : String × Class := (p.1, ρ.cls p.2)

theorem enter_cls (index : List (String × Class)) (c : Class) :
    Registry.enter (index.map ρ.place) (ρ.cls c) = (Registry.enter index c).map ρ.place := by
  simp only [Registry.enter, cls_fullName, List.map_cons, List.filter_map]
  rfl

theorem enterAll_cls (index : List (String × Class)) (cs : List Class) :
    Registry.enterAll (index.map ρ.place) (cs.map ρ.cls) =
      (Registry.enterAll index cs).map ρ.place := by
  induction cs generalizing index with
  | nil => rfl
  | cons c cs ih =>
    simp only [List.map_cons, Registry.enterAll, List.foldl_cons, enter_cls]
    exact ih (Registry.enter index c)

end Renumbering

end JavaAtlas
