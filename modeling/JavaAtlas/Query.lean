import JavaAtlas.Class.Basic

/-! Questions about classes. A question looks up classes by name, one after the other, and each
look-up may depend on the answers before it. How a look-up is answered, and what it remembers, is
not part of the question. -/

namespace JavaAtlas

/-- A question with an answer of type `α`: the answer, or a look-up and the question that follows
its outcome. -/
inductive Query (α : Type) where
  | answer (a : α)
  /-- Asks for the registry in which the unit of this number is registered. -/
  | home (unit : Nat) (next : Option RegistryId → Query α)
  /-- Asks for the units of a registry, in the order of registration. -/
  | sources (registry : RegistryId) (next : List SourceUnit → Query α)
  /-- Asks for a bound on the number of names that the registries know. -/
  | reach (next : Nat → Query α)
  /-- Asks a registry for the class of this name. -/
  | find (registry : RegistryId) (name : String) (next : Option Class → Query α)

namespace Query

/-- Asks the first question and then the one that its answer leads to. -/
def andThen {α β : Type} : Query α → (α → Query β) → Query β
  | .answer a, f => f a
  | .home unit next, f => .home unit fun r => (next r).andThen f
  | .sources registry next, f => .sources registry fun us => (next us).andThen f
  | .reach next, f => .reach fun n => (next n).andThen f
  | .find registry name next, f => .find registry name fun c => (next c).andThen f

instance : Monad Query where
  pure := .answer
  bind := andThen

@[simp] theorem pure_eq {α : Type} (a : α) : (pure a : Query α) = .answer a := rfl

@[simp] theorem answer_bind {α β : Type} (a : α) (f : α → Query β) : .answer a >>= f = f a := rfl

@[simp] theorem home_bind {α β : Type} (unit : Nat) (next : Option RegistryId → Query α)
    (f : α → Query β) : .home unit next >>= f = .home unit fun r => next r >>= f := rfl

@[simp] theorem sources_bind {α β : Type} (registry : RegistryId)
    (next : List SourceUnit → Query α) (f : α → Query β) :
    .sources registry next >>= f = .sources registry fun us => next us >>= f := rfl

@[simp] theorem reach_bind {α β : Type} (next : Nat → Query α) (f : α → Query β) :
    .reach next >>= f = .reach fun n => next n >>= f := rfl

@[simp] theorem find_bind {α β : Type} (registry : RegistryId) (name : String)
    (next : Option Class → Query α) (f : α → Query β) :
    .find registry name next >>= f = .find registry name fun c => next c >>= f := rfl

theorem bind_answer {α : Type} (q : Query α) : q >>= .answer = q := by
  induction q with
  | answer a => rfl
  | home unit next ih => simp [ih]
  | sources registry next ih => simp [ih]
  | reach next ih => simp [ih]
  | find registry name next ih => simp [ih]

theorem bind_bind {α β γ : Type} (q : Query α) (f : α → Query β) (g : β → Query γ) :
    q >>= f >>= g = q >>= fun a => f a >>= g := by
  induction q with
  | answer a => rfl
  | home unit next ih => simp [ih]
  | sources registry next ih => simp [ih]
  | reach next ih => simp [ih]
  | find registry name next ih => simp [ih]

instance : LawfulMonad Query := LawfulMonad.mk' Query bind_answer (fun _ _ => rfl) bind_bind

/-- The registry in which a unit is registered. -/
def homeOf : UnitKey → Query (Option RegistryId)
  | .source number => .home number .answer
  | .outside registry _ => .answer registry

/-- All classes of the units of a registry. -/
def classesOf (registry : RegistryId) : Query (List Class) :=
  .sources registry fun units => .answer (units.flatMap SourceUnit.classes)

/-- A bound on the number of names that the registries know. -/
def knownNames : Query Nat := .reach .answer

/-- The class that a registry has under a name. -/
def classNamed (registry : RegistryId) (name : String) : Query (Option Class) :=
  .find registry name .answer

end Query

/-- The registry of the unit in which a class stands. -/
def Class.registry? (c : Class) : Query (Option RegistryId) :=
  match c.unit with
  | none => return none
  | some unit => Query.homeOf unit.key

end JavaAtlas
