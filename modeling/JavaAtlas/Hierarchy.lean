import JavaAtlas.TypeRef

/-! Supertypes of a class: its superclasses, its interfaces and all types that it is. A hierarchy
may be cyclic, so every walk remembers the names it has met, and enters at most as many classes as
there are names: those that the registries know and that of the class where it starts. -/

namespace JavaAtlas.Class

/-- The classes that some references point at, as far as they are known. -/
def resolveAll : List TypeRef → Query (List Class)
  | [] => return []
  | r :: rs => do
    let found ← r.class?
    return found.toList ++ (← resolveAll rs)

/-- The references to declared supertypes: the interfaces first, then the superclass. The superclass
of an interface does not count. -/
def supertypeRefs (c : Class) : List TypeRef :=
  c.interfaces ++ if c.isInterface then [] else c.superclass?.toList

/-- The declared supertypes that are known. -/
def supertypes (c : Class) : Query (List Class) := resolveAll c.supertypeRefs

/-- A class that declares no superclass has the root as superclass, unless it is an interface. -/
def isRooted (c : Class) : Bool := !c.isInterface && c.decl.superclass.isNone

/-- One of the classes on the stack is, extends or implements `target`. The classes whose names were
met are not entered again; at most `bound` others are. -/
def anyIsA (target : String) (bound : Nat) (met : List String) : List Class → Query Bool
  | [] => return false
  | c :: rest =>
    if c.fullName == target then return true
    else if met.contains c.fullName then anyIsA target bound met rest
    else
      match bound with
      | 0 => return false
      | bound + 1 =>
        if c.isRooted && target == rootName then return true
        else do
          let above ← c.supertypes
          anyIsA target bound (c.fullName :: met) (above ++ rest)
termination_by stack => (bound, stack.length)

/-- The class is, extends or implements the type of this full name. -/
def isA (c : Class) (target : String) : Query Bool := do
  anyIsA target ((← Query.knownNames) + 1) [] [c]

/-- The class that is the superclass, if it is known. -/
def superclassClass (c : Class) : Query (Option Class) :=
  match c.effectiveSuperclass? with
  | none => return none
  | some r => r.class?

/-- The superclasses above a class whose names were not met, nearest first, at most `bound`. -/
def chainAbove : Nat → List String → Class → Query (List Class)
  | 0, _, _ => return []
  | bound + 1, met, c => do
    match ← c.superclassClass with
    | none => return []
    | some d =>
      if met.contains d.fullName then return []
      else return d :: (← chainAbove bound (d.fullName :: met) d)

/-- The known superclasses of a class, nearest first. -/
def superclasses (c : Class) : Query (List Class) := do
  chainAbove ((← Query.knownNames) + 1) [c.fullName] c

/-- The classes of a list whose names were not met, the first of each name. -/
def unmet (met : List String) : List Class → List Class
  | [] => []
  | c :: cs => if met.contains c.fullName then unmet met cs else c :: unmet (c.fullName :: met) cs

/-- The interfaces of the classes in a queue, in the order of discovery. `met` are the names of
interfaces found so far, `entered` those of classes that are or were in the queue. -/
def interfacesFrom : Nat → List String → List String → List Class → Query (List Class)
  | 0, _, _, _ => return []
  | _, _, _, [] => return []
  | bound + 1, met, entered, c :: queue => do
    let found := unmet met (← resolveAll c.interfaces)
    let names := found.map fullName
    let fresh := found.filter fun d => !entered.contains d.fullName
    return found ++ (← interfacesFrom bound (names ++ met) (names ++ entered) (queue ++ fresh))

/-- The known interfaces that a class implements, itself or through a supertype, each once and in
the order of discovery. -/
def allInterfaces (c : Class) : Query (List Class) := do
  let queue := c :: (← c.superclasses)
  interfacesFrom ((← Query.knownNames) + 1) [c.fullName] (queue.map fullName) queue

/-- The classes of a list for which a question has the answer yes. -/
def selected (question : Class → Query Bool) : List Class → Query (List Class)
  | [] => return []
  | c :: cs => do
    if ← question c then return c :: (← selected question cs) else selected question cs

/-- The classes of the same registry, other than the class itself, that extend or implement it. -/
def derived (c : Class) : Query (List Class) := do
  match ← c.registry? with
  | none => return []
  | some registry =>
    selected (fun d => if d.same c then return false else d.isA c.fullName)
      (← Query.classesOf registry)

end JavaAtlas.Class
