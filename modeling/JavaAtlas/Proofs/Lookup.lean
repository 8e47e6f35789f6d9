import JavaAtlas.Workspace

/-! Looking up a class without remembering anything, and why remembering does not show. What a
registry knows is said by its classes and its resolvers alone: `lookup`. A registry is `Faithful` if
its index and what it remembers agree with that. Every operation keeps a registry faithful, and a
faithful registry answers as if it remembered nothing: `Registry.Faithful.find`. -/

namespace JavaAtlas

deriving instance ReflBEq, LawfulBEq for RegistryId
deriving instance ReflBEq, LawfulBEq for UnitKey

/-! ### Association lists -/

section AssociationLists

variable {κ α : Type} [BEq κ] [LawfulBEq κ] [DecidableEq κ]

theorem lookup_cons_ite (key name : κ) (a : α) (ps : List (κ × α)) :
    ((key, a) :: ps).lookup name = if name = key then some a else ps.lookup name := by
  rw [List.lookup_cons]
  by_cases h : name = key
  · simp [h]
  · have hb : (name == key) = false := beq_eq_false_iff_ne.mpr h
    simp only [hb, h, if_false]

theorem lookup_filter_ne (ps : List (κ × α)) (key name : κ) :
    (ps.filter fun (n, _) => n != key).lookup name =
      if name = key then none else ps.lookup name := by
  induction ps with
  | nil => simp
  | cons p ps ih =>
    obtain ⟨n, a⟩ := p
    by_cases hn : n = key
    · rw [List.filter_cons_of_neg (by simp [hn]), ih, lookup_cons_ite, hn]
      split <;> rfl
    · rw [List.filter_cons_of_pos (by simp [hn]), lookup_cons_ite, lookup_cons_ite, ih]
      by_cases h : name = n
      · simp [h, hn]
      · simp [h]

end AssociationLists

theorem mem_of_lookup {α : Type} {ps : List (String × α)} {name : String} {a : α}
    (h : ps.lookup name = some a) : (name, a) ∈ ps := by
  obtain ⟨front, back, rfl, -⟩ := List.lookup_eq_some_iff.mp h
  exact List.mem_append_right front List.mem_cons_self

/-! ### Looking up without a memory -/

/-- The last class of a full name. -/
def lastNamed (cs : List Class) (name : String) : Option Class :=
  cs.reverse.find? fun c => c.fullName == name

theorem lastNamed_append (cs ds : List Class) (name : String) :
    lastNamed (cs ++ ds) name = (lastNamed ds name).or (lastNamed cs name) := by
  simp [lastNamed, List.find?_append]

/-- A class found by its full name has that name. -/
theorem fullName_of_lastNamed {cs : List Class} {name : String} {c : Class}
    (h : lastNamed cs name = some c) : c.fullName = name := by
  have := List.find?_some h
  simpa using this

theorem mem_of_lastNamed {cs : List Class} {name : String} {c : Class}
    (h : lastNamed cs name = some c) : c ∈ cs :=
  List.mem_reverse.mp (List.mem_of_find?_eq_some h)

namespace Resolver

/-- What a resolver answers, whatever it has noted before. -/
def answer (r : Resolver) (tool : Tool) (key : UnitKey) (name : String) :
    Except EntryError (Option Class) :=
  (r.ask tool true key name).answer

/-- A missing tool is noted once, but that changes no answer. -/
@[simp] theorem ask_answer (r : Resolver) (tool : Tool) (warned : Bool) (key : UnitKey)
    (name : String) : (r.ask tool warned key name).answer = r.answer tool key name := by
  cases r with
  | catalog => rfl
  | binaries classpath command =>
    simp only [answer, ask]
    cases commandOf tool command <;> rfl
  | bare => rfl

/-- The listing of a compiled class, if the tool gives one that can be read. -/
def listing? (tool : Tool) (binaryName : String) : Option Entry :=
  match tool.run binaryName with
  | .notRun _ => none
  | .finished code output _ => if code != 0 then none else Listing.read output

theorem exists_read_of_listing? {tool : Tool} {binaryName : String} {e : Entry}
    (h : listing? tool binaryName = some e) :
    ∃ output errors, tool.run binaryName = .finished 0 output errors ∧
      Listing.read output = some e := by
  unfold listing? at h
  split at h
  · simp at h
  · next code output errors hrun =>
    split at h
    · simp at h
    · next hcode =>
      obtain rfl : code = 0 := by simpa using hcode
      exact ⟨output, errors, hrun, h⟩

/-- The first of the binary names that has a listing decides what is answered. -/
theorem answer_listFirst (tool : Tool) (command : String) (classpath : List String)
    (key : UnitKey) (name : String) (bs : List String) :
    (listFirst tool command classpath key name bs).answer =
      match bs.findSome? (listing? tool) with
      | none => .ok none
      | some e => (e.toClass key name "resolver:javap").map some := by
  induction bs with
  | nil => rfl
  | cons b bs ih =>
    rw [List.findSome?_cons, listing?, listFirst]
    cases tool.run b with
    | notRun reason => exact ih
    | finished code output errors =>
      by_cases hcode : (code != 0) = true
      · simp only [hcode, if_true]
        exact ih
      · simp only [hcode, Bool.false_eq_true, if_false]
        cases Listing.read output with
        | none => exact ih
        | some e => rfl

/-- The answer of the first resolver that knows the name, or the failure of one before it. -/
def firstAnswer (tool : Tool) (key : UnitKey) (name : String) :
    List Resolver → Except EntryError (Option Class)
  | [] => .ok none
  | r :: rs =>
    match r.answer tool key name with
    | .ok none => firstAnswer tool key name rs
    | answer => answer

/-- A resolver behind others is asked only if none of them knows the name. -/
theorem firstAnswer_append (tool : Tool) (key : UnitKey) (name : String) (rs ss : List Resolver) :
    firstAnswer tool key name (rs ++ ss) =
      match firstAnswer tool key name rs with
      | .ok none => firstAnswer tool key name ss
      | answer => answer := by
  induction rs with
  | nil => rfl
  | cons r rs ih =>
    simp only [List.cons_append, firstAnswer]
    rcases r.answer tool key name with e | _ | c
    · rfl
    · exact ih
    · rfl

/-- The class that a chain of resolvers answers comes from one of them. -/
theorem exists_answer_of_firstAnswer {tool : Tool} {key : UnitKey} {name : String}
    {rs : List Resolver} {c : Class} (h : firstAnswer tool key name rs = .ok (some c)) :
    ∃ r ∈ rs, r.answer tool key name = .ok (some c) := by
  induction rs with
  | nil => simp [firstAnswer] at h
  | cons r rs ih =>
    simp only [firstAnswer] at h
    rcases hr : r.answer tool key name with e | _ | d
    · rw [hr] at h
      simp at h
    · rw [hr] at h
      obtain ⟨s, hs, ha⟩ := ih h
      exact ⟨s, List.mem_cons_of_mem r hs, ha⟩
    · rw [hr] at h
      exact ⟨r, List.mem_cons_self, hr.trans h⟩

end Resolver

/-- The class of a full name: the last one of that name, or else the one that the first resolver
knows under it. An empty name names nothing. -/
def lookup (tool : Tool) (id : RegistryId) (cs : List Class) (rs : List Resolver) (name : String) :
    Except EntryError (Option Class) :=
  if name.isEmpty then .ok none
  else
    match lastNamed cs name with
    | some c => .ok (some c)
    | none => Resolver.firstAnswer tool (.outside (some id) name) name rs

/-- A class that is found is the last one of the name, or a resolver answers with it. -/
theorem lookup_cases {tool : Tool} {id : RegistryId} {cs : List Class} {rs : List Resolver}
    {name : String} {c : Class} (h : lookup tool id cs rs name = .ok (some c)) :
    lastNamed cs name = some c ∨
      ∃ r ∈ rs, r.answer tool (.outside (some id) name) name = .ok (some c) := by
  rw [lookup] at h
  split at h
  · simp at h
  cases hl : lastNamed cs name with
  | some d =>
    rw [hl] at h
    exact Or.inl (by simpa using h)
  | none =>
    rw [hl] at h
    exact Or.inr (Resolver.exists_answer_of_firstAnswer h)

/-- The resolvers of links that have nothing else. -/
theorem map_resolver_link (rs : List Resolver) :
    (rs.map fun resolver => ({ resolver } : Link)).map Link.resolver = rs := by
  rw [List.map_map]
  exact List.map_id rs

namespace Registry

/-- The resolvers of a registry, in the order in which they are asked. -/
def resolvers (r : Registry) : List Resolver := r.chain.map Link.resolver

/-- What a registry would answer if it remembered nothing. -/
def known (r : Registry) (tool : Tool) (id : RegistryId) (name : String) :
    Except EntryError (Option Class) :=
  lookup tool id r.classes r.resolvers name

/-- The registry with nothing remembered, neither answers nor what was noted about the tool. -/
def forget (r : Registry) : Registry :=
  { r with chain := r.resolvers.map fun resolver => { resolver }, hits := [], misses := [] }

@[simp] theorem forget_grammar (r : Registry) : r.forget.grammar = r.grammar := rfl

@[simp] theorem forget_units (r : Registry) : r.forget.units = r.units := rfl

@[simp] theorem forget_classes (r : Registry) : r.forget.classes = r.classes := rfl

@[simp] theorem forget_index (r : Registry) : r.forget.index = r.index := rfl

@[simp] theorem forget_resolvers (r : Registry) : r.forget.resolvers = r.resolvers :=
  map_resolver_link r.resolvers

@[simp] theorem known_forget (r : Registry) : r.forget.known = r.known := by
  funext tool id name
  simp only [known, forget_classes, forget_resolvers]

/-- What a registry remembers is forgotten together with the labels and notes in its chain. -/
theorem forget_chain {r : Registry} {chain : List Link} {hits : List (String × Class)}
    {misses : List String} (h : chain.map Link.resolver = r.chain.map Link.resolver) :
    forget { r with chain, hits, misses } = r.forget := by
  simp only [forget, resolvers, h]

/-! ### The index -/

theorem lookup_enter (index : List (String × Class)) (c : Class) (name : String) :
    (enter index c).lookup name = if name = c.fullName then some c else index.lookup name := by
  rw [enter, lookup_cons_ite, lookup_filter_ne]
  split <;> rfl

/-- Of several classes of one name the one that was entered last is in the index. -/
theorem lookup_enterAll (index : List (String × Class)) (cs : List Class) (name : String) :
    (enterAll index cs).lookup name = (lastNamed cs name).or (index.lookup name) := by
  induction cs generalizing index with
  | nil => simp [enterAll, lastNamed]
  | cons c cs ih =>
    have hcons : enterAll index (c :: cs) = enterAll (enter index c) cs := rfl
    have happend : c :: cs = [c] ++ cs := rfl
    rw [hcons, ih, lookup_enter, happend, lastNamed_append]
    by_cases h : name = c.fullName
    · simp [lastNamed, h]
    · simp [lastNamed, h, Ne.symm h]

theorem enterAll_append (index : List (String × Class)) (cs ds : List Class) :
    enterAll index (cs ++ ds) = enterAll (enterAll index cs) ds :=
  List.foldl_append

/-! ### Chains -/

theorem askChain_answer (tool : Tool) (key : UnitKey) (name : String) (links : List Link) :
    (askChain tool key name links).1 =
      Resolver.firstAnswer tool key name (links.map Link.resolver) := by
  induction links with
  | nil => rfl
  | cons link links ih =>
    simp only [askChain, List.map_cons, Resolver.firstAnswer, Resolver.ask_answer]
    rcases link.resolver.answer tool key name with e | _ | c
    · rfl
    · exact ih
    · rfl

/-- Asking a chain leaves its resolvers as they are. -/
theorem askChain_resolvers (tool : Tool) (key : UnitKey) (name : String) (links : List Link) :
    (askChain tool key name links).2.1.map Link.resolver = links.map Link.resolver := by
  induction links with
  | nil => rfl
  | cons link links ih =>
    simp only [askChain, Resolver.ask_answer]
    rcases link.resolver.answer tool key name with e | _ | c
    · rfl
    · exact congrArg (link.resolver :: ·) ih
    · rfl

/-! ### Faithful registries -/

/-- The index holds the classes of the units, and what is remembered of the resolvers is what they
answer. -/
structure Faithful (r : Registry) (tool : Tool) (id : RegistryId) : Prop where
  index : r.index = enterAll [] r.classes
  hits : ∀ name c, r.hits.lookup name = some c →
    Resolver.firstAnswer tool (.outside (some id) name) name r.resolvers = .ok (some c)
  misses : ∀ name ∈ r.misses,
    Resolver.firstAnswer tool (.outside (some id) name) name r.resolvers = .ok none

variable {r s : Registry} {tool : Tool} {id : RegistryId}

theorem Faithful.lookup_index (h : r.Faithful tool id) (name : String) :
    r.index.lookup name = lastNamed r.classes name := by
  rw [h.index, lookup_enterAll]
  simp

/-- A registry that remembers other things is faithful if those are right, too. -/
theorem Faithful.of_forget_eq (h : r.Faithful tool id) (hs : s.forget = r.forget)
    (hits : ∀ name c, s.hits.lookup name = some c →
      Resolver.firstAnswer tool (.outside (some id) name) name r.resolvers = .ok (some c))
    (misses : ∀ name ∈ s.misses,
      Resolver.firstAnswer tool (.outside (some id) name) name r.resolvers = .ok none) :
    s.Faithful tool id where
  index := by
    rw [← forget_index, ← forget_classes, hs]
    exact h.index
  hits := by
    rw [← forget_resolvers, hs, forget_resolvers]
    exact hits
  misses := by
    rw [← forget_resolvers, hs, forget_resolvers]
    exact misses

/-- A registry that remembers nothing is faithful if its index is. -/
theorem faithful_of_index (index : r.index = enterAll [] r.classes) (hits : r.hits = [])
    (misses : r.misses = []) : r.Faithful tool id where
  index := index
  hits := by
    intro name c h
    simp [hits] at h
  misses := by
    intro name h
    simp [misses] at h

/-- A new unit cannot make a remembered answer wrong: no answer of a resolver depends on units. -/
theorem Faithful.addUnit (h : r.Faithful tool id) (u : SourceUnit) :
    (r.addUnit u).1.Faithful tool id where
  index := by
    have hc : (r.addUnit u).1.classes = r.classes ++ u.classes := by
      simp [Registry.addUnit, Registry.classes]
    rw [hc, enterAll_append, ← h.index]
    rfl
  hits := h.hits
  misses := h.misses

/-- A new resolver is asked last, so a remembered hit stays right. -/
theorem Faithful.addResolver (h : r.Faithful tool id) (link : Link) :
    (r.addResolver link).Faithful tool id where
  index := h.index
  hits := by
    intro name c hc
    have hr : (r.addResolver link).resolvers = r.resolvers ++ [link.resolver] := by
      simp [Registry.addResolver, Registry.resolvers]
    rw [hr, Resolver.firstAnswer_append, h.hits name c hc]
  misses := by intro name hn; simp [Registry.addResolver] at hn

section Remembering

variable {chain : List Link} {name : String}

/-- An answer of the chain may be remembered under the name it was asked for by. -/
theorem Faithful.rememberHit (h : r.Faithful tool id)
    (hchain : forget { r with chain } = r.forget) {c : Class}
    (hc : Resolver.firstAnswer tool (.outside (some id) name) name r.resolvers = .ok (some c)) :
    Faithful { r with chain, hits := (name, c) :: r.hits } tool id := by
  refine h.of_forget_eq hchain ?_ h.misses
  intro n d hl
  rw [lookup_cons_ite] at hl
  split at hl
  · next hn =>
    obtain rfl : c = d := Option.some.inj hl
    subst hn
    exact hc
  · exact h.hits n d hl

theorem Faithful.rememberMiss (h : r.Faithful tool id)
    (hchain : forget { r with chain } = r.forget)
    (hnone : Resolver.firstAnswer tool (.outside (some id) name) name r.resolvers = .ok none) :
    Faithful { r with chain, misses := name :: r.misses } tool id := by
  refine h.of_forget_eq hchain h.hits ?_
  intro n hn
  rcases List.mem_cons.mp hn with rfl | hn
  · exact hnone
  · exact h.misses n hn

end Remembering

/-- A look-up changes nothing but what is remembered, and remembers nothing wrong. -/
theorem Faithful.find (h : r.Faithful tool id) (name : String) :
    (r.find tool id name).answer = r.known tool id name ∧
      (r.find tool id name).registry.Faithful tool id ∧
      (r.find tool id name).registry.forget = r.forget := by
  simp only [Registry.find, Registry.known, lookup]
  by_cases he : name.isEmpty = true
  · simp only [he, if_true]
    exact ⟨trivial, h, trivial⟩
  simp only [he, Bool.false_eq_true, if_false, h.lookup_index]
  cases hd : lastNamed r.classes name with
  | some c => exact ⟨rfl, h, rfl⟩
  | none =>
    simp only [Option.none_or]
    cases hh : r.hits.lookup name with
    | some c => exact ⟨(h.hits name c hh).symm, h, rfl⟩
    | none =>
      by_cases hm : name ∈ r.misses
      · simp only [List.contains_iff_mem.mpr hm, if_true]
        exact ⟨(h.misses name hm).symm, h, trivial⟩
      simp only [List.contains_eq_mem, hm, decide_false, Bool.false_eq_true, if_false]
      -- nothing is remembered of the name, so the chain is asked
      have ha := askChain_answer tool (.outside (some id) name) name r.chain
      have hr := askChain_resolvers tool (.outside (some id) name) name r.chain
      generalize askChain tool (.outside (some id) name) name r.chain = asked at ha hr
      obtain ⟨answer, chain, trace⟩ := asked
      simp only at ha hr
      have hs : forget { r with chain } = r.forget := forget_chain hr
      rcases answer with e | _ | c
      · exact ⟨ha, h.of_forget_eq hs h.hits h.misses, hs⟩
      · exact ⟨ha, h.rememberMiss hs ha.symm, hs⟩
      · exact ⟨ha, h.rememberHit hs ha.symm, hs⟩

end Registry

end JavaAtlas
