import JavaAtlas.Proofs.Lookup
import Mathlib.Data.List.Range

/-! The calls of a look-up. A registry that can tell what a name stands for calls no resolver, and
any other goes through its chain in order: `Registry.calls`, which agrees with what is recorded. What
a look-up does to the registry is said once, by `Registry.find_cases`, and from it follows what the
registry remembers afterwards. -/

namespace JavaAtlas

/-- A call of a resolver: its place in the chain, its label and its answer. -/
structure Call where
  position : Nat
  label : Option String
  answer : Except EntryError (Option Class)

/-- What a workspace records of the calls for a name. -/
def recordedFor (name : String) (calls : List Call) : List (String × String) :=
  calls.flatMap fun call => call.label.toList.map fun label => (label, name)

/-! ### Asking a chain -/

section Chain

variable (tool : Tool) (key : UnitKey) (name : String)

/-- The calls that are made in a chain until a resolver knows the name. Its first resolver has the
position `n`. -/
def callsFrom : Nat → List Link → List Call
  | _, [] => []
  | n, link :: links =>
    ⟨n, link.label, link.resolver.answer tool key name⟩ ::
      match link.resolver.answer tool key name with
      | .ok none => callsFrom (n + 1) links
      | _ => []

variable {tool key name}

theorem recordedFor_callsFrom (n : Nat) (links : List Link) :
    (Registry.askChain tool key name links).2.2.calls =
      recordedFor name (callsFrom tool key name n links) := by
  induction links generalizing n with
  | nil => rfl
  | cons link links ih =>
    simp only [Registry.askChain, callsFrom, Resolver.ask_answer]
    rcases link.resolver.answer tool key name with e | _ | c
    · simp [recordedFor, Registry.Link.calls]
    · show Registry.Link.calls link name ++ _ = _
      rw [ih (n + 1)]
      rfl
    · simp [recordedFor, Registry.Link.calls]

/-- A chain answers something if and only if one of the calls does. -/
theorem exists_callsFrom_iff (n : Nat) (links : List Link)
    {answer : Except EntryError (Option Class)} (hanswer : answer ≠ .ok none) :
    (∃ call ∈ callsFrom tool key name n links, call.answer = answer) ↔
      (Registry.askChain tool key name links).1 = answer := by
  induction links generalizing n with
  | nil => simpa [callsFrom, Registry.askChain] using hanswer.symm
  | cons link links ih =>
    simp only [Registry.askChain, callsFrom, Resolver.ask_answer]
    rcases link.resolver.answer tool key name with e | _ | c
    · simp
    · simpa [hanswer.symm] using ih (n + 1)
    · simp

theorem callsFrom_eq_nil_iff {n : Nat} {links : List Link} :
    callsFrom tool key name n links = [] ↔ links = [] := by
  cases links <;> simp [callsFrom]

theorem positions_callsFrom (n : Nat) (links : List Link) :
    (callsFrom tool key name n links).map Call.position <+: List.range' n links.length := by
  induction links generalizing n with
  | nil => exact List.prefix_rfl
  | cons link links ih =>
    rw [callsFrom, List.map_cons, List.length_cons, List.range'_succ, List.cons_prefix_cons]
    refine ⟨rfl, ?_⟩
    split
    · exact ih (n + 1)
    · exact List.nil_prefix

/-- Whoever is called before another knows nothing. -/
theorem pairwise_callsFrom (n : Nat) (links : List Link) :
    (callsFrom tool key name n links).Pairwise fun call _ => call.answer = .ok none := by
  induction links generalizing n with
  | nil => exact List.Pairwise.nil
  | cons link links ih =>
    rw [callsFrom]
    rcases link.resolver.answer tool key name with e | _ | c
    · exact List.pairwise_singleton _ _
    · exact List.pairwise_cons.mpr ⟨fun _ _ => rfl, ih (n + 1)⟩
    · exact List.pairwise_singleton _ _

/-- If nobody knows anything, all are called. -/
theorem length_callsFrom (n : Nat) (links : List Link)
    (h : ∀ call ∈ callsFrom tool key name n links, call.answer = .ok none) :
    (callsFrom tool key name n links).length = links.length := by
  induction links generalizing n with
  | nil => rfl
  | cons link links ih =>
    rw [callsFrom, List.forall_mem_cons] at h
    obtain ⟨hnone, hlater⟩ := h
    simp only at hnone
    rw [hnone] at hlater
    rw [callsFrom, hnone]
    exact congrArg (· + 1) (ih (n + 1) hlater)

theorem mem_callsFrom {n : Nat} {links : List Link} {call : Call}
    (h : call ∈ callsFrom tool key name n links) :
    ∃ link, (link, call.position) ∈ links.zipIdx n ∧ call.label = link.label ∧
      call.answer = link.resolver.answer tool key name := by
  induction links generalizing n with
  | nil => simp [callsFrom] at h
  | cons link links ih =>
    rw [callsFrom] at h
    rcases List.mem_cons.mp h with rfl | hlater
    · exact ⟨link, List.mem_cons_self, rfl, rfl⟩
    · split at hlater
      · obtain ⟨l, hl, hcall⟩ := ih hlater
        exact ⟨l, List.mem_cons_of_mem _ hl, hcall⟩
      · simp at hlater

end Chain

/-- The link as it was added, before any tool was missed. -/
def Link.unwarned (link : Link) : Link := { link with warned := false }

/-- Asking a chain changes only what is noted about the tool. -/
theorem Registry.askChain_unwarned (tool : Tool) (key : UnitKey) (name : String)
    (links : List Link) :
    (askChain tool key name links).2.1.map Link.unwarned = links.map Link.unwarned := by
  induction links with
  | nil => rfl
  | cons link links ih =>
    simp only [askChain, Resolver.ask_answer]
    rcases link.resolver.answer tool key name with e | _ | c
    · rfl
    · exact congrArg (link.unwarned :: ·) ih
    · rfl

/-! ### Looking a name up -/

namespace Registry

/-- The registry needs no resolver for the name: it is empty or that of a class, or what the
resolvers answer is remembered. -/
def settles (r : Registry) (name : String) : Bool :=
  name.isEmpty || (r.index.lookup name).isSome || (r.hits.lookup name).isSome ||
    r.misses.contains name

/-- The calls that a look-up makes. -/
def calls (r : Registry) (tool : Tool) (id : RegistryId) (name : String) : List Call :=
  if r.settles name then [] else callsFrom tool (.outside (some id) name) name 0 r.chain

/-- The registry after its chain was asked for a name. -/
def remember (r : Registry) (name : String) (chain : List Link) :
    Except EntryError (Option Class) → Registry
  | .ok (some c) => { r with chain, hits := (name, c) :: r.hits }
  | .ok none => { r with chain, misses := name :: r.misses }
  | .error _ => { r with chain }

variable {r : Registry} {tool : Tool} {id : RegistryId} {name other : String}

theorem settles_iff : r.settles name = true ↔
    name = "" ∨ (r.index.lookup name).isSome ∨ (r.hits.lookup name).isSome ∨ name ∈ r.misses := by
  simp [settles, or_assoc]

theorem calls_of_settles (h : r.settles name = true) : r.calls tool id name = [] := by
  rw [calls, if_pos h]

theorem calls_of_not_settles (h : r.settles name = false) :
    r.calls tool id name = callsFrom tool (.outside (some id) name) name 0 r.chain := by
  rw [calls, h]
  rfl

/-- A settled name is looked up without any effect. -/
theorem find_of_settles (h : r.settles name = true) :
    (r.find tool id name).registry = r ∧ (r.find tool id name).trace = {} := by
  rw [Registry.find]
  split
  · exact ⟨rfl, rfl⟩
  next hempty =>
    split
    · exact ⟨rfl, rfl⟩
    next hnone =>
      obtain ⟨hindex, hhits⟩ := Option.or_eq_none_iff.mp hnone
      have hmiss : r.misses.contains name = true := by
        simpa [settles, hempty, hindex, hhits] using h
      rw [if_pos hmiss]
      exact ⟨rfl, rfl⟩

/-- For any other name the chain is asked, and its answer is remembered. -/
theorem find_of_not_settles (h : r.settles name = false) :
    let asked := askChain tool (.outside (some id) name) name r.chain
    (r.find tool id name).registry = r.remember name asked.2.1 asked.1 ∧
      (r.find tool id name).trace = asked.2.2 := by
  simp only [settles, Bool.or_eq_false_iff, Option.isSome_eq_false_iff, Option.isNone_iff_eq_none]
    at h
  obtain ⟨⟨⟨hempty, hindex⟩, hhits⟩, hmiss⟩ := h
  simp only [Registry.find, hempty, hindex, hhits, hmiss, Option.or_none, Bool.false_eq_true,
    if_false]
  rcases askChain tool (.outside (some id) name) name r.chain with ⟨e | _ | c, chain, trace⟩ <;>
    exact ⟨rfl, rfl⟩

theorem recordedFor_calls (r : Registry) (tool : Tool) (id : RegistryId) (name : String) :
    (r.find tool id name).trace.calls = recordedFor name (r.calls tool id name) := by
  by_cases h : r.settles name = true
  · rw [(find_of_settles h).2, calls_of_settles h]
    rfl
  · rw [Bool.not_eq_true] at h
    rw [(find_of_not_settles h).2, calls_of_not_settles h, recordedFor_callsFrom]

theorem nodup_positions_calls (r : Registry) (tool : Tool) (id : RegistryId) (name : String) :
    ((r.calls tool id name).map Call.position).Nodup := by
  rw [calls]
  split
  · exact List.nodup_nil
  · exact (positions_callsFrom 0 r.chain).sublist.nodup List.nodup_range'

/-- What a look-up can do: nothing, or ask the chain and remember its answer. Unless nobody knows the
name, that is the answer of a call. -/
theorem find_cases (r : Registry) (tool : Tool) (id : RegistryId) (name : String) :
    r.settles name = true ∧ r.calls tool id name = [] ∧ (r.find tool id name).registry = r ∨
      ∃ answer chain, r.settles name = false ∧
        (r.find tool id name).registry = r.remember name chain answer ∧
        chain.map Link.unwarned = r.chain.map Link.unwarned ∧
        ∀ a ≠ .ok none, (∃ call ∈ r.calls tool id name, call.answer = a) ↔ answer = a := by
  by_cases h : r.settles name = true
  · exact Or.inl ⟨h, calls_of_settles h, (find_of_settles h).1⟩
  · rw [Bool.not_eq_true] at h
    refine Or.inr ⟨_, _, h, (find_of_not_settles h).1, askChain_unwarned .., fun a ha => ?_⟩
    rw [calls_of_not_settles h]
    exact exists_callsFrom_iff 0 r.chain ha

theorem find_units (r : Registry) (tool : Tool) (id : RegistryId) (name : String) :
    (r.find tool id name).registry.units = r.units := by
  rcases r.find_cases tool id name with ⟨-, -, hr⟩ | ⟨e | _ | c, chain, -, hr, -⟩
  · rw [hr]
  all_goals
    rw [hr]
    rfl

/-- A look-up leaves the chain as it is, but for what is noted about the tool. -/
theorem find_chain (r : Registry) (tool : Tool) (id : RegistryId) (name : String) :
    (r.find tool id name).registry.chain.map Link.unwarned = r.chain.map Link.unwarned := by
  rcases r.find_cases tool id name with ⟨-, -, hr⟩ | ⟨e | _ | c, chain, -, hr, hchain, -⟩
  · rw [hr]
  all_goals
    rw [hr]
    exact hchain

/-- A hit is remembered if it was before, or if a call brings it. -/
theorem isSome_hits_find : ((r.find tool id other).registry.hits.lookup name).isSome = true ↔
    (r.hits.lookup name).isSome = true ∨
      other = name ∧ ∃ call ∈ r.calls tool id other, ∃ c, call.answer = .ok (some c) := by
  rcases r.find_cases tool id other with ⟨-, hcalls, hr⟩ | ⟨answer, chain, -, hr, -, hcalls⟩
  · rw [hr, hcalls]
    simp
  have hhit : (∃ call ∈ r.calls tool id other, ∃ c, call.answer = .ok (some c)) ↔
      ∃ c, answer = .ok (some c) := by
    simp only [← hcalls (.ok (some _)) (by simp)]
    grind
  rw [hhit, hr]
  rcases answer with e | _ | c
  · simp [remember]
  · simp [remember]
  · simp only [remember, lookup_cons_ite]
    by_cases hname : name = other
    · simp [hname]
    · simp [hname, Ne.symm hname]

/-- A miss is remembered only if it was before, or if no resolver knew the name just now. -/
theorem mem_misses_find (h : name ∈ (r.find tool id other).registry.misses) :
    name ∈ r.misses ∨ other = name ∧ r.settles name = false := by
  rcases r.find_cases tool id other with ⟨-, -, hr⟩ | ⟨e | _ | c, chain, hsettles, hr, -⟩
  · rw [hr] at h
    exact Or.inl h
  all_goals rw [hr] at h
  · exact Or.inl h
  · rcases List.mem_cons.mp h with rfl | hmem
    · exact Or.inr ⟨rfl, hsettles⟩
    · exact Or.inl hmem
  · exact Or.inl h

theorem settles_addUnit (h : r.settles name = true) (u : SourceUnit) :
    (r.addUnit u).1.settles name = true := by
  rw [settles_iff] at h ⊢
  have hindex : (r.addUnit u).1.index.lookup name =
      (lastNamed u.classes name).or (r.index.lookup name) := lookup_enterAll ..
  rw [hindex]
  rcases h with hempty | hdeclared | hremembered
  · exact Or.inl hempty
  · exact Or.inr (Or.inl (by simp [hdeclared]))
  · exact Or.inr (Or.inr hremembered)

/-- A look-up settles the name, unless a call fails, and unsettles none. -/
theorem settles_find (h : r.settles name = true ∨
    other = name ∧ ∀ call ∈ r.calls tool id other, call.answer.isOk = true) :
    (r.find tool id other).registry.settles name = true := by
  rcases r.find_cases tool id other with ⟨hsettles, -, hr⟩ | ⟨answer, chain, -, hr, -, hcalls⟩
  · rw [hr]
    rcases h with h | ⟨rfl, -⟩
    · exact h
    · exact hsettles
  rw [hr]
  rcases h with h | ⟨rfl, hok⟩
  · rw [settles_iff] at h ⊢
    rcases answer with e | _ | c
    · exact h
    · simp only [remember, List.mem_cons]
      tauto
    · simp only [remember, lookup_cons_ite]
      split <;> simp_all
  · rw [settles_iff]
    rcases answer with e | _ | c
    · -- a failure of the chain is that of a call
      obtain ⟨call, hmem, hfail⟩ := (hcalls (.error e) (by simp)).mpr rfl
      have hcall := hok call hmem
      simp [hfail, Except.isOk, Except.toBool] at hcall
    · simp [remember]
    · simp [remember]

end Registry

end JavaAtlas
