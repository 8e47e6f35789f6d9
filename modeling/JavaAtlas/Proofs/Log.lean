import JavaAtlas.Proofs.Calls
import JavaAtlas.Proofs.Outside
import JavaAtlas.Proofs.Reachable
import Mathlib.Data.List.DropRight

/-! When resolvers are called. A `History.log` lists what a history comes to for its registry: the
units and resolvers that are added and the look-ups, each with the calls that it makes. Step by step
the registry accounts for what happened before, and so resolvers are called as rarely as what it
remembers allows: `History.calls_warranted`. -/

namespace JavaAtlas

/-- Something that happens to a registry. -/
inductive Event where
  | added (u : SourceUnit)
  | linked (link : Link)
  | asked (name : String) (calls : List Call)

namespace Event

def recorded (log : List Event) : List (String × String) :=
  log.flatMap fun
    | .asked name calls => recordedFor name calls
    | _ => []

def unitsOf (log : List Event) : List SourceUnit :=
  log.filterMap fun
    | .added u => some u
    | _ => none

def linksOf (log : List Event) : List Link :=
  log.filterMap fun
    | .linked link => some link
    | _ => none

/-- All calls for a name, those of one look-up after those of another. -/
def callsFor (name : String) (log : List Event) : List Call :=
  log.flatMap fun
    | .asked other calls => if other = name then calls else []
    | _ => []

/-- What happened since the last resolver was added. -/
def sinceLink (log : List Event) : List Event :=
  log.rtakeWhile fun
    | .linked _ => false
    | _ => true

variable {log : List Event} {name : String} {call : Call}

theorem callsFor_append (name : String) (log more : List Event) :
    callsFor name (log ++ more) = callsFor name log ++ callsFor name more :=
  List.flatMap_append

theorem callsFor_asked (name other : String) (calls : List Call) :
    callsFor name [.asked other calls] = if other = name then calls else [] := by
  simp [callsFor]

theorem sinceLink_added (log : List Event) (u : SourceUnit) :
    sinceLink (log ++ [.added u]) = sinceLink log ++ [.added u] :=
  List.rtakeWhile_concat_pos _ _ _ rfl

theorem sinceLink_linked (log : List Event) (link : Link) :
    sinceLink (log ++ [.linked link]) = [] :=
  List.rtakeWhile_concat_neg _ _ _ Bool.false_ne_true

theorem sinceLink_asked (log : List Event) (name : String) (calls : List Call) :
    sinceLink (log ++ [.asked name calls]) = sinceLink log ++ [.asked name calls] :=
  List.rtakeWhile_concat_pos _ _ _ rfl

theorem mem_callsFor (h : call ∈ callsFor name log) :
    ∃ before calls later, log = before ++ .asked name calls :: later ∧ call ∈ calls := by
  obtain ⟨e, he, hcall⟩ := List.mem_flatMap.mp h
  obtain ⟨before, later, rfl⟩ := List.append_of_mem he
  cases e with
  | added u => simp at hcall
  | linked link => simp at hcall
  | asked other calls =>
    simp only at hcall
    split at hcall
    next hname => exact ⟨before, calls, later, hname ▸ rfl, hcall⟩
    · simp at hcall

theorem mem_callsFor_of_sinceLink (h : call ∈ callsFor name (sinceLink log)) :
    call ∈ callsFor name log := by
  obtain ⟨e, he, hcall⟩ := List.mem_flatMap.mp h
  exact List.mem_flatMap.mpr ⟨e, (List.rtakeWhile_suffix _ log).mem he, hcall⟩

/-- Nothing that happened settles the name: no class has it, and no resolver knew it. -/
@[mk_iff]
structure Unsettled (log : List Event) (name : String) : Prop where
  named : name ≠ ""
  undeclared : ∀ c ∈ (unitsOf log).flatMap SourceUnit.classes, c.fullName ≠ name
  unknown : ∀ call ∈ callsFor name log, ∀ c, call.answer ≠ .ok (some c)

/-- The calls of a look-up are those that the events before it call for. -/
structure Warranted (tool : Tool) (id : RegistryId) (before : List Event) (name : String)
    (calls : List Call) : Prop where
  unsettled : calls ≠ [] → Unsettled before name
  /-- The chain is gone through from its first resolver on. -/
  inOrder : calls.map Call.position <+: List.range (linksOf before).length
  answers : ∀ call ∈ calls, ∃ link, (linksOf before)[call.position]? = some link ∧
    call.label = link.label ∧
    call.answer = link.resolver.answer tool (.outside (some id) name) name
  /-- Nobody is called behind one that knows the name or fails. -/
  stops : calls.Pairwise fun call _ => call.answer = .ok none
  goesOn : calls ≠ [] → (∀ call ∈ calls, call.answer = .ok none) →
    calls.length = (linksOf before).length
  /-- Calls are left out only for a reason. -/
  needed : Unsettled before name → callsFor name (sinceLink before) = [] →
    linksOf before ≠ [] → calls ≠ []

end Event

open Event

/-! ### Registries and their events -/

/-- The events that can happen to a registry, and what becomes of it. -/
inductive Registry.Does (tool : Tool) (id : RegistryId) (r : Registry) : Event → Registry → Prop
  | added (u : SourceUnit) : Does tool id r (.added u) (r.addUnit u).1
  | linked (link : Link) : Does tool id r (.linked link) (r.addResolver link)
  | asked (name : String) :
      Does tool id r (.asked name (r.calls tool id name)) (r.find tool id name).registry

/-- One event after the other. -/
inductive Registry.Trail (tool : Tool) (id : RegistryId) : Registry → List Event → Registry → Prop
  | nil (r : Registry) : Trail tool id r [] r
  | cons {r s t : Registry} {e : Event} {log : List Event} :
      r.Does tool id e s → Trail tool id s log t → Trail tool id r (e :: log) t

namespace Registry

variable {r s t : Registry} {tool : Tool} {id : RegistryId} {log more : List Event} {e : Event}
  {name : String}

theorem Trail.single (h : r.Does tool id e s) : r.Trail tool id [e] s := .cons h (.nil s)

theorem trail_append_iff :
    r.Trail tool id (log ++ more) t ↔ ∃ s, r.Trail tool id log s ∧ s.Trail tool id more t := by
  induction log generalizing r with
  | nil =>
    constructor
    · exact fun h => ⟨r, .nil r, h⟩
    · rintro ⟨s, ⟨⟩, h⟩
      exact h
  | cons e log ih =>
    constructor
    · rintro (_ | ⟨he, h⟩)
      obtain ⟨s, hlog, hmore⟩ := ih.mp h
      exact ⟨s, .cons he hlog, hmore⟩
    · rintro ⟨s, _ | ⟨he, hlog⟩, hmore⟩
      exact .cons he (ih.mpr ⟨s, hlog, hmore⟩)

/-- What a registry is and remembers, in terms of the events that led to it. -/
structure Accounts (r : Registry) (tool : Tool) (id : RegistryId) (log : List Event) : Prop where
  faithful : r.Faithful tool id
  units : r.units = unitsOf log
  chain : r.chain.map Link.unwarned = (linksOf log).map Link.unwarned
  hits : ∀ name, (r.hits.lookup name).isSome = true ↔
    ∃ call ∈ callsFor name log, ∃ c, call.answer = .ok (some c)
  misses : ∀ name ∈ r.misses, linksOf log = [] ∨ callsFor name (sinceLink log) ≠ []
  /-- Calls that do not fail settle the name until a resolver is added. -/
  settles : ∀ name, (∀ call ∈ callsFor name (sinceLink log), call.answer.isOk = true) →
    callsFor name (sinceLink log) ≠ [] → r.settles name = true
  /-- So they are made once only. -/
  once : ∀ name, (∀ call ∈ callsFor name (sinceLink log), call.answer.isOk = true) →
    ((callsFor name (sinceLink log)).map Call.position).Nodup

theorem Accounts.linksOf_eq_nil_iff (h : r.Accounts tool id log) :
    linksOf log = [] ↔ r.chain = [] := by
  rw [← List.map_eq_nil_iff (f := Link.unwarned), ← h.chain, List.map_eq_nil_iff]

theorem accounts_nil (grammar : Value) : Accounts { grammar } tool id [] where
  faithful := faithful_of_index rfl rfl rfl
  units := rfl
  chain := rfl
  hits name := by simp [callsFor]
  misses name h := by simp at h
  settles name _ h := absurd rfl h
  once name _ := List.nodup_nil

theorem Accounts.addUnit (h : r.Accounts tool id log) (u : SourceUnit) :
    (r.addUnit u).1.Accounts tool id (log ++ [.added u]) := by
  have hcalls (name : String) (log : List Event) :
      callsFor name (log ++ [.added u]) = callsFor name log := by
    simp [callsFor]
  have hlinks : linksOf (log ++ [.added u]) = linksOf log := by
    simp [linksOf]
  constructor
  · exact h.faithful.addUnit u
  · simp [Registry.addUnit, unitsOf, h.units]
  · rw [hlinks]
    exact h.chain
  · intro name
    rw [hcalls]
    exact h.hits name
  · intro name
    rw [hlinks, sinceLink_added, hcalls]
    exact h.misses name
  · intro name
    rw [sinceLink_added, hcalls]
    exact fun hok hne => settles_addUnit (h.settles name hok hne) u
  · simpa only [sinceLink_added, hcalls] using h.once

theorem Accounts.addResolver (h : r.Accounts tool id log) (link : Link) :
    (r.addResolver link).Accounts tool id (log ++ [.linked link]) := by
  constructor
  · exact h.faithful.addResolver link
  · simpa [Registry.addResolver, unitsOf] using h.units
  · simp [Registry.addResolver, linksOf, h.chain]
  · intro name
    have hcalls : callsFor name (log ++ [.linked link]) = callsFor name log := by
      simp [callsFor]
    rw [hcalls]
    exact h.hits name
  · intro name hmem
    simp [Registry.addResolver] at hmem
  · intro name _ hne
    rw [sinceLink_linked] at hne
    exact absurd rfl hne
  · intro name _
    rw [sinceLink_linked]
    exact List.nodup_nil

theorem Accounts.find (h : r.Accounts tool id log) (name : String) :
    (r.find tool id name).registry.Accounts tool id
      (log ++ [.asked name (r.calls tool id name)]) := by
  have hlinks : linksOf (log ++ [.asked name (r.calls tool id name)]) = linksOf log := by
    simp [linksOf]
  constructor
  · exact (h.faithful.find name).2.1
  · simpa [unitsOf, r.find_units] using h.units
  · rw [r.find_chain, hlinks]
    exact h.chain
  · intro other
    rw [isSome_hits_find, h.hits, callsFor_append, callsFor_asked]
    by_cases hname : name = other
    · simp only [hname, true_and, if_true, List.mem_append, or_and_right, exists_or]
    · simp [hname]
  · intro other hmem
    rw [hlinks, sinceLink_asked, callsFor_append, callsFor_asked]
    rcases mem_misses_find hmem with hmem | ⟨rfl, hsettles⟩
    · rcases h.misses other hmem with hnone | hne
      · exact Or.inl hnone
      · exact Or.inr (List.append_ne_nil_of_left_ne_nil hne _)
    · rw [if_pos rfl, calls_of_not_settles hsettles]
      by_cases hchain : r.chain = []
      · exact Or.inl (h.linksOf_eq_nil_iff.mpr hchain)
      · exact Or.inr (List.append_ne_nil_of_right_ne_nil _ (callsFrom_eq_nil_iff.not.mpr hchain))
  · intro other
    rw [sinceLink_asked, callsFor_append, callsFor_asked]
    intro hok hne
    obtain ⟨hbefore, hnow⟩ := List.forall_mem_append.mp hok
    apply settles_find
    by_cases hname : name = other
    · rw [if_pos hname] at hnow
      exact Or.inr ⟨hname, hnow⟩
    · rw [if_neg hname, List.append_nil] at hne
      exact Or.inl (h.settles other hbefore hne)
  · intro other
    rw [sinceLink_asked, callsFor_append, callsFor_asked]
    intro hok
    obtain ⟨hbefore, -⟩ := List.forall_mem_append.mp hok
    by_cases hnil : callsFor other (sinceLink log) = []
    · rw [hnil, List.nil_append]
      split
      · exact nodup_positions_calls ..
      · exact List.nodup_nil
    · -- the name is settled already, so nobody is called for it
      have hsettles := h.settles other hbefore hnil
      have hnow : (if name = other then r.calls tool id name else []) = [] := by
        split
        next hname => exact calls_of_settles (hname ▸ hsettles)
        · rfl
      rw [hnow, List.append_nil]
      exact h.once other hbefore

theorem Accounts.does (h : r.Accounts tool id log) (hs : r.Does tool id e s) :
    s.Accounts tool id (log ++ [e]) := by
  cases hs with
  | added u => exact h.addUnit u
  | linked link => exact h.addResolver link
  | asked name => exact h.find name

theorem Accounts.trail (h : r.Accounts tool id log) (hs : r.Trail tool id more s) :
    s.Accounts tool id (log ++ more) := by
  induction hs generalizing log with
  | nil r => simpa using h
  | cons he _ ih => simpa using ih (h.does he)

theorem Accounts.isSome_index_iff (h : r.Accounts tool id log) (name : String) :
    (r.index.lookup name).isSome = true ↔
      ∃ c ∈ (unitsOf log).flatMap SourceUnit.classes, c.fullName = name := by
  have hclasses : r.classes = (unitsOf log).flatMap SourceUnit.classes := by
    rw [Registry.classes, h.units]
  rw [h.faithful.lookup_index, hclasses, lastNamed, List.find?_isSome]
  simp

theorem Accounts.settles_eq_false_iff (h : r.Accounts tool id log) (name : String) :
    r.settles name = false ↔ Unsettled log name ∧ name ∉ r.misses := by
  rw [← Bool.not_eq_true, settles_iff, h.isSome_index_iff, h.hits, unsettled_iff]
  grind

/-- The links of the chain are those that were added, but for what is noted about the tool. -/
theorem Accounts.exists_link (h : r.Accounts tool id log) {n : Nat} {link : Link}
    (hlink : r.chain[n]? = some link) :
    ∃ l, (linksOf log)[n]? = some l ∧ link.label = l.label ∧ link.resolver = l.resolver := by
  have hmap : ((linksOf log).map Link.unwarned)[n]? = some link.unwarned := by
    rw [← h.chain, List.getElem?_map, hlink]
    rfl
  rw [List.getElem?_map] at hmap
  obtain ⟨l, hl, heq⟩ := Option.map_eq_some_iff.mp hmap
  exact ⟨l, hl, (congrArg Link.label heq).symm, (congrArg Link.resolver heq).symm⟩

theorem Accounts.warranted (h : r.Accounts tool id log) (name : String) :
    Warranted tool id log name (r.calls tool id name) := by
  have hsettles := h.settles_eq_false_iff name
  cases hs : r.settles name with
  | true =>
    rw [calls_of_settles hs]
    constructor
    · exact absurd rfl
    · exact List.nil_prefix
    · simp
    · exact List.Pairwise.nil
    · exact absurd rfl
    · -- the name is settled all the same, so it was missed after the last resolver came
      intro hunsettled hnone hlinks
      have hmiss : name ∈ r.misses := by
        by_contra hmiss
        rw [hsettles.mpr ⟨hunsettled, hmiss⟩] at hs
        contradiction
      exact ((h.misses name hmiss).resolve_left hlinks hnone).elim
  | false =>
    have hlength : r.chain.length = (linksOf log).length := by
      simpa using congrArg List.length h.chain
    rw [calls_of_not_settles hs]
    constructor
    · exact fun _ => (hsettles.mp hs).1
    · rw [← hlength, List.range_eq_range']
      exact positions_callsFrom 0 r.chain
    · intro call hcall
      obtain ⟨link, hlink, hlabel, hanswer⟩ := mem_callsFrom hcall
      obtain ⟨l, hl, hlabel', hresolver⟩ :=
        h.exists_link (List.mem_zipIdx_iff_getElem?.mp hlink)
      exact ⟨l, hl, hlabel.trans hlabel', hresolver ▸ hanswer⟩
    · exact pairwise_callsFrom 0 r.chain
    · intro _ hnone
      rw [← hlength]
      exact length_callsFrom 0 r.chain hnone
    · intro _ _ hlinks
      exact callsFrom_eq_nil_iff.not.mpr (h.linksOf_eq_nil_iff.not.mp hlinks)

end Registry

/-! ### The log of a history -/

/-- The look-ups of a question and the calls they make. -/
def Workspace.lookups {α : Type} : Query α → Workspace → List Event
  | .answer _, _ => []
  | .home unit next, w => lookups (next (w.home? unit)) w
  | .sources id next, w => lookups (next ((w.registry? id).map Registry.units |>.getD [])) w
  | .reach next, w => lookups (next w.reach) w
  | .find id name next, w =>
    let asked := (w.registry? id).toList.map fun r => .asked name (r.calls w.tool id name)
    match w.find id name with
    | (.ok found, w) => asked ++ lookups (next found) w
    | (.error _, _) => asked

namespace History

/-- What a step comes to for the registry. -/
def Step.events (w : Workspace) : Step → List Event
  | .assemble _ _ => []
  | .addUnit u => [.added u]
  | .addResolver link => [.linked link]
  | .ask q => w.lookups q

def logFrom (w : Workspace) : List Step → List Event
  | [] => []
  | step :: steps => step.events w ++ logFrom (step.apply w) steps

/-- All that happened to the registry, in order. -/
def log (tool : Tool) (grammar : Value) (steps : List Step) : List Event :=
  logFrom (start tool grammar) steps

/-- The events of the log led to the registry of the workspace, and to the calls that it records. -/
structure Logged (tool : Tool) (grammar : Value) (w : Workspace) (past : List Event) : Prop where
  registry : ∃ r, w.registries = [r] ∧ Registry.Trail tool main { grammar } past r
  calls : w.trace.calls = recorded past
  tool : w.tool = tool

variable {tool : Tool} {grammar : Value} {w : Workspace} {past : List Event}

theorem registry?_of_singleton {r : Registry} (h : w.registries = [r]) (id : RegistryId) :
    w.registry? id = if id = main then some r else none := by
  obtain ⟨n⟩ := id
  cases n with
  | zero => simp [Workspace.registry?, h, main]
  | succ n => simp [Workspace.registry?, h, main]

theorem registries_setRegistry_main {r : Registry} (h : w.registries = [r]) (s : Registry) :
    (w.setRegistry main s).registries = [s] := by
  show w.registries.set 0 s = [s]
  rw [h]
  rfl

/-- One more event. -/
theorem Logged.does {r s : Registry} {e : Event} {w' : Workspace} (h : Logged tool grammar w past)
    (hr : w.registries = [r]) (hs : w'.registries = [s]) (he : r.Does tool main e s)
    (htool : w'.tool = w.tool) (hcalls : w'.trace.calls = w.trace.calls ++ recorded [e]) :
    Logged tool grammar w' (past ++ [e]) := by
  obtain ⟨r', hr', htrail⟩ := h.registry
  obtain rfl : r' = r := by simpa [hr'] using hr
  refine ⟨⟨s, hs, ?_⟩, ?_, htool.trans h.tool⟩
  · exact Registry.trail_append_iff.mpr ⟨r', htrail, .single he⟩
  · rw [hcalls, h.calls]
    simp [recorded]

theorem Logged.find (h : Logged tool grammar w past) (id : RegistryId) (name : String) :
    Logged tool grammar (w.find id name).2
      (past ++ (w.registry? id).toList.map fun r => .asked name (r.calls w.tool id name)) := by
  obtain ⟨r, hr, -⟩ := h.registry
  have htool := h.tool
  have hregistry := registry?_of_singleton hr id
  by_cases hid : id = main
  · subst hid
    rw [if_pos rfl] at hregistry
    rw [Workspace.find, hregistry]
    subst htool
    refine h.does hr (registries_setRegistry_main hr _) (.asked name) rfl ?_
    · show w.trace.calls ++ (r.find w.tool main name).trace.calls = _
      rw [r.recordedFor_calls]
      simp [recorded]
  · rw [if_neg hid] at hregistry
    rw [Workspace.find, hregistry]
    simpa using h

theorem Logged.run {α : Type} (h : Logged tool grammar w past) (q : Query α) :
    Logged tool grammar (w.run q).2 (past ++ w.lookups q) := by
  induction q generalizing w past with
  | answer a => simpa [Workspace.lookups, Workspace.run] using h
  | home unit next ih => exact ih _ h
  | sources id next ih => exact ih _ h
  | reach next ih => exact ih _ h
  | find id name next ih =>
    have hfind := h.find id name
    simp only [Workspace.run, Workspace.lookups]
    generalize w.find id name = found at hfind
    obtain ⟨e | c, w'⟩ := found
    · exact hfind
    · simpa using ih c hfind

theorem Logged.step (h : Logged tool grammar w past) (step : Step) :
    Logged tool grammar (step.apply w) (past ++ step.events w) := by
  obtain ⟨r, hr, -⟩ := h.registry
  have hregistry := registry?_of_singleton hr main
  rw [if_pos rfl] at hregistry
  cases step with
  | assemble decl origin =>
    rw [Step.events, List.append_nil]
    exact ⟨h.registry, h.calls, h.tool⟩
  | addUnit u =>
    have hsettle : (w.settle u.key main).registries = w.registries ∧
        (w.settle u.key main).trace = w.trace := by
      cases u.key <;> exact ⟨rfl, rfl⟩
    have hadd : Step.apply w (.addUnit u) =
        ((w.settle u.key main).setRegistry main (r.addUnit u).1).record (r.addUnit u).2 := by
      rw [Step.apply, Workspace.addUnit, hregistry]
    refine h.does hr ?_ (.added u) (Workspace.addUnit_tool ..) ?_
    · rw [hadd]
      exact registries_setRegistry_main (hsettle.1.trans hr) _
    · rw [hadd]
      show (w.settle u.key main).trace.calls ++ [] = _
      rw [hsettle.2]
      rfl
  | addResolver link =>
    have hadd : Step.apply w (.addResolver link) = w.setRegistry main (r.addResolver link) := by
      rw [Step.apply, Workspace.addResolver, hregistry]
    refine h.does hr ?_ (.linked link) (Workspace.addResolver_tool ..) ?_
    · rw [hadd]
      exact registries_setRegistry_main hr _
    · rw [hadd]
      exact (List.append_nil _).symm
  | ask q => exact h.run q

theorem logged_after (tool : Tool) (grammar : Value) (steps : List Step) :
    Logged tool grammar (after tool grammar steps) (log tool grammar steps) := by
  suffices ∀ w past, Logged tool grammar w past →
      Logged tool grammar (steps.foldl Step.apply w) (past ++ logFrom w steps) from
    this _ [] ⟨⟨_, rfl, .nil _⟩, rfl, rfl⟩
  induction steps with
  | nil => exact fun w past h => by simpa [logFrom] using h
  | cons step steps ih =>
    intro w past h
    rw [logFrom, ← List.append_assoc]
    exact ih _ _ (h.step step)

/-- At every point of a log the registry accounts for what happened before. -/
theorem exists_accounts {steps : List Step} {before later : List Event}
    (h : log tool grammar steps = before ++ later) :
    ∃ r s, Registry.Accounts r tool main before ∧ r.Trail tool main later s := by
  obtain ⟨s, -, htrail⟩ := (logged_after tool grammar steps).registry
  rw [h] at htrail
  obtain ⟨r, hbefore, hlater⟩ := Registry.trail_append_iff.mp htrail
  exact ⟨r, s, (Registry.accounts_nil grammar).trail hbefore, hlater⟩

theorem warranted_of_log_eq {steps : List Step} {before later : List Event} {name : String}
    {calls : List Call} (h : log tool grammar steps = before ++ .asked name calls :: later) :
    Warranted tool main before name calls := by
  obtain ⟨r, s, haccounts, _ | ⟨⟨⟩, _⟩⟩ := exists_accounts h
  exact haccounts.warranted name

/-- The units and resolvers of the log are those of the history. -/
theorem additions_log (tool : Tool) (grammar : Value) (steps : List Step) :
    unitsOf (log tool grammar steps) = units steps ∧
      (linksOf (log tool grammar steps)).map Link.resolver = resolvers steps := by
  obtain ⟨r, hr, htrail⟩ := (logged_after tool grammar steps).registry
  have haccounts : r.Accounts tool main (log tool grammar steps) :=
    (Registry.accounts_nil grammar).trail htrail
  obtain ⟨r', hr', -, hunits, -, hresolvers, -⟩ := contents (forget_after tool grammar steps)
  obtain rfl : r' = r := by simpa [hr'] using hr
  have hchain : r'.resolvers = (r'.chain.map Link.unwarned).map Link.resolver := by
    rw [List.map_map]
    rfl
  refine ⟨haccounts.units.symm.trans hunits, ?_⟩
  rw [← hresolvers, hchain, haccounts.chain, List.map_map]
  rfl

/-- Resolvers that do not fail make no call fail. -/
theorem isOk_of_mem_callsFor {steps : List Step} {name : String} {call : Call}
    (htotal : ∀ r ∈ resolvers steps, r.isTotal = true)
    (hcall : call ∈ callsFor name (log tool grammar steps)) :
    call.answer.isOk = true := by
  obtain ⟨before, calls, later, hlog, hmem⟩ := mem_callsFor hcall
  obtain ⟨link, hlink, -, hanswer⟩ := (warranted_of_log_eq hlog).answers call hmem
  have hresolver : link.resolver ∈ resolvers steps := by
    rw [← (additions_log tool grammar steps).2, hlog, linksOf, List.filterMap_append]
    exact List.mem_map_of_mem (List.mem_append_left _ (List.mem_of_getElem? hlink))
  obtain ⟨found, hfound⟩ := Resolver.exists_answer_of_isTotal (htotal _ hresolver) tool
    (.outside (some main) name) name
  rw [hanswer, hfound]
  rfl

/-- Resolvers are called sparingly. The calls that a history records are those of its log, in which
every look-up makes the calls that the events before it warrant. No resolver is called twice for a
name before another is added, unless a call for the name fails. -/
theorem calls_warranted (tool : Tool) (grammar : Value) (steps : List Step) :
    (after tool grammar steps).trace.calls = recorded (log tool grammar steps) ∧
      unitsOf (log tool grammar steps) = units steps ∧
      (linksOf (log tool grammar steps)).map Link.resolver = resolvers steps ∧
      (∀ before name calls later,
        log tool grammar steps = before ++ .asked name calls :: later →
          Warranted tool main before name calls) ∧
      ∀ before later name, log tool grammar steps = before ++ later →
        ((∀ r ∈ resolvers steps, r.isTotal = true) ∨
          ∀ call ∈ callsFor name (sinceLink before), call.answer.isOk = true) →
        ((callsFor name (sinceLink before)).map Call.position).Nodup := by
  obtain ⟨hunits, hresolvers⟩ := additions_log tool grammar steps
  refine ⟨(logged_after tool grammar steps).calls, hunits, hresolvers,
    fun _ _ _ _ => warranted_of_log_eq, ?_⟩
  intro before later name hlog hok
  obtain ⟨r, -, haccounts, -⟩ := exists_accounts hlog
  apply haccounts.once name
  rcases hok with htotal | hok
  · intro call hcall
    have hmem : call ∈ callsFor name (log tool grammar steps) := by
      rw [hlog, callsFor_append]
      exact List.mem_append_left _ (mem_callsFor_of_sinceLink hcall)
    exact isOk_of_mem_callsFor htotal hmem
  · exact hok

/-- A catalog that knows another name, the same name twice, and the catalog that knows it. -/
def late : List Step :=
  [.addResolver { resolver := .catalog "a" [("q.I", {})], label := some "a" },
    .ask (Query.classNamed main "p.B"), .ask (Query.classNamed main "p.B"),
    .addResolver { resolver := circleCatalog, label := some "b" },
    .ask (Query.classNamed main "p.B"), .addUnit circleUnit,
    .ask (Query.classNamed main "p.A"), .ask (Query.classNamed main "p.B")]

theorem calls_warranted_late :
    (after {} .null late).trace.calls = [("a", "p.B"), ("a", "p.B"), ("b", "p.B")] ∧
      Warranted {} main ((log {} .null late).take 4) "p.B"
        [⟨0, some "a", .ok none⟩,
          ⟨1, some "b", circleCatalog.answer {} (.outside (some main) "p.B") "p.B"⟩] ∧
      (∀ r ∈ resolvers late, r.isTotal = true) ∧
      ((callsFor "p.B" (sinceLink (log {} .null late))).map Call.position).Nodup := by
  obtain ⟨hcalls, -, -, hwarranted, honce⟩ := calls_warranted {} .null late
  have htotal : ∀ r ∈ resolvers late, r.isTotal = true := by decide
  refine ⟨hcalls.trans rfl, ?_, htotal, ?_⟩
  · exact hwarranted _ _ _ ((log {} .null late).drop 5) rfl
  · exact honce _ [] "p.B" (List.append_nil _).symm (Or.inl htotal)

end History

end JavaAtlas
