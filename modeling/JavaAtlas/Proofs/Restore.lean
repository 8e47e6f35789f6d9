import JavaAtlas.Proofs.Capture
import JavaAtlas.Proofs.Copies
import JavaAtlas.Proofs.Outside
import JavaAtlas.Proofs.Places
import JavaAtlas.Proofs.Reachable
import JavaAtlas.Session

/-! Saving and loading. A registry that was loaded has the units of the saved one under new numbers,
and every question about it has the answer that the saved one would give without its resolvers. With
the resolvers added again, it has the answer that the saved one gives. -/

namespace JavaAtlas

open History (main)

/-! ### Answers -/

/-- A unit belongs to the registry, if there is one. -/
def IsHome (w : Workspace) (id : RegistryId) (unit : Option SourceUnit) : Prop :=
  ∀ u, unit = some u → Snapshot.homeOf w u = some id

/-- The copy of a registry answers as the registry does, up to the numbers: the same classes are
found and listed, names in units stand for the same, and classes have the same supertypes. -/
structure SameAnswers (ρ : Renumbering) (id : RegistryId) (w w' : Workspace) : Prop where
  classNamed : ∀ name, (w'.run (.classNamed (ρ.registry id) name)).1 =
    (w.run (.classNamed id name)).1.map (Option.map ρ.cls)
  classes : (w'.run (.classesOf (ρ.registry id))).1 =
    (w.run (.classesOf id)).1.map (List.map ρ.cls)
  resolve : ∀ u scope name, IsHome w id (some u) →
    (w'.run (Resolution.resolve (ρ.unit u) (scope.map ρ.cls) name)).1 =
      (w.run (Resolution.resolve u scope name)).1
  isA : ∀ c target, IsHome w id c.unit →
    (w'.run ((ρ.cls c).isA target)).1 = (w.run (c.isA target)).1
  superclasses : ∀ c, IsHome w id c.unit →
    (w'.run (ρ.cls c).superclasses).1 = (w.run c.superclasses).1.map (List.map ρ.cls)
  allInterfaces : ∀ c, IsHome w id c.unit →
    (w'.run (ρ.cls c).allInterfaces).1 = (w.run c.allInterfaces).1.map (List.map ρ.cls)

variable {ρ : Renumbering} {id : RegistryId} {w w' : Workspace} {r r' : Registry}

theorem homeOf_eq_view (w : Workspace) (u : SourceUnit) :
    Snapshot.homeOf w u = w.view.homeOf u.key := by
  rw [Snapshot.homeOf]
  cases u.key <;> rfl

theorem IsHome.view {unit : Option SourceUnit} (h : IsHome w id unit) : w.view.IsHome id unit := by
  intro u hu
  rw [← homeOf_eq_view]
  exact h u hu

theorem SameAnswers.of_copies (hw : w.Faithful) (hw' : w'.Faithful)
    (h : Copies ρ id w.view w'.view) : SameAnswers ρ id w w' where
  classNamed name := by
    rw [hw.run_answer, hw'.run_answer, Query.eval_classNamed, Query.eval_classNamed]
    exact h.find name
  classes := by
    rw [hw.run_answer, hw'.run_answer, Query.eval_classesOf, Query.eval_classesOf, h.sources,
      Renumbering.flatMap_classes]
    rfl
  resolve u scope name hu := by
    rw [hw.run_answer, hw'.run_answer]
    exact h.eval_resolve (hu.view u rfl) scope name
  isA c target hc := by
    rw [hw.run_answer, hw'.run_answer]
    exact h.eval_isA hw.bounded hc.view target
  superclasses c hc := by
    rw [hw.run_answer, hw'.run_answer]
    exact h.eval_superclasses hw.bounded hc.view
  allInterfaces c hc := by
    rw [hw.run_answer, hw'.run_answer]
    exact h.eval_allInterfaces hw.bounded hc.view

theorem Workspace.reach_le (h : w.registry? id = some r) : r.reach w.tool ≤ w.reach := by
  have hmem : r ∈ w.registries := List.mem_of_getElem? h
  rw [Workspace.reach]
  generalize w.registries = rs at hmem
  induction rs with
  | nil => simp at hmem
  | cons s rs ih =>
    rw [List.foldr_cons]
    rcases List.mem_cons.mp hmem with rfl | hmem
    · omega
    · have := ih hmem
      omega

namespace Snapshot

/-- What the only registry finds belongs to it. -/
theorem Sole.isHome_of_known (h : Sole w r) {name : String} {c : Class}
    (hc : r.known w.tool main name = .ok (some c)) : w.view.IsHome main c.unit := by
  intro u hu
  rcases lookup_cases hc with hlast | ⟨s, -, hs⟩
  · obtain ⟨u', hu', hd⟩ := List.mem_flatMap.mp (mem_of_lastNamed hlast)
    have hunit := SourceUnit.unit_of_mem_classes hd
    obtain rfl : u' = u := Option.some.inj (hunit.symm.trans hu)
    rw [← homeOf_eq_view]
    exact h.homeOf hu'
  · rw [Resolver.key_of_answer hs hu]
    rfl

/-- A registry with the same units under new numbers, and with the same resolvers, is a copy of the
only one. -/
theorem Sole.copies (h : Sole w r) (hr' : w'.registry? (ρ.registry main) = some r')
    (htool : w'.tool = w.tool) (hunits : r'.units = r.units.map ρ.unit)
    (hindex : r'.index.length = r.index.length) (hresolvers : r'.resolvers = r.resolvers)
    (hhome : ∀ u ∈ r.units, ∀ n, u.key = .source n →
      w'.home? (ρ.number n) = some (ρ.registry main)) :
    Copies ρ main w.view w'.view where
  home n hn := by
    obtain ⟨-, u, hu, hkey⟩ := (h.home n main).mp hn
    exact hhome u hu n hkey
  sources := by
    simp only [Workspace.view, h.registry?, hr', Option.map_some, Option.getD_some, hunits]
  reach := by
    have hsole : w.reach = r.reach w.tool := by
      rw [Workspace.reach, h.registries]
      rfl
    have hsame : r'.reach w'.tool = r.reach w.tool := by
      rw [Registry.reach_eq, Registry.reach_eq, hindex, hresolvers, htool]
    show w.reach ≤ w'.reach
    rw [hsole, ← hsame]
    exact Workspace.reach_le hr'
  find name := by
    simp only [Workspace.view, h.registry?, hr', Registry.known, Registry.classes, hunits,
      hresolvers, htool, Renumbering.flatMap_classes, Renumbering.lookup_cls]
  own name c hc := by
    simp only [Workspace.view, h.registry?] at hc
    exact h.isHome_of_known hc

end Snapshot

/-! ### Adding resolvers -/

/-- Adds resolvers one after the other. -/
def Workspace.addResolvers (w : Workspace) (id : RegistryId) (links : List Link) : Workspace :=
  links.foldl (fun w link => w.addResolver id link) w

theorem Registry.foldl_addResolver (r : Registry) (links : List Link) :
    (links.foldl Registry.addResolver r).units = r.units ∧
      (links.foldl Registry.addResolver r).index = r.index ∧
      (links.foldl Registry.addResolver r).resolvers =
        r.resolvers ++ links.map Link.resolver := by
  induction links generalizing r with
  | nil => simp
  | cons link links ih =>
    obtain ⟨hunits, hindex, hresolvers⟩ := ih (r.addResolver link)
    refine ⟨hunits, hindex, hresolvers.trans ?_⟩
    simp [Registry.addResolver, Registry.resolvers]

/-- Adding resolvers to a registry changes nothing else. -/
theorem Workspace.Faithful.addResolvers (hw : w.Faithful) (hr : w.registry? id = some r)
    (links : List Link) :
    Workspace.registry? (w.addResolvers id links) id =
        some (links.foldl Registry.addResolver r) ∧
      (w.addResolvers id links).homes = w.homes ∧ (w.addResolvers id links).tool = w.tool ∧
      (w.addResolvers id links).Faithful := by
  induction links generalizing w r with
  | nil => exact ⟨hr, rfl, rfl, hw⟩
  | cons link links ih =>
    have hadd : w.addResolver id link = w.setRegistry id (r.addResolver link) := by
      rw [Workspace.addResolver, hr]
    have hr' : Workspace.registry? (w.addResolver id link) id = some (r.addResolver link) := by
      rw [hadd, Workspace.registry?_setRegistry hr, if_pos rfl]
    obtain ⟨hregistry, hhomes, htool, hfaithful⟩ :=
      ih (History.faithful_addResolver hw id link) hr'
    refine ⟨hregistry, hhomes.trans ?_, htool.trans ?_, hfaithful⟩
    · rw [hadd]
      rfl
    · rw [hadd]
      rfl

namespace History

/-! ### The only registry -/

/-- The registry has its units to itself if they were assembled. -/
theorem exists_sole (tool : Tool) (grammar : Value) {steps : List Step}
    (hassembled : ∀ u ∈ units steps, u ∈ assembled steps) :
    ∃ r, Snapshot.Sole (after tool grammar steps) r := by
  obtain ⟨r, hregistries, -, hunits, -, -, hhomes, -⟩ :=
    contents (forget_after tool grammar steps)
  refine ⟨r, hregistries, ?_, ?_, ?_⟩
  · intro u hu
    obtain ⟨n, hkey, -⟩ := mem_assembled (hassembled u (hunits ▸ hu))
    exact ⟨n, hkey⟩
  · intro u hu u' hu' hsame
    exact eq_of_key_eq (hassembled u (hunits ▸ hu)) (hassembled u' (hunits ▸ hu')) hsame
  · intro n id
    rw [Workspace.home?, hhomes, ← hunits, lookup_foldl_settled]
    by_cases hany : (r.units.any fun u => u.key = .source n) = true
    · have hex : ∃ u ∈ r.units, u.key = .source n := by simpa using hany
      simp [hany, hex, eq_comm]
    · have hex : ¬∃ u ∈ r.units, u.key = .source n := by simpa using hany
      simp [hany, hex]

end History

namespace Snapshot

/-! ### The restored registry -/

/-- The workspace with its registry alone: no resolvers behind it, and nothing remembered. -/
def withoutResolvers (w : Workspace) (r : Registry) : Workspace :=
  w.setRegistry main { r with chain := [], hits := [], misses := [] }

/-- The registry `r'` of `w'` is what was restored of the registry `r` of `w`: its units are the
same but for their numbers, in the same order, and so are the classes in its index. It answers what
`r` answers without resolvers, and with the resolvers of `r` what `r` answers. -/
structure Restored (ρ : Renumbering) (w w' : Workspace) (r r' : Registry) : Prop where
  saved : w.registry? main = some r
  loaded : w'.registry? (ρ.registry main) = some r'
  grammar : r'.grammar = r.grammar
  units : r'.units = r.units.map ρ.unit
  distinct : ∀ u ∈ r.units, ∀ u' ∈ r.units, (ρ.unit u).key = (ρ.unit u').key → u = u'
  index : r'.index = r.index.map ρ.place
  chain : r'.chain = []
  remembered : r'.hits = [] ∧ r'.misses = []
  answers : SameAnswers ρ main (withoutResolvers w r) w'
  answersAgain : ∀ links : List Link, links.map Link.resolver = r.resolvers →
    SameAnswers ρ main w (w'.addResolvers (ρ.registry main) links)

variable {target : Workspace}

theorem Sole.withoutResolvers (h : Sole w r) :
    Sole (withoutResolvers w r) { r with chain := [], hits := [], misses := [] } where
  registries := by
    rw [Snapshot.withoutResolvers, Workspace.setRegistry, h.registries]
    rfl
  source := h.source
  distinct := h.distinct
  home := h.home

theorem faithful_withoutResolvers (h : Sole w r) (hw : w.Faithful) :
    (Snapshot.withoutResolvers w r).Faithful := by
  apply hw.setRegistry h.registry?
  exact Registry.faithful_of_index (hw main r h.registry?).index rfl rfl

theorem Sole.registry?_restoreInto (h : Sole w r) (target : Workspace) :
    Workspace.registry? (restoreInto target (Snapshot.capture w main)).2
        ((renumbering target r).registry main) =
      some (copy (renumbering target r) r) := by
  rw [h.restoreInto_capture]
  simp [Workspace.registry?, renumbering]

/-- The units of the restored registry belong to it. -/
theorem Sole.home?_restoreInto (h : Sole w r) (target : Workspace) {u : SourceUnit}
    (hu : u ∈ r.units) {n : Nat} (hn : u.key = .source n) :
    (restoreInto target (Snapshot.capture w main)).2.home? ((renumbering target r).number n) =
      some ((renumbering target r).registry main) := by
  have hlength : (kept r).length = (keys r).length := by
    rw [← map_key_kept r, List.length_map]
  have hlt : (keys r).idxOf (.source n) < (kept r).length := by
    rw [hlength, ← hn]
    exact List.idxOf_lt_length_of_mem (mem_keys hu)
  rw [h.restoreInto_capture]
  exact lookup_mapIdx (kept r) target.unitCount _ target.homes hlt

/-- Different units get different numbers. -/
theorem Sole.key_injective (h : Sole w r) {u u' : SourceUnit} (hu : u ∈ r.units)
    (hu' : u' ∈ r.units)
    (hsame : ((renumbering target r).unit u).key = ((renumbering target r).unit u').key) :
    u = u' := by
  obtain ⟨n, hn⟩ := h.source u hu
  obtain ⟨n', hn'⟩ := h.source u' hu'
  simp only [Renumbering.unit, Renumbering.key, renumbering, hn, hn', UnitKey.source.injEq,
    Nat.add_left_cancel_iff] at hsame
  have hfound := h.getElem?_kept hu
  rw [hn, hsame, ← hn', h.getElem?_kept hu'] at hfound
  exact (Option.some.inj hfound).symm

theorem index_copy (hindex : r.index = Registry.enterAll [] r.classes) (ρ : Renumbering) :
    (copy ρ r).index = r.index.map ρ.place := by
  rw [hindex, ← Renumbering.enterAll_cls]
  show Registry.enterAll [] ((r.units.map ρ.unit).flatMap SourceUnit.classes) = _
  rw [Renumbering.flatMap_classes]
  rfl

/-- What comes of putting a snapshot of a registry into a workspace. -/
theorem Sole.restored (h : Sole w r) (hw : w.Faithful) (htarget : Reachable w.tool target)
    (t : Trace) :
    Restored (renumbering target r) w ((restoreInto target (Snapshot.capture w main)).2.record t) r
      (copy (renumbering target r) r) := by
  have hindex := index_copy (hw main r h.registry?).index (renumbering target r)
  have hlength : (copy (renumbering target r) r).index.length = r.index.length := by
    rw [hindex, List.length_map]
  have hreachable := (htarget.restore (Snapshot.capture w main)).record t
  obtain ⟨hfaithful, htool⟩ := hreachable.faithful
  refine ⟨h.registry?, h.registry?_restoreInto target, rfl, rfl,
    fun u hu u' hu' => h.key_injective hu hu', hindex, rfl, ⟨rfl, rfl⟩, ?_, ?_⟩
  · -- nothing is behind the copy, as nothing is behind the registry without its resolvers
    apply SameAnswers.of_copies (faithful_withoutResolvers h hw) hfaithful
    exact h.withoutResolvers.copies (h.registry?_restoreInto target) htool rfl hlength rfl
      fun u hu n hn => h.home?_restoreInto target hu hn
  · -- the resolvers come after an empty chain, so they are asked in the same order
    intro links hlinks
    obtain ⟨hregistry, hhomes, htool', hfaithful'⟩ :=
      hfaithful.addResolvers (h.registry?_restoreInto target) links
    obtain ⟨hunits, hindex', hresolvers⟩ :=
      (copy (renumbering target r) r).foldl_addResolver links
    apply SameAnswers.of_copies hw hfaithful'
    refine h.copies hregistry (htool'.trans htool) hunits ?_ ?_ ?_
    · rw [hindex']
      exact hlength
    · rw [hresolvers, hlinks]
      rfl
    · intro u hu n hn
      rw [Workspace.home?, hhomes]
      exact h.home?_restoreInto target hu hn

end Snapshot

namespace History

/-- Loading puts what was saved into the workspace, and notes that. -/
theorem exists_loadBytes (s : Snapshot.Image) (target : Session) :
    ∃ t, (Session.loadBytes (Snapshot.Payload.ofImage s).write).run.run target =
      (.ok (Snapshot.restoreInto target.workspace s).1,
        { target with workspace := (Snapshot.restoreInto target.workspace s).2.record t }) := by
  refine ⟨.ofNotices [.loaded ((Workspace.registry? (Snapshot.restoreInto target.workspace s).2
    (Snapshot.restoreInto target.workspace s).1).getD {}).summary], ?_⟩
  simp only [Session.loadBytes, Snapshot.load_write]
  rfl

/-- A registry of units that were assembled can be saved and then loaded into any workspace, and what
is loaded is what was saved, without its resolvers. -/
theorem loadBytes_savedBytes (tool : Tool) (grammar : Value) (steps : List Step)
    (hassembled : ∀ u ∈ units steps, u ∈ assembled steps) (disk : File.Disk) (target : Session)
    (htarget : Reachable tool target.workspace) :
    ∃ bytes, (Session.savedBytes main).run.run ⟨after tool grammar steps, disk⟩ =
        (.ok bytes, ⟨after tool grammar steps, disk⟩) ∧
      ∃ ρ session r r', (Session.loadBytes bytes).run.run target =
          (.ok (ρ.registry main), session) ∧
        Snapshot.Restored ρ (after tool grammar steps) session.workspace r r' := by
  obtain ⟨r, hsole⟩ := exists_sole tool grammar hassembled
  have htool : (after tool grammar steps).tool = tool :=
    (reachable_after tool grammar steps).faithful.2
  refine ⟨_, rfl, Snapshot.renumbering target.workspace r, ?_⟩
  obtain ⟨t, hload⟩ :=
    exists_loadBytes (Snapshot.capture (after tool grammar steps) main) target
  have hid : (Snapshot.restoreInto target.workspace
      (Snapshot.capture (after tool grammar steps) main)).1 =
        (Snapshot.renumbering target.workspace r).registry main := by
    rw [hsole.restoreInto_capture]
    rfl
  rw [hid] at hload
  rw [← htool] at htarget
  exact ⟨_, r, _, hload, hsole.restored (faithful_after tool grammar steps) htarget t⟩

theorem loadBytes_savedBytes_circle :
    (∀ u ∈ units askedCircle, u ∈ assembled askedCircle) ∧
      ∃ bytes, (Session.savedBytes main).run.run ⟨after {} .null askedCircle, {}⟩ =
          (.ok bytes, ⟨after {} .null askedCircle, {}⟩) ∧
        ∃ (ρ : Renumbering) (session : Session),
          (Session.loadBytes bytes).run.run { workspace := after {} .null circle } =
            (.ok (ρ.registry main), session) ∧
          (session.workspace.run (ρ.cls (circleUnit.top 0 circleDecl)).superclasses).1 = .ok [] ∧
          ((session.workspace.addResolvers (ρ.registry main) [{ resolver := circleCatalog }]).run
            (ρ.cls (circleUnit.top 0 circleDecl)).superclasses).1.map (List.map Class.fullName) =
              .ok ["p.B"] := by
  have hassembled : ∀ u ∈ units askedCircle, u ∈ assembled askedCircle := by
    intro u hu
    exact hu
  obtain ⟨bytes, hsave, ρ, session, r, r', hload, h⟩ :=
    loadBytes_savedBytes {} .null askedCircle hassembled {} { workspace := after {} .null circle }
      (reachable_after {} .null circle)
  obtain rfl := Option.some.inj h.saved
  have hhome : IsHome (after {} .null askedCircle) main (circleUnit.top 0 circleDecl).unit := by
    intro u hu
    obtain rfl := Option.some.inj hu
    rfl
  refine ⟨hassembled, bytes, hsave, ρ, session, hload, ?_, ?_⟩
  · rw [h.answers.superclasses _ hhome]
    rfl
  · rw [(h.answersAgain [{ resolver := circleCatalog }] rfl).superclasses _ hhome]
    rfl

end History

end JavaAtlas
