import JavaAtlas.Proofs.History
import JavaAtlas.Snapshot.Basic

/-! Workspaces of several registries. Whatever is made, added, asked and loaded, every registry
stays faithful, and so every question has the answer that the workspace's view gives it. -/

namespace JavaAtlas

/-- The workspaces that come about by making registries, adding units and resolvers to them, asking
and loading, in any order. -/
inductive Reachable (tool : Tool) : Workspace → Prop
  | empty : Reachable tool { tool }
  | newRegistry {w : Workspace} (grammar : Value) :
      Reachable tool w → Reachable tool (w.newRegistry { grammar }).2
  | assemble {w : Workspace} (decl : UnitDecl) (origin : Option String) :
      Reachable tool w → Reachable tool (w.assemble decl origin).2
  | addUnit {w : Workspace} (id : RegistryId) (u : SourceUnit) :
      Reachable tool w → Reachable tool (w.addUnit id u)
  | addResolver {w : Workspace} (id : RegistryId) (link : Link) :
      Reachable tool w → Reachable tool (w.addResolver id link)
  | ask {w : Workspace} {α : Type} (q : Query α) : Reachable tool w → Reachable tool (w.run q).2
  | restore {w : Workspace} (s : Snapshot.Image) :
      Reachable tool w → Reachable tool (Snapshot.restoreInto w s).2
  | record {w : Workspace} (t : Trace) : Reachable tool w → Reachable tool (w.record t)

variable {w : Workspace}

theorem Workspace.Faithful.append (h : w.Faithful) {rs : List Registry}
    (hrs : ∀ r ∈ rs, ∀ id, r.Faithful w.tool id) (homes : List (Nat × RegistryId))
    (unitCount : Nat) :
    Workspace.Faithful { w with registries := w.registries ++ rs, homes, unitCount } := by
  intro id r hr
  simp only [Workspace.registry?, List.getElem?_append] at hr
  split at hr
  · exact h id r hr
  · exact hrs r (List.mem_of_getElem? hr) id

theorem Workspace.addUnit_tool (w : Workspace) (id : RegistryId) (u : SourceUnit) :
    (w.addUnit id u).tool = w.tool := by
  rw [Workspace.addUnit]
  cases w.registry? id with
  | none => rfl
  | some r => exact History.settle_tool w u.key id

theorem Workspace.addResolver_tool (w : Workspace) (id : RegistryId) (link : Link) :
    (w.addResolver id link).tool = w.tool := by
  rw [Workspace.addResolver]
  cases w.registry? id <;> rfl

/-- All registries of such a workspace are faithful. -/
theorem Reachable.faithful {tool : Tool} (h : Reachable tool w) : w.Faithful ∧ w.tool = tool := by
  induction h with
  | empty => exact ⟨fun id r hr => by simp [Workspace.registry?] at hr, rfl⟩
  | newRegistry grammar _ ih =>
    refine ⟨ih.1.append ?_ _ _, ih.2⟩
    intro r hr id
    obtain rfl := List.mem_singleton.mp hr
    exact Registry.faithful_of_index rfl rfl rfl
  | assemble decl origin _ ih => exact ih
  | addUnit id u _ ih =>
    exact ⟨History.faithful_addUnit ih.1 id u, (Workspace.addUnit_tool ..).trans ih.2⟩
  | addResolver id link _ ih =>
    exact ⟨History.faithful_addResolver ih.1 id link, (Workspace.addResolver_tool ..).trans ih.2⟩
  | ask q _ ih =>
    obtain ⟨-, hfaithful, hforget⟩ := ih.1.run q
    exact ⟨hfaithful, (congrArg Workspace.tool hforget).trans ih.2⟩
  | restore s _ ih =>
    refine ⟨ih.1.append ?_ _ _, ih.2⟩
    intro r hr id
    obtain ⟨saved, -, rfl⟩ := List.mem_map.mp hr
    exact Registry.faithful_of_index rfl rfl rfl
  | record t _ ih => exact ih

namespace History

/-- A history is one of the ways to reach a workspace. -/
theorem reachable_after (tool : Tool) (grammar : Value) (steps : List Step) :
    Reachable tool (after tool grammar steps) := by
  suffices ∀ w : Workspace, Reachable tool w → Reachable tool (steps.foldl Step.apply w) from
    this _ (Reachable.empty.newRegistry grammar)
  induction steps with
  | nil => exact fun _ h => h
  | cons step steps ih =>
    intro w h
    apply ih
    cases step with
    | assemble decl origin => exact h.assemble decl origin
    | addUnit u => exact h.addUnit main u
    | addResolver link => exact h.addResolver main link
    | ask q => exact h.ask q

end History

end JavaAtlas
