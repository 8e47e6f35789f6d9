import JavaAtlas.Proofs.Lookup

/-! Questions as functions. A `View` says what each look-up of a question comes to, and `Query.eval`
is the answer to a question in a view. In a workspace with faithful registries every question has
the answer that the workspace's view gives it, and leaves the view as it is:
`Workspace.Faithful.run`. -/

namespace JavaAtlas

/-- What the look-ups of a question come to. -/
structure View where
  home : Nat → Option RegistryId
  sources : RegistryId → List SourceUnit
  reach : Nat
  find : RegistryId → String → Except EntryError (Option Class)

/-- The registry of a unit. -/
def View.homeOf (v : View) : UnitKey → Option RegistryId
  | .source number => v.home number
  | .outside registry _ => registry

namespace Query

/-- The answer to a question in a view. -/
def eval {α : Type} (v : View) : Query α → Except EntryError α
  | .answer a => .ok a
  | .home unit next => (next (v.home unit)).eval v
  | .sources id next => (next (v.sources id)).eval v
  | .reach next => (next v.reach).eval v
  | .find id name next =>
    match v.find id name with
    | .ok found => (next found).eval v
    | .error e => .error e

@[simp] theorem eval_answer {α : Type} (v : View) (a : α) : (answer a).eval v = .ok a := rfl

@[simp] theorem ok_bind {α β : Type} (a : α) (f : α → Except EntryError β) :
    Except.ok a >>= f = f a := rfl

@[simp] theorem error_bind {α β : Type} (e : EntryError) (f : α → Except EntryError β) :
    Except.error e >>= f = .error e := rfl

@[simp] theorem eval_bind {α β : Type} (v : View) (q : Query α) (f : α → Query β) :
    (q >>= f).eval v = q.eval v >>= fun a => (f a).eval v := by
  induction q with
  | answer a => rfl
  | home unit next ih => exact ih _
  | sources id next ih => exact ih _
  | reach next ih => exact ih _
  | find id name next ih =>
    simp only [find_bind, eval]
    cases v.find id name with
    | ok found => exact ih found
    | error e => rfl

@[simp] theorem eval_homeOf (v : View) (key : UnitKey) :
    (homeOf key).eval v = .ok (v.homeOf key) := by
  cases key <;> rfl

@[simp] theorem eval_classesOf (v : View) (id : RegistryId) :
    (classesOf id).eval v = .ok ((v.sources id).flatMap SourceUnit.classes) := rfl

@[simp] theorem eval_knownNames (v : View) : knownNames.eval v = .ok v.reach := rfl

@[simp] theorem eval_classNamed (v : View) (id : RegistryId) (name : String) :
    (classNamed id name).eval v = v.find id name := by
  simp only [classNamed, eval]
  cases v.find id name <;> rfl

/-- A question can only fail where a look-up fails. -/
theorem exists_eval {α : Type} {v : View} (h : ∀ id name, ∃ c, v.find id name = .ok c)
    (q : Query α) : ∃ a, q.eval v = .ok a := by
  induction q with
  | answer a => exact ⟨a, rfl⟩
  | home unit next ih => exact ih _
  | sources id next ih => exact ih _
  | reach next ih => exact ih _
  | find id name next ih =>
    obtain ⟨c, hc⟩ := h id name
    obtain ⟨a, ha⟩ := ih c
    refine ⟨a, ?_⟩
    rw [eval, hc]
    exact ha

end Query

/-- What a registry can reach, it can reach through its index or one of its resolvers. -/
theorem Registry.reach_eq (r : Registry) (tool : Tool) :
    r.reach tool = r.resolvers.foldr (fun s n => s.reach tool + n) r.index.length := by
  rw [Registry.reach, Registry.resolvers, List.foldr_map]

namespace Workspace

/-- What look-ups in a workspace come to if nothing is remembered. -/
def view (w : Workspace) : View where
  home := w.home?
  sources id := ((w.registry? id).map Registry.units).getD []
  reach := w.reach
  find id name :=
    match w.registry? id with
    | none => .ok none
    | some r => r.known w.tool id name

/-- The workspace with nothing remembered in any registry, and without what no question asks for:
the number of units and the trace of what was done. -/
def forget (w : Workspace) : Workspace :=
  { w with registries := w.registries.map Registry.forget, unitCount := 0, trace := {} }

theorem registry?_forget (w : Workspace) (id : RegistryId) :
    w.forget.registry? id = (w.registry? id).map Registry.forget := by
  simp [ registry?, forget]

/-- What is remembered is not part of the view. -/
theorem view_forget (w : Workspace) : w.forget.view = w.view := by
  simp only [view, registry?_forget]
  congr 1
  · funext id
    cases w.registry? id <;> rfl
  · simp only [reach, forget, List.foldr_map]
    congr 1
    funext r n
    simp only [Registry.reach_eq, Registry.forget_resolvers, Registry.forget_index]
  · funext id name
    cases w.registry? id with
    | none => rfl
    | some r => simp [forget]

theorem view_eq_of_forget_eq {w w' : Workspace} (h : w.forget = w'.forget) : w.view = w'.view := by
  rw [← view_forget w, h, view_forget]

/-- Every registry is faithful. -/
def Faithful (w : Workspace) : Prop :=
  ∀ id r, w.registry? id = some r → r.Faithful w.tool id

theorem registry?_setRegistry {w : Workspace} {id : RegistryId} {r : Registry}
    (h : w.registry? id = some r) (s : Registry) (id' : RegistryId) :
    Workspace.registry? (w.setRegistry id s) id' =
      if id' = id then some s else w.registry? id' := by
  obtain ⟨n⟩ := id
  obtain ⟨m⟩ := id'
  simp only [ registry?] at h
  obtain ⟨hn, -⟩ := List.getElem?_eq_some_iff.mp h
  simp only [ registry?, setRegistry, List.getElem?_set, RegistryId.mk.injEq]
  by_cases hm : m = n
  · subst hm
    simp [hn]
  · simp [hm, Ne.symm hm]

/-- Changing one registry for another faithful one keeps all of them faithful. -/
theorem Faithful.setRegistry {w : Workspace} (h : w.Faithful) {id : RegistryId} {r s : Registry}
    (hr : w.registry? id = some r) (hs : s.Faithful w.tool id) : (w.setRegistry id s).Faithful := by
  intro id' t ht
  rw [registry?_setRegistry hr] at ht
  split at ht
  · next hid =>
    obtain rfl : s = t := Option.some.inj ht
    subst hid
    exact hs
  · exact h id' t ht

/-- A registry that differs only in what it remembers is as good as another. -/
theorem forget_setRegistry {w : Workspace} {id : RegistryId} {r s : Registry}
    (hr : w.registry? id = some r) (hs : s.forget = r.forget) :
    (w.setRegistry id s).forget = w.forget := by
  obtain ⟨n⟩ := id
  obtain ⟨hn, rfl⟩ := List.getElem?_eq_some_iff.mp hr
  have hset : (w.registries.map Registry.forget).set n s.forget =
      w.registries.map Registry.forget := by
    rw [hs, ← List.getElem_map Registry.forget (h := by simpa using hn), List.set_getElem_self]
  simp only [forget, Workspace.setRegistry, List.map_set, hset]

/-- A look-up in a workspace answers what is known, and changes only what is remembered. -/
theorem Faithful.find {w : Workspace} (h : w.Faithful) (id : RegistryId) (name : String) :
    (w.find id name).1 = w.view.find id name ∧ (w.find id name).2.Faithful ∧
      (w.find id name).2.forget = w.forget := by
  simp only [Workspace.find, view]
  cases hr : w.registry? id with
  | none => exact ⟨rfl, h, rfl⟩
  | some r =>
    obtain ⟨ha, hf, hs⟩ := (h id r hr).find name
    exact ⟨ha, h.setRegistry hr hf, forget_setRegistry hr hs⟩

/-- A question has the answer that the view gives it, whatever is remembered, and it changes only
what is remembered. -/
theorem Faithful.run {α : Type} {w : Workspace} (h : w.Faithful) (q : Query α) :
    (w.run q).1 = q.eval w.view ∧ (w.run q).2.Faithful ∧ (w.run q).2.forget = w.forget := by
  induction q generalizing w with
  | answer a => exact ⟨rfl, h, rfl⟩
  | home unit next ih => exact ih _ h
  | sources id next ih => exact ih _ h
  | reach next ih => exact ih _ h
  | find id name next ih =>
    obtain ⟨ha, hf, hs⟩ := h.find id name
    simp only [Workspace.run, Query.eval]
    rw [← ha]
    generalize w.find id name = found at hf hs
    obtain ⟨answer, w'⟩ := found
    cases answer with
    | ok c =>
      obtain ⟨ha', hf', hs'⟩ := ih c hf
      rw [view_eq_of_forget_eq hs] at ha'
      exact ⟨ha', hf', hs'.trans hs⟩
    | error e => exact ⟨rfl, hf, hs⟩

theorem Faithful.run_answer {α : Type} {w : Workspace} (h : w.Faithful) (q : Query α) :
    (w.run q).1 = q.eval w.view :=
  (h.run q).1

end Workspace

end JavaAtlas
