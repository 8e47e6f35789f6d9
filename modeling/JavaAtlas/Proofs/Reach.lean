import JavaAtlas.Proofs.Names
import JavaAtlas.Proofs.View
import Mathlib.Data.Finset.Card

/-! How many classes can be found. A resolver knows no more names than `Resolver.reach` says, and so
the classes that a workspace can find have no more full names than its own `reach`:
`Workspace.Faithful.bounded`. -/

namespace JavaAtlas

namespace Resolver

/-- The names that a resolver may know. -/
def names (tool : Tool) : Resolver → List String
  | .catalog _ entries => entries.map Prod.fst
  | .binaries .. => tool.runs.flatMap fun run =>
      (Name.readings run.1.toList).map String.ofList
  | .bare kinds => kinds.map Prod.fst

theorem length_names (tool : Tool) (r : Resolver) : (r.names tool).length = r.reach tool := by
  cases r with
  | catalog name entries => simp [names, reach]
  | binaries classpath command =>
    simp only [names, reach]
    induction tool.runs with
    | nil => rfl
    | cons run runs ih =>
      rw [List.flatMap_cons, List.length_append, List.length_map, Name.length_readings, ih]
      rfl
  | bare kinds => simp [names, reach]

/-- A class that the tool knows nothing about has no listing. -/
theorem mem_runs_of_listing? {tool : Tool} {b : String} {e : Entry}
    (h : listing? tool b = some e) : b ∈ tool.runs.map Prod.fst := by
  obtain ⟨output, errors, hrun, -⟩ := exists_read_of_listing? h
  cases hlookup : tool.runs.lookup b with
  | some run => exact List.mem_map_of_mem (mem_of_lookup hlookup)
  | none => simp [Tool.run, hlookup] at hrun

theorem mem_names_of_answer {tool : Tool} {r : Resolver} {key : UnitKey} {name : String}
    (h : r.answer tool key name ≠ .ok none) : name ∈ r.names tool := by
  cases r with
  | catalog label entries =>
    simp only [answer, ask, Catalog.entry?] at h
    cases hl : entries.lookup name with
    | none =>
      rw [hl] at h
      exact absurd rfl h
    | some entry => exact List.mem_map_of_mem (mem_of_lookup hl)
  | binaries classpath command =>
    simp only [answer, ask] at h
    cases hc : commandOf tool command with
    | none =>
      rw [hc] at h
      exact absurd rfl h
    | some command =>
      simp only [hc, answer_listFirst] at h
      cases hfound : (Name.binaryNames name).findSome? (listing? tool) with
      | none => simp [hfound] at h
      | some e =>
        obtain ⟨b, hb, hlisting⟩ := List.exists_of_findSome?_eq_some hfound
        obtain ⟨run, hmem, rfl⟩ := List.mem_map.mp (mem_runs_of_listing? hlisting)
        refine List.mem_flatMap.mpr ⟨run, hmem, List.mem_map.mpr ⟨name.toList, ?_, ?_⟩⟩
        · exact Name.mem_readings_of_mem_binaryNames hb
        · exact String.ofList_toList
  | bare kinds =>
    simp only [answer, ask] at h
    cases hl : kinds.lookup name with
    | none =>
      rw [hl] at h
      exact absurd rfl h
    | some kind => exact List.mem_map_of_mem (mem_of_lookup hl)

end Resolver

namespace Registry

/-- The names that a registry may know. -/
def names (r : Registry) (tool : Tool) : List String :=
  r.resolvers.flatMap (Resolver.names tool) ++ r.index.map Prod.fst

theorem length_names (r : Registry) (tool : Tool) : (r.names tool).length = r.reach tool := by
  rw [reach_eq, names, List.length_append, List.length_map]
  induction r.resolvers with
  | nil => simp
  | cons s rs ih =>
    rw [List.flatMap_cons, List.length_append, Resolver.length_names, List.foldr_cons, ← ih,
      Nat.add_assoc]

theorem Faithful.mem_names {r : Registry} {tool : Tool} {id : RegistryId}
    (h : r.Faithful tool id) {name : String} {c : Class}
    (hc : r.known tool id name = .ok (some c)) : name ∈ r.names tool := by
  rw [names, List.mem_append]
  rcases lookup_cases hc with hd | ⟨s, hs, ha⟩
  · rw [← h.lookup_index] at hd
    exact Or.inr (List.mem_map_of_mem (mem_of_lookup hd))
  · have hne : s.answer tool (.outside (some id) name) name ≠ .ok none := by simp [ha]
    exact Or.inl (List.mem_flatMap.mpr ⟨s, hs, Resolver.mem_names_of_answer hne⟩)

/-- The classes that a registry finds, one for each name that it knows. -/
def found (r : Registry) (tool : Tool) (id : RegistryId) : List Class :=
  (r.names tool).filterMap fun name =>
    match r.known tool id name with
    | .ok c => c
    | .error _ => none

theorem length_found_le (r : Registry) (tool : Tool) (id : RegistryId) :
    (r.found tool id).length ≤ r.reach tool := by
  rw [← r.length_names tool]
  exact List.length_filterMap_le ..

theorem Faithful.mem_found {r : Registry} {tool : Tool} {id : RegistryId}
    (h : r.Faithful tool id) {name : String} {c : Class}
    (hc : r.known tool id name = .ok (some c)) : c ∈ r.found tool id := by
  refine List.mem_filterMap.mpr ⟨name, h.mem_names hc, ?_⟩
  rw [hc]

end Registry

/-- The full names of all classes that can be found are in a set. -/
def View.Within (v : View) (names : Finset String) : Prop :=
  ∀ id name c, v.find id name = .ok (some c) → c.fullName ∈ names

/-- All classes that can be found together have no more full names than `reach` says. -/
def View.Bounded (v : View) : Prop :=
  ∃ names : Finset String, names.card ≤ v.reach ∧ v.Within names

namespace Workspace

/-- The classes that the registries of a list find; the first registry has the number `n`. -/
def foundFrom (tool : Tool) (n : Nat) (rs : List Registry) : List Class :=
  (rs.zipIdx n).flatMap fun p => p.1.found tool ⟨p.2⟩

theorem length_foundFrom_le (tool : Tool) (n : Nat) (rs : List Registry) :
    (foundFrom tool n rs).length ≤ rs.foldr (fun r n => r.reach tool + n) 0 := by
  induction rs generalizing n with
  | nil => simp [foundFrom]
  | cons r rs ih =>
    have hr := r.length_found_le tool ⟨n⟩
    have hrs := ih (n + 1)
    simp only [foundFrom, List.zipIdx_cons, List.flatMap_cons, List.length_append,
      List.foldr_cons] at hrs ⊢
    omega

/-- What a workspace finds is among what its registries find. -/
theorem Faithful.mem_foundFrom {w : Workspace} (h : w.Faithful) {id : RegistryId} {name : String}
    {c : Class} (hc : w.view.find id name = .ok (some c)) :
    c ∈ foundFrom w.tool 0 w.registries := by
  simp only [view] at hc
  cases hr : w.registry? id with
  | none =>
    rw [hr] at hc
    simp at hc
  | some r =>
    rw [hr] at hc
    have hmem : (r, id.number) ∈ w.registries.zipIdx :=
      List.mk_mem_zipIdx_iff_getElem?.mpr hr
    exact List.mem_flatMap.mpr ⟨(r, id.number), hmem, (h id r hr).mem_found hc⟩

/-- A workspace finds no more classes of different names than it says. -/
theorem Faithful.bounded {w : Workspace} (h : w.Faithful) : w.view.Bounded := by
  refine ⟨((foundFrom w.tool 0 w.registries).map Class.fullName).toFinset, ?_, ?_⟩
  · calc _ ≤ ((foundFrom w.tool 0 w.registries).map Class.fullName).length :=
          List.toFinset_card_le _
      _ = (foundFrom w.tool 0 w.registries).length := List.length_map ..
      _ ≤ w.reach := length_foundFrom_le w.tool 0 w.registries
  · intro id name c hc
    rw [List.mem_toFinset]
    exact List.mem_map_of_mem (h.mem_foundFrom hc)

end Workspace

end JavaAtlas
