import JavaAtlas.Proofs.History
import JavaAtlas.Proofs.Renumbering
import JavaAtlas.Snapshot.Basic
import Mathlib.Data.List.Basic

/-! Snapshots of a registry whose units are its own. The bytes of a snapshot are read back as they
were written: `load_write`. What is put into another workspace is the registry with its units under
new numbers, and with nothing behind it or remembered: `restoreInto_capture`. -/

namespace JavaAtlas

namespace Snapshot

/-! ### Bytes -/

theorem read?_write (p : Payload) : Payload.read? p.write = some p := by
  have hread := Datum.read_write (store p) (store p).write.length []
    (Datum.depth_le_length (store p))
  rw [List.append_nil] at hread
  have hmark : mark.isPrefixOf
      (mark ++ (numberBytes (store p).write.length ++ (store p).write)) = true := by
    rw [List.isPrefixOf_iff_prefix]
    exact List.prefix_append ..
  simp [Payload.read?, Payload.write, hmark, readNumber_numberBytes, hread, Stored.restore_store]

/-- What was written of a snapshot can be read. -/
theorem load_write (s : Image) : load (Payload.ofImage s).write = .ok s := by
  rw [load, read?_write]
  rfl

/-! ### Lists without repetitions -/

section Extend

variable {α : Type} [BEq α] [LawfulBEq α]

theorem extend_cons (known more : List α) (a : α) :
    extend known (a :: more) = extend (if a ∈ known then known else known ++ [a]) more := by
  simp [extend]

theorem extend_of_subset {known more : List α} (h : more ⊆ known) : extend known more = known := by
  induction more with
  | nil => rfl
  | cons a more ih =>
    have ha : a ∈ known := h List.mem_cons_self
    rw [extend_cons, if_pos ha]
    exact ih fun b hb => h (List.mem_cons_of_mem a hb)

theorem mem_extend (known more : List α) (a : α) :
    a ∈ extend known more ↔ a ∈ known ∨ a ∈ more := by
  induction more generalizing known with
  | nil => simp [extend]
  | cons b more ih =>
    rw [extend_cons, ih]
    split
    · next hb =>
      rw [List.mem_cons]
      constructor
      · rintro (h | h)
        · exact Or.inl h
        · exact Or.inr (Or.inr h)
      · rintro (h | rfl | h)
        · exact Or.inl h
        · exact Or.inl hb
        · exact Or.inr h
    · simp [or_assoc]

end Extend

/-! ### Saving -/

open History (main)

/-- The workspace has one registry, and the units of the registry are those that belong to it. -/
structure Sole (w : Workspace) (r : Registry) : Prop where
  registries : w.registries = [r]
  source : ∀ u ∈ r.units, ∃ n, u.key = .source n
  distinct : ∀ u ∈ r.units, ∀ u' ∈ r.units, u.key = u'.key → u = u'
  home : ∀ n id, w.home? n = some id ↔ id = main ∧ ∃ u ∈ r.units, u.key = .source n

/-- The keys of the units of a registry, each once. -/
def keys (r : Registry) : List UnitKey := extend [] (r.units.map SourceUnit.key)

/-- The units of a registry, each once. -/
def kept (r : Registry) : List SourceUnit :=
  (keys r).filterMap fun key => r.units.find? fun u => u.key == key

variable {w : Workspace} {r : Registry}

theorem mem_keys {u : SourceUnit} (hu : u ∈ r.units) : u.key ∈ keys r := by
  rw [keys, mem_extend]
  exact Or.inr (List.mem_map_of_mem hu)

/-- The units that are kept stand in the order of the keys. -/
theorem map_key_kept (r : Registry) : (kept r).map SourceUnit.key = keys r := by
  have hkeys : ∀ key ∈ keys r, ∃ u ∈ r.units, u.key = key := by
    intro key hkey
    rw [keys, mem_extend] at hkey
    simpa using hkey
  rw [kept]
  generalize keys r = ks at hkeys
  induction ks with
  | nil => rfl
  | cons key ks ih =>
    have hfind : (r.units.find? fun u => u.key == key).isSome := by
      rw [List.find?_isSome]
      obtain ⟨u, hu, rfl⟩ := hkeys key List.mem_cons_self
      exact ⟨u, hu, beq_self_eq_true u.key⟩
    obtain ⟨u, hu⟩ := Option.isSome_iff_exists.mp hfind
    have hkey : u.key = key := by simpa using List.find?_some hu
    simp only [List.filterMap_cons, hu, List.map_cons, hkey,
      ih fun k hk => hkeys k (List.mem_cons_of_mem key hk)]

theorem mem_of_mem_kept {u : SourceUnit} (h : u ∈ kept r) : u ∈ r.units := by
  obtain ⟨key, -, hfind⟩ := List.mem_filterMap.mp h
  exact List.mem_of_find?_eq_some hfind

/-- A unit is kept at the place of its key. -/
theorem Sole.getElem?_kept (h : Sole w r) {u : SourceUnit} (hu : u ∈ r.units) :
    (kept r)[(keys r).idxOf u.key]? = some u := by
  have hkey : (keys r)[(keys r).idxOf u.key]? = some u.key := by
    rw [List.getElem?_eq_getElem (List.idxOf_lt_length_of_mem (mem_keys hu)), List.getElem_idxOf]
  rw [← map_key_kept r, List.getElem?_map, map_key_kept] at hkey
  obtain ⟨u', hu', hsame⟩ := Option.map_eq_some_iff.mp hkey
  have hmem : u' ∈ r.units := mem_of_mem_kept (List.mem_of_getElem? hu')
  rw [hu', h.distinct u' hmem u hu hsame]

theorem Sole.registry? (h : Sole w r) : w.registry? main = some r := by
  rw [Workspace.registry?, h.registries]
  rfl

theorem Sole.unitsOf (h : Sole w r) : unitsOf w main = r.units := by
  rw [Snapshot.unitsOf, h.registry?]
  rfl

theorem Sole.homeOf (h : Sole w r) {u : SourceUnit} (hu : u ∈ r.units) :
    homeOf w u = some main := by
  obtain ⟨n, hn⟩ := h.source u hu
  rw [Snapshot.homeOf, hn]
  exact (h.home n main).mpr ⟨rfl, u, hu, hn⟩

/-- No other registry has to be saved. -/
theorem Sole.closure (h : Sole w r) (n : Nat) : closure w n [main] = [main] := by
  induction n with
  | zero => rfl
  | succ n ih =>
    have hhomes : ([main].flatMap (Snapshot.unitsOf w)).filterMap (Snapshot.homeOf w) ⊆ [main] := by
      intro id hid
      obtain ⟨u, hu, hhome⟩ := List.mem_filterMap.mp hid
      rw [List.flatMap_singleton, h.unitsOf] at hu
      rw [h.homeOf hu] at hhome
      obtain rfl := Option.some.inj hhome
      exact List.mem_singleton.mpr rfl
    rw [Snapshot.closure, extend_of_subset hhomes]
    exact ih

/-- What is kept of a unit of the first registry. -/
def SavedUnit.ofUnit (u : SourceUnit) : SavedUnit where
  package := u.package
  imports := u.imports
  staticImports := u.staticImports
  types := u.types
  origin := u.origin
  home := some 0

theorem Sole.capture (h : Sole w r) :
    capture w main =
      { registries := [{
          grammar := r.grammar, units := r.units.map fun u => (keys r).idxOf u.key }]
        units := (kept r).map SavedUnit.ofUnit } := by
  have hunits : (kept r).map (fun u =>
      ({ package := u.package, imports := u.imports, staticImports := u.staticImports
         types := u.types, origin := u.origin
         home := (Snapshot.homeOf w u).map fun id => [main].idxOf id } : SavedUnit)) =
      (kept r).map SavedUnit.ofUnit := by
    apply List.map_congr_left
    intro u hu
    rw [h.homeOf (mem_of_mem_kept hu)]
    rfl
  rw [← hunits]
  simp only [Snapshot.capture, h.closure, List.flatMap_singleton, List.map_cons, List.map_nil,
    h.unitsOf, h.registry?]
  rfl

/-! ### Restoring -/

/-- The numbers that a registry and its units get in a workspace. -/
def renumbering (target : Workspace) (r : Registry) : Renumbering where
  number n := target.unitCount + (keys r).idxOf (.source n)
  registry _ := ⟨target.registries.length⟩

/-- The registry under new numbers, with nothing behind it and nothing remembered. -/
def copy (ρ : Renumbering) (r : Registry) : Registry where
  grammar := r.grammar
  units := r.units.map ρ.unit
  index := Registry.enterAll [] ((r.units.map ρ.unit).flatMap SourceUnit.classes)

variable {target : Workspace}

theorem Sole.renew_ofUnit (h : Sole w r) {u : SourceUnit} (hu : u ∈ r.units) :
    (SavedUnit.ofUnit u).renew (target.unitCount + (keys r).idxOf u.key) =
      (renumbering target r).unit u := by
  obtain ⟨n, hn⟩ := h.source u hu
  simp only [SavedUnit.renew, SavedUnit.ofUnit, Renumbering.unit, Renumbering.key, renumbering, hn]

/-- Every unit is found again where its key stood. -/
theorem Sole.units_renew (h : Sole w r) :
    (r.units.map fun u => (keys r).idxOf u.key).filterMap (fun i =>
      (((kept r).map SavedUnit.ofUnit).mapIdx fun i u => u.renew (target.unitCount + i))[i]?) =
      r.units.map (renumbering target r).unit := by
  rw [List.filterMap_map, List.filterMap_eq_map_iff_forall_eq_some]
  intro u hu
  simp only [Function.comp_apply, List.getElem?_mapIdx, List.getElem?_map, h.getElem?_kept hu,
    Option.map_some, h.renew_ofUnit hu]

/-- What a saved registry adds to a workspace. -/
theorem Sole.restoreInto_capture (h : Sole w r) (target : Workspace) :
    restoreInto target (Snapshot.capture w main) =
      (⟨target.registries.length⟩,
        { target with
          registries := target.registries ++ [copy (renumbering target r) r]
          homes := (kept r).mapIdx
            (fun i _ => (target.unitCount + i, ⟨target.registries.length⟩)) ++ target.homes
          unitCount := target.unitCount + (kept r).length }) := by
  have hhomes : (((kept r).map SavedUnit.ofUnit).mapIdx fun i u => u.home.map fun n =>
        (target.unitCount + i, (⟨target.registries.length + n⟩ : RegistryId))).filterMap id =
      (kept r).mapIdx fun i _ => (target.unitCount + i, ⟨target.registries.length⟩) := by
    simp only [List.mapIdx_eq_zipIdx_map, List.zipIdx_map, List.map_map, List.filterMap_map]
    exact congrFun List.filterMap_eq_map' _
  rw [h.capture]
  simp only [restoreInto, hhomes, List.map_cons, List.map_nil, SavedRegistry.renew,
    h.units_renew, List.length_map]
  rfl

theorem lookup_mapIdx (us : List SourceUnit) (count : Nat) (id : RegistryId)
    (rest : List (Nat × RegistryId)) {i : Nat} (hi : i < us.length) :
    (us.mapIdx (fun i _ => (count + i, id)) ++ rest).lookup (count + i) = some id := by
  induction us generalizing count i with
  | nil => simp at hi
  | cons u us ih =>
    have hshift : us.mapIdx (fun i _ => (count + (i + 1), id)) =
        us.mapIdx fun i _ => (count + 1 + i, id) := by
      congr 1
      funext i _
      rw [Nat.add_right_comm, Nat.add_assoc]
    rw [List.mapIdx_cons, List.cons_append, lookup_cons_ite, hshift]
    cases i with
    | zero => simp
    | succ i =>
      have hne : count + (i + 1) ≠ count + 0 := by omega
      have hnext := ih (count + 1) (Nat.lt_of_succ_lt_succ hi)
      rw [if_neg hne, ← hnext]
      congr 1
      omega

end Snapshot

end JavaAtlas
