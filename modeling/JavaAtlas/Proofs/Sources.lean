import JavaAtlas.File.Sources
import JavaAtlas.Proofs.Files
import Mathlib.Tactic.ByContra
import Mathlib.Tactic.MkIffOfInductiveProp

/-! Source files below a directory. In a tree such as a disk can hold, every file that is found
below a directory stands in the tree and can be read at the path under which it is found:
`Disk.exists_read_of_mem_sources`. -/

namespace JavaAtlas

theorem Text.mem_of_mem_intercalate {sep c : Char} {ps : List (List Char)}
    (h : c ∈ [sep].intercalate ps) : c = sep ∨ ∃ p ∈ ps, c ∈ p := by
  induction ps with
  | nil => simp at h
  | cons p ps ih =>
    by_cases hnil : ps = []
    · subst hnil
      exact .inr ⟨p, by simp, by simpa using h⟩
    · rw [List.intercalate_cons_of_ne_nil hnil, List.append_assoc] at h
      simp only [List.mem_append, List.mem_singleton] at h
      rcases h with h | h | h
      · exact .inr ⟨p, by simp, h⟩
      · exact .inl h
      · obtain h | ⟨q, hq, hc⟩ := ih h
        · exact .inl h
        · exact .inr ⟨q, List.mem_cons_of_mem p hq, hc⟩

namespace File

/-- A name that something in a directory can have. -/
@[mk_iff]
structure IsEntryName (name : String) : Prop where
  notEmpty : name ≠ ""
  notDot : name ≠ "."
  notUp : name ≠ ".."
  noSlash : '/' ∉ name.toList
  noNull : '\x00' ∉ name.toList
  short : Tree.isTooLong name = false

instance (name : String) : Decidable (IsEntryName name) :=
  decidable_of_iff' _ (isEntryName_iff name)

namespace Tree

/-- The entries of every directory in the tree have names that they can have, each a name of its
own. -/
inductive Proper : Tree → Prop
  | file (bytes : List UInt8) : Proper (.file bytes)
  | directory {entries : List (String × Tree)} : (entries.map Prod.fst).Nodup →
      (∀ e ∈ entries, IsEntryName e.1) → (∀ e ∈ entries, Proper e.2) → Proper (.directory entries)

/-- What stands at a place of a proper tree is proper, and so are the names on the way to it. -/
theorem Proper.at? {t u : Tree} (h : t.Proper) {place : List String} (hu : t.at? place = some u) :
    u.Proper ∧ ∀ n ∈ place, IsEntryName n := by
  induction place generalizing t with
  | nil =>
    obtain rfl : t = u := by simpa [Tree.at?] using hu
    exact ⟨h, by simp⟩
  | cons name place ih =>
    obtain ⟨v, hv, hbelow⟩ := Option.bind_eq_some_iff.mp hu
    cases h with
    | file bytes => cases hv
    | directory _ hnames htrees =>
      have hmem := mem_of_lookup hv
      obtain ⟨hproper, hplace⟩ := ih (htrees _ hmem) hbelow
      refine ⟨hproper, fun n hn => ?_⟩
      rcases List.mem_cons.mp hn with rfl | hn
      · exact hnames _ hmem
      · exact hplace n hn

theorem lookup_of_mem {entries : List (String × Tree)} (h : (entries.map Prod.fst).Nodup)
    {name : String} {t : Tree} (ht : (name, t) ∈ entries) : entries.lookup name = some t := by
  induction entries with
  | nil => cases ht
  | cons e entries ih =>
    rw [List.map_cons, List.nodup_cons] at h
    rw [lookup_cons_ite]
    rcases List.mem_cons.mp ht with rfl | ht
    · rw [if_pos rfl]
    · have hne : name ≠ e.1 := fun heq => h.1 (heq ▸ List.mem_map_of_mem ht)
      rw [if_neg hne, ih h.2 ht]

/-! ### Files that are found -/

theorem mem_sourcesIn_iff {place q : List String} {entries : List (String × Tree)} :
    q ∈ sourcesIn place entries ↔ ∃ e ∈ entries, q ∈ e.2.sourcesAt (place ++ [e.1]) := by
  induction entries with
  | nil => simp [sourcesIn]
  | cons e entries ih => simp [sourcesIn, ih]

/-- Every place that is found in a proper tree is one of a file in it. -/
theorem Proper.exists_file {t : Tree} (h : t.Proper) {place q : List String}
    (hq : q ∈ t.sourcesAt place) :
    ∃ rest bytes, q = place ++ rest ∧ t.at? rest = some (.file bytes) := by
  induction h generalizing place with
  | file bytes =>
    rw [sourcesAt] at hq
    split at hq
    · exact ⟨[], bytes, by simpa using hq, rfl⟩
    · cases hq
  | @directory entries hnodup _ _ ih =>
    rw [sourcesAt] at hq
    obtain ⟨⟨name, u⟩, he, hq⟩ := mem_sourcesIn_iff.mp hq
    obtain ⟨rest, bytes, rfl, hfile⟩ := ih _ he hq
    refine ⟨name :: rest, bytes, by simp, ?_⟩
    rw [Tree.at?, entry?, lookup_of_mem hnodup he]
    exact hfile

theorem Proper.exists_file_of_mem_sources {t : Tree} (h : t.Proper) {q : List String}
    (hq : q ∈ t.sources) : ∃ bytes, t.at? q = some (.file bytes) := by
  cases t with
  | file bytes => cases hq
  | directory entries =>
    have hmem : q ∈ sourcesAt [] (.directory entries) := by
      rw [sourcesAt]
      exact List.mem_mergeSort.mp hq
    obtain ⟨rest, bytes, rfl, hfile⟩ := h.exists_file hmem
    exact ⟨bytes, hfile⟩

/-! ### Paths to files -/

/-- Only a directory has something below it. -/
theorem item?_of_below {t : Tree} {place rest : List String}
    (h : (t.item? (place ++ rest)).isSome) (hrest : rest ≠ []) :
    t.item? place = some .directory := by
  by_contra hno
  simp [item?_below hno hrest] at h

/-- Names of entries lead down the tree, one after the other. -/
theorem walk_entries {t : Tree} {place rest : List String} (hnames : ∀ n ∈ rest, IsEntryName n)
    (h : (t.item? (place ++ rest)).isSome) : t.walk place rest = .ok (place ++ rest) := by
  induction rest generalizing place with
  | nil => simp [walk]
  | cons n rest ih =>
    have hdir := item?_of_below h (by simp)
    have hn := hnames n List.mem_cons_self
    rw [List.append_cons] at h ⊢
    have hentry : (t.item? (place ++ [n])).isSome = true := by
      by_cases hrest : rest = []
      · simpa [hrest] using h
      · simp [item?_of_below h hrest]
    rw [walk_cons, hdir]
    simp only [hn.notDot, hn.notUp, hn.short, hentry, beq_iff_eq, if_true, Bool.false_eq_true,
      if_false]
    exact ih (fun m hm => hnames m (List.mem_cons_of_mem n hm)) h

/-- The steps of a path that leads somewhere in a proper tree are names of entries, unless they
stay or go up. -/
theorem Proper.step_of_walk {t : Tree} (h : t.Proper) {place q steps : List String}
    (hwalk : t.walk place steps = .ok q) {step : String} (hstep : step ∈ steps) :
    step = "." ∨ step = ".." ∨ IsEntryName step := by
  induction steps generalizing place with
  | nil => cases hstep
  | cons s steps ih =>
    rcases start_of_walk hwalk with ⟨hnil, -⟩ | hdir
    · cases hnil
    rw [walk_cons, hdir] at hwalk
    dsimp only at hwalk
    split_ifs at hwalk with hdot hup hlong hentry
    · rcases List.mem_cons.mp hstep with rfl | hstep
      · exact .inl (by simpa using hdot)
      · exact ih hwalk hstep
    · rcases List.mem_cons.mp hstep with rfl | hstep
      · exact .inr (.inl (by simpa using hup))
      · exact ih hwalk hstep
    · rcases List.mem_cons.mp hstep with rfl | hstep
      · obtain ⟨item, hitem⟩ := Option.isSome_iff_exists.mp hentry
        obtain ⟨u, hu, -⟩ := Option.map_eq_some_iff.mp hitem
        exact .inr (.inr ((h.at? hu).2 step (by simp)))
      · exact ih hwalk hstep

end Tree

/-- The text of a path is made of its root, its components and the slashes between them, or is a
dot. -/
theorem Path.mem_text {p : Path} {c : Char} (h : c ∈ p.text.toList) :
    c ∈ p.root.toList ∨ c = '/' ∨ c = '.' ∨ ∃ x ∈ p.parts, c ∈ x.toList := by
  rw [text] at h
  split at h
  · exact .inr (.inr (.inl (by simpa using h)))
  · rw [String.toList_append, String.toList_intercalate] at h
    rcases List.mem_append.mp h with h | h
    · exact .inl h
    · rcases Text.mem_of_mem_intercalate h with rfl | ⟨cs, hcs, hc⟩
      · exact .inr (.inl rfl)
      · obtain ⟨x, hx, rfl⟩ := List.mem_map.mp hcs
        exact .inr (.inr (.inr ⟨x, hx, hc⟩))

namespace Disk

variable {d : Disk} {root p : Path}

theorem lookup_eq_ok_iff {t : Tree} :
    d.lookup p = .ok t ↔ ∃ place, d.locate p = .ok place ∧ d.tree.at? place = some t := by
  rw [lookup]
  cases hlocate : d.locate p with
  | error cause => simp [bind, Except.bind]
  | ok place =>
    cases hplace : d.tree.at? place with
    | none => simp [bind, Except.bind, hplace, throw, throwThe, MonadExceptOf.throw]
    | some u => simp [bind, Except.bind, hplace, pure, Except.pure]

/-- Files that stand in order are found in that order. -/
theorem sources_of_sorted {entries : List (String × Tree)}
    (h : d.lookup root = .ok (.directory entries))
    (hsorted : (sourcesIn [] entries).Pairwise fun a b => (comparePlaces a b != .gt) = true) :
    d.sources root =
      (sourcesIn [] entries).map fun place => { root with parts := root.parts ++ place } := by
  rw [sources, h]
  dsimp only
  rw [Tree.sources, List.mergeSort_of_pairwise hsorted]

/-- A source file that is found below a directory can be read, and its path is one that files can
have. -/
theorem exists_read_of_mem_sources (h : d.tree.Proper) (hroot : root.Proper)
    (hp : p ∈ d.sources root) : (∃ bytes, d.read p = .ok bytes) ∧ '\x00' ∉ p.text.toList := by
  rw [sources] at hp
  cases hlookup : d.lookup root with
  | error cause => simp [hlookup] at hp
  | ok t =>
    rw [hlookup] at hp
    obtain ⟨q, hq, rfl⟩ := List.mem_map.mp hp
    obtain ⟨place, hlocate, ht⟩ := lookup_eq_ok_iff.mp hlookup
    obtain ⟨bytes, hfile⟩ := (h.at? ht).1.exists_file_of_mem_sources hq
    have hplace : d.tree.at? (place ++ q) = some (.file bytes) := by
      rw [Tree.at?_append, ht]
      exact hfile
    -- from the directory on, all steps are names of entries
    have hnames := ((h.at? ht).1.at? hfile).2
    have hwalk : d.tree.walk place q = .ok (place ++ q) :=
      Tree.walk_entries hnames (by simp [Tree.item?, hplace])
    constructor
    · refine ⟨bytes, ?_⟩
      have hlocate' : d.locate { root with parts := root.parts ++ q } = .ok (place ++ q) := by
        rw [locate, Tree.walk_append]
        rw [locate] at hlocate
        rw [hlocate]
        exact hwalk
      rw [read, lookup_eq_ok_iff.mpr ⟨_, hlocate', hplace⟩]
      rfl
    · intro hnull
      rcases Path.mem_text hnull with hr | hr | hr | ⟨x, hx, hc⟩
      · rcases hroot.root with hroot | hroot | hroot <;> simp [hroot] at hr
      · cases hr
      · cases hr
      · rcases List.mem_append.mp hx with hx | hx
        · rcases h.step_of_walk hlocate hx with rfl | rfl | hname
          · simp at hc
          · simp at hc
          · exact hname.noNull hc
        · exact (hnames x hx).noNull hc

end Disk

end File

end JavaAtlas
