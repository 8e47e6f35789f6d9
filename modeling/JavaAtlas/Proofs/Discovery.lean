import JavaAtlas.Proofs.Sources
import Mathlib.Data.List.Lex
import Mathlib.Data.List.Nodup
import Mathlib.Data.List.Sort
import Mathlib.Data.String.Basic

/-! The source files below a directory, one by one. In a tree such as a disk can hold, every source
file below the directory is found, nothing else is, and each once; they come in the order of the
components of their paths. So the listing depends on what stands in the tree and not on the order in
which directories hold their entries: `Disk.sources_exact`. -/

namespace JavaAtlas.File

/-! ### Names and places -/

theorem isSourceName_iff {name : String} :
    isSourceName name = true ↔
      ".java".toList <:+ name.toList ∧ name ∉ ["package-info.java", "module-info.java"] := by
  simp [isSourceName, withoutClasses, List.isSuffixOf_iff_suffix]

/-- Places are compared as lists of texts are ordered: by the first difference. -/
theorem comparePlaces_eq_gt_iff {xs ys : List String} : comparePlaces xs ys = .gt ↔ ys < xs := by
  induction xs generalizing ys with
  | nil => cases ys <;> simp [comparePlaces]
  | cons x xs ih =>
    cases ys with
    | nil => simp [comparePlaces]
    | cons y ys =>
      rw [comparePlaces, List.cons_lt_cons_iff, Ordering.then_eq_gt, ih, compare_gt_iff_gt,
        compare_eq_iff_eq, eq_comm]

namespace Tree

theorem sources_sorted (t : Tree) : t.sources.Pairwise (· ≤ ·) := by
  have hle (a b : List String) : (comparePlaces a b != .gt) = true ↔ a ≤ b := by
    rw [bne_iff_ne, ne_eq, comparePlaces_eq_gt_iff, not_lt]
  cases t with
  | file bytes => exact List.Pairwise.nil
  | directory entries =>
    have hsorted : (Tree.directory entries).sources.Pairwise
        fun a b => (comparePlaces a b != .gt) = true :=
      List.pairwise_mergeSort
        (fun a b c hab hbc => (hle a c).mpr (((hle a b).mp hab).trans ((hle b c).mp hbc)))
        (fun a b => by simpa [hle] using le_total a b) (sourcesIn [] entries)
    exact hsorted.imp fun {a b} hab => (hle a b).mp hab

/-! ### What is found -/

/-- Every place that is found is that of a file with the name of a source file. -/
theorem Proper.isSourceName_of_mem {t : Tree} (h : t.Proper) {place q : List String}
    (hq : q ∈ t.sourcesAt place) : isSourceName (q.getLastD "") = true := by
  induction h generalizing place with
  | file bytes =>
    rw [sourcesAt] at hq
    split at hq
    · next hname => rwa [List.mem_singleton.mp hq]
    · cases hq
  | directory _ _ _ ih =>
    rw [sourcesAt] at hq
    obtain ⟨e, he, hq⟩ := mem_sourcesIn_iff.mp hq
    exact ih e he hq

/-- Every file with such a name is found. -/
theorem mem_sourcesAt_of_file {t : Tree} {place rest : List String} {bytes : List UInt8}
    (hfile : t.at? rest = some (.file bytes))
    (hname : isSourceName ((place ++ rest).getLastD "") = true) :
    place ++ rest ∈ t.sourcesAt place := by
  induction rest generalizing t place with
  | nil =>
    obtain rfl : t = .file bytes := by simpa [at?] using hfile
    rw [List.append_nil] at hname ⊢
    rw [sourcesAt, if_pos hname]
    exact List.mem_singleton_self place
  | cons n rest ih =>
    obtain ⟨u, hu, hbelow⟩ := Option.bind_eq_some_iff.mp hfile
    cases t with
    | file _ => cases hu
    | directory entries =>
      rw [List.append_cons] at hname ⊢
      rw [sourcesAt]
      exact mem_sourcesIn_iff.mpr ⟨(n, u), mem_of_lookup hu, ih hbelow hname⟩

theorem sourcesIn_eq_flatMap (place : List String) (entries : List (String × Tree)) :
    sourcesIn place entries = entries.flatMap fun e => e.2.sourcesAt (place ++ [e.1]) := by
  induction entries with
  | nil => rfl
  | cons e entries ih => rw [sourcesIn, ih, List.flatMap_cons]

/-- No place is found twice: two entries of a directory have different names. -/
theorem Proper.nodup_sourcesAt {t : Tree} (h : t.Proper) (place : List String) :
    (t.sourcesAt place).Nodup := by
  induction h generalizing place with
  | file bytes =>
    rw [sourcesAt]
    split
    · exact List.nodup_singleton place
    · exact List.nodup_nil
  | @directory entries hnodup _ htrees ih =>
    rw [sourcesAt, sourcesIn_eq_flatMap, List.nodup_flatMap]
    refine ⟨fun e he => ih e he (place ++ [e.1]), ?_⟩
    have hnames := List.pairwise_map.mp hnodup
    refine hnames.imp_of_mem fun {e e'} he he' hne q hq hq' => hne ?_
    obtain ⟨rest, -, rfl, -⟩ := (htrees e he).exists_file hq
    obtain ⟨rest', -, hsame, -⟩ := (htrees e' he').exists_file hq'
    simp only [List.append_assoc, List.append_cancel_left_eq, List.singleton_append,
      List.cons.injEq] at hsame
    exact hsame.1

theorem Proper.nodup_sources {t : Tree} (h : t.Proper) : t.sources.Nodup := by
  cases t with
  | file bytes => exact List.nodup_nil
  | directory entries =>
    have hnodup := h.nodup_sourcesAt []
    rw [sourcesAt] at hnodup
    exact (List.mergeSort_perm _ _).nodup_iff.mpr hnodup

theorem Proper.sources_strictly_sorted {t : Tree} (h : t.Proper) : t.sources.Pairwise (· < ·) :=
  (t.sources_sorted.and h.nodup_sources).imp fun ⟨hle, hne⟩ => lt_of_le_of_ne hle hne

theorem Proper.mem_sources_iff {entries : List (String × Tree)}
    (h : (Tree.directory entries).Proper) {q : List String} :
    q ∈ (Tree.directory entries).sources ↔
      ∃ bytes, (Tree.directory entries).at? q = some (.file bytes) ∧
        isSourceName (q.getLastD "") = true := by
  have hmem : q ∈ (Tree.directory entries).sources ↔ q ∈ (Tree.directory entries).sourcesAt [] := by
    rw [sources, sourcesAt, List.mem_mergeSort]
  constructor
  · intro hq
    obtain ⟨bytes, hfile⟩ := h.exists_file_of_mem_sources hq
    exact ⟨bytes, hfile, h.isSourceName_of_mem (hmem.mp hq)⟩
  · rintro ⟨bytes, hfile, hname⟩
    rw [hmem, ← List.nil_append q]
    exact mem_sourcesAt_of_file hfile hname

/-! ### Directories in another order -/

/-- The same tree, with the entries of its directories in any other order. -/
inductive Reordered : Tree → Tree → Prop
  | file (bytes : List UInt8) : Reordered (.file bytes) (.file bytes)
  | directory {entries entries' : List (String × Tree)} :
      (entries.map Prod.fst).Perm (entries'.map Prod.fst) →
      (∀ name t t', (name, t) ∈ entries → (name, t') ∈ entries' → Reordered t t') →
      Reordered (.directory entries) (.directory entries')

theorem lookup_of_not_mem {entries : List (String × Tree)} {name : String}
    (h : name ∉ entries.map Prod.fst) : entries.lookup name = none := by
  cases hu : entries.lookup name with
  | none => rfl
  | some u => exact absurd (List.mem_map_of_mem (mem_of_lookup hu)) h

theorem mem_map_fst_iff {entries : List (String × Tree)} {name : String} :
    name ∈ entries.map Prod.fst ↔ ∃ t, (name, t) ∈ entries := by
  simp

/-- It is enough to compare each entry with one of its name. -/
theorem Reordered.of_entries {entries entries' : List (String × Tree)}
    (hperm : (entries.map Prod.fst).Perm (entries'.map Prod.fst))
    (hnodup : (entries'.map Prod.fst).Nodup)
    (h : ∀ e ∈ entries, ∃ t', (e.1, t') ∈ entries' ∧ Reordered e.2 t') :
    Reordered (.directory entries) (.directory entries') := by
  refine .directory hperm fun name t t' ht ht' => ?_
  obtain ⟨u, hu, hr⟩ := h (name, t) ht
  have hsame : some u = some t' := by
    rw [← lookup_of_mem hnodup hu, lookup_of_mem hnodup ht']
  obtain rfl := Option.some.inj hsame
  exact hr

theorem Reordered.proper {t t' : Tree} (hr : Reordered t t') (h : t.Proper) : t'.Proper := by
  induction hr with
  | file bytes => exact .file bytes
  | @directory entries entries' hperm _ ih =>
    cases h with
    | directory hnodup hnames htrees =>
      -- what stands under a name in one of the directories stands under it in the other, too
      have hentry {e : String × Tree} (he : e ∈ entries') : ∃ t, (e.1, t) ∈ entries :=
        mem_map_fst_iff.mp (hperm.mem_iff.mpr (List.mem_map_of_mem he))
      refine .directory (hperm.nodup_iff.mp hnodup) (fun e he => ?_) (fun e he => ?_)
      · obtain ⟨t, ht⟩ := hentry he
        exact hnames (e.1, t) ht
      · obtain ⟨t, ht⟩ := hentry he
        exact ih e.1 t e.2 ht he (htrees (e.1, t) ht)

/-- Nothing that stands at a place tells a tree from a reordered one. -/
theorem Reordered.item?_eq {t t' : Tree} (hr : Reordered t t') (h : t.Proper)
    (place : List String) : t'.item? place = t.item? place := by
  induction hr generalizing place with
  | file bytes => rfl
  | @directory entries entries' hperm htrees ih =>
    have h' := (Reordered.directory hperm htrees).proper h
    cases h with
    | directory hnodup _ hbelow =>
      cases h' with
      | directory hnodup' _ _ =>
        cases place with
        | nil => rfl
        | cons name place =>
          rw [item?_directory, item?_directory]
          by_cases hname : name ∈ entries.map Prod.fst
          · obtain ⟨t, ht⟩ := mem_map_fst_iff.mp hname
            obtain ⟨t', ht'⟩ := mem_map_fst_iff.mp (hperm.mem_iff.mp hname)
            rw [lookup_of_mem hnodup ht, lookup_of_mem hnodup' ht']
            exact ih name t t' ht ht' (hbelow _ ht) place
          · have hname' : name ∉ entries'.map Prod.fst := mt hperm.mem_iff.mpr hname
            rw [lookup_of_not_mem hname, lookup_of_not_mem hname']

/-- A path leads through two trees in the same way if the same things stand in them. -/
theorem walk_congr {t u : Tree} (h : ∀ p, u.item? p = t.item? p) (place steps : List String) :
    u.walk place steps = t.walk place steps := by
  induction steps generalizing place with
  | nil => rfl
  | cons step steps ih =>
    rw [walk_cons, walk_cons]
    simp only [h, ih]

end Tree

namespace Disk

variable {d : Disk} {root : Path}

theorem mem_sources_iff (h : d.tree.Proper) {p : Path} :
    p ∈ d.sources root ↔
      ∃ entries place bytes, d.lookup root = .ok (.directory entries) ∧
        (Tree.directory entries).at? place = some (.file bytes) ∧
        isSourceName (place.getLastD "") = true ∧
        p = { root with parts := root.parts ++ place } := by
  rw [sources]
  cases hlookup : d.lookup root with
  | error cause => simp
  | ok t =>
    cases t with
    | file bytes => simp [Tree.sources]
    | directory entries =>
      obtain ⟨top, -, htree⟩ := lookup_eq_ok_iff.mp hlookup
      have hproper := (h.at? htree).1
      simp only [List.mem_map, hproper.mem_sources_iff]
      constructor
      · rintro ⟨place, ⟨bytes, hfile, hname⟩, rfl⟩
        exact ⟨entries, place, bytes, rfl, hfile, hname, rfl⟩
      · rintro ⟨_, place, bytes, hsame, hfile, hname, rfl⟩
        obtain rfl := Tree.directory.inj (Except.ok.inj hsame)
        exact ⟨place, ⟨bytes, hfile, hname⟩, rfl⟩

/-- The paths below a directory are in the order of the places there. -/
theorem sources_strictly_sorted (h : d.tree.Proper) (root : Path) :
    (d.sources root).Pairwise fun p q => p.parts < q.parts := by
  rw [sources]
  cases hlookup : d.lookup root with
  | error cause => exact List.Pairwise.nil
  | ok t =>
    obtain ⟨place, -, htree⟩ := lookup_eq_ok_iff.mp hlookup
    have hsorted := (h.at? htree).1.sources_strictly_sorted
    exact List.pairwise_map.mpr (hsorted.imp fun hlt => List.append_left_lt hlt)

/-- In a reordered tree there is a directory wherever there was one, with the same files below. -/
theorem lookup_of_same {tree : Tree} (hsame : ∀ p, tree.item? p = d.tree.item? p)
    {entries : List (String × Tree)} (h : d.lookup root = .ok (.directory entries)) :
    ∃ entries', ({ d with tree } : Disk).lookup root = .ok (.directory entries') ∧
      ∀ place bytes, (Tree.directory entries).at? place = some (.file bytes) →
        (Tree.directory entries').at? place = some (.file bytes) := by
  obtain ⟨top, hlocate, htop⟩ := lookup_eq_ok_iff.mp h
  have hlocate' : ({ d with tree } : Disk).locate root = .ok top := by
    rw [← hlocate]
    exact Tree.walk_congr hsame _ _
  have hdir : tree.item? top = some .directory := by
    rw [hsame, Tree.item?, htop]
    rfl
  obtain ⟨entries', htop'⟩ := Tree.at?_of_directory hdir
  refine ⟨entries', lookup_eq_ok_iff.mpr ⟨top, hlocate', htop'⟩, fun place bytes hfile => ?_⟩
  have hitem : d.tree.item? (top ++ place) = some (.file bytes) := by
    rw [Tree.item?_append, htop, Option.bind_some, Tree.item?, hfile]
    rfl
  rw [← hsame, Tree.item?_append, htop'] at hitem
  exact Tree.at?_of_file hitem

theorem sources_subset_of_same (h : d.tree.Proper) {tree : Tree} (htree : tree.Proper)
    (hsame : ∀ p, tree.item? p = d.tree.item? p) :
    d.sources root ⊆ ({ d with tree } : Disk).sources root := by
  intro p hp
  obtain ⟨entries, place, bytes, hlookup, hfile, hname, rfl⟩ := (mem_sources_iff h).mp hp
  obtain ⟨entries', hlookup', hfiles⟩ := lookup_of_same hsame hlookup
  refine (mem_sources_iff htree).mpr ?_
  exact ⟨entries', place, bytes, hlookup', hfiles place bytes hfile, hname, rfl⟩

theorem sources_reordered (h : d.tree.Proper) {tree : Tree} (hr : d.tree.Reordered tree) :
    ({ d with tree } : Disk).sources root = d.sources root := by
  have hproper := hr.proper h
  have hsame := hr.item?_eq h
  have hsame' (p : List String) : d.tree.item? p = tree.item? p := (hsame p).symm
  have hirrefl : Std.Irrefl fun p q : Path => p.parts < q.parts := ⟨fun p => lt_irrefl p.parts⟩
  have hantisymm : Std.Antisymm fun p q : Path => p.parts < q.parts :=
    ⟨fun p q hpq hqp => absurd hpq (lt_asymm hqp)⟩
  refine List.Pairwise.eq_of_mem_iff (sources_strictly_sorted hproper root)
    (sources_strictly_sorted h root) fun p => ⟨fun hp => ?_, fun hp => ?_⟩
  · exact sources_subset_of_same (d := { d with tree }) hproper h hsame' hp
  · exact sources_subset_of_same h hproper hsame hp

/-- The source files of a directory are all files at any depth below it whose names end in `.java`
and are not those of the two kinds of files without classes. Each of them is found once, and they
come in strictly increasing order of the components of their paths, in whatever order directories
hold their entries. Where there is nothing, or a file, no source files are found. (A path with a name
that is too long for any file is refused before anything is looked for, `Session.checkLength`.) -/
theorem sources_exact (h : d.tree.Proper) (root : Path) :
    (∀ p, p ∈ d.sources root ↔
      ∃ entries place bytes, d.lookup root = .ok (.directory entries) ∧
        (Tree.directory entries).at? place = some (.file bytes) ∧
        ".java".toList <:+ (place.getLastD "").toList ∧
        place.getLastD "" ∉ ["package-info.java", "module-info.java"] ∧
        p = { root with parts := root.parts ++ place }) ∧
    (d.sources root).Nodup ∧
    ((d.sources root).Pairwise fun p q => p.parts < q.parts) ∧
    (∀ tree, d.tree.Reordered tree →
      ({ d with tree } : Disk).sources root = d.sources root) ∧
    (d.lookup root = .error .absent ∨ d.lookup root = .error .notDirectory ∨
        (∃ bytes, d.lookup root = .ok (.file bytes)) →
      d.sources root = []) := by
  have hsorted := sources_strictly_sorted h root
  refine ⟨fun p => ?_, ?_, hsorted, fun tree hr => sources_reordered h hr, fun hnone => ?_⟩
  · simp only [mem_sources_iff h, isSourceName_iff, and_assoc]
  · refine hsorted.imp fun {p q} hlt heq => ?_
    rw [heq] at hlt
    exact lt_irrefl _ hlt
  · rw [sources]
    rcases hnone with hnone | hnone | ⟨bytes, hfile⟩
    · rw [hnone]
    · rw [hnone]
    · rw [hfile]
      rfl

/-- Directories with the names of source files, files without a stem, and names of which one goes on
where the other ends. The entries are in no order. -/
def shelf : Tree :=
  .directory [("a-b", .directory [("C.java", .file [])]),
    ("a", .directory [("package-info.java", .file []),
      ("X.java", .directory [("Y.java", .file [0x7b])]), (".java", .file [])]),
    ("B.java", .file []), ("B.java.txt", .file [])]

/-- The same files in order. -/
def sortedShelf : Tree :=
  .directory [("B.java", .file []), ("B.java.txt", .file []),
    ("a", .directory [(".java", .file []), ("X.java", .directory [("Y.java", .file [0x7b])]),
      ("package-info.java", .file [])]),
    ("a-b", .directory [("C.java", .file [])])]

theorem proper_sortedShelf : Tree.Proper (.directory [("s", sortedShelf)]) := by
  have hinner : Tree.Proper (.directory [("Y.java", .file [0x7b])]) :=
    .directory (by decide) (by decide) (by simpa using .file _)
  have hshelf : sortedShelf.Proper := by
    refine .directory (by decide) (by decide) ?_
    simp only [List.forall_mem_cons, List.not_mem_nil, false_imp_iff, implies_true, and_true]
    refine ⟨.file _, .file _, .directory (by decide) (by decide) ?_,
      .directory (by decide) (by decide) (by simpa using .file _)⟩
    simp only [List.forall_mem_cons, List.not_mem_nil, false_imp_iff, implies_true, and_true]
    exact ⟨.file _, hinner, .file _⟩
  exact .directory (by decide) (by decide) (by simpa using hshelf)

theorem reordered_shelf :
    Tree.Reordered (.directory [("s", sortedShelf)]) (.directory [("s", shelf)]) := by
  have hinner : Tree.Reordered (.directory [("Y.java", .file [0x7b])])
      (.directory [("Y.java", .file [0x7b])]) :=
    .of_entries (by decide) (by decide) (by simpa using .file _)
  have hshelf : sortedShelf.Reordered shelf := by
    refine .of_entries (by decide) (by decide) ?_
    simp only [List.forall_mem_cons, List.not_mem_nil, false_imp_iff, implies_true, and_true]
    refine ⟨⟨_, by simp, .file _⟩, ⟨_, by simp, .file _⟩,
      ⟨_, .tail _ (.head _), .of_entries (by decide) (by decide) ?_⟩,
      ⟨_, .head _, .of_entries (by decide) (by decide) (by simpa using .file _)⟩⟩
    simp only [List.forall_mem_cons, List.not_mem_nil, false_imp_iff, implies_true, and_true]
    exact ⟨⟨_, by simp, .file _⟩, ⟨_, .tail _ (.head _), hinner⟩, ⟨_, by simp, .file _⟩⟩
  exact .of_entries (by decide) (by decide) (by simpa using hshelf)

theorem sources_exact_shelf :
    Tree.Proper (.directory [("s", sortedShelf)]) ∧
      Tree.Reordered (.directory [("s", sortedShelf)]) (.directory [("s", shelf)]) ∧
      Disk.sources { tree := .directory [("s", shelf)] } (.ofText "s") =
        [.ofText "s/B.java", .ofText "s/a/.java", .ofText "s/a/X.java/Y.java",
          .ofText "s/a-b/C.java"] ∧
      Disk.lookup { tree := .directory [("s", sortedShelf)] } (.ofText "s/B.java") =
        .ok (.file []) ∧
      Disk.sources { tree := .directory [("s", sortedShelf)] } (.ofText "s/B.java") = [] := by
  obtain ⟨-, -, -, hreordered, -⟩ :=
    sources_exact (d := { tree := .directory [("s", sortedShelf)] }) proper_sortedShelf (.ofText "s")
  obtain ⟨-, -, -, -, hnone⟩ :=
    sources_exact (d := { tree := .directory [("s", sortedShelf)] }) proper_sortedShelf
      (.ofText "s/B.java")
  refine ⟨proper_sortedShelf, reordered_shelf, ?_, rfl, hnone (.inr (.inr ⟨[], rfl⟩))⟩
  rw [hreordered _ reordered_shelf]
  rw [sources_of_sorted rfl (by decide)]
  decide

end Disk

end JavaAtlas.File
