import JavaAtlas.File.Tree
import JavaAtlas.Proofs.Lookup
import JavaAtlas.Proofs.Paths
import Mathlib.Tactic.SplitIfs

/-! Trees of files, place by place. What is put at one place of a tree leaves all other places as
they are: `Tree.item?_put`. A path leads to the same directory as long as directories stay
directories, whatever happens to files: `Tree.walk_of_directories`. -/

namespace JavaAtlas.File

/-- What a place shows: a file with its bytes, or that there is a directory. -/
inductive Item where
  | file (bytes : List UInt8)
  | directory
deriving Repr, DecidableEq

namespace Tree

def item : Tree → Item
  | .file bytes => .file bytes
  | .directory _ => .directory

/-- What a tree shows at a place. -/
def item? (t : Tree) (place : List String) : Option Item := (t.at? place).map item

/-! ### Entries -/

theorem lookup_setEntry (name n : String) (new : Option Tree) (entries : List (String × Tree)) :
    (setEntry name new entries).lookup n = if n = name then new else entries.lookup n := by
  have hnew (rest : List (String × Tree)) :
      (new.toList.map (fun t => (name, t)) ++ rest.filter fun (m, _) => m != name).lookup n =
        if n = name then new else rest.lookup n := by
    cases new with
    | none => rw [Option.toList_none, List.map_nil, List.nil_append, lookup_filter_ne]
    | some t =>
      rw [Option.toList_some, List.map_singleton, List.singleton_append, lookup_cons_ite,
        lookup_filter_ne]
      split <;> rfl
  induction entries with
  | nil => simpa [setEntry] using hnew []
  | cons e entries ih =>
    obtain ⟨m, t⟩ := e
    rw [setEntry]
    by_cases hm : m = name
    · rw [if_pos (by simpa using hm), hm, lookup_cons_ite]
      refine (hnew entries).trans ?_
      split <;> rfl
    · rw [if_neg (by simpa using hm), lookup_cons_ite, lookup_cons_ite, ih]
      split
      · next hn => rw [if_neg (hn ▸ hm)]
      · rfl

/-! ### Places -/

@[simp] theorem item?_nil (t : Tree) : t.item? [] = some t.item := rfl

@[simp] theorem item?_file (bytes : List UInt8) (n : String) (q : List String) :
    item? (.file bytes) (n :: q) = none := rfl

@[simp] theorem item?_directory (entries : List (String × Tree)) (n : String) (q : List String) :
    item? (.directory entries) (n :: q) = (entries.lookup n).bind fun u => u.item? q := by
  simp only [item?, at?, entry?]
  cases entries.lookup n <;> rfl

theorem at?_append (t : Tree) (p q : List String) :
    t.at? (p ++ q) = (t.at? p).bind fun u => u.at? q := by
  induction p generalizing t with
  | nil => rfl
  | cons n p ih =>
    simp only [List.cons_append, at?]
    cases t.entry? n with
    | none => rfl
    | some u => exact ih u

theorem item?_append (t : Tree) (p q : List String) :
    t.item? (p ++ q) = (t.at? p).bind fun u => u.item? q := by
  rw [item?, at?_append]
  cases t.at? p <;> rfl

theorem at?_of_directory {t : Tree} {place : List String} (h : t.item? place = some .directory) :
    ∃ entries, t.at? place = some (.directory entries) := by
  obtain ⟨u, hu, hitem⟩ := Option.map_eq_some_iff.mp h
  cases u with
  | file bytes => cases hitem
  | directory entries => exact ⟨entries, hu⟩

theorem at?_of_file {t : Tree} {place : List String} {bytes : List UInt8}
    (h : t.item? place = some (.file bytes)) : t.at? place = some (.file bytes) := by
  obtain ⟨u, hu, hitem⟩ := Option.map_eq_some_iff.mp h
  cases u with
  | file bytes =>
    cases hitem
    exact hu
  | directory entries => cases hitem

/-- Nothing stands below a file, nor below nothing. -/
theorem item?_below {t : Tree} {place : List String} (h : t.item? place ≠ some .directory)
    {rest : List String} (hrest : rest ≠ []) : t.item? (place ++ rest) = none := by
  obtain ⟨n, rest, rfl⟩ := List.exists_cons_of_ne_nil hrest
  rw [item?_append]
  rw [item?] at h
  cases hplace : t.at? place with
  | none => rfl
  | some u =>
    rw [hplace] at h
    cases u with
    | file bytes => rfl
    | directory entries => exact absurd rfl h

theorem put_singleton (entries : List (String × Tree)) (name : String) (new : Option Tree) :
    put (.directory entries) [name] new = .directory (setEntry name new entries) := rfl

/-- Further down, something is put into an entry, as long as there is one. -/
theorem put_cons (entries : List (String × Tree)) (name : String) {place : List String}
    (hplace : place ≠ []) (new : Option Tree) :
    put (.directory entries) (name :: place) new =
      ((entries.lookup name).map fun u =>
        directory (setEntry name (some (u.put place new)) entries)).getD (.directory entries) := by
  obtain ⟨n, place, rfl⟩ := List.exists_cons_of_ne_nil hplace
  rw [put]
  cases entries.lookup name <;> rfl

/-- What is put at a place leaves what does not stand there or below as it is. -/
theorem item?_put (t : Tree) (place : List String) (new : Option Tree) {q : List String}
    (hq : ¬place <+: q) : (t.put place new).item? q = t.item? q := by
  induction place generalizing t q with
  | nil => exact absurd List.nil_prefix hq
  | cons name place ih =>
    cases t with
    | file bytes => rw [put]
    | directory entries =>
      by_cases hplace : place = []
      · subst hplace
        rw [put_singleton]
        cases q with
        | nil => rfl
        | cons n q =>
          have hne : n ≠ name := fun h => hq (by simp [h])
          rw [item?_directory, item?_directory, lookup_setEntry, if_neg hne]
      · rw [put_cons entries name hplace]
        cases hentry : entries.lookup name with
        | none => rfl
        | some u =>
          cases q with
          | nil => rfl
          | cons n q =>
            simp only [Option.map_some, Option.getD_some, item?_directory, lookup_setEntry]
            split
            · -- The two ways part further down, as one does not start with the other.
              next hn =>
                subst hn
                rw [hentry]
                exact ih u fun h => hq ((List.prefix_cons_inj n).mpr h)
            · rfl

/-- In a directory what is put at a place is there. -/
theorem at?_put_self {t : Tree} {parent : List String} (h : t.item? parent = some .directory)
    (name : String) (new : Option Tree) :
    (t.put (parent ++ [name]) new).at? (parent ++ [name]) = new := by
  induction parent generalizing t with
  | nil =>
    cases t with
    | file bytes => cases h
    | directory entries =>
      rw [List.nil_append, put_singleton, at?, entry?, lookup_setEntry, if_pos rfl]
      cases new <;> rfl
  | cons n parent ih =>
    cases t with
    | file bytes => cases h
    | directory entries =>
      rw [item?_directory] at h
      obtain ⟨u, hu, hdir⟩ := Option.bind_eq_some_iff.mp h
      rw [List.cons_append, put_cons entries n (by simp), hu, Option.map_some, Option.getD_some, at?,
        entry?, lookup_setEntry, if_pos rfl]
      exact ih hdir

/-- Something that is no directory, put in a directory in place of nothing or a file, changes that
place and no other. -/
theorem item?_put_leaf {t : Tree} {parent : List String} {name : String} {new : Option Tree}
    (hparent : t.item? parent = some .directory)
    (hold : t.item? (parent ++ [name]) ≠ some .directory) (hnew : new.map item ≠ some .directory)
    (q : List String) :
    (t.put (parent ++ [name]) new).item? q =
      if q = parent ++ [name] then new.map item else t.item? q := by
  have hself : (t.put (parent ++ [name]) new).item? (parent ++ [name]) = new.map item := by
    rw [item?, at?_put_self hparent]
  by_cases hq : parent ++ [name] <+: q
  · obtain ⟨rest, rfl⟩ := hq
    by_cases hrest : rest = []
    · rw [hrest, List.append_nil, if_pos rfl, hself]
    · have hne : parent ++ [name] ++ rest ≠ parent ++ [name] := by simpa using hrest
      rw [if_neg hne, item?_below (hself ▸ hnew) hrest, item?_below hold hrest]
  · have hne : q ≠ parent ++ [name] := fun h => hq (h ▸ List.prefix_refl _)
    rw [item?_put t _ new hq, if_neg hne]

/-! ### Paths through a tree -/

/-- One step of a path. -/
theorem walk_cons (t : Tree) (place : List String) (step : String) (steps : List String) :
    t.walk place (step :: steps) =
      match t.item? place with
      | none => .error .absent
      | some (.file _) => .error .notDirectory
      | some .directory =>
        if step == "." then t.walk place steps
        else if step == ".." then t.walk place.dropLast steps
        else if isTooLong step then .error .nameTooLong
        else if (t.item? (place ++ [step])).isSome then t.walk (place ++ [step]) steps
        else .error .absent := by
  rw [walk, item?_append, item?]
  cases t.at? place with
  | none => rfl
  | some u =>
    cases u with
    | file bytes => rfl
    | directory entries =>
      have hsome : ((entries.lookup step).bind fun u => u.item? []).isSome =
          (entries.lookup step).isSome := by
        cases entries.lookup step <;> rfl
      simp only [isDirectory, item, entry?, Option.map_some, Option.bind_some, Bool.not_true,
        Bool.false_eq_true, if_false, item?_directory, hsome]
      rfl

theorem walk_append (t : Tree) (place : List String) (steps more : List String) :
    t.walk place (steps ++ more) = t.walk place steps >>= fun q => t.walk q more := by
  induction steps generalizing place with
  | nil => rfl
  | cons step steps ih =>
    rw [List.cons_append, walk_cons, walk_cons]
    cases t.item? place with
    | none => rfl
    | some item =>
      cases item with
      | file bytes => rfl
      | directory =>
        simp only [ih]
        split_ifs <;> rfl

/-- A path with any steps starts in a directory. -/
theorem start_of_walk {t : Tree} {place q : List String} {steps : List String}
    (h : t.walk place steps = .ok q) :
    (steps = [] ∧ place = q) ∨ t.item? place = some .directory := by
  cases steps with
  | nil => exact .inl ⟨rfl, by simpa [walk] using h⟩
  | cons step steps =>
    rw [walk_cons] at h
    cases hplace : t.item? place with
    | none => simp [hplace] at h
    | some item =>
      cases item with
      | file bytes => simp [hplace] at h
      | directory => exact .inr rfl

/-- A path to a directory leads there in every tree with the same directories and more. -/
theorem walk_of_directories {t u : Tree} {place q : List String} {steps : List String}
    (hdirs : ∀ p, t.item? p = some .directory → u.item? p = some .directory)
    (h : t.walk place steps = .ok q) (hq : t.item? q = some .directory) :
    u.walk place steps = .ok q := by
  have hstart {place : List String} {steps : List String} (h : t.walk place steps = .ok q) :
      t.item? place = some .directory := by
    rcases start_of_walk h with ⟨-, rfl⟩ | hplace
    · exact hq
    · exact hplace
  induction steps generalizing place with
  | nil => exact h
  | cons step steps ih =>
    have hplace := hstart h
    rw [walk_cons, hplace] at h
    rw [walk_cons, hdirs place hplace]
    dsimp only at h ⊢
    split_ifs at h ⊢ with hdot hup hlong hentry
    · exact ih h
    · exact ih h
    · exact ih h
    · simp [hdirs _ (hstart h)] at hentry

/-- Dots in a path do not matter, unless they stand behind a file. -/
theorem walk_of_filter {t : Tree} {place q : List String} {steps : List String} {item : Item}
    (h : t.walk place (steps.filter (· != ".")) = .ok q) (hq : t.item? q = some item) :
    t.walk place steps = .ok q ∨
      item ≠ .directory ∧ t.walk place steps = .error .notDirectory := by
  induction steps generalizing place with
  | nil => exact .inl h
  | cons step steps ih =>
    by_cases hdot : step = "."
    · subst hdot
      rw [List.filter_cons_of_neg (by simp)] at h
      rw [walk_cons]
      rcases start_of_walk h with ⟨-, rfl⟩ | hplace
      · -- Only a directory lets a dot stay where the walk has come to its end.
        rw [hq]
        cases item with
        | file bytes => exact .inr ⟨by simp, rfl⟩
        | directory => exact ih h
      · rw [hplace]
        exact ih h
    · rw [List.filter_cons_of_pos (by simpa using hdot)] at h
      rcases start_of_walk h with ⟨hnil, -⟩ | hplace
      · cases hnil
      rw [walk_cons, hplace] at h
      rw [walk_cons, hplace]
      dsimp only at h ⊢
      split_ifs at h ⊢
      · exact ih h
      · exact ih h
      · exact ih h

end Tree

namespace Disk

open JavaAtlas.File.Path (ofText)

/-- A path leads to a place in a directory. -/
structure Leads (d : Disk) (p : Path) (parent : List String) : Prop where
  walk : d.tree.walk (d.start p.root) p.parts.dropLast = .ok parent
  directory : d.tree.item? parent = some .directory
  short : Tree.isTooLong p.name = false

variable {d e : Disk} {p : Path} {parent : List String}

theorem target_eq_ok_iff {place : List String} :
    d.target p = .ok place ↔ ∃ parent, d.Leads p parent ∧ place = parent ++ [p.name] := by
  constructor
  · intro h
    rw [target] at h
    cases hwalk : d.tree.walk (d.start p.root) p.parts.dropLast with
    | error cause => simp [hwalk, bind, Except.bind] at h
    | ok parent =>
      simp only [hwalk, bind, Except.bind] at h
      split at h
      · next entries hentries =>
        split at h
        · cases h
        · next hshort =>
          refine ⟨parent, ⟨hwalk, ?_, by simpa using hshort⟩, (Except.ok.inj h).symm⟩
          rw [Tree.item?, hentries]
          rfl
      · cases h
      · cases h
  · rintro ⟨parent, h, rfl⟩
    obtain ⟨entries, hentries⟩ := Tree.at?_of_directory h.directory
    simp only [target, h.walk, bind, Except.bind, hentries, h.short]
    rfl

theorem Leads.target (h : d.Leads p parent) : d.target p = .ok (parent ++ [p.name]) :=
  target_eq_ok_iff.mpr ⟨parent, h, rfl⟩

/-- Where a path with a longer ending leads, the path leads, too. -/
theorem Leads.of_withEnding {ending : String} (h : d.Leads (p.withEnding ending) parent) :
    d.Leads p parent where
  walk := by
    have hwalk := h.walk
    rwa [Path.dropLast_withEnding] at hwalk
  directory := h.directory
  short := by
    have hshort := h.short
    rw [Path.name_withEnding] at hshort
    simp only [Tree.isTooLong, String.utf8ByteSize_append, decide_eq_false_iff_not] at hshort ⊢
    omega

/-- A path leads to the same place in every tree with the same directories and more. -/
theorem Leads.of_directories (h : d.Leads p parent) (hstart : e.directory = d.directory)
    (hdirs : ∀ q, d.tree.item? q = some .directory → e.tree.item? q = some .directory) :
    e.Leads p parent where
  walk := by
    rw [start, hstart]
    exact Tree.walk_of_directories hdirs h.walk h.directory
  directory := hdirs parent h.directory
  short := h.short

/-! ### Changing files -/

/-- A disk whose tree shows something else at one place, and the same at all others. -/
structure Changed (d : Disk) (place : List String) (item : Option Item) (e : Disk) : Prop where
  directory : e.directory = d.directory
  items : ∀ q, e.tree.item? q = if q = place then item else d.tree.item? q

section Changed

variable {f : Disk} {place : List String} {item item' : Option Item}

/-- A path leads on to its place after a change that takes no directory away. -/
theorem Changed.leads (h : d.Changed place item e) (hplace : d.tree.item? place ≠ some .directory)
    (hp : d.Leads p parent) : e.Leads p parent := by
  refine hp.of_directories h.directory fun q hq => ?_
  have hne : q ≠ place := fun heq => hplace (heq ▸ hq)
  rw [h.items, if_neg hne, hq]

/-- Of two changes at one place the second counts. -/
theorem Changed.trans (h : d.Changed place item e) (h' : e.Changed place item' f) :
    d.Changed place item' f where
  directory := h'.directory.trans h.directory
  items q := by
    rw [h'.items, h.items]
    split <;> rfl

theorem changed_put {name : String} (new : Option Tree)
    (hparent : d.tree.item? parent = some .directory)
    (hold : d.tree.item? (parent ++ [name]) ≠ some .directory)
    (hnew : new.map Tree.item ≠ some .directory) :
    d.Changed (parent ++ [name]) (new.map Tree.item)
      { d with tree := d.tree.put (parent ++ [name]) new } where
  directory := rfl
  items := Tree.item?_put_leaf hparent hold hnew

end Changed

theorem write_of_target {cause : Cause} (h : d.target p = .error cause) (bytes : List UInt8) :
    d.write p bytes = .error cause := by
  rw [write, h]
  rfl

theorem remove_of_target {cause : Cause} (h : d.target p = .error cause) :
    d.remove p = .error cause := by
  rw [remove, h]
  rfl

theorem Leads.write_directory (h : d.Leads p parent)
    (hdir : d.tree.item? (parent ++ [p.name]) = some .directory) (bytes : List UInt8) :
    d.write p bytes = .error .isDirectory := by
  obtain ⟨entries, hplace⟩ := Tree.at?_of_directory hdir
  simp only [write, h.target, bind, Except.bind, hplace]
  rfl

theorem Leads.exists_write (h : d.Leads p parent)
    (hfree : d.tree.item? (parent ++ [p.name]) ≠ some .directory) (bytes : List UInt8) :
    ∃ e, d.write p bytes = .ok e ∧ d.Changed (parent ++ [p.name]) (some (.file bytes)) e := by
  refine ⟨_, ?_, changed_put (some (.file bytes)) h.directory hfree (by simp [Tree.item])⟩
  simp only [write, h.target, bind, Except.bind]
  split
  · next entries hplace => exact absurd (by rw [Tree.item?, hplace]; rfl) hfree
  · rfl

theorem Leads.remove_directory (h : d.Leads p parent)
    (hdir : d.tree.item? (parent ++ [p.name]) = some .directory) :
    d.remove p = .error .isDirectory := by
  obtain ⟨entries, hplace⟩ := Tree.at?_of_directory hdir
  simp only [remove, h.target, bind, Except.bind, hplace]
  rfl

section Files

variable {bytes : List UInt8} {goal : Path}

theorem Leads.exists_remove (h : d.Leads p parent)
    (hfile : d.tree.item? (parent ++ [p.name]) = some (.file bytes)) :
    ∃ e, d.remove p = .ok e ∧ d.Changed (parent ++ [p.name]) none e := by
  have hplace := Tree.at?_of_file hfile
  refine ⟨_, ?_, changed_put none h.directory (by simp [hfile]) (by simp)⟩
  simp only [remove, h.target, bind, Except.bind, hplace]
  rfl

theorem Leads.replace_up (h : d.Leads p parent) (hup : goal.name = "..") :
    d.replace p goal = .error .busy := by
  simp only [replace, h.target, bind, Except.bind, hup]
  rfl

theorem Leads.replace_directory (h : d.Leads p parent) (hgoal : d.Leads goal parent)
    (hup : goal.name ≠ "..") (hfile : d.tree.item? (parent ++ [p.name]) = some (.file bytes))
    (hdir : d.tree.item? (parent ++ [goal.name]) = some .directory) :
    d.replace p goal = .error .isDirectory := by
  obtain ⟨entries, hplace⟩ := Tree.at?_of_directory hdir
  have hname : (goal.name == "..") = false := by simpa using hup
  simp only [replace, h.target, hgoal.target, bind, Except.bind, hname, Tree.at?_of_file hfile,
    hplace]
  rfl

/-- A file that is moved goes away from one place and comes to another. -/
theorem Leads.exists_replace (h : d.Leads p parent) (hgoal : d.Leads goal parent)
    (hup : goal.name ≠ "..") (hnames : p.name ≠ goal.name)
    (hfile : d.tree.item? (parent ++ [p.name]) = some (.file bytes))
    (hfree : d.tree.item? (parent ++ [goal.name]) ≠ some .directory) :
    ∃ between e, d.replace p goal = .ok e ∧ d.Changed (parent ++ [p.name]) none between ∧
      between.Changed (parent ++ [goal.name]) (some (.file bytes)) e := by
  have haway := changed_put none h.directory
    (show d.tree.item? (parent ++ [p.name]) ≠ some .directory by simp [hfile]) (by simp)
  have hname : (goal.name == "..") = false := by simpa using hup
  refine ⟨_, _, ?_, haway, changed_put (some (.file bytes)) ?_ ?_ (by simp [Tree.item])⟩
  · simp only [replace, h.target, hgoal.target, bind, Except.bind, hname, Tree.at?_of_file hfile]
    cases hplace : d.tree.at? (parent ++ [goal.name]) with
    | none => rfl
    | some u =>
      cases u with
      | file bytes => rfl
      | directory entries => exact absurd (by rw [Tree.item?, hplace]; rfl) hfree
  · rw [haway.items, if_neg (by simp), h.directory]
  · rw [haway.items, if_neg (by simpa using hnames.symm)]
    exact hfree

end Files

/-! ### Reading files -/

/-- The step to the name at the end of a path. -/
theorem Leads.walk_name (h : d.Leads p parent) (hdot : p.name ≠ ".") (hup : p.name ≠ "..") :
    d.tree.walk parent [p.name] =
      if (d.tree.item? (parent ++ [p.name])).isSome then .ok (parent ++ [p.name])
      else .error .absent := by
  rw [Tree.walk_cons, h.directory]
  simp [hdot, hup, h.short, Tree.walk]

theorem readText_eq {text : String} (h : (ofText text).name ≠ "") :
    d.readText text =
      d.tree.walk (d.start (ofText text).root) (Path.steps text) >>= fun place =>
        match d.tree.at? place with
        | some t => bytesOf t
        | none => .error .absent := by
  have hne : text.isEmpty = false := by
    rw [String.isEmpty_eq_false_iff]
    rintro rfl
    exact h rfl
  have hlocate : d.locateText text = d.tree.walk (d.start (ofText text).root) (Path.steps text) := by
    rw [locateText, if_neg (by simp [hne])]
    rfl
  rw [readText, hlocate]
  rfl

/-- A file can be read under every text that ends in its name. -/
theorem Leads.readText {text : String} (h : d.Leads (ofText text) parent)
    (hname : (ofText text).name ≠ "") (hup : (ofText text).name ≠ "..")
    (hlast : (Path.pieces text).getLast? = some (ofText text).name) {bytes : List UInt8}
    (hfile : d.tree.item? (parent ++ [(ofText text).name]) = some (.file bytes)) :
    d.readText text = .ok bytes := by
  have hdot := ((Path.proper_ofText text).parts _ (Path.name_mem_parts hname)).2.1
  obtain ⟨front, hsteps, hfront⟩ := Path.exists_steps hname hlast
  have hwalk : d.tree.walk (d.start (ofText text).root) front = .ok parent := by
    rcases Tree.walk_of_filter (hfront ▸ h.walk) h.directory with hwalk | ⟨hno, -⟩
    · exact hwalk
    · exact absurd rfl hno
  rw [readText_eq hname, hsteps, Tree.walk_append, hwalk]
  simp only [bind, Except.bind, h.walk_name hdot hup, hfile, Option.isSome_some, if_true,
    Tree.at?_of_file hfile]
  rfl

/-- Under any other text of its path a file cannot be read, since that leads into it. -/
theorem Leads.readText_dot {text : String} (h : d.Leads (ofText text) parent)
    (hname : (ofText text).name ≠ "") (hup : (ofText text).name ≠ "..")
    (hlast : (Path.pieces text).getLast? ≠ some (ofText text).name) {bytes : List UInt8}
    (hfile : d.tree.item? (parent ++ [(ofText text).name]) = some (.file bytes)) :
    d.readText text = .error .notDirectory := by
  have hdot := ((Path.proper_ofText text).parts _ (Path.name_mem_parts hname)).2.1
  have hparts : d.tree.walk (d.start (ofText text).root) (ofText text).parts =
      .ok (parent ++ [(ofText text).name]) := by
    rw [Path.parts_eq hname, Tree.walk_append, h.walk]
    simp only [bind, Except.bind, h.walk_name hdot hup, hfile, Option.isSome_some, if_true]
  rw [← Path.filter_steps] at hparts
  rw [readText_eq hname]
  rcases Tree.walk_of_filter hparts hfile with hwalk | ⟨-, hwalk⟩
  · -- the last step would have to start in the file
    obtain ⟨front, hsteps⟩ := Path.exists_steps_dot hlast
    rw [hsteps, Tree.walk_append] at hwalk
    cases hfront : d.tree.walk (d.start (ofText text).root) front with
    | error cause =>
      rw [hfront] at hwalk
      cases hwalk
    | ok q =>
      have hq : d.tree.walk q ["."] = .ok (parent ++ [(ofText text).name]) := by
        rwa [hfront] at hwalk
      rcases Tree.start_of_walk hq with ⟨hnil, -⟩ | hdir
      · cases hnil
      · rw [Tree.walk_cons, hdir] at hq
        obtain rfl : q = parent ++ [(ofText text).name] := by simpa [Tree.walk] using hq
        simp [hdir] at hfile
  · rw [hwalk]
    rfl

/-- Nothing is held at a path that leads to a place where nothing is. -/
theorem Leads.holds_eq_false (h : d.Leads p parent) (hname : p.name ≠ "") (hdot : p.name ≠ ".")
    (hup : p.name ≠ "..") (hnone : d.tree.item? (parent ++ [p.name]) = none) :
    d.holds p = false := by
  have hlocate : d.locate p = .error .absent := by
    rw [locate, Path.parts_eq hname, Tree.walk_append, h.walk]
    simp only [bind, Except.bind, h.walk_name hdot hup, hnone, Option.isSome_none,
      Bool.false_eq_true, if_false]
  rw [holds, lookup, hlocate]
  rfl

/-! ### Everything else -/

/-- Two disks that show the same everywhere but where some paths lead. -/
structure SameBut (d : Disk) (paths : List Path) (e : Disk) : Prop where
  directory : e.directory = d.directory
  items : ∀ place, (∀ p ∈ paths, d.target p ≠ .ok place) →
    e.tree.item? place = d.tree.item? place

theorem SameBut.rfl {paths : List Path} : d.SameBut paths d := ⟨Eq.refl _, fun _ _ => Eq.refl _⟩

theorem Changed.sameBut {place : List String} {item : Option Item} (h : d.Changed place item e)
    (hp : d.target p = .ok place) : d.SameBut [p] e where
  directory := h.directory
  items q hq := by
    have hne : q ≠ place := fun heq => hq p (by simp) (heq ▸ hp)
    rw [h.items, if_neg hne]

end Disk

end JavaAtlas.File
