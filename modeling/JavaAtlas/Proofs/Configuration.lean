import JavaAtlas.Proofs.Loading
import JavaAtlas.Proofs.Sources

/-! Configuration files that are of no use. Each of the two files of a project counts as missing if
it cannot be read or if its text is no configuration. Only bytes that are no text are an error:
`Session.loadSettings_falls_back`. -/

namespace JavaAtlas

namespace File

/-- Wherever a path leads in two trees, it leads to the same place. -/
theorem Tree.walk_unique {t u : Tree} {place q q' : List String} {steps : List String}
    (ht : t.walk place steps = .ok q) (hu : u.walk place steps = .ok q') : q = q' := by
  induction steps generalizing place with
  | nil => exact (Except.ok.inj ht).symm.trans (Except.ok.inj hu)
  | cons step steps ih =>
    have hplace : t.item? place = some .directory := by
      rcases start_of_walk ht with ⟨hnil, -⟩ | h
      · cases hnil
      · exact h
    have hplace' : u.item? place = some .directory := by
      rcases start_of_walk hu with ⟨hnil, -⟩ | h
      · cases hnil
      · exact h
    rw [walk_cons, hplace] at ht
    rw [walk_cons, hplace'] at hu
    dsimp only at ht hu
    split_ifs at ht hu
    · exact ih ht hu
    · exact ih ht hu
    · exact ih ht hu

/-- The path of a name in a directory. -/
def Path.below (p : Path) (name : String) : Path := { p with parts := p.parts ++ [name] }

@[simp] theorem Path.name_below (p : Path) (name : String) : (p.below name).name = name := by
  simp [Path.name, below]

namespace Disk

variable {d : Disk} {p q : Path} {parent : List String}

/-- The disk without what stands at a path. -/
def without (d : Disk) (p : Path) : Disk :=
  match d.locate p with
  | .ok place => { d with tree := d.tree.put place none }
  | .error _ => d

theorem Leads.locate (h : d.Leads p parent) (hname : IsEntryName p.name) :
    d.locate p = if (d.tree.item? (parent ++ [p.name])).isSome then .ok (parent ++ [p.name])
      else .error .absent := by
  rw [Disk.locate, Path.parts_eq hname.notEmpty, Tree.walk_append, h.walk]
  exact h.walk_name hname.notDot hname.notUp

theorem Leads.lookup (h : d.Leads p parent) (hname : IsEntryName p.name) :
    d.lookup p = match d.tree.at? (parent ++ [p.name]) with
      | some t => .ok t
      | none => .error .absent := by
  rw [Disk.lookup, h.locate hname, Tree.item?]
  cases hplace : d.tree.at? (parent ++ [p.name]) with
  | none => rfl
  | some t =>
    simp only [Option.map_some, Option.isSome_some, if_true, bind, Except.bind, hplace]
    rfl

theorem Leads.lookup_ne_nameTooLong (h : d.Leads p parent) (hname : IsEntryName p.name) :
    d.lookup p ≠ .error .nameTooLong := by
  rw [h.lookup hname]
  split <;> simp

theorem Leads.read (h : d.Leads p parent) (hname : IsEntryName p.name) :
    d.read p = match d.tree.item? (parent ++ [p.name]) with
      | some (.file bytes) => .ok bytes
      | some .directory => .error .isDirectory
      | none => .error .absent := by
  rw [Disk.read, h.lookup hname, Tree.item?]
  cases d.tree.at? (parent ++ [p.name]) with
  | none => rfl
  | some t => cases t <;> rfl

theorem Leads.holds (h : d.Leads p parent) (hname : IsEntryName p.name) :
    d.holds p = (d.tree.item? (parent ++ [p.name])).isSome := by
  rw [Disk.holds, h.lookup hname, Tree.item?]
  cases d.tree.at? (parent ++ [p.name]) <;> rfl

theorem exists_locate_of_isDirectory (h : d.isDirectory p = true) :
    ∃ place, d.locate p = .ok place ∧ d.tree.item? place = some .directory := by
  cases hlookup : d.lookup p with
  | error cause => simp [isDirectory, hlookup, Except.toOption] at h
  | ok t =>
    obtain ⟨place, hlocate, hplace⟩ := lookup_eq_ok_iff.mp hlookup
    refine ⟨place, hlocate, ?_⟩
    cases t with
    | file bytes => simp [isDirectory, hlookup, Except.toOption, Tree.isDirectory] at h
    | directory entries =>
      rw [Tree.item?, hplace]
      rfl

/-- A path to a directory leads on to the names in it. -/
theorem leads_below (hlocate : d.locate p = .ok parent)
    (hparent : d.tree.item? parent = some .directory) (name : String) (hname : IsEntryName name) :
    d.Leads (p.below name) parent where
  walk := by simpa [Path.below, Disk.locate] using hlocate
  directory := hparent
  short := by simpa using hname.short

/-- Without what stands under a name in a directory, nothing stands there, and all else in the
directory is as it was. -/
theorem item?_without (h : d.Leads p parent) (hname : IsEntryName p.name) {name : String} :
    (d.without p).tree.item? (parent ++ [name]) =
      if name = p.name then none else d.tree.item? (parent ++ [name]) := by
  rw [without, h.locate hname]
  split_ifs with hheld hsame hsame
  · subst hsame
    dsimp only
    rw [Tree.item?, Tree.at?_put_self h.directory]
    rfl
  · exact Tree.item?_put _ _ _ (by simpa using Ne.symm hsame)
  · subst hsame
    simpa using hheld
  · rfl

/-- Other files in the directory can be read as before. -/
theorem read_without (hp : d.Leads p parent) (hpname : IsEntryName p.name)
    (hq : d.Leads q parent) (hqname : IsEntryName q.name) (hne : q.name ≠ p.name)
    (hwithout : (d.without p).Leads q parent) :
    (d.without p).holds q = d.holds q ∧ (d.without p).read q = d.read q := by
  constructor
  · rw [hwithout.holds hqname, item?_without hp hpname, if_neg hne, hq.holds hqname]
  · rw [hwithout.read hqname, item?_without hp hpname, if_neg hne, hq.read hqname]

theorem directory_without (d : Disk) (p : Path) : (d.without p).directory = d.directory := by
  rw [without]
  split <;> rfl

theorem Leads.isDirectory (h : d.Leads p parent) (hname : IsEntryName p.name) :
    d.isDirectory p = true ↔ d.tree.item? (parent ++ [p.name]) = some .directory := by
  rw [Disk.isDirectory, h.lookup hname, Tree.item?]
  cases d.tree.at? (parent ++ [p.name]) with
  | none => simp [Except.toOption]
  | some t => cases t <;> simp [Except.toOption, Tree.isDirectory, Tree.item]

/-- Without a file all directories are still there. -/
theorem directories_without (h : d.Leads p parent) (hname : IsEntryName p.name)
    (hfile : d.isDirectory p = false) {q : List String} (hq : d.tree.item? q = some .directory) :
    (d.without p).tree.item? q = some .directory := by
  have hplace : d.tree.item? (parent ++ [p.name]) ≠ some .directory := fun hdir => by
    simp [(h.isDirectory hname).mpr hdir] at hfile
  rw [without, h.locate hname]
  split_ifs
  · have hne : q ≠ parent ++ [p.name] := fun heq => hplace (heq ▸ hq)
    dsimp only
    rw [Tree.item?_put_leaf h.directory hplace (by simp), if_neg hne, hq]
  · exact hq

/-- A path to a directory leads there without what stands under a name in it, unless it leads
through that. -/
theorem locate_without (hp : d.Leads p parent) (hname : IsEntryName p.name)
    (hq : d.locate q = .ok parent)
    (hstays : d.isDirectory p = true → (d.without p).isDirectory q = true) :
    (d.without p).locate q = .ok parent ∧
      (d.without p).tree.item? parent = some .directory := by
  cases hdir : d.isDirectory p with
  | false =>
    have hdirs (r : List String) (hr : d.tree.item? r = some .directory) :=
      directories_without hp hname hdir hr
    rw [Disk.locate, start, directory_without]
    exact ⟨Tree.walk_of_directories hdirs hq hp.directory, hdirs parent hp.directory⟩
  | true =>
    -- the path may go through the directory and up again, so that it must not be taken away
    obtain ⟨place, hplace, hitem⟩ := exists_locate_of_isDirectory (hstays hdir)
    have hsame : place = parent := by
      rw [Disk.locate, start, directory_without] at hplace
      exact Tree.walk_unique hplace hq
    exact ⟨hsame ▸ hplace, hsame ▸ hitem⟩

end Disk

end File

open File (Disk Path IsEntryName)

namespace Settings

/-- The file cannot be read, or its text is no configuration. -/
def Unusable (d : Disk) (p : Path) : Prop :=
  ∀ bytes, d.read p = .ok bytes →
    ∃ cs, Encoding.utf8.decode bytes = .ok cs ∧ Toml.read cs = none

/-- The file can be read, but its bytes are no text. -/
def NoText (d : Disk) (p : Path) (fault : DecodeError) : Prop :=
  ∃ bytes, d.read p = .ok bytes ∧ Encoding.utf8.decode bytes = .error fault

/-- No table for this library comes from the library's own configuration file. -/
def NoTable (d : Disk) (p : Path) : Prop :=
  ∀ bytes, d.read p = .ok bytes →
    ∃ cs, Encoding.utf8.decode bytes = .ok cs ∧
      ∀ fields, Toml.read cs = some fields → Value.field? tableName fields = none

variable {d e : Disk} {p : Path} {fault : DecodeError}

theorem Unusable.noTable (h : Unusable d p) : NoTable d p := by
  intro bytes hbytes
  obtain ⟨cs, hcs, hnone⟩ := h bytes hbytes
  exact ⟨cs, hcs, fun fields hfields => by simp [hnone] at hfields⟩

theorem NoText.holds (h : NoText d p fault) : d.holds p = true := by
  obtain ⟨bytes, hread, -⟩ := h
  cases hlookup : d.lookup p with
  | error cause => simp [Disk.read, hlookup, bind, Except.bind] at hread
  | ok t => simp [Disk.holds, hlookup, Except.toOption]

theorem NoText.readConfig (h : NoText d p fault) : readConfig d p = .error (.decode fault) := by
  obtain ⟨bytes, hread, hfault⟩ := h
  simp [Settings.readConfig, hread, hfault]

theorem Unusable.readConfig (h : Unusable d p) : readConfig d p = .ok .unreadable := by
  cases hread : d.read p with
  | error cause => simp [Settings.readConfig, hread]
  | ok bytes =>
    obtain ⟨cs, hcs, hnone⟩ := h bytes hread
    simp [Settings.readConfig, hread, hcs, hnone]

theorem NoTable.readConfig (h : NoTable d p) :
    readConfig d p = .ok .unreadable ∨
      ∃ fields, readConfig d p = .ok (.table fields) ∧ Value.field? tableName fields = none := by
  cases hread : d.read p with
  | error cause => exact .inl (by simp [Settings.readConfig, hread])
  | ok bytes =>
    obtain ⟨cs, hcs, hfields⟩ := h bytes hread
    cases htoml : Toml.read cs with
    | none => exact .inl (by simp [Settings.readConfig, hread, hcs, htoml])
    | some fields =>
      exact .inr ⟨fields, by simp [Settings.readConfig, hread, hcs, htoml], hfields fields htoml⟩

theorem NoTable.exists_ownTable (h : NoTable d p) :
    ∃ notices, ownTable d p = .ok (none, notices) := by
  rw [ownTable]
  cases d.holds p with
  | false => exact ⟨[], rfl⟩
  | true =>
    obtain hread | ⟨fields, hread, hnone⟩ := h.readConfig
    · rw [hread]
      exact ⟨[.unreadable p.text], rfl⟩
    · refine ⟨[.noTable p.text], ?_⟩
      simp only [hread, bind, Except.bind, hnone]
      rfl

theorem Unusable.exists_toolTable (h : Unusable d p) :
    ∃ notices, toolTable d p = .ok (none, notices) := by
  rw [toolTable]
  cases d.holds p with
  | false => exact ⟨[], rfl⟩
  | true =>
    rw [h.readConfig]
    exact ⟨[.unreadable p.text], rfl⟩

theorem NoText.ownTable (h : NoText d p fault) : ownTable d p = .error (.decode fault) := by
  rw [Settings.ownTable, h.holds, h.readConfig]
  rfl

theorem NoText.toolTable (h : NoText d p fault) : toolTable d p = .error (.decode fault) := by
  rw [Settings.toolTable, h.holds, h.readConfig]
  rfl

theorem toolTable_congr (hholds : d.holds p = e.holds p) (hread : d.read p = e.read p) :
    toolTable d p = toolTable e p := by
  simp only [toolTable, readConfig, hholds, hread]

end Settings

namespace Session

variable {s : Session} {directory : Path}

theorem run_take_ok {α : Type} (a : α) (notices : List Notice) (s : Session) :
    (take (.ok (a, notices))).run.run s =
      (.ok a, { s with workspace := s.workspace.record (.ofNotices notices) }) := rfl

/-- The library's own configuration file in the directory of a project. -/
def ownConfig (directory : Path) : Path := directory.join (.ofText ".javamodel.toml")

/-- The configuration file of a project in its directory. -/
def projectConfig (directory : Path) : Path := directory.join (.ofText "pyproject.toml")

theorem ownConfig_eq (directory : Path) : ownConfig directory = directory.below ".javamodel.toml" :=
  rfl

theorem projectConfig_eq (directory : Path) :
    projectConfig directory = directory.below "pyproject.toml" := rfl

/-- The settings that are found on a disk. -/
def settingsOn (d : Disk) (directory : Path) : Except Fault Settings :=
  match Settings.ownTable d (ownConfig directory) with
  | .error fault => .error fault
  | .ok (some v, _) => (Settings.ofValue v).map Prod.fst
  | .ok (none, _) =>
    match Settings.toolTable d (projectConfig directory) with
    | .error fault => .error fault
    | .ok (some v, _) => (Settings.ofValue v).map Prod.fst
    | .ok (none, _) => .ok {}

theorem fst_run_take {α : Type} (found : Except Fault (α × List Notice)) (s : Session) :
    ((take found).run.run s).1 = found.map Prod.fst := by
  cases found <;> rfl

theorem loadSettings_eq (h : s.disk.lookup (ownConfig directory) ≠ .error .nameTooLong) :
    ((loadSettings directory).run.run s).1 = settingsOn s.disk directory := by
  rw [ownConfig] at h
  rw [loadSettings, run_bind, run_get]
  dsimp only
  rw [run_bind, run_checkLength h]
  dsimp only
  rw [run_bind, settingsOn, ownConfig, projectConfig]
  rcases Settings.ownTable s.disk (directory.join (.ofText ".javamodel.toml")) with
    fault | ⟨_ | v, notices⟩
  · rfl
  · rw [run_take_ok]
    dsimp only
    rw [run_bind]
    rcases Settings.toolTable s.disk (directory.join (.ofText "pyproject.toml")) with
      fault | ⟨_ | v, notices⟩
    · rfl
    · rfl
    · exact fst_run_take _ _
  · exact fst_run_take _ _

/-- The settings of a project where no table comes from the library's own file. -/
theorem settingsOn_of_noTable {d : Disk} (h : Settings.NoTable d (ownConfig directory)) :
    settingsOn d directory =
      match Settings.toolTable d (projectConfig directory) with
      | .error fault => .error fault
      | .ok (some v, _) => (Settings.ofValue v).map Prod.fst
      | .ok (none, _) => .ok {} := by
  obtain ⟨notices, hown⟩ := h.exists_ownTable
  rw [settingsOn, hown]

section Directory

variable {d : Disk} {parent : List String}

theorem isEntryName_ownConfig : IsEntryName (ownConfig directory).name := by
  rw [ownConfig_eq, Path.name_below]
  decide

theorem isEntryName_projectConfig : IsEntryName (projectConfig directory).name := by
  rw [projectConfig_eq, Path.name_below]
  decide

theorem leads_ownConfig (hlocate : d.locate directory = .ok parent)
    (hparent : d.tree.item? parent = some .directory) : d.Leads (ownConfig directory) parent :=
  Disk.leads_below hlocate hparent ".javamodel.toml" (by decide)

theorem leads_projectConfig (hlocate : d.locate directory = .ok parent)
    (hparent : d.tree.item? parent = some .directory) :
    d.Leads (projectConfig directory) parent :=
  Disk.leads_below hlocate hparent "pyproject.toml" (by decide)

end Directory

/-- Without a file of its own that is of no use, a project has the same settings. -/
theorem loadSettings_without (hdir : s.disk.isDirectory directory = true)
    (hown : Settings.NoTable s.disk (ownConfig directory))
    (hstays : s.disk.isDirectory (ownConfig directory) = true →
      (s.disk.without (ownConfig directory)).isDirectory directory = true) :
    ((loadSettings directory).run.run s).1 =
      ((loadSettings directory).run.run
        { s with disk := s.disk.without (ownConfig directory) }).1 := by
  obtain ⟨parent, hlocate, hparent⟩ := Disk.exists_locate_of_isDirectory hdir
  have hleads := leads_ownConfig hlocate hparent
  obtain ⟨hlocate', hparent'⟩ :=
    Disk.locate_without hleads isEntryName_ownConfig hlocate hstays
  have hleads' := leads_ownConfig hlocate' hparent'
  have hgone : Settings.NoTable (s.disk.without (ownConfig directory)) (ownConfig directory) := by
    intro bytes hread
    rw [hleads'.read isEntryName_ownConfig, Disk.item?_without hleads isEntryName_ownConfig,
      if_pos rfl] at hread
    cases hread
  obtain ⟨hholds, hread⟩ := Disk.read_without hleads isEntryName_ownConfig
    (leads_projectConfig hlocate hparent) isEntryName_projectConfig
    (by simp [projectConfig_eq, ownConfig_eq]) (leads_projectConfig hlocate' hparent')
  rw [loadSettings_eq (hleads.lookup_ne_nameTooLong isEntryName_ownConfig),
    loadSettings_eq (hleads'.lookup_ne_nameTooLong isEntryName_ownConfig),
    settingsOn_of_noTable hown, settingsOn_of_noTable hgone,
    Settings.toolTable_congr hholds hread]

/-- Settings are looked for in the library's own configuration file and in that of the project. If
one of them cannot be read, or if its text is no configuration, all is as if it were missing, as
long as the path to the project does not lead through it. But if its bytes are no text, there are
no settings. -/
theorem loadSettings_falls_back (s : Session) (directory : Path)
    (hdir : s.disk.isDirectory directory = true) :
    (Settings.Unusable s.disk (ownConfig directory) →
      (s.disk.isDirectory (ownConfig directory) = true →
        (s.disk.without (ownConfig directory)).isDirectory directory = true) →
      ((loadSettings directory).run.run s).1 =
        ((loadSettings directory).run.run
          { s with disk := s.disk.without (ownConfig directory) }).1) ∧
    (Settings.NoTable s.disk (ownConfig directory) →
      Settings.Unusable s.disk (projectConfig directory) →
      ((loadSettings directory).run.run s).1 = .ok {}) ∧
    ∀ fault,
      (Settings.NoText s.disk (ownConfig directory) fault →
        ((loadSettings directory).run.run s).1 = .error (.decode fault)) ∧
      (Settings.NoTable s.disk (ownConfig directory) →
        Settings.NoText s.disk (projectConfig directory) fault →
        ((loadSettings directory).run.run s).1 = .error (.decode fault)) := by
  obtain ⟨parent, hlocate, hparent⟩ := Disk.exists_locate_of_isDirectory hdir
  have hleads := leads_ownConfig hlocate hparent
  have hfound := loadSettings_eq (hleads.lookup_ne_nameTooLong isEntryName_ownConfig)
  refine ⟨fun hown => loadSettings_without hdir hown.noTable, fun hnone hproject => ?_,
    fun fault => ⟨fun hown => ?_, fun hnone hproject => ?_⟩⟩
  · obtain ⟨notices, htool⟩ := hproject.exists_toolTable
    rw [hfound, settingsOn_of_noTable hnone, htool]
  · rw [hfound, settingsOn, hown.ownTable]
  · rw [hfound, settingsOn_of_noTable hnone, hproject.toolTable]

/-- A project with a directory in place of one configuration file and text that is no configuration
in the other. -/
def misconfigured : Session where
  disk := { tree := .directory [(".javamodel.toml", .directory []),
    ("pyproject.toml", .file [0x78])] }

/-- The usual settings are used, as they are without the directory. -/
theorem loadSettings_falls_back_misconfigured :
    misconfigured.disk.isDirectory (.ofText ".") = true ∧
      Settings.Unusable misconfigured.disk (ownConfig (.ofText ".")) ∧
      Settings.Unusable misconfigured.disk (projectConfig (.ofText ".")) ∧
      ((loadSettings (.ofText ".")).run.run misconfigured).1 = .ok {} ∧
      ((loadSettings (.ofText ".")).run.run
        { misconfigured with
          disk := misconfigured.disk.without (ownConfig (.ofText ".")) }).1 = .ok {} := by
  have hdir : misconfigured.disk.isDirectory (.ofText ".") = true := rfl
  have hown : Settings.Unusable misconfigured.disk (ownConfig (.ofText ".")) := nofun
  have hproject : Settings.Unusable misconfigured.disk (projectConfig (.ofText ".")) := by
    intro bytes hread
    obtain rfl : [0x78] = bytes := Except.ok.inj hread
    exact ⟨['x'], by decide, by decide +kernel⟩
  obtain ⟨hsame, husual, -⟩ := loadSettings_falls_back misconfigured (.ofText ".") hdir
  have hfound := husual hown.noTable hproject
  exact ⟨hdir, hown, hproject, hfound, (hsame hown fun _ => rfl).symm.trans hfound⟩

/-- A project with a configuration file whose bytes are no text. -/
def garbled : Session where
  disk := { tree := .directory [(".javamodel.toml", .file [0xff])] }

/-- There are no settings, but there would be without the file. -/
theorem loadSettings_of_garbled :
    garbled.disk.isDirectory (.ofText ".") = true ∧
      Settings.NoText garbled.disk (ownConfig (.ofText ".")) (.invalid 0) ∧
      ((loadSettings (.ofText ".")).run.run garbled).1 = .error (.decode (.invalid 0)) ∧
      ((loadSettings (.ofText ".")).run.run
        { garbled with disk := garbled.disk.without (ownConfig (.ofText ".")) }).1 = .ok {} :=
  ⟨rfl, ⟨_, rfl, rfl⟩, rfl, rfl⟩

end Session

end JavaAtlas
