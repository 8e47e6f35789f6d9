import JavaAtlas.Proofs.Files
import JavaAtlas.Proofs.Loading

/-! Saving in a file. A registry is first written beside the file and then put in its place, so that
there are few ways in which saving can end: `Session.saves_save` says which, with what each of them
leaves behind. -/

namespace JavaAtlas

open File (Path Disk Cause)

namespace Session

/-! ### Steps of saving -/

/-- The path beside a path at which saving begins. -/
def begun (path : Path) : Path := path.withEnding ".tmp"

/-- The bytes that are saved of a registry. -/
def bytesOf (s : Session) (id : RegistryId) : List UInt8 :=
  (Snapshot.Payload.ofImage (Snapshot.capture s.workspace id)).write

section Steps

variable {s : Session} {id : RegistryId} {path : Path} {cause : Cause}

theorem run_onDisk (change : Disk → Except Cause Disk) (paths : List String) (s : Session) :
    (onDisk change paths).run.run s =
      match change s.disk with
      | .ok disk => (.ok none, { s with disk })
      | .error cause => (.ok (some ⟨cause, paths⟩), s) := by
  rw [onDisk, run_bind, run_get]
  dsimp only
  cases change s.disk <;> rfl

/-- Giving up always fails. If what was begun cannot be removed, this is the fault, unless there is
nothing to remove. -/
theorem run_giveUp (path begun : Path) (e : File.Error) (s : Session) :
    (giveUp path begun e).run.run s =
      match s.disk.remove begun with
      | .ok disk => (.error (.notSaved path.text e), { s with disk })
      | .error cause =>
        (.error (if cause = .absent then .notSaved path.text e else .file ⟨cause, [begun.text]⟩),
          s) := by
  rw [giveUp, run_bind, run_onDisk]
  cases s.disk.remove begun with
  | ok disk => rfl
  | error cause => cases cause <;> rfl

theorem run_save (hname : path.name ≠ "") :
    (save id path).run.run s =
      if (begun path).text.toList.contains '\x00' then (.error .nullInPath, s)
      else match s.disk.write (begun path) (s.bytesOf id) with
      | .error cause => (giveUp path (begun path) ⟨cause, [(begun path).text]⟩).run.run s
      | .ok disk =>
        match disk.replace (begun path) path with
        | .error cause =>
          (giveUp path (begun path) ⟨cause, [(begun path).text, path.text]⟩).run.run
            { s with disk }
        | .ok disk =>
          (.ok (), { s with
            workspace := s.workspace.note (.saved ((s.workspace.registry? id).getD {}).summary
              path.text)
            disk }) := by
  have hempty : path.name.isEmpty = false := by simpa using hname
  have hsaved : (savedBytes id).run.run s = (.ok (s.bytesOf id), s) := rfl
  have hcheck : (check (checkPath (begun path))).run.run s = (checkPath (begun path), s) := rfl
  have hbegun : path.withEnding ".tmp" = begun path := rfl
  rw [save, if_neg (by simp [hempty]), run_bind, hsaved, hbegun]
  dsimp only
  rw [run_bind, hcheck, checkPath]
  by_cases hnull : (begun path).text.toList.contains '\x00' = true
  · rw [if_pos hnull, if_pos hnull]
  rw [if_neg hnull, if_neg hnull]
  dsimp only
  rw [run_bind, run_onDisk]
  cases hwrite : s.disk.write (begun path) (s.bytesOf id) with
  | error cause =>
    -- Giving up removes what was begun; if that fails too, this is what is reported.
    dsimp only
    rw [run_bind, run_giveUp]
    cases s.disk.remove (begun path) <;> rfl
  | ok disk =>
    dsimp only
    rw [run_bind, run_onDisk]
    dsimp only
    cases disk.replace (begun path) path with
    | error cause =>
      dsimp only
      rw [run_bind, run_giveUp]
      cases disk.remove (begun path) <;> rfl
    | ok disk => rfl

end Steps

/-! ### Ways in which saving ends -/

/-- How saving ends, in a session of which it leaves another. -/
inductive Saves (id : RegistryId) (path : Path) (s : Session) : Except Fault Unit → Session → Prop
  /-- The path holds a null character. -/
  | null : '\x00' ∈ (begun path).text.toList → Saves id path s (.error .nullInPath) s
  /-- There is no directory to save in. -/
  | missing : '\x00' ∉ (begun path).text.toList →
      s.disk.target (begun path) = .error .absent →
      Saves id path s (.error (.notSaved path.text ⟨.absent, [(begun path).text]⟩)) s
  /-- The path beside the file leads nowhere for another reason. -/
  | blocked {cause : Cause} : '\x00' ∉ (begun path).text.toList →
      s.disk.target (begun path) = .error cause → cause ≠ .absent →
      Saves id path s (.error (.file ⟨cause, [(begun path).text]⟩)) s
  /-- A directory stands beside the file. -/
  | occupied {parent : List String} : '\x00' ∉ (begun path).text.toList →
      s.disk.Leads (begun path) parent →
      s.disk.tree.item? (parent ++ [(begun path).name]) = some .directory →
      Saves id path s (.error (.file ⟨.isDirectory, [(begun path).text]⟩)) s
  /-- A directory stands in the place of the file. -/
  | undone {parent : List String} {cause : Cause} {disk : Disk} :
      '\x00' ∉ (begun path).text.toList →
      s.disk.Leads (begun path) parent →
      s.disk.tree.item? (parent ++ [(begun path).name]) ≠ some .directory →
      s.disk.Changed (parent ++ [(begun path).name]) none disk →
      Saves id path s (.error (.notSaved path.text ⟨cause, [(begun path).text, path.text]⟩))
        { s with disk }
  /-- The file is saved. -/
  | done {parent : List String} {between disk : Disk} {workspace : Workspace} :
      '\x00' ∉ (begun path).text.toList →
      s.disk.Leads (begun path) parent →
      s.disk.tree.item? (parent ++ [(begun path).name]) ≠ some .directory →
      path.name ≠ ".." →
      s.disk.tree.item? (parent ++ [path.name]) ≠ some .directory →
      s.disk.Changed (parent ++ [(begun path).name]) none between →
      between.Changed (parent ++ [path.name]) (some (.file (s.bytesOf id))) disk →
      Saves id path s (.ok ()) { workspace, disk }

section Saves

variable {s : Session} {id : RegistryId} {path : Path} {parent : List String}

theorem name_begun_ne (path : Path) : (begun path).name ≠ path.name := by
  rw [begun, Path.name_withEnding]
  intro heq
  have hlength := congrArg String.length heq
  rw [String.length_append] at hlength
  have hending : ".tmp".length = 4 := rfl
  omega

theorem saves_save (s : Session) (id : RegistryId) (hname : path.name ≠ "") :
    Saves id path s ((save id path).run.run s).1 ((save id path).run.run s).2 := by
  rw [run_save hname]
  by_cases hnull : '\x00' ∈ (begun path).text.toList
  · rw [if_pos (List.contains_iff_mem.mpr hnull)]
    exact .null hnull
  rw [if_neg (mt List.contains_iff_mem.mp hnull)]
  cases htarget : s.disk.target (begun path) with
  | error cause =>
    rw [Disk.write_of_target htarget]
    dsimp only
    rw [run_giveUp, Disk.remove_of_target htarget]
    by_cases habsent : cause = .absent
    · subst habsent
      exact .missing hnull htarget
    · dsimp only
      rw [if_neg habsent]
      exact .blocked hnull htarget habsent
  | ok place =>
    obtain ⟨parent, hbegun, -⟩ := Disk.target_eq_ok_iff.mp htarget
    by_cases hoccupied : s.disk.tree.item? (parent ++ [(begun path).name]) = some .directory
    · rw [hbegun.write_directory hoccupied]
      dsimp only
      rw [run_giveUp, hbegun.remove_directory hoccupied]
      exact .occupied hnull hbegun hoccupied
    obtain ⟨written, hwrite, hwritten⟩ := hbegun.exists_write hoccupied (s.bytesOf id)
    have hbegun' := hwritten.leads hoccupied hbegun
    have hpath' := hwritten.leads hoccupied hbegun.of_withEnding
    have hfile : written.tree.item? (parent ++ [(begun path).name]) = some (.file (s.bytesOf id)) := by
      rw [hwritten.items, if_pos rfl]
    -- what was begun can be removed whenever it cannot be moved
    obtain ⟨removed, hremove, hremoved⟩ := hbegun'.exists_remove hfile
    have hundone (cause : Cause) : Saves id path s
        (.error (.notSaved path.text ⟨cause, [(begun path).text, path.text]⟩))
        { s with disk := removed } := .undone hnull hbegun hoccupied (hwritten.trans hremoved)
    rw [hwrite]
    dsimp only
    by_cases hup : path.name = ".."
    · rw [hbegun'.replace_up hup]
      dsimp only
      rw [run_giveUp, hremove]
      exact hundone .busy
    by_cases hdir : written.tree.item? (parent ++ [path.name]) = some .directory
    · rw [hbegun'.replace_directory hpath' hup hfile hdir]
      dsimp only
      rw [run_giveUp, hremove]
      exact hundone .isDirectory
    · obtain ⟨between, disk, hreplace, hbetween, hdisk⟩ :=
        hbegun'.exists_replace hpath' hup (name_begun_ne path) hfile hdir
      rw [hreplace]
      refine .done hnull hbegun hoccupied hup ?_ (hwritten.trans hbetween) hdisk
      rwa [hwritten.items, if_neg (by simpa using (name_begun_ne path).symm)] at hdir

/-- What a file that was saved is found by: its path leads to its bytes, and nothing is left beside
it. -/
structure Kept (path : Path) (bytes : List UInt8) (before after : Disk) (parent : List String) :
    Prop where
  leads : after.Leads path parent
  file : after.tree.item? (parent ++ [path.name]) = some (.file bytes)
  gone : after.holds (begun path) = false
  same : before.SameBut [path, begun path] after
  notUp : path.name ≠ ".."
  noNull : '\x00' ∉ (begun path).text.toList

theorem Saves.kept {after : Session} (h : Saves id path s (.ok ()) after) :
    ∃ parent, Kept path (s.bytesOf id) s.disk after.disk parent := by
  cases h with
  | @done parent between disk workspace hnull hbegun hfree hup hgoal hbetween hdisk =>
    have hpath := hbegun.of_withEnding
    have hne := name_begun_ne path
    have hgoal' : between.tree.item? (parent ++ [path.name]) ≠ some .directory := by
      rwa [hbetween.items, if_neg (by simpa using hne.symm)]
    have hlength : 4 ≤ (begun path).name.length := by
      rw [begun, Path.name_withEnding, String.length_append]
      exact Nat.le_add_left 4 _
    have hshort {x : String} (hx : x.length < 4) : (begun path).name ≠ x := fun heq => by
      rw [heq] at hlength
      omega
    refine ⟨parent, hdisk.leads hgoal' (hbetween.leads hfree hpath), ?_, ?_, ⟨?_, ?_⟩, hup, hnull⟩
    · rw [hdisk.items, if_pos rfl]
    · refine (hdisk.leads hgoal' (hbetween.leads hfree hbegun)).holds_eq_false
        (hshort (by decide)) (hshort (by decide)) (hshort (by decide)) ?_
      rw [hdisk.items, if_neg (by simpa using hne), hbetween.items, if_pos rfl]
    · exact hdisk.directory.trans hbetween.directory
    · intro place hplace
      have hgoalPlace : place ≠ parent ++ [path.name] := fun heq =>
        hplace path (by simp) (heq ▸ hpath.target)
      have hbegunPlace : place ≠ parent ++ [(begun path).name] := fun heq =>
        hplace (begun path) (by simp) (heq ▸ hbegun.target)
      rw [hdisk.items, if_neg hgoalPlace, hbetween.items, if_neg hbegunPlace]

/-- Saving that fails leaves the registries as they are, and the files but for one. -/
theorem Saves.same {result : Except Fault Unit} {after : Session}
    (h : Saves id path s result after) (hfault : result ≠ .ok ()) :
    s.disk.SameBut [begun path] after.disk ∧ after.workspace = s.workspace := by
  cases h with
  | null _ => exact ⟨.rfl, rfl⟩
  | missing _ _ => exact ⟨.rfl, rfl⟩
  | blocked _ _ _ => exact ⟨.rfl, rfl⟩
  | occupied _ _ _ => exact ⟨.rfl, rfl⟩
  | undone _ hbegun _ hdisk => exact ⟨hdisk.sameBut hbegun.target, rfl⟩
  | done _ _ _ _ _ _ _ => exact absurd rfl hfault

/-- Saving ends well or with the fault that it is there for, unless the path holds a null character
or what was begun cannot be removed either: there is a file in place of its directory, its name is
too long or a directory stands where it should. Then that is the fault. -/
theorem save_notSaved_iff (s : Session) (id : RegistryId) {path : Path} (hname : path.name ≠ "") :
    ((((save id path).run.run s).1 = .ok () ∨
        ∃ e, ((save id path).run.run s).1 = .error (.notSaved path.text e)) ↔
      '\x00' ∉ (begun path).text.toList ∧
        (s.disk.target (begun path) = .error .absent ∨
          ∃ place, s.disk.target (begun path) = .ok place ∧
            s.disk.tree.item? place ≠ some .directory)) ∧
    ∀ cause, '\x00' ∉ (begun path).text.toList →
      (s.disk.target (begun path) = .error cause ∧ cause ≠ .absent ∨
        cause = .isDirectory ∧ ∃ place, s.disk.target (begun path) = .ok place ∧
          s.disk.tree.item? place = some .directory) →
      ((save id path).run.run s).1 = .error (.file ⟨cause, [(begun path).text]⟩) := by
  have hsaves := saves_save s id hname
  revert hsaves
  generalize ((save id path).run.run s).1 = result
  generalize ((save id path).run.run s).2 = after
  intro hsaves
  cases hsaves with
  | null hnull => simp [hnull]
  | missing hnull htarget => simp [hnull, htarget]
  | @blocked cause hnull htarget hcause => simp [hnull, htarget, hcause]
  | occupied hnull hbegun hdir => simp [hnull, hbegun.target, hdir]
  | undone hnull hbegun hfree hdisk => simp [hnull, hbegun.target, hfree]
  | done hnull hbegun hfree hup hgoal hbetween hdisk => simp [hnull, hbegun.target, hfree]

end Saves

section Crowded

open JavaAtlas.History (main)

/-- A registry, and files among which stand a directory in the place of a file, a file in place of a
directory and a directory beside the place of a file. -/
def crowded : Session where
  workspace := History.after {} .null History.circle
  disk := { tree := .directory [("x", .directory []), ("x.tmp", .file [7]), ("f", .file []),
    ("y.tmp", .directory [])] }

/-- The first is reported as it should be, and so is a directory that is missing. -/
theorem save_notSaved_iff_crowded :
    (Path.ofText "x").name ≠ "" ∧
      (((save main (.ofText "x")).run.run crowded).1 = .ok () ∨
        ∃ e, ((save main (.ofText "x")).run.run crowded).1 = .error (.notSaved "x" e)) ∧
      (Path.ofText "g/y").name ≠ "" ∧
      (((save main (.ofText "g/y")).run.run crowded).1 = .ok () ∨
        ∃ e, ((save main (.ofText "g/y")).run.run crowded).1 = .error (.notSaved "g/y" e)) := by
  have hx : (Path.ofText "x").name ≠ "" := by decide
  have hy : (Path.ofText "g/y").name ≠ "" := by decide
  refine ⟨hx, (save_notSaved_iff crowded main hx).1.mpr ⟨by decide, .inr ?_⟩, hy,
    (save_notSaved_iff crowded main hy).1.mpr ⟨by decide, .inl rfl⟩⟩
  exact ⟨["x.tmp"], rfl, by decide⟩

/-- The other two are not. -/
theorem save_of_crowded :
    (Path.ofText "f/y").name ≠ "" ∧
      ((save main (.ofText "f/y")).run.run crowded).1 =
        .error (.file ⟨.notDirectory, ["f/y.tmp"]⟩) ∧
      (Path.ofText "y").name ≠ "" ∧
      ((save main (.ofText "y")).run.run crowded).1 =
        .error (.file ⟨.isDirectory, ["y.tmp"]⟩) := ⟨by decide, rfl, by decide, rfl⟩

end Crowded

end Session

namespace History

variable {tool : Tool} {grammar : Value} {steps : List Step}

/-- What is saved of a registry can be loaded into every workspace. -/
theorem exists_loaded (hassembled : ∀ u ∈ units steps, u ∈ assembled steps) (disk : Disk)
    (target : Session) (htarget : Reachable tool target.workspace) :
    ∃ ρ session r r',
      (Session.loadBytes (Session.bytesOf ⟨after tool grammar steps, disk⟩ main)).run.run target =
        (.ok (ρ.registry main), session) ∧
      Snapshot.Restored ρ (after tool grammar steps) session.workspace r r' := by
  obtain ⟨r, hsole⟩ := exists_sole tool grammar hassembled
  have htool := (reachable_after tool grammar steps).faithful.2
  obtain ⟨t, hload⟩ := exists_loadBytes (Snapshot.capture (after tool grammar steps) main) target
  have hid : (Snapshot.restoreInto target.workspace
      (Snapshot.capture (after tool grammar steps) main)).1 =
        (Snapshot.renumbering target.workspace r).registry main := by
    rw [hsole.restoreInto_capture]
    rfl
  rw [hid] at hload
  rw [← htool] at htarget
  exact ⟨_, _, r, _, hload, hsole.restored (faithful_after tool grammar steps) htarget t⟩

/-- Under a text the registry of a history can be loaded into every workspace. -/
def LoadsBack (tool : Tool) (grammar : Value) (steps : List Step) (disk : Disk) (text : String) :
    Prop :=
  ∀ workspace, Reachable tool workspace → ∃ ρ session r r',
    (Session.load text).run.run ⟨workspace, disk⟩ = (.ok (ρ.registry main), session) ∧
      Snapshot.Restored ρ (after tool grammar steps) session.workspace r r'

theorem loadsBack_of_readText (hassembled : ∀ u ∈ units steps, u ∈ assembled steps)
    {before disk : Disk} {text : String} (hnull : '\x00' ∉ text.toList)
    (hread : disk.readText text =
      .ok (Session.bytesOf ⟨after tool grammar steps, before⟩ main)) :
    LoadsBack tool grammar steps disk text := by
  intro workspace hworkspace
  rw [Session.run_load, if_neg (mt List.contains_iff_mem.mp hnull)]
  dsimp only
  rw [hread]
  exact exists_loaded hassembled before ⟨workspace, disk⟩ hworkspace

/-- Where a registry was saved, it can be loaded from under every text of the path that ends in its
last component. -/
theorem loadsBack_iff (hassembled : ∀ u ∈ units steps, u ∈ assembled steps) {before disk : Disk}
    {text : String} {parent : List String} (hname : (Path.ofText text).name ≠ "")
    (h : Session.Kept (.ofText text) (Session.bytesOf ⟨after tool grammar steps, before⟩ main)
      before disk parent) :
    LoadsBack tool grammar steps disk text ↔
      (Path.pieces text).getLast? = some (Path.ofText text).name := by
  constructor
  · intro hback
    by_contra hlast
    obtain ⟨ρ, session, r, r', hload, -⟩ := hback _ .empty
    have hread := h.leads.readText_dot hname h.notUp hlast h.file
    rw [Session.run_load] at hload
    dsimp only at hload
    rw [hread] at hload
    split at hload <;> cases hload
  · intro hlast
    refine loadsBack_of_readText hassembled (fun hnull => h.noNull ?_)
      (h.leads.readText hname h.notUp hlast h.file)
    exact Path.mem_text_withEnding hname hnull (by decide) (by decide) ".tmp"

/-- Saving is all or nothing. If it goes well, the registry can be loaded from under the path, as the
path itself is spelt and under every other text that ends in its last component, and nothing is
left beside the file. If it fails, the registries and whatever stood at the path are as they were.
All other files are as they were in any case. -/
theorem save_allOrNothing (tool : Tool) (grammar : Value)
    (hassembled : ∀ u ∈ units steps, u ∈ assembled steps) (disk : Disk) {text : String}
    (hname : (Path.ofText text).name ≠ "") :
    ∃ result session, (Session.save main (.ofText text)).run.run ⟨after tool grammar steps, disk⟩ =
        (result, session) ∧
      (result = .ok () →
        disk.SameBut [.ofText text, Session.begun (.ofText text)] session.disk ∧
        session.disk.holds (Session.begun (.ofText text)) = false ∧
        LoadsBack tool grammar steps session.disk (Path.ofText text).text ∧
        (LoadsBack tool grammar steps session.disk text ↔
          (Path.pieces text).getLast? = some (Path.ofText text).name)) ∧
      (result ≠ .ok () →
        disk.SameBut [Session.begun (.ofText text)] session.disk ∧
        session.workspace = after tool grammar steps) := by
  have hsaves := Session.saves_save ⟨after tool grammar steps, disk⟩ main hname
  cases hrun : (Session.save main (.ofText text)).run.run ⟨after tool grammar steps, disk⟩ with
  | mk result session =>
    rw [hrun] at hsaves
    refine ⟨result, session, rfl, fun hok => ?_, hsaves.same⟩
    subst hok
    obtain ⟨parent, hkept⟩ := hsaves.kept
    refine ⟨hkept.same, hkept.gone, ?_, loadsBack_iff hassembled hname hkept⟩
    -- the text of the path denotes the same path and ends in its last component
    obtain ⟨hpath, hlast⟩ := Path.ofText_text hname
    refine (loadsBack_iff hassembled ?_ (hpath.symm ▸ hkept)).mpr ?_
    · rwa [hpath]
    · rwa [hpath]

/-- A disk with an older file and one that was begun. -/
def usedDisk : Disk where
  tree := .directory [("d", .directory []), ("x", .file [1]), ("x.tmp", .file [2]), ("z", .file [3])]

theorem save_allOrNothing_used :
    (∀ u ∈ units askedCircle, u ∈ assembled askedCircle) ∧
      (Path.ofText "d/../x").name ≠ "" ∧
      ∃ session, (Session.save main (.ofText "d/../x")).run.run
          ⟨after {} .null askedCircle, usedDisk⟩ = (.ok (), session) ∧
        session.disk.holds (.ofText "d/../x.tmp") = false ∧
        session.disk.tree.item? ["z"] = some (.file [3]) ∧
        LoadsBack {} .null askedCircle session.disk "d/../x" := by
  have hassembled : ∀ u ∈ units askedCircle, u ∈ assembled askedCircle := fun u hu => hu
  have hname : (Path.ofText "d/../x").name ≠ "" := by decide
  obtain ⟨result, session, hrun, hdone, -⟩ :=
    save_allOrNothing {} .null hassembled usedDisk hname
  obtain rfl : Except.ok () = result := congrArg Prod.fst hrun
  obtain ⟨hsame, hgone, -, hback⟩ := hdone rfl
  refine ⟨hassembled, hname, session, hrun, hgone, hsame.items ["z"] ?_, hback.mpr (by decide)⟩
  decide

/-- Behind a dot at its end a text leads into the file that was saved under it. -/
theorem load_of_final_dot :
    (Path.ofText "x/.").name ≠ "" ∧
      ∃ session, (Session.save main (.ofText "x/.")).run.run
          { workspace := after {} .null circle } = (.ok (), session) ∧
        (Session.load "x/.").run.run session =
          (.error (.notRead "x/." ⟨.notDirectory, ["x/."]⟩), session) :=
  ⟨by decide, _, rfl, rfl⟩

end History

end JavaAtlas
