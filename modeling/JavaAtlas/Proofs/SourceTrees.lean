import JavaAtlas.Proofs.Decoding
import JavaAtlas.Proofs.Loading
import JavaAtlas.Proofs.Sources
import Mathlib.Data.List.TakeWhile

/-! Trees of source files. What a file comes to depends on its bytes and the grammar only, and one
with errors leaves the session as it is: `run_addFile`. So a tree in which bad files are left out is
added like its good files one by one, `addTree_adds_good_files`, as long as reading gives up on no
file, `addTree_skips_or_gives_up`. -/

namespace JavaAtlas

open File (Disk Path)

/-- The registry is there, and its texts are read with the grammar. -/
def Workspace.HasGrammar (w : Workspace) (id : RegistryId) (g : Grammar) : Prop :=
  ∃ r, w.registry? id = some r ∧ Grammar.ofValue? r.grammar = some g

theorem Workspace.HasGrammar.addUnit {w : Workspace} {id : RegistryId} {g : Grammar}
    (h : w.HasGrammar id g) (u : SourceUnit) : (w.addUnit id u).HasGrammar id g := by
  obtain ⟨r, hr, hg⟩ := h
  refine ⟨(r.addUnit u).1, ?_, hg⟩
  have hset := registry?_setRegistry ((History.registry?_settle w u.key id id).trans hr)
    (r.addUnit u).1 id
  rw [if_pos rfl] at hset
  rw [Workspace.addUnit, hr]
  exact hset

/-! ### Notices about files that are left out -/

/-- The path of the file that a notice reports as left out. -/
def Notice.skippedPath? : Notice → Option String
  | .skipped path => some path
  | _ => none

namespace Trace

/-- The files that are reported as left out. -/
def skips (t : Trace) : List String := t.notices.filterMap Notice.skippedPath?

/-- All but the reports about files that are left out. -/
def withoutSkips (t : Trace) : Trace :=
  { t with notices := t.notices.filter (·.skippedPath?.isNone) }

theorem skips_append (t more : Trace) : (t ++ more).skips = t.skips ++ more.skips :=
  List.filterMap_append

theorem withoutSkips_append (t more : Trace) :
    (t ++ more).withoutSkips = t.withoutSkips ++ more.withoutSkips := by
  change Trace.mk _ _ ((t.notices ++ more.notices).filter _) = _
  rw [List.filter_append]
  rfl

/-- Nothing is reported as left out. -/
def SkipsNothing (t : Trace) : Prop := ∀ n ∈ t.notices, n.skippedPath? = none

theorem SkipsNothing.skips_eq {t : Trace} (h : t.SkipsNothing) : t.skips = [] :=
  List.filterMap_eq_nil_iff.mpr h

theorem SkipsNothing.withoutSkips_eq {t : Trace} (h : t.SkipsNothing) : t.withoutSkips = t := by
  have hall : t.notices.filter (·.skippedPath?.isNone) = t.notices :=
    List.filter_eq_self.mpr fun n hn => by simp [h n hn]
  rw [withoutSkips, hall]

end Trace

theorem Registry.skipsNothing_addUnit (r : Registry) (u : SourceUnit) :
    (r.addUnit u).2.SkipsNothing := by
  intro n hn
  change n ∈ shadowings u.origin r.index u.classes at hn
  generalize r.index = index, u.classes = cs at hn
  induction cs generalizing index with
  | nil => cases hn
  | cons c cs ih =>
    rw [shadowings] at hn
    split at hn
    · rcases List.mem_cons.mp hn with rfl | hn
      · rfl
      · exact ih _ hn
    · exact ih _ hn

namespace Workspace

/-- The same but for the reports about files that are left out. -/
def withoutSkips (w : Workspace) : Workspace := { w with trace := w.trace.withoutSkips }

theorem withoutSkips_record (w : Workspace) (t : Trace) :
    (w.record t).withoutSkips = w.withoutSkips.record t.withoutSkips := by
  rw [withoutSkips, record, Trace.withoutSkips_append]
  rfl

theorem record_empty (w : Workspace) : w.record {} = w := by
  have htrace : w.trace ++ {} = w.trace := by
    change Trace.mk _ _ _ = _
    simp only [List.append_nil]
  rw [record, htrace]

theorem withoutSkips_addUnit (w : Workspace) (id : RegistryId) (u : SourceUnit) :
    (w.addUnit id u).withoutSkips = w.withoutSkips.addUnit id u := by
  have hregistry : w.withoutSkips.registry? id = w.registry? id := rfl
  rw [addUnit, addUnit, hregistry]
  cases w.registry? id with
  | none => rfl
  | some r =>
    dsimp only
    rw [withoutSkips_record, (r.skipsNothing_addUnit u).withoutSkips_eq]
    cases u.key <;> rfl

theorem skips_addUnit (w : Workspace) (id : RegistryId) (u : SourceUnit) :
    (w.addUnit id u).trace.skips = w.trace.skips := by
  rw [addUnit]
  cases w.registry? id with
  | none => rfl
  | some r =>
    dsimp only
    rw [record, Trace.skips_append, (r.skipsNothing_addUnit u).skips_eq, List.append_nil]
    cases u.key <;> rfl

end Workspace

/-! ### Single files -/

theorem SourceText.halves_ofPoints_eq_none_iff {points : List Encoding.Point} :
    (SourceText.ofPoints points).halves = none ↔ ∀ p ∈ points, p.half? = none := by
  have hrest : (points.dropWhile (·.half?.isNone)).isEmpty = true ↔
      ∀ p ∈ points, p.half? = none := by
    simp [List.dropWhile_eq_nil_iff]
  rw [← hrest]
  simp [SourceText.ofPoints, List.span_eq_takeWhile_dropWhile]

/-- A text is not read for its errors, or for halves of surrogate pairs. -/
theorem SourceText.exists_of_read_error {source : SourceText} {g : Grammar} {origin : Option String}
    {fault : Fault} (h : source.read g origin = .error fault) :
    (∃ x, fault = .parse x) ∨ ∃ start units, g = .modern ∧ source.halves = some (start, units) ∧
      fault = .loneHalves start units := by
  unfold SourceText.read at h
  split at h
  · next start units hhalves => exact .inr ⟨start, units, rfl, hhalves, (Except.error.inj h).symm⟩
  · generalize Grammar.read _ source.text origin = parsed at h
    cases parsed with
    | error x => exact .inl ⟨x, (Except.error.inj h).symm⟩
    | ok decl => cases h

namespace File.Disk

/-- The declarations in a source file, or what is wrong with it. -/
def declarations (d : Disk) (g : Grammar) (e : Encoding) (path : Path) : Except Fault UnitDecl :=
  match d.read path with
  | .error cause => .error (.file ⟨cause, [path.text]⟩)
  | .ok bytes =>
    match e.points bytes with
    | .error fault => .error (.decode fault)
    | .ok points => (SourceText.ofPoints points).read g (some path.text)

/-- The file can be read, is text, and is Java. -/
def accepts (d : Disk) (g : Grammar) (e : Encoding) (path : Path) : Bool :=
  (d.declarations g e path).isOk

/-- The file can be read, but with a fault for which no file is left out. -/
inductive GivesUpOn (d : Disk) (g : Grammar) (e : Encoding) (path : Path) : Fault → Prop where
  /-- The decoder gives up. -/
  | decoder {bytes : List UInt8} (hread : d.read path = .ok bytes) (hup : e.GivesUpOn bytes) :
    GivesUpOn d g e path (.decode e.complaint)
  /-- The text has halves of surrogate pairs, which current Java is not read from. -/
  | halves {bytes : List UInt8} {points : List Encoding.Point} {start : Nat} {units : List Nat}
    (hread : d.read path = .ok bytes) (hmodern : g = .modern)
    (hpoints : e.points bytes = .ok points)
    (hhalves : (SourceText.ofPoints points).halves = some (start, units)) :
    GivesUpOn d g e path (.loneHalves start units)

variable {d : Disk} {g : Grammar} {e : Encoding} {path : Path}

/-- Nothing else on the disk matters. -/
theorem accepts_congr {other : Disk} (h : other.read path = d.read path) :
    other.accepts g e path = d.accepts g e path := by
  rw [accepts, accepts, declarations, declarations, h]

theorem GivesUpOn.declarations_eq {fault : Fault} (h : d.GivesUpOn g e path fault) :
    d.declarations g e path = .error fault := by
  cases h with
  | decoder hread hup =>
    rw [declarations, hread]
    dsimp only
    rw [Encoding.points_eq_error_iff.mpr (Encoding.decode_of_givesUpOn hup)]
  | halves hread hmodern hpoints hhalves =>
    rw [declarations, hread]
    dsimp only
    rw [hpoints]
    simp only [SourceText.read, hmodern, hhalves]

theorem GivesUpOn.isSkippable_eq {fault : Fault} (h : d.GivesUpOn g e path fault) :
    Session.isSkippable fault = false := by
  cases h with
  | decoder => cases e <;> rfl
  | halves => rfl

/-- A file that can be read may be left out for its errors, if reading does not give up on it. -/
theorem isSkippable_of_declarations {bytes : List UInt8} {fault : Fault}
    (hread : d.read path = .ok bytes) (hup : ∀ fault, ¬d.GivesUpOn g e path fault)
    (h : d.declarations g e path = .error fault) : Session.isSkippable fault = true := by
  simp only [declarations, hread] at h
  split at h
  · next x hx =>
    have hpoints := Encoding.pointsAtFault_decode fun hbytes => hup _ (.decoder hread hbytes)
    obtain ⟨start, rfl⟩ := hpoints x (Encoding.points_eq_error_iff.mp hx)
    obtain rfl := Except.error.inj h
    rfl
  · next points hpoints =>
    obtain ⟨x, rfl⟩ | ⟨start, units, hmodern, hhalves, rfl⟩ := SourceText.exists_of_read_error h
    · rfl
    · exact (hup _ (.halves hread hmodern hpoints hhalves)).elim

/-- In encodings other than UTF-7, only decoders give up. -/
theorem GivesUpOn.exists_bytes {fault : Fault} (h : d.GivesUpOn g e path fault) (he : e ≠ .utf7) :
    ∃ bytes, d.read path = .ok bytes ∧ e.GivesUpOn bytes := by
  cases h with
  | decoder hread hup => exact ⟨_, hread, hup⟩
  | halves hread hmodern hpoints hhalves =>
    have hnone := SourceText.halves_ofPoints_eq_none_iff.mpr
      (Encoding.half?_of_mem_points he hpoints)
    simp [hnone] at hhalves

end File.Disk

namespace Session

/-- A setting names an encoding. -/
structure Names (v : Value) (e : Encoding) : Prop where
  plain : checkEncodingName v = .ok ()
  known : encodingNamed v = .ok e

theorem names_of_ofName? {name : String} {e : Encoding} (h : Encoding.ofName? name = some e)
    (hnull : '\x00' ∉ name.toList) : Names (.text name) e where
  plain := by simp [checkEncodingName, hnull]
  known := by simp only [encodingNamed, h]

/-- The unit of some declarations, and the session after it was registered. -/
def adding (s : Session) (id : RegistryId) (decl : UnitDecl) (origin : String) :
    SourceUnit × Session :=
  let (unit, workspace) := s.workspace.assemble decl (some origin)
  (unit, { s with workspace := workspace.addUnit id unit })

/-- The session with another notice. -/
def noting (s : Session) (n : Notice) : Session := { s with workspace := s.workspace.note n }

variable {s : Session} {id : RegistryId} {g : Grammar} {e : Encoding} {v : Value} {path : Path}

theorem textOf_eq (hv : Names v e) (hnull : '\x00' ∉ path.text.toList) (disk : Disk) :
    textOf disk path v = match disk.read path with
      | .error cause => .error (.file ⟨cause, [path.text]⟩)
      | .ok bytes => match e.points bytes with
        | .error fault => .error (.decode fault)
        | .ok points => .ok (.ofPoints points) := by
  have hpath : checkPath path = .ok () := by simp [checkPath, hnull]
  simp only [textOf, hv.plain, hv.known, hpath, bind, Except.bind]
  rfl

theorem run_addSource (hg : s.workspace.HasGrammar id g) (source : SourceText) (origin : String) :
    (addSource id source (some origin)).run.run s = match source.read g (some origin) with
      | .error fault => (.error fault, s)
      | .ok decl => (.ok (s.adding id decl origin).1, (s.adding id decl origin).2) := by
  obtain ⟨r, hr, hname⟩ := hg
  have hregistry : (registry id).run.run s = (.ok r, s) := by
    rw [registry, run_bind, run_get]
    dsimp only
    rw [hr]
    rfl
  rw [addSource, run_bind, hregistry]
  simp only [hname]
  cases source.read g (some origin) <;> rfl

/-- What a file comes to. One with errors changes nothing. -/
theorem run_addFile (hg : s.workspace.HasGrammar id g) (hv : Names v e)
    (hnull : '\x00' ∉ path.text.toList) :
    (addFile id path v).run.run s = match s.disk.declarations g e path with
      | .error fault => (.error fault, s)
      | .ok decl => (.ok (s.adding id decl path.text).1, (s.adding id decl path.text).2) := by
  rw [addFile, run_bind, run_get]
  dsimp only
  rw [textOf_eq hv hnull, Disk.declarations]
  cases s.disk.read path with
  | error cause => rfl
  | ok bytes =>
    dsimp only
    cases e.points bytes with
    | error fault => rfl
    | ok points => exact run_addSource hg _ _

/-! ### Files one after the other -/

theorem run_addFiles_added {skip : Bool} {paths : List Path} {unit : SourceUnit} {next : Session}
    (h : (addFile id path v).run.run s = (.ok unit, next)) :
    (addFiles id skip v (path :: paths)).run.run s =
      (((addFiles id skip v paths).run.run next).1.map fun (units, left) => (unit :: units, left),
        ((addFiles id skip v paths).run.run next).2) := by
  rw [addFiles, run_bind, run_tryCatch, run_map, h]
  simp only [Except.map]
  rw [run_bind]
  rcases (addFiles id skip v paths).run.run next with ⟨_ | _, _⟩ <;> rfl

theorem run_addFiles_skipped {paths : List Path} {fault : Fault} {next : Session}
    (h : (addFile id path v).run.run s = (.error fault, next)) (hskip : isSkippable fault = true) :
    (addFiles id true v (path :: paths)).run.run s =
      (((addFiles id true v paths).run.run (next.noting (.skipped path.text))).1.map
          fun (units, left) => (units, left + 1),
        ((addFiles id true v paths).run.run (next.noting (.skipped path.text))).2) := by
  have hnote : (note (.skipped path.text)).run.run next =
    (.ok (), next.noting (.skipped path.text)) := rfl
  rw [addFiles, run_bind, run_tryCatch, run_map, h]
  simp only [Except.map, hskip, Bool.and_self, if_true]
  rw [run_bind, hnote]
  simp only [run_pure]
  rw [run_bind]
  rcases (addFiles id true v paths).run.run (next.noting (.skipped path.text)) with ⟨_ | _, _⟩ <;>
    rfl

theorem run_addFiles_failed {skip : Bool} {paths : List Path} {fault : Fault} {next : Session}
    (h : (addFile id path v).run.run s = (.error fault, next))
    (hskip : (skip && isSkippable fault) = false) :
    (addFiles id skip v (path :: paths)).run.run s = (.error fault, next) := by
  rw [addFiles, run_bind, run_tryCatch, run_map, h]
  simp only [Except.map, hskip, Bool.false_eq_true, if_false, run_throw]

theorem addFiles_append (id : RegistryId) (skip : Bool) (v : Value) (paths later : List Path) :
    addFiles id skip v (paths ++ later) = do
      let (units, left) ← addFiles id skip v paths
      let (more, moreLeft) ← addFiles id skip v later
      return (units ++ more, left + moreLeft) := by
  induction paths with
  | nil => simp [addFiles]
  | cons path paths ih =>
    simp only [List.cons_append, addFiles, ih, bind_assoc]
    refine bind_congr fun added => bind_congr fun ⟨units, left⟩ => ?_
    cases added <;> simp [Nat.add_right_comm]

/-- A file with an error for which it may not be left out ends the work. -/
theorem run_addFiles_stop {skip : Bool} {before later : List Path} {units : List SourceUnit}
    {left : Nat} {fault : Fault} {next after : Session}
    (hbefore : (addFiles id skip v before).run.run s = (.ok (units, left), next))
    (h : (addFile id path v).run.run next = (.error fault, after))
    (hskip : (skip && isSkippable fault) = false) :
    (addFiles id skip v (before ++ path :: later)).run.run s = (.error fault, after) := by
  rw [addFiles_append, run_bind, hbefore]
  dsimp only
  rw [run_bind, run_addFiles_failed h hskip]

/-! ### Trees with good and bad files -/

/-- The files that are reported as left out. -/
def skips (s : Session) : List String := s.workspace.trace.skips

/-- The same but for the reports about files that are left out. -/
def withoutSkips (s : Session) : Session := { s with workspace := s.workspace.withoutSkips }

theorem withoutSkips_noting_skipped (s : Session) (path : String) :
    (s.noting (.skipped path)).withoutSkips = s.withoutSkips := by
  have hnone : (Trace.ofNotices [.skipped path]).withoutSkips = {} := rfl
  rw [withoutSkips, noting, Workspace.note, Workspace.withoutSkips_record, hnone,
    Workspace.record_empty]
  rfl

theorem skips_noting_skipped (s : Session) (path : String) :
    (s.noting (.skipped path)).skips = s.skips ++ [path] := Trace.skips_append _ _

theorem withoutSkips_adding (s : Session) (id : RegistryId) (decl : UnitDecl) (origin : String) :
    s.withoutSkips.adding id decl origin =
      ((s.adding id decl origin).1, (s.adding id decl origin).2.withoutSkips) := by
  simp only [adding, withoutSkips, Workspace.withoutSkips_addUnit]
  rfl

theorem skips_adding (s : Session) (id : RegistryId) (decl : UnitDecl) (origin : String) :
    (s.adding id decl origin).2.skips = s.skips :=
  Workspace.skips_addUnit _ id _

/-- The session has the registry, whose texts are read with the grammar, and the files. -/
structure Serves (s : Session) (id : RegistryId) (g : Grammar) (d : Disk) : Prop where
  grammar : s.workspace.HasGrammar id g
  disk : s.disk = d

variable {d : Disk}

theorem Serves.adding (h : Serves s id g d) (decl : UnitDecl) (origin : String) :
    Serves (s.adding id decl origin).2 id g d :=
  ⟨Workspace.HasGrammar.addUnit (w := (s.workspace.assemble decl (some origin)).2) h.grammar _,
    h.disk⟩

theorem Serves.noting (h : Serves s id g d) (n : Notice) : Serves (s.noting n) id g d :=
  ⟨h.grammar, h.disk⟩

theorem Serves.withoutSkips (h : Serves s id g d) : Serves s.withoutSkips id g d :=
  ⟨h.grammar, h.disk⟩

theorem Serves.exists_addFile (h : Serves s id g d) (hv : Names v e)
    (hnull : '\x00' ∉ path.text.toList) (haccepts : d.accepts g e path = true) :
    ∃ unit next, (addFile id path v).run.run s = (.ok unit, next) ∧
      (addFile id path v).run.run s.withoutSkips = (.ok unit, next.withoutSkips) ∧
      Serves next id g d ∧ unit.origin = some path.text ∧ next.skips = s.skips := by
  cases hdecl : d.declarations g e path with
  | error fault => simp [Disk.accepts, hdecl, Except.isOk, Except.toBool] at haccepts
  | ok decl =>
    refine ⟨(s.adding id decl path.text).1, (s.adding id decl path.text).2, ?_, ?_,
      h.adding decl path.text, rfl, skips_adding s id decl path.text⟩
    · rw [run_addFile h.grammar hv hnull, h.disk, hdecl]
    · rw [run_addFile h.withoutSkips.grammar hv hnull, h.withoutSkips.disk, hdecl]
      dsimp only
      rw [withoutSkips_adding]

theorem Serves.addFile_fails (h : Serves s id g d) (hv : Names v e)
    (hnull : '\x00' ∉ path.text.toList) (haccepts : d.accepts g e path = false) :
    ∃ fault, d.declarations g e path = .error fault ∧
      (addFile id path v).run.run s = (.error fault, s) := by
  cases hdecl : d.declarations g e path with
  | error fault =>
    refine ⟨fault, rfl, ?_⟩
    rw [run_addFile h.grammar hv hnull, h.disk, hdecl]
  | ok decl => simp [Disk.accepts, hdecl, Except.isOk, Except.toBool] at haccepts

theorem Serves.run_addFile_of_givesUpOn (h : Serves s id g d) (hv : Names v e)
    (hnull : '\x00' ∉ path.text.toList) {fault : Fault} (hup : d.GivesUpOn g e path fault) :
    (addFile id path v).run.run s = (.error fault, s) := by
  rw [run_addFile h.grammar hv hnull, h.disk, hup.declarations_eq]

theorem exists_addFile_iff (hg : s.workspace.HasGrammar id g) (hv : Names v e)
    (hnull : '\x00' ∉ path.text.toList) :
    (∃ unit after, (addFile id path v).run.run s = (.ok unit, after)) ↔
      s.disk.accepts g e path = true := by
  have hserves : Serves s id g s.disk := ⟨hg, rfl⟩
  constructor
  · rintro ⟨unit, after, hrun⟩
    by_contra hbad
    obtain ⟨fault, -, hfails⟩ := hserves.addFile_fails hv hnull (by simpa using hbad)
    rw [hfails] at hrun
    cases hrun
  · intro haccepts
    obtain ⟨unit, after, hrun, -⟩ := hserves.exists_addFile hv hnull haccepts
    exact ⟨unit, after, hrun⟩

/-- Good files are all added, whether bad ones may be left out or not. -/
theorem Serves.exists_mapM_addFile (h : Serves s id g d) (hv : Names v e) {files : List Path}
    (hnull : ∀ p ∈ files, '\x00' ∉ p.text.toList)
    (haccepts : ∀ p ∈ files, d.accepts g e p = true) :
    ∃ units after, (files.mapM (addFile id · v)).run.run s = (.ok units, after) ∧
      (files.mapM (addFile id · v)).run.run s.withoutSkips = (.ok units, after.withoutSkips) ∧
      (∀ skip, (addFiles id skip v files).run.run s = (.ok (units, 0), after)) ∧
      Serves after id g d ∧ units.map SourceUnit.origin = files.map (some ·.text) := by
  induction files generalizing s with
  | nil => exact ⟨[], s, rfl, rfl, fun _ => rfl, h, rfl⟩
  | cons p files ih =>
    rw [List.forall_mem_cons] at hnull haccepts
    obtain ⟨unit, next, hrun, hrun', hnext, horigin, -⟩ := h.exists_addFile hv hnull.1 haccepts.1
    obtain ⟨units, after, hruns, hruns', hadd, hafter, horigins⟩ := ih hnext hnull.2 haccepts.2
    refine ⟨unit :: units, after, ?_, ?_, fun skip => ?_, hafter, by simp [horigin, horigins]⟩
    · simp only [List.mapM_cons, run_bind, hrun, hruns, run_pure]
    · simp only [List.mapM_cons, run_bind, hrun', hruns', run_pure]
    · rw [run_addFiles_added hrun, hadd skip]
      rfl

/-- If reading gives up on no file, the good files are added and the others are left out. But for the
reports about these, all is as if there were only the good files. -/
theorem Serves.exists_addFiles (h : Serves s id g d) (hv : Names v e) {files : List Path}
    (hfiles : ∀ p ∈ files, (∃ bytes, d.read p = .ok bytes) ∧ '\x00' ∉ p.text.toList)
    (hup : ∀ p ∈ files, ∀ fault, ¬d.GivesUpOn g e p fault) :
    ∃ units after, (addFiles id true v files).run.run s =
        (.ok (units, (files.filter (!d.accepts g e ·)).length), after) ∧
      ((files.filter (d.accepts g e)).mapM (addFile id · v)).run.run s.withoutSkips =
        (.ok units, after.withoutSkips) ∧
      after.skips = s.skips ++ (files.filter (!d.accepts g e ·)).map Path.text ∧
      Serves after id g d := by
  induction files generalizing s with
  | nil => exact ⟨[], s, rfl, rfl, by simp, h⟩
  | cons p files ih =>
    rw [List.forall_mem_cons] at hfiles hup
    cases haccepts : d.accepts g e p with
    | true =>
      obtain ⟨unit, next, hrun, hrun', hnext, -, hskips⟩ :=
        h.exists_addFile hv hfiles.1.2 haccepts
      obtain ⟨units, after, hruns, hruns', hskips', hafter⟩ := ih hnext hfiles.2 hup.2
      refine ⟨unit :: units, after, ?_, ?_, ?_, hafter⟩
      · rw [run_addFiles_added hrun, hruns]
        simp [haccepts, Except.map]
      · rw [List.filter_cons_of_pos haccepts]
        simp only [List.mapM_cons, run_bind, hrun', hruns', run_pure]
      · rw [hskips', hskips, List.filter_cons_of_neg (by simp [haccepts])]
    | false =>
      obtain ⟨fault, hfault, hrun⟩ := h.addFile_fails hv hfiles.1.2 haccepts
      obtain ⟨bytes, hread⟩ := hfiles.1.1
      have hskip := Disk.isSkippable_of_declarations hread hup.1 hfault
      -- the session goes on with one more report, which is not seen without reports
      obtain ⟨units, after, hruns, hruns', hskips, hafter⟩ :=
        ih (h.noting (.skipped p.text)) hfiles.2 hup.2
      refine ⟨units, after, ?_, ?_, ?_, hafter⟩
      · rw [run_addFiles_skipped hrun hskip, hruns]
        simp [haccepts, Except.map]
      · rw [List.filter_cons_of_neg (by simp [haccepts]), ← hruns', withoutSkips_noting_skipped]
      · rw [hskips, skips_noting_skipped]
        simp [haccepts]

/-- The good files among some were added to a session one by one, and the others were left out. -/
structure Skims (id : RegistryId) (g : Grammar) (e : Encoding) (v : Value) (files : List Path)
    (s : Session) (units : List SourceUnit) (after : Session) : Prop where
  added : ∃ added, ((files.filter (s.disk.accepts g e)).mapM (addFile id · v)).run.run s =
    (.ok units, added) ∧ after.withoutSkips = added.withoutSkips
  origins : units.map SourceUnit.origin =
    (files.filter (s.disk.accepts g e)).map (some ·.text)
  skipped : after.skips =
    s.skips ++ (files.filter (!s.disk.accepts g e ·)).map Path.text

theorem Serves.exists_skims (h : Serves s id g d) (hv : Names v e) {files : List Path}
    (hfiles : ∀ p ∈ files, (∃ bytes, d.read p = .ok bytes) ∧ '\x00' ∉ p.text.toList)
    (hup : ∀ p ∈ files, ∀ fault, ¬d.GivesUpOn g e p fault) :
    ∃ units after, Skims id g e v files s units after ∧ Serves after id g d ∧
      (addFiles id true v files).run.run s =
        (.ok (units, (files.filter (!d.accepts g e ·)).length), after) := by
  obtain rfl := h.disk
  obtain ⟨units, after, hrun, hgood, hskips, hafter⟩ := h.exists_addFiles hv hfiles hup
  have hnull (p : Path) (hp : p ∈ files.filter (s.disk.accepts g e)) : '\x00' ∉ p.text.toList :=
    (hfiles p (List.mem_filter.mp hp).1).2
  obtain ⟨units', added, hadded, hadded', -, -, horigins⟩ :=
    h.exists_mapM_addFile hv hnull fun p hp => (List.mem_filter.mp hp).2
  -- both are runs over the good files from the session without reports
  obtain ⟨hunits, hsame⟩ := Prod.mk.inj (hgood.symm.trans hadded')
  obtain rfl := Except.ok.inj hunits
  exact ⟨units, after, ⟨⟨added, hadded, hsame⟩, horigins, hskips⟩, hafter, hrun⟩

/-! ### Trees -/

theorem run_addTree {directory : Path} (h : s.disk.lookup directory ≠ .error .nameTooLong)
    (id : RegistryId) (shown : String) (skip : Bool) (v : Value) :
    (addTree id shown directory skip v).run.run s =
      match (addFiles id skip v (s.disk.sources directory)).run.run s with
      | (.ok (units, left), after) =>
        (.ok units, after.noting (.sourceTree shown units.length left))
      | (.error fault, after) => (.error fault, after) := by
  rw [addTree, run_bind, run_checkLength h]
  dsimp only
  rw [run_bind, run_get]
  dsimp only
  rw [run_bind]
  rcases (addFiles id skip v (s.disk.sources directory)).run.run s with ⟨_ | _, _⟩ <;> rfl

section Directory

variable {text : String} (hg : s.workspace.HasGrammar id g) (hv : Names v e)
  (htree : s.disk.tree.Proper) (hname : s.disk.lookup (.ofText text) ≠ .error .nameTooLong)

include hg hv htree hname

/-- If reading gives up on no file below a directory, the good ones are added and the others left
out. -/
theorem exists_addTree_skims
    (hup : ∀ p ∈ s.disk.sources (.ofText text), ∀ fault, ¬s.disk.GivesUpOn g e p fault) :
    ∃ units after, Skims id g e v (s.disk.sources (.ofText text)) s units after ∧
      (addTree id text (.ofText text) true v).run.run s =
        (.ok units, after.noting (.sourceTree text units.length
          ((s.disk.sources (.ofText text)).filter (!s.disk.accepts g e ·)).length)) := by
  have hserves : Serves s id g s.disk := ⟨hg, rfl⟩
  obtain ⟨units, after, hskims, -, hrun⟩ := hserves.exists_skims hv
    (fun _ hp => Disk.exists_read_of_mem_sources htree (Path.proper_ofText text) hp) hup
  refine ⟨units, after, hskims, ?_⟩
  rw [run_addTree hname, hrun]

/-- If all files below a directory are good, it does not matter whether bad ones may be left out. -/
theorem exists_addTree_good
    (haccepts : ∀ p ∈ s.disk.sources (.ofText text), s.disk.accepts g e p = true) :
    ∃ units after, ((s.disk.sources (.ofText text)).mapM (addFile id · v)).run.run s =
        (.ok units, after) ∧
      ∀ skip, (addTree id text (.ofText text) skip v).run.run s =
        (.ok units, after.noting (.sourceTree text units.length 0)) := by
  have hserves : Serves s id g s.disk := ⟨hg, rfl⟩
  obtain ⟨units, after, hrun, -, hadd, -, -⟩ := hserves.exists_mapM_addFile hv
    (fun _ hp => (Disk.exists_read_of_mem_sources htree (Path.proper_ofText text) hp).2) haccepts
  refine ⟨units, after, hrun, fun skip => ?_⟩
  rw [run_addTree hname, hadd skip]

/-- If no file may be left out, the first bad one ends the work. -/
theorem exists_addTree_stop {before later : List Path}
    (hsplit : s.disk.sources (.ofText text) = before ++ path :: later)
    (hbefore : ∀ p ∈ before, s.disk.accepts g e p = true)
    (hpath : s.disk.accepts g e path = false) :
    ∃ units after fault, (before.mapM (addFile id · v)).run.run s = (.ok units, after) ∧
      (addFile id path v).run.run after = (.error fault, after) ∧
      (addTree id text (.ofText text) false v).run.run s = (.error fault, after) := by
  have hserves : Serves s id g s.disk := ⟨hg, rfl⟩
  have hnull (p : Path) (hp : p ∈ before ++ path :: later) : '\x00' ∉ p.text.toList :=
    (Disk.exists_read_of_mem_sources htree (Path.proper_ofText text) (hsplit ▸ hp)).2
  obtain ⟨units, after, hrun, -, hadd, hafter, -⟩ := hserves.exists_mapM_addFile hv
    (fun p hp => hnull p (List.mem_append_left _ hp)) hbefore
  obtain ⟨fault, -, hfault⟩ := hafter.addFile_fails hv (hnull path (by simp)) hpath
  refine ⟨units, after, fault, hrun, hfault, ?_⟩
  rw [run_addTree hname, hsplit, run_addFiles_stop (hadd false) hfault rfl]

/-- The first file on which reading gives up ends the work, even if bad files may be left out. -/
theorem exists_addTree_givesUp {before later : List Path} {fault : Fault}
    (hsplit : s.disk.sources (.ofText text) = before ++ path :: later)
    (hbefore : ∀ p ∈ before, ∀ fault, ¬s.disk.GivesUpOn g e p fault)
    (hpath : s.disk.GivesUpOn g e path fault) :
    ∃ units after, Skims id g e v before s units after ∧
      (addTree id text (.ofText text) true v).run.run s = (.error fault, after) := by
  have hserves : Serves s id g s.disk := ⟨hg, rfl⟩
  have hfiles (p : Path) (hp : p ∈ before ++ path :: later) :=
    Disk.exists_read_of_mem_sources htree (Path.proper_ofText text) (hsplit ▸ hp)
  obtain ⟨units, after, hskims, hafter, hrun⟩ := hserves.exists_skims hv
    (fun p hp => hfiles p (List.mem_append_left _ hp)) hbefore
  have hfails := hafter.run_addFile_of_givesUpOn hv (hfiles path (by simp)).2 hpath
  refine ⟨units, after, hskims, ?_⟩
  rw [run_addTree hname, hsplit, run_addFiles_stop hrun hfails hpath.isSkippable_eq]

end Directory

theorem names_utf8 : Names (.text "utf-8") .utf8 := names_of_ofName? (by decide +kernel) (by decide)

theorem not_givesUpOn_utf8 (d : Disk) (g : Grammar) (p : Path) (fault : Fault) :
    ¬d.GivesUpOn g .utf8 p fault := by
  intro hup
  obtain ⟨bytes, -, hbytes⟩ := hup.exists_bytes nofun
  exact hbytes

/-- A directory of sources in UTF-8 is added like its good files one by one. Bad files are left out
and counted, or the first of them ends the work and leaves what was done up to then. Whether a file
is good is a matter of its bytes and the grammar alone. -/
theorem addTree_adds_good_files (s : Session) (id : RegistryId) (g : Grammar) (text : String)
    (hg : s.workspace.HasGrammar id g) (htree : s.disk.tree.Proper)
    (hname : s.disk.lookup (.ofText text) ≠ .error .nameTooLong) :
    let files := s.disk.sources (.ofText text)
    let bad := files.filter (!s.disk.accepts g .utf8 ·)
    let utf8 : Value := .text "utf-8"
    (∃ units after, Skims id g .utf8 utf8 files s units after ∧
      (addTree id text (.ofText text) true utf8).run.run s =
        (.ok units, after.noting (.sourceTree text units.length bad.length))) ∧
    (bad = [] → ∃ units after,
      (files.mapM (addFile id · utf8)).run.run s = (.ok units, after) ∧
      ∀ skip, (addTree id text (.ofText text) skip utf8).run.run s =
        (.ok units, after.noting (.sourceTree text units.length 0))) ∧
    (∀ before path later, files = before ++ path :: later →
      (∀ p ∈ before, s.disk.accepts g .utf8 p = true) → s.disk.accepts g .utf8 path = false →
      ∃ units after fault,
        (before.mapM (addFile id · utf8)).run.run s = (.ok units, after) ∧
        (addFile id path utf8).run.run after = (.error fault, after) ∧
        (addTree id text (.ofText text) false utf8).run.run s = (.error fault, after)) ∧
    ∀ path ∈ files, ∀ (t : Session) (other : RegistryId), t.workspace.HasGrammar other g →
      t.disk.read path = s.disk.read path →
      ((∃ unit after, (addFile other path utf8).run.run t = (.ok unit, after)) ↔
        s.disk.accepts g .utf8 path = true) := by
  intro files bad utf8
  refine ⟨exists_addTree_skims hg names_utf8 htree hname fun p _ => not_givesUpOn_utf8 s.disk g p,
    fun hbad => exists_addTree_good hg names_utf8 htree hname fun p hp => ?_,
    fun before path later => exists_addTree_stop hg names_utf8 htree hname,
    fun path hp t other ht hread => ?_⟩
  · simpa using List.filter_eq_nil_iff.mp hbad p hp
  · rw [← Disk.accepts_congr hread]
    exact exists_addFile_iff ht names_utf8
      (Disk.exists_read_of_mem_sources htree (Path.proper_ofText text) hp).2

/-- The bytes of a text in ASCII. -/
def asciiBytes (text : String) : List UInt8 := text.toList.map fun c => .ofNat c.toNat

/-- An empty registry, and a directory with Java, with bytes that are no text and with text that is
no Java. -/
def mixed : Session where
  workspace := { registries := [{}] }
  disk := { tree := .directory [("s", .directory
    [("A.java", .file (asciiBytes "class A \x7b\x7d")), ("B.java", .file [0xff]),
      ("C.java", .file (asciiBytes "class"))])] }

theorem hasGrammar_mixed : mixed.workspace.HasGrammar ⟨0⟩ .classic := ⟨{}, rfl, by decide⟩

theorem proper_mixed : mixed.disk.tree.Proper := by
  refine .directory (by decide) (by decide) ?_
  simp only [List.forall_mem_cons, List.not_mem_nil, false_imp_iff, implies_true, and_true]
  refine .directory (by decide) (by decide) ?_
  simp only [List.forall_mem_cons, List.not_mem_nil, false_imp_iff, implies_true, and_true]
  exact ⟨.file _, .file _, .file _⟩

theorem sources_mixed : mixed.disk.sources (.ofText "s") =
    [.ofText "s/A.java", .ofText "s/B.java", .ofText "s/C.java"] := by
  rw [Disk.sources_of_sorted rfl (by decide)]
  decide

/-- Two of three files are left out, or the first of the two ends the work. -/
theorem addTree_adds_good_files_mixed :
    mixed.workspace.HasGrammar ⟨0⟩ .classic ∧ mixed.disk.tree.Proper ∧
      mixed.disk.lookup (.ofText "s") ≠ .error .nameTooLong ∧
      (∃ (units : List SourceUnit) (after : Session),
        (addTree ⟨0⟩ "s" (.ofText "s") true (.text "utf-8")).run.run mixed =
          (.ok units, after.noting (.sourceTree "s" units.length 2)) ∧
        units.map SourceUnit.origin = [some "s/A.java"] ∧
        after.skips = ["s/B.java", "s/C.java"]) ∧
      ∃ units after fault,
        ([Path.ofText "s/A.java"].mapM (addFile ⟨0⟩ · (.text "utf-8"))).run.run mixed =
          (.ok units, after) ∧
        (addTree ⟨0⟩ "s" (.ofText "s") false (.text "utf-8")).run.run mixed =
          (.error fault, after) := by
  have hname : mixed.disk.lookup (.ofText "s") ≠ .error .nameTooLong := nofun
  obtain ⟨⟨units, after, hskims, hrun⟩, -, hstop, -⟩ :=
    addTree_adds_good_files mixed ⟨0⟩ .classic "s" hasGrammar_mixed proper_mixed hname
  have hA : mixed.disk.accepts .classic .utf8 (.ofText "s/A.java") = true := by decide +kernel
  have hB : mixed.disk.accepts .classic .utf8 (.ofText "s/B.java") = false := by decide +kernel
  have hC : mixed.disk.accepts .classic .utf8 (.ofText "s/C.java") = false := by decide +kernel
  have hbad : (mixed.disk.sources (.ofText "s")).filter (!mixed.disk.accepts .classic .utf8 ·) =
      [.ofText "s/B.java", .ofText "s/C.java"] := by
    simp [sources_mixed, hA, hB, hC]
  have horigins : units.map SourceUnit.origin = [some "s/A.java"] := by
    rw [hskims.origins, sources_mixed]
    simp only [List.filter, hA, hB, hC]
    decide
  have hskips : after.skips = ["s/B.java", "s/C.java"] := by
    rw [hskims.skipped, hbad]
    decide
  obtain ⟨units', after', fault, hbefore, -, hfails⟩ := hstop [.ofText "s/A.java"]
    (.ofText "s/B.java") [.ofText "s/C.java"] sources_mixed (by simpa using hA) hB
  rw [hbad] at hrun
  exact ⟨hasGrammar_mixed, proper_mixed, hname, ⟨units, after, hrun, horigins, hskips⟩,
    units', after', fault, hbefore, hfails⟩

/-- If bad files may be left out, a directory of sources in one of the encodings known here is added
like its good files one by one, except that the first file on which reading gives up ends the
work. -/
theorem addTree_skips_or_gives_up (s : Session) (id : RegistryId) (g : Grammar) (v : Value)
    (e : Encoding) (text : String) (hg : s.workspace.HasGrammar id g) (hv : Names v e)
    (htree : s.disk.tree.Proper) (hname : s.disk.lookup (.ofText text) ≠ .error .nameTooLong) :
    let files := s.disk.sources (.ofText text)
    let bad := files.filter (!s.disk.accepts g e ·)
    ((∀ p ∈ files, ∀ fault, ¬s.disk.GivesUpOn g e p fault) →
      ∃ units after, Skims id g e v files s units after ∧
        (addTree id text (.ofText text) true v).run.run s =
          (.ok units, after.noting (.sourceTree text units.length bad.length))) ∧
    ∀ before path later fault, files = before ++ path :: later →
      (∀ p ∈ before, ∀ fault, ¬s.disk.GivesUpOn g e p fault) →
      s.disk.GivesUpOn g e path fault →
      ∃ units after, Skims id g e v before s units after ∧
        (addTree id text (.ofText text) true v).run.run s = (.error fault, after) := by
  intro files bad
  exact ⟨exists_addTree_skims hg hv htree hname,
    fun before path later fault => exists_addTree_givesUp hg hv htree hname⟩

/-- The bytes of a text in UTF-16 without a mark, the lower byte of each unit first. -/
def unitBytes (text : String) : List UInt8 := text.toList.flatMap fun c => [.ofNat c.toNat, 0]

/-- An empty registry, and a directory with a file in UTF-16 without a mark and one with it. -/
def unmarked : Session where
  workspace := { registries := [{}] }
  disk := { tree := .directory [("s", .directory
    [("A.java", .file (unitBytes "class A \x7b\x7d")),
      ("B.java", .file ([0xff, 0xfe] ++ unitBytes "class B \x7b\x7d"))])] }

/-- A file without the mark of its byte order is not left out, and the good file behind it is not
reached. -/
theorem addTree_of_unmarked :
    Names (.text "utf-16") (.utf16 none) ∧ unmarked.workspace.HasGrammar ⟨0⟩ .classic ∧
      unmarked.disk.sources (.ofText "s") = [.ofText "s/A.java", .ofText "s/B.java"] ∧
      unmarked.disk.accepts .classic (.utf16 none) (.ofText "s/B.java") = true ∧
      (addTree ⟨0⟩ "s" (.ofText "s") true (.text "utf-16")).run.run unmarked =
        (.error (.decode (.unmarked 16)), unmarked) := by
  have hv : Names (.text "utf-16") (.utf16 none) :=
    names_of_ofName? (by decide +kernel) (by decide)
  have hg : unmarked.workspace.HasGrammar ⟨0⟩ .classic := ⟨{}, rfl, by decide⟩
  have hfiles : unmarked.disk.sources (.ofText "s") =
      [.ofText "s/A.java", .ofText "s/B.java"] := by
    rw [Disk.sources_of_sorted rfl (by decide)]
    decide
  have hbytes : Encoding.GivesUpOn (.utf16 none) (unitBytes "class A \x7b\x7d") :=
    ⟨by decide, by decide, by decide, "class A \x7b\x7d".toList, by decide +kernel⟩
  have hup : unmarked.disk.GivesUpOn .classic (.utf16 none) (.ofText "s/A.java")
      (.decode (.unmarked 16)) := .decoder rfl hbytes
  have hserves : Serves unmarked ⟨0⟩ .classic unmarked.disk := ⟨hg, rfl⟩
  have hname : unmarked.disk.lookup (.ofText "s") ≠ .error .nameTooLong := nofun
  have hfails := hserves.run_addFile_of_givesUpOn hv (by decide) hup
  refine ⟨hv, hg, hfiles, by decide +kernel, ?_⟩
  rw [run_addTree hname, hfiles, run_addFiles_failed hfails rfl]

end Session

end JavaAtlas
