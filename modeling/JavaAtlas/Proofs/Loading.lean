import JavaAtlas.Proofs.Restore

/-! Saved bytes that were cut. The bytes of a payload say how many they are, and a number can only be
read whole, so that nothing but all of them is a payload: `Snapshot.Payload.read?_prefix`. Hence a
file that was cut anywhere is refused, and what was saved of one registry is never the beginning of
what was saved of another. -/

namespace JavaAtlas

namespace Snapshot

/-- What follows a number has no part in reading it. -/
theorem readNumber_append {bytes rest : List UInt8} {n : Nat}
    (h : readNumber bytes = some (n, rest)) (more : List UInt8) :
    readNumber (bytes ++ more) = some (n, rest ++ more) := by
  induction bytes generalizing n rest with
  | nil => simp [readNumber] at h
  | cons b bytes ih =>
    rw [readNumber] at h
    rw [List.cons_append, readNumber]
    split at h
    · next hb =>
      obtain ⟨rfl, rfl⟩ : b.toNat = n ∧ bytes = rest := by simpa using h
      rw [if_pos hb]
    · next hb =>
      obtain ⟨⟨m, rest'⟩, hm, hn⟩ := Option.map_eq_some_iff.mp h
      obtain ⟨rfl, rfl⟩ : m * 128 + (b.toNat - 128) = n ∧ rest' = rest := by simpa using hn
      rw [if_neg hb, ih hm]
      rfl

/-- A payload begins with the mark, and then says how many bytes are to follow. -/
theorem Payload.exists_of_read? {bytes : List UInt8} {p : Payload} (h : read? bytes = some p) :
    ∃ tail length rest, bytes = mark ++ tail ∧ readNumber tail = some (length, rest) ∧
      length ≤ rest.length := by
  by_cases hmark : mark.isPrefixOf bytes = true
  · obtain ⟨tail, rfl⟩ := List.isPrefixOf_iff_prefix.mp hmark
    cases hnumber : readNumber tail with
    | none => simp [read?, hnumber] at h
    | some read =>
      obtain ⟨length, rest⟩ := read
      refine ⟨tail, length, rest, rfl, hnumber, ?_⟩
      by_contra hshort
      simp [read?, hnumber, Nat.lt_of_not_le hshort] at h
  · simp [read?, hmark] at h

/-- Of the bytes of a payload only all of them together are one. -/
theorem Payload.eq_write_of_read? {p q : Payload} {bytes : List UInt8} (hcut : bytes <+: p.write)
    (h : read? bytes = some q) : bytes = p.write := by
  obtain ⟨tail, length, rest, rfl, hnumber, hlength⟩ := exists_of_read? h
  obtain ⟨more, hmore⟩ := hcut
  have hdata : tail ++ more = numberBytes (store p).write.length ++ (store p).write := by
    simpa [write] using hmore
  -- the number is the one that was written, so all the data stands in front of the cut
  have hwhole := readNumber_append hnumber more
  rw [hdata, readNumber_numberBytes] at hwhole
  obtain ⟨rfl, hrest⟩ : (store p).write.length = length ∧ (store p).write = rest ++ more := by
    simpa using hwhole
  have hnil : more = [] := by
    have hlen := congrArg List.length hrest
    rw [List.length_append] at hlen
    exact List.eq_nil_of_length_eq_zero (by omega)
  rw [← hmore, hnil, List.append_nil]

theorem Payload.write_ne_nil (p : Payload) : p.write ≠ [] := by
  have hnumber : numberBytes (store p).write.length ≠ [] := by
    rw [numberBytes]
    split <;> simp
  simp [write, hnumber]

theorem load_cut {p : Payload} {bytes : List UInt8} (hcut : bytes <+: p.write)
    (hne : bytes ≠ p.write) : load bytes = .error .corrupt := by
  cases h : Payload.read? bytes with
  | none => rw [load, h]
  | some q => exact absurd (Payload.eq_write_of_read? hcut h) hne

end Snapshot

namespace Session

/-! ### Actions one after the other -/

theorem run_bind {α β : Type} (m : Action α) (f : α → Action β) (s : Session) :
    (m >>= f).run.run s = match m.run.run s with
      | (.ok a, next) => (f a).run.run next
      | (.error e, next) => (.error e, next) := by
  simp only [ExceptT.run_bind, StateT.run_bind]
  cases h : m.run.run s with
  | mk result next => cases result <;> rfl

@[simp] theorem run_pure {α : Type} (a : α) (s : Session) :
    (pure a : Action α).run.run s = (.ok a, s) := rfl

@[simp] theorem run_throw {α : Type} (e : Fault) (s : Session) :
    (throw e : Action α).run.run s = (.error e, s) := rfl

@[simp] theorem run_get (s : Session) : (get : Action Session).run.run s = (.ok s, s) := rfl

theorem run_tryCatch {α : Type} (m : Action α) (handle : Fault → Action α) (s : Session) :
    (tryCatch m handle).run.run s = match m.run.run s with
      | (.ok a, next) => (.ok a, next)
      | (.error fault, next) => (handle fault).run.run next := by
  simp only [tryCatch, tryCatchThe, MonadExceptOf.tryCatch, ExceptT.tryCatch, ExceptT.mk,
    ExceptT.run, bind, StateT.bind, StateT.run]
  rcases m s with ⟨_ | _, _⟩ <;> rfl

theorem run_map {α β : Type} (f : α → β) (m : Action α) (s : Session) :
    (f <$> m).run.run s = ((m.run.run s).1.map f, (m.run.run s).2) := by
  rw [map_eq_pure_bind, run_bind]
  rcases m.run.run s with ⟨_ | _, _⟩ <;> rfl

theorem run_checkLength {path : File.Path} {s : Session}
    (h : s.disk.lookup path ≠ .error .nameTooLong) :
    (checkLength path).run.run s = (.ok (), s) := by
  rw [checkLength, run_bind, run_get]
  dsimp only
  split
  · next hlookup => exact (h hlookup).elim
  · rfl

/-! ### Files that are loaded -/

/-- A path with a null character is corrupt, too. -/
theorem run_load (path : String) (s : Session) :
    (load path).run.run s =
      if path.toList.contains '\x00' then (.error (.load .corrupt), s)
      else match s.disk.readText path with
        | .error cause => (.error (.notRead path ⟨cause, [path]⟩), s)
        | .ok bytes => (loadBytes bytes).run.run s := by
  by_cases hnull : path.toList.contains '\x00' = true
  · simp only [load, hnull, if_true, run_bind, run_throw]
  · rw [load, if_neg hnull, if_neg hnull, run_bind, run_get]
    dsimp only
    cases s.disk.readText path <;> rfl

end Session

/-- Of the bytes that are saved of a registry only all of them together can be loaded. Bytes that
were cut are corrupt, in a file or not, and leave everything as it is. -/
theorem Session.loadBytes_cut (session : Session) (id : RegistryId) :
    ∃ bytes, (Session.savedBytes id).run.run session = (.ok bytes, session) ∧
      ∀ (target : Session) (cut : List UInt8), cut <+: bytes →
        ((∃ loaded after, (Session.loadBytes cut).run.run target = (.ok loaded, after)) ↔
          cut = bytes) ∧
        (cut ≠ bytes →
          (Session.loadBytes cut).run.run target = (.error (.load .corrupt), target) ∧
          ∀ path, target.disk.readText path = .ok cut →
            (Session.load path).run.run target = (.error (.load .corrupt), target)) ∧
        (Fault.load .corrupt).text = "Corrupt registry data" := by
  refine ⟨_, rfl, fun target cut hcut => ?_⟩
  have hrefused (hne : cut ≠ (Snapshot.Payload.ofImage
      (Snapshot.capture session.workspace id)).write) :
      (Session.loadBytes cut).run.run target = (.error (.load .corrupt), target) := by
    simp only [Session.loadBytes, Snapshot.load_cut hcut hne]
    rfl
  refine ⟨⟨?_, ?_⟩, fun hne => ⟨hrefused hne, fun path hpath => ?_⟩, rfl⟩
  · rintro ⟨loaded, after, hload⟩
    by_contra hne
    rw [hrefused hne] at hload
    cases hload
  · rintro rfl
    obtain ⟨t, hload⟩ := History.exists_loadBytes (Snapshot.capture session.workspace id) target
    exact ⟨_, _, hload⟩
  · rw [Session.run_load, hpath]
    split
    · rfl
    · exact hrefused hne

namespace History

/-- Without its last byte, what is saved of a registry with a resolver is refused. -/
theorem loadBytes_cut_circle :
    ∃ bytes, (Session.savedBytes main).run.run { workspace := after {} .null circle } =
        (.ok bytes, { workspace := after {} .null circle }) ∧
      bytes.dropLast <+: bytes ∧ bytes.dropLast ≠ bytes ∧
      (Session.loadBytes bytes.dropLast).run.run { workspace := after {} .null askedCircle } =
        (.error (.load .corrupt), { workspace := after {} .null askedCircle }) := by
  obtain ⟨bytes, hsaved, hcuts⟩ :=
    Session.loadBytes_cut { workspace := after {} .null circle } main
  have hne : bytes.dropLast ≠ bytes := by
    have hbytes : (Snapshot.Payload.ofImage
        (Snapshot.capture (after {} .null circle) main)).write = bytes :=
      Except.ok.inj (congrArg Prod.fst hsaved)
    have hpos := List.length_pos_iff.mpr (hbytes ▸ Snapshot.Payload.write_ne_nil _)
    intro hsame
    have hlength := congrArg List.length hsame
    rw [List.length_dropLast] at hlength
    omega
  have hcut : bytes.dropLast <+: bytes := List.dropLast_prefix bytes
  obtain ⟨-, hrefused, -⟩ := hcuts { workspace := after {} .null askedCircle } _ hcut
  exact ⟨bytes, hsaved, hcut, hne, (hrefused hne).1⟩

end History

end JavaAtlas
