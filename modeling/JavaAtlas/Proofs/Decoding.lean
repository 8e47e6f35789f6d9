import JavaAtlas.Encoding
import Mathlib.Tactic.SplitIfs

/-! Why bytes are no text. In most encodings a decoder that fails points at the bytes that stand for
no character. Only where the mark of the byte order is missing, or where nothing is text at all, it
gives up without doing so: `pointsAtFault_decode`, `decode_of_givesUpOn`. -/

namespace JavaAtlas.Encoding

/-! ### Decoders that point at bytes -/

/-- If reading fails, then at bytes that stand for no character. -/
def PointsAtFault {α : Type} (read : Except DecodeError α) : Prop :=
  ∀ fault, read = .error fault → ∃ start, fault = .invalid start

variable {α β : Type}

@[simp] theorem pointsAtFault_ok (a : α) : PointsAtFault (.ok a) :=
  fun _ h => nomatch h

@[simp] theorem pointsAtFault_error {fault : DecodeError} :
    PointsAtFault (.error fault : Except DecodeError α) ↔ ∃ start, fault = .invalid start :=
  ⟨fun h => h fault rfl, fun h _ heq => Except.error.inj heq ▸ h⟩

theorem PointsAtFault.map {read : Except DecodeError α} (h : PointsAtFault read) (f : α → β) :
    PointsAtFault (read.map f) := by
  cases read with
  | error fault => exact pointsAtFault_error.mpr (h fault rfl)
  | ok a => exact pointsAtFault_ok (f a)

theorem pointsAtFault_stepAll (step : Step) (bound position : Nat) (bytes : List UInt8) :
    PointsAtFault (stepAll step bound position bytes) := by
  induction bound generalizing position bytes with
  | zero => cases bytes <;> simp [stepAll]
  | succ bound ih =>
    cases bytes with
    | nil => simp [stepAll]
    | cons b bytes =>
      simp only [stepAll]
      split
      · simp
      · exact (ih _ _).map _

theorem pointsAtFault_steps (step : Step) (position : Nat) (bytes : List UInt8) :
    PointsAtFault (steps step position bytes) :=
  pointsAtFault_stepAll step _ position bytes

theorem pointsAtFault_utf7Byte (open? : Option Section) (position : Nat) (byte : UInt8) :
    PointsAtFault (utf7Byte open? position byte) := by
  unfold utf7Byte
  dsimp only
  split
  · split_ifs <;> simp
  · simp
  · split_ifs <;> simp

theorem pointsAtFault_utf7From (open? : Option Section) (position : Nat) (bytes : List UInt8) :
    PointsAtFault (utf7From open? position bytes) := by
  induction bytes generalizing open? position with
  | nil =>
    cases open? with
    | none => simp [utf7From]
    | some s =>
      simp only [utf7From]
      split_ifs <;> simp
  | cons byte bytes ih =>
    rw [utf7From]
    split
    · next fault hbyte => simpa [hbyte] using pointsAtFault_utf7Byte open? position byte
    · exact (ih _ _).map _

theorem pointsAtFault_decodeMarked (bytes : List UInt8) : PointsAtFault (decodeMarked bytes) := by
  rw [decodeMarked]
  split_ifs
  · exact pointsAtFault_steps _ _ _
  · exact pointsAtFault_ok []
  · exact pointsAtFault_steps _ _ _

/-! ### Decoders that give up -/

/-- Bytes that would be text if the order of the bytes in a unit were known. -/
structure Unmarked (size : Nat) (step : ByteOrder → Step) (bytes : List UInt8) : Prop where
  notEmpty : bytes ≠ []
  notLittle : unit? size .little bytes ≠ some 0xfeff
  notBig : unit? size .big bytes ≠ some 0xfeff
  text : ∃ cs, steps (step .little) 0 bytes = .ok cs

variable {size : Nat} {step : ByteOrder → Step} {bytes : List UInt8}

theorem Unmarked.decodeUnits_eq (h : Unmarked size step bytes) :
    decodeUnits size step bytes = .error (.unmarked (8 * size)) := by
  obtain ⟨cs, hcs⟩ := h.text
  simp [decodeUnits, h.notLittle, h.notBig, hcs, h.notEmpty]

theorem pointsAtFault_decodeUnits (h : ¬Unmarked size step bytes) :
    PointsAtFault (decodeUnits size step bytes) := by
  rw [decodeUnits]
  split_ifs with hlittle hbig hempty
  · exact pointsAtFault_steps _ _ _
  · exact pointsAtFault_steps _ _ _
  all_goals
    cases hsteps : steps (step .little) 0 bytes with
    | error fault => simpa [hsteps] using pointsAtFault_steps (step .little) 0 bytes
    | ok cs => ?_
  · exact pointsAtFault_ok cs
  · exact (h ⟨by simpa using hempty, by simpa using hlittle, by simpa using hbig, cs, hsteps⟩).elim

/-- Bytes for which a decoder gives up without pointing at any of them. -/
def GivesUpOn : Encoding → List UInt8 → Prop
  | .utf16 none, bytes => Unmarked 2 utf16Step bytes
  | .utf32 none, bytes => Unmarked 4 utf32Step bytes
  | .undefined, _ => True
  | _, _ => False

/-- What a decoder says when it gives up. -/
def complaint : Encoding → DecodeError
  | .utf16 _ => .unmarked 16
  | .utf32 _ => .unmarked 32
  | _ => .undefined

theorem decode_of_givesUpOn {e : Encoding} (h : e.GivesUpOn bytes) :
    e.decode bytes = .error e.complaint := by
  unfold GivesUpOn at h
  split at h
  · exact h.decodeUnits_eq
  · exact h.decodeUnits_eq
  · rfl
  · exact h.elim

/-- A decoder that does not give up points at the bytes that are no text. -/
theorem pointsAtFault_decode {e : Encoding} (h : ¬e.GivesUpOn bytes) :
    PointsAtFault (e.decode bytes) := by
  unfold decode
  split
  case h_5 => exact (pointsAtFault_utf7From none 0 bytes).map _
  case h_7 => exact pointsAtFault_decodeMarked _
  case h_8 => exact pointsAtFault_decodeUnits h
  case h_10 => exact pointsAtFault_decodeUnits h
  case h_12 => exact (h trivial).elim
  all_goals exact pointsAtFault_steps _ _ _

/-! ### Halves of surrogate pairs -/

/-- The points of some bytes are those of their text. -/
theorem map_shown_points (e : Encoding) (bytes : List UInt8) :
    (e.points bytes).map (·.map Point.shown) = e.decode bytes := by
  unfold points
  split
  · rfl
  · cases e.decode bytes with
    | error fault => rfl
    | ok cs =>
      have hshown : Point.shown ∘ Point.char = id := rfl
      simp [Except.map, hshown]

theorem points_eq_error_iff {e : Encoding} {fault : DecodeError} :
    e.points bytes = .error fault ↔ e.decode bytes = .error fault := by
  rw [← map_shown_points]
  cases e.points bytes <;> simp [Except.map]

/-- Only UTF-7 has halves of surrogate pairs without their other halves. -/
theorem half?_of_mem_points {e : Encoding} (he : e ≠ .utf7) {points : List Point}
    (h : e.points bytes = .ok points) : ∀ p ∈ points, p.half? = none := by
  have hchars : e.points bytes = (e.decode bytes).map (·.map Point.char) := by
    unfold Encoding.points
    split
    · exact (he rfl).elim
    · rfl
  rw [hchars] at h
  cases hdecode : e.decode bytes with
  | error fault => simp [hdecode, Except.map] at h
  | ok cs =>
    simp only [hdecode, Except.map, Except.ok.injEq] at h
    simp [← h, Point.half?]

end JavaAtlas.Encoding
