import JavaAtlas.Java.Reader

/-! What comes of readers. `outcome` runs a reader at a place, and there is an equation for each way
to build readers. `Yields` is a weaker statement: all that a reader can answer has a property,
wherever it is run. It passes through sequences, choices and repetitions, whatever the readers in
them leave ahead. -/

namespace JavaAtlas.Java.Reader

variable {α β : Type}

/-- The answer of a reader at a place, and the place it leaves behind. -/
def outcome (r : Reader α) (p : Place) : Except Failure α × Place := r.run p

theorem outcome_pure (a : α) (p : Place) : outcome (pure a) p = (.ok a, p) := rfl

theorem outcome_throw (e : Failure) (p : Place) :
    outcome (throw e : Reader α) p = (.error e, p) := rfl

theorem outcome_get (p : Place) : outcome get p = (.ok p, p) := rfl

theorem outcome_set (p' p : Place) : outcome (set p') p = (.ok ⟨⟩, p') := rfl

theorem outcome_ahead (p : Place) : outcome ahead p = (.ok p.rest, p) := rfl

theorem outcome_goOnFrom (ts : List Token) (p : Place) :
    outcome (goOnFrom ts) p = (.ok (), { p with rest := ts }) := rfl

theorem outcome_bind (r : Reader α) (f : α → Reader β) (p : Place) :
    outcome (r >>= f) p =
      match outcome r p with
      | (.ok a, p') => outcome (f a) p'
      | (.error e, p') => (.error e, p') := by
  have h : outcome (r >>= f) p = ExceptT.bindCont f (r.run p).1 (r.run p).2 := rfl
  rw [h]
  unfold outcome
  rcases r.run p with ⟨_ | _, _⟩ <;> rfl

theorem outcome_tryCatch (r : Reader α) (handle : Failure → Reader α) (p : Place) :
    outcome (tryCatch r handle) p =
      match outcome r p with
      | (.ok a, p') => (.ok a, p')
      | (.error e, p') => outcome (handle e) p' := by
  simp only [outcome, tryCatch, tryCatchThe, MonadExceptOf.tryCatch, ExceptT.tryCatch,
    ExceptT.mk, ExceptT.run, bind, StateT.bind]
  rcases r p with ⟨_ | _, _⟩ <;> rfl

theorem outcome_attempt (r : Reader α) (p : Place) :
    outcome (attempt r) p =
      match outcome r p with
      | (.ok a, p') => (.ok (some a), p')
      | (.error _, _) => (.ok none, p) := by
  simp only [attempt, outcome_bind, outcome_get, outcome_tryCatch, outcome_set]
  rcases outcome r p with ⟨_ | _, _⟩ <;> rfl

/-! ### What readers can answer -/

/-- Every answer of the reader has the property. -/
def Yields (r : Reader α) (Q : α → Prop) : Prop :=
  ∀ p a p', outcome r p = (.ok a, p') → Q a

namespace Yields

variable {r : Reader α} {f : α → Reader β} {P : α → Prop} {Q : β → Prop}

theorem trivial (r : Reader α) : Yields r fun _ => True := fun _ _ _ _ => ⟨⟩

theorem pure {b : β} (h : Q b) : Yields (Pure.pure b) Q := by
  intro p b' p' hrun
  simp only [outcome_pure, Prod.mk.injEq, Except.ok.injEq] at hrun
  exact hrun.1 ▸ h

theorem throw (e : Failure) : Yields (throw e) Q := by
  intro p b p' hrun
  simp [outcome_throw] at hrun

theorem bind (hr : Yields r P) (hf : ∀ a, P a → Yields (f a) Q) : Yields (r >>= f) Q := by
  intro p b p' hrun
  rw [outcome_bind] at hrun
  rcases hr' : outcome r p with ⟨e | a, p₁⟩
  · simp [hr'] at hrun
  · rw [hr'] at hrun
    exact hf a (hr p a p₁ hr') p₁ b p' hrun

/-- What the first of two readers answers does not matter. -/
theorem skip (hf : ∀ a, Yields (f a) Q) : Yields (r >>= f) Q :=
  bind (trivial r) fun a _ => hf a

theorem and (hr : Yields r P) {P' : α → Prop} (hr' : Yields r P') :
    Yields r fun a => P a ∧ P' a :=
  fun p a p' hrun => ⟨hr p a p' hrun, hr' p a p' hrun⟩

theorem mono (hr : Yields r P) {P' : α → Prop} (h : ∀ a, P a → P' a) : Yields r P' :=
  fun p a p' hrun => h a (hr p a p' hrun)

theorem ite {c : Prop} [Decidable c] {s t : Reader β} (hs : Yields s Q) (ht : Yields t Q) :
    Yields (if c then s else t) Q := by
  split
  · exact hs
  · exact ht

/-- Something may be read before going on. -/
theorem optional {c : Prop} [Decidable c] {s : Reader Unit} {next : Unit → Reader β}
    (h : ∀ u, Yields (next u) Q) : Yields (if c then s >>= next else next ()) Q :=
  ite (skip h) (h ())

/-- One of two readers comes before going on. -/
theorem either {c : Prop} [Decidable c] {r s : Reader α} (hr : Yields r P) (hs : Yields s P)
    (hf : ∀ a, P a → Yields (f a) Q) : Yields (if c then r >>= f else s >>= f) Q :=
  ite (bind hr hf) (bind hs hf)

theorem refuse : Yields refuse Q := skip fun _ => throw _

theorem take (asked : Token → Bool) : Yields (take asked) fun t => asked t = true := by
  refine skip fun ts => ?_
  split
  · exact throw _
  · refine skip fun _ => ?_
    split
    · exact pure ‹_›
    · exact refuse

theorem tryCatch {r : Reader β} (hr : Yields r Q) {handle : Failure → Reader β}
    (hh : ∀ e, Yields (handle e) Q) : Yields (tryCatch r handle) Q := by
  intro p b p' hrun
  rw [outcome_tryCatch] at hrun
  rcases hr' : outcome r p with ⟨e | a, p₁⟩
  · rw [hr'] at hrun
    exact hh e p₁ b p' hrun
  · simp only [hr', Prod.mk.injEq, Except.ok.injEq] at hrun
    exact hrun.1 ▸ hr p a p₁ hr'

theorem attempt (hr : Yields r P) : Yields (attempt r) fun o => ∀ a, o = some a → P a := by
  intro p o p' hrun a ha
  rw [outcome_attempt] at hrun
  rcases hr' : outcome r p with ⟨e | b, p₁⟩
  · simp only [hr', Prod.mk.injEq, Except.ok.injEq] at hrun
    simp [← hrun.1] at ha
  · simp only [hr', Prod.mk.injEq, Except.ok.injEq] at hrun
    rw [← hrun.1, Option.some.injEq] at ha
    exact ha ▸ hr p b p₁ hr'

theorem orElse {r s : Reader α} (hr : Yields r P) (hs : Yields s P) : Yields (orElse r s) P := by
  refine bind (attempt hr) fun o ho => ?_
  cases o with
  | some a => exact pure (ho a rfl)
  | none => exact hs

theorem repeatAlong {step : Reader (Option α)} (h : Yields step fun o => ∀ a, o = some a → P a)
    (ts : List Token) : Yields (repeatAlong step ts) fun as => ∀ a ∈ as, P a := by
  induction ts with
  | nil =>
    refine skip fun o => ?_
    cases o with
    | none => exact pure (by simp)
    | some a => exact throw _
  | cons t ts ih =>
    refine bind h fun o ho => ?_
    cases o with
    | none => exact pure (by simp)
    | some a =>
      refine bind ih fun as has => pure ?_
      simpa using ⟨ho a rfl, has⟩

theorem repeated {step : Reader (Option α)} (h : Yields step fun o => ∀ a, o = some a → P a) :
    Yields (repeated step) fun as => ∀ a ∈ as, P a :=
  skip fun _ => repeatAlong h _

/-- A step of a repetition that reads an item if it goes on. -/
theorem item (hr : Yields r P) : Yields (do return some (← r)) fun o => ∀ a, o = some a → P a :=
  bind hr fun _ ha => pure fun _ hb => Option.some.inj hb ▸ ha

/-- A step of a repetition that ends it. -/
theorem stop : Yields (Pure.pure none) fun o : Option α => ∀ a, o = some a → P a :=
  pure (by simp)

theorem untilNext (stopWord : String) (hr : Yields r P) :
    Yields (untilNext stopWord r) fun as => ∀ a ∈ as, P a :=
  repeated (skip fun _ => ite stop (item hr))

theorem separated (separator : String) (hr : Yields r P) :
    Yields (separated separator r) fun as => ∀ a ∈ as, P a := by
  refine bind hr fun a ha => bind (repeated (skip fun _ => ite (item hr) stop)) fun as has =>
    pure ?_
  simpa using ⟨ha, has⟩

theorem whenNext (word : String) (hr : Yields r P) :
    Yields (whenNext word r) fun o => ∀ a, o = some a → P a :=
  skip fun _ => ite (item hr) stop

/-- A token that is looked at first and then taken is as it was asked to be. -/
theorem seesAny {asked : Token → Bool} {f : Token → Reader β} {s : Reader β}
    (hf : ∀ t, asked t = true → Yields (f t) Q) (hs : Yields s Q) :
    Yields (do if ← sees [asked] then any >>= f else s) Q := by
  rintro ⟨ts, marks⟩ b p' hrun
  have hsees : outcome (sees [asked]) ⟨ts, marks⟩ = (.ok (fits [asked] ts), ⟨ts, marks⟩) := rfl
  rw [outcome_bind, hsees] at hrun
  cases ts with
  | nil => exact hs _ _ _ (by simpa [fits] using hrun)
  | cons t ts =>
    cases ht : asked t with
    | false => exact hs _ _ _ (by simpa [fits, ht] using hrun)
    | true =>
      have hany : outcome any ⟨t :: ts, marks⟩ = (.ok t, ⟨ts, marks⟩) := rfl
      simp only [fits, ht, Bool.and_self, if_true, outcome_bind, hany] at hrun
      exact hf t ht _ _ _ hrun

end Yields

end JavaAtlas.Java.Reader
