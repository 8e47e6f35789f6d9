import JavaAtlas.Proofs.Outcome

/-! Readers on given tokens. `Reads r ts a rest` says that a reader which finds the tokens `ts` ahead
answers `a` and leaves `rest` ahead; `Fails r ts` says that it fails. Both pass through sequences
and choices, so a reader is run by following its text. A repetition is run along `Repeats`, one
constructor for each answer of its step. What may follow an item is said by `Avoids`. -/

namespace JavaAtlas.Java

open Reader

variable {α β : Type} {ts ts' mid rest : List Token}

/-- The next token, if there is one, is none of these. -/
def Avoids (words : List String) (ts : List Token) : Prop := ∀ t ∈ ts.head?, t.text ∉ words

namespace Avoids

variable {words : List String}

@[simp] theorem nil : Avoids words [] := by simp [Avoids]

@[simp] theorem cons {t : Token} : Avoids words (t :: ts) ↔ t.text ∉ words := by simp [Avoids]

theorem mono {fewer : List String} (h : Avoids words ts) (hsub : fewer ⊆ words) :
    Avoids fewer ts :=
  fun t ht hmem => h t ht (hsub hmem)

theorem fits {asked : Token → Bool} {more : List (Token → Bool)} (h : Avoids words ts)
    (hasked : ∀ t, asked t = true → t.text ∈ words) : fits (asked :: more) ts = false := by
  cases ts with
  | nil => simp [Reader.fits]
  | cons t ts =>
    have ht : asked t = false := by
      cases hc : asked t with
      | false => rfl
      | true => exact absurd (hasked t hc) (cons.mp h)
    simp [Reader.fits, ht]

end Avoids

/-- The reader answers `a` on the tokens `ts` and leaves `rest` ahead. -/
def Reads (r : Reader α) (ts : List Token) (a : α) (rest : List Token) : Prop :=
  ∀ marks, outcome r ⟨ts, marks⟩ = (.ok a, ⟨rest, marks⟩)

/-- The reader fails on the tokens `ts`. -/
def Fails (r : Reader α) (ts : List Token) : Prop :=
  ∀ marks, ∃ e p, outcome r ⟨ts, marks⟩ = (.error e, p)

namespace Fails

variable {r : Reader α} {f : α → Reader β} {a : α}

theorem first (h : Fails r ts) : Fails (r >>= f) ts := by
  intro marks
  obtain ⟨e, p, hr⟩ := h marks
  exact ⟨e, p, by rw [outcome_bind, hr]⟩

theorem bind (hr : Reads r ts a mid) (hf : Fails (f a) mid) : Fails (r >>= f) ts := by
  intro marks
  obtain ⟨e, p, hfail⟩ := hf marks
  exact ⟨e, p, by rw [outcome_bind, hr marks]; exact hfail⟩

theorem refuse : Fails (Reader.refuse : Reader α) ts :=
  fun _ => ⟨_, _, rfl⟩

theorem take {asked : Token → Bool} (h : ∀ t ∈ ts.head?, asked t = false) :
    Fails (Reader.take asked) ts := by
  intro marks
  cases ts with
  | nil => exact ⟨_, _, rfl⟩
  | cons t ts =>
    refine ⟨.refused ((ts[0]?).map Token.line), ⟨ts, marks⟩, ?_⟩
    have ht : asked t = false := h t (by simp)
    simp only [Reader.take, outcome_bind, outcome_ahead, outcome_goOnFrom, ht]
    rfl

theorem expect {word : String} (h : Avoids [word] ts) : Fails (Reader.expect word) ts := by
  refine first (take fun t ht => ?_)
  have hne := h t ht
  simpa [Token.is] using hne

theorem ifTrue {c : Reader Bool} {s t : Reader β} (hc : Reads c ts true mid) (hs : Fails s mid) :
    Fails (c >>= fun x => if x = true then s else t) ts :=
  bind hc hs

theorem ifFalse {c : Reader Bool} {s t : Reader β} (hc : Reads c ts false mid)
    (ht : Fails t mid) : Fails (c >>= fun x => if x = true then s else t) ts :=
  bind hc ht

end Fails

/-- A step of a repetition answers these items one after the other, each after a token at least. -/
inductive Repeats (step : Reader (Option α)) : List Token → List α → List Token → Prop
  | nil {ts : List Token} : Repeats step ts [] ts
  | cons {ts mid rest : List Token} {a : α} {as : List α} (first : Reads step ts (some a) mid)
      (shorter : mid.length < ts.length) (more : Repeats step mid as rest) :
      Repeats step ts (a :: as) rest

namespace Repeats

variable {step : Reader (Option α)} {as bs : List α}

theorem length_le (h : Repeats step ts as rest) : as.length + rest.length ≤ ts.length := by
  induction h with
  | nil => simp
  | cons _ shorter _ ih =>
    simp only [List.length_cons]
    omega

theorem append (h : Repeats step ts as mid) (h' : Repeats step mid bs rest) :
    Repeats step ts (as ++ bs) rest := by
  induction h with
  | nil => exact h'
  | cons first shorter _ ih => exact .cons first shorter (ih h')

/-- What a repetition answers starts with the items that its step answers first. -/
theorem exists_more (h : Repeats step ts as rest) {along : List Token} {marks : List (List Token)}
    {p : Place} (hrun : outcome (repeatAlong step along) ⟨ts, marks⟩ = (.ok bs, p)) :
    ∃ more, bs = as ++ more := by
  induction h generalizing along bs p with
  | nil => exact ⟨bs, rfl⟩
  | cons first _ _ ih =>
    cases along with
    | nil =>
      rw [repeatAlong, outcome_bind, first marks] at hrun
      simp [outcome_throw] at hrun
    | cons t along =>
      simp only [repeatAlong, outcome_bind, first marks] at hrun
      split at hrun
      · rename_i cs p' hmore
        obtain ⟨more, rfl⟩ := ih hmore
        obtain ⟨hbs, -⟩ := Prod.mk.inj hrun
        exact ⟨more, (Except.ok.inj hbs).symm⟩
      · simp at hrun

/-- Items that are written one after the other. What follows an item is told by `Q`. -/
theorem flatMap {ι : Type} {items : List ι} {words : ι → List Token} {value : ι → α}
    {Q : List Token → Prop}
    (hstep : ∀ i ∈ items, ∀ k, Q k → Reads step (words i ++ k) (some (value i)) k)
    (hwords : ∀ i ∈ items, words i ≠ []) (hQ : ∀ i ∈ items, ∀ k, Q k → Q (words i ++ k))
    (hrest : Q rest) :
    Repeats step (items.flatMap words ++ rest) (items.map value) rest ∧
      Q (items.flatMap words ++ rest) := by
  induction items with
  | nil => exact ⟨.nil, hrest⟩
  | cons i items ih =>
    obtain ⟨hmore, hfollow⟩ := ih (fun j hj => hstep j (by simp [hj]))
      (fun j hj => hwords j (by simp [hj])) (fun j hj => hQ j (by simp [hj]))
    rw [List.flatMap_cons, List.append_assoc, List.map_cons]
    have hpos : 0 < (words i).length := List.length_pos_iff.mpr (hwords i (by simp))
    refine ⟨.cons (hstep i (by simp) _ hfollow) ?_ hmore, hQ i (by simp) _ hfollow⟩
    simp only [List.length_append]
    omega

/-- Items that are read in the same way whatever follows them. -/
theorem each {ι : Type} {items : List ι} {words : ι → List Token} {value : ι → α}
    (hstep : ∀ i ∈ items, ∀ k, Reads step (words i ++ k) (some (value i)) k)
    (hwords : ∀ i ∈ items, words i ≠ []) :
    Repeats step (items.flatMap words ++ rest) (items.map value) rest :=
  (flatMap (Q := fun _ => True) (fun i hi k _ => hstep i hi k) hwords
    (fun _ _ _ _ => trivial) trivial).1

end Repeats

namespace Reads

variable {r : Reader α} {f : α → Reader β} {a : α} {b : β} {t : Token} {word : String}

theorem pure : Reads (Pure.pure a) ts a ts := fun _ => rfl

theorem bind (hr : Reads r ts a mid) (hf : Reads (f a) mid b rest) :
    Reads (r >>= f) ts b rest := by
  intro marks
  rw [outcome_bind, hr marks]
  exact hf marks

theorem map {g : α → β} (hr : Reads r ts a rest) : Reads (g <$> r) ts (g a) rest := by
  rw [map_eq_pure_bind]
  exact bind hr pure

theorem ahead : Reads Reader.ahead ts ts ts := fun _ => rfl

theorem look (i : Nat) : Reads (Reader.look i) ts ts[i]? ts := fun _ => rfl

theorem take {asked : Token → Bool} (h : asked t = true) :
    Reads (Reader.take asked) (t :: ts) t ts := by
  intro marks
  simp only [Reader.take, outcome_bind, outcome_ahead, outcome_goOnFrom, h]
  rfl

theorem any : Reads Reader.any (t :: ts) t ts := take rfl

theorem expect (h : t.text = word) : Reads (Reader.expect word) (t :: ts) () ts :=
  bind (take (by simpa [Token.is] using h)) pure

theorem identifier (h : t.isWord = true) : Reads Reader.identifier (t :: ts) t.text ts :=
  bind (take h) pure

theorem sees {asked : List (Token → Bool)} {c : Bool} (h : fits asked ts = c) :
    Reads (Reader.sees asked) ts c ts := by
  rw [← h]
  exact fun _ => rfl

theorem next (h : t.text = word) : Reads (Reader.next word) (t :: ts) true (t :: ts) :=
  sees (by simpa [fits, Token.is] using h)

theorem notNext {words : List String} (h : Avoids words ts) (hword : word ∈ words) :
    Reads (Reader.next word) ts false ts :=
  sees (h.fits fun t ht => by rwa [show t.text = word by simpa [Token.is] using ht])

theorem notNextAll {words : List String} {more : List String} (h : Avoids words ts)
    (hword : word ∈ words) : Reads (nextAll (word :: more)) ts false ts :=
  sees (h.fits fun t ht => by rwa [show t.text = word by simpa [Token.is] using ht])

theorem notNextIn {words texts : List String} (h : Avoids words ts) (hsub : texts ⊆ words) :
    Reads (nextIn texts) ts false ts :=
  sees (h.fits fun t ht => hsub (by simpa using ht))

theorem try1 (h : t.text = word) : Reads (Reader.try1 word) (t :: ts) true ts := by
  have hnext : Reads (nextAll [word]) (t :: ts) true (t :: ts) := next h
  intro marks
  simp only [Reader.try1, tryAll, outcome_bind, hnext marks, if_true, outcome_ahead]
  rfl

theorem notTryAll {words more : List String} (h : Avoids words ts) (hword : word ∈ words) :
    Reads (tryAll (word :: more)) ts false ts := by
  intro marks
  simp only [tryAll, outcome_bind, notNextAll h hword marks]
  rfl

theorem notTry1 {words : List String} (h : Avoids words ts) (hword : word ∈ words) :
    Reads (Reader.try1 word) ts false ts :=
  notTryAll h hword

theorem tryAll {t' : Token} {word' : String} (h : t.text = word) (h' : t'.text = word') :
    Reads (tryAll [word, word']) (t :: t' :: ts) true ts := by
  intro marks
  have hnext : outcome (nextAll [word, word']) ⟨t :: t' :: ts, marks⟩ =
      (.ok true, ⟨t :: t' :: ts, marks⟩) :=
    sees (by simp [fits, Token.is, h, h']) marks
  simp only [Reader.tryAll, outcome_bind, hnext, if_true, outcome_ahead]
  rfl

theorem ifTrue {c : Reader Bool} {s t : Reader β} (hc : Reads c ts true mid)
    (hs : Reads s mid b rest) : Reads (c >>= fun x => if x = true then s else t) ts b rest :=
  bind hc hs

theorem ifFalse {c : Reader Bool} {s t : Reader β} (hc : Reads c ts false mid)
    (ht : Reads t mid b rest) : Reads (c >>= fun x => if x = true then s else t) ts b rest :=
  bind hc ht

theorem tryCatch {handle : Failure → Reader α} (hr : Reads r ts a rest) :
    Reads (tryCatch r handle) ts a rest := by
  intro marks
  rw [outcome_tryCatch, hr marks]

theorem attempt (hr : Reads r ts a rest) : Reads (attempt r) ts (some a) rest := by
  intro marks
  rw [outcome_attempt, hr marks]

theorem notAttempt (hr : Fails r ts) : Reads (Reader.attempt r) ts none ts := by
  intro marks
  obtain ⟨e, p, hfail⟩ := hr marks
  rw [outcome_attempt, hfail]

theorem orElse {s : Reader α} (hr : Reads r ts a rest) : Reads (orElse r s) ts a rest :=
  bind (attempt hr) pure

theorem whenNext (ht : t.text = word) (hr : Reads r (t :: ts) a rest) :
    Reads (whenNext word r) (t :: ts) (some a) rest :=
  ifTrue (next ht) (bind hr pure)

theorem notWhenNext (h : Avoids [word] ts) : Reads (Reader.whenNext word r) ts none ts :=
  ifFalse (notNext h (by simp)) pure

theorem repeatAlong {step : Reader (Option α)} {as : List α} (h : Repeats step ts as rest)
    (hstop : Reads step rest none rest) {along : List Token} (hlength : as.length ≤ along.length) :
    Reads (repeatAlong step along) ts as rest := by
  induction h generalizing along with
  | nil => cases along <;> exact bind hstop pure
  | cons first _ _ ih =>
    cases along with
    | nil => simp at hlength
    | cons t along => exact bind first (bind (ih hstop (by simpa using hlength)) pure)

theorem repeated {step : Reader (Option α)} {as : List α} (h : Repeats step ts as rest)
    (hstop : Reads step rest none rest) : Reads (repeated step) ts as rest :=
  bind ahead (repeatAlong h hstop (by have := h.length_le; omega))

theorem untilNext {as : List α} (h : Repeats (do
      if ← Reader.next word then return none else return some (← r)) ts as (t :: rest))
    (ht : t.text = word) : Reads (untilNext word r) ts as (t :: rest) :=
  repeated h (ifTrue (next ht) pure)

/-- Items with a separator between each two of them. What follows an item is told by `Q`. -/
theorem separated {ι : Type} {first : List Token} {items : List ι} {words : ι → List Token}
    {value : ι → α} {Q : List Token → Prop}
    (hfirst : ∀ k, Q k → Reads r (first ++ k) a k)
    (hitem : ∀ i ∈ items, ∀ k, Q k → Reads r (words i ++ k) (value i) k)
    (ht : t.text = word) (hQ : ∀ k, Q (t :: k)) (hrest : Q rest) (hstop : Avoids [word] rest) :
    Reads (separated word r) (first ++ (items.flatMap (fun i => t :: words i) ++ rest))
      (a :: items.map value) rest := by
  have hstep : ∀ i ∈ items, ∀ k, Q k → Reads (do
      if ← Reader.try1 word then return some (← r) else return none)
      (t :: words i ++ k) (some (value i)) k :=
    fun i hi k hk => ifTrue (try1 ht) (bind (hitem i hi k hk) pure)
  obtain ⟨hmore, hfollow⟩ := Repeats.flatMap hstep (by simp) (fun i _ k _ => hQ _) hrest
  exact bind (hfirst _ hfollow)
    (bind (repeated hmore (ifFalse (notTry1 hstop (by simp)) pure)) pure)

end Reads

theorem Fails.orElse {r s : Reader α} (hr : Fails r ts) (hs : Fails s ts) :
    Fails (orElse r s) ts :=
  .bind (.notAttempt hr) hs

end JavaAtlas.Java
