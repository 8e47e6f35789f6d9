import JavaAtlas.Proofs.ListingPrinting
import JavaAtlas.Proofs.Names

/-! The text of listings, cut into lines, words and names. -/

namespace JavaAtlas

namespace Text

/-- A run of characters of a class in front of one that is not in it. -/
theorem span_append {p : Char → Bool} {cs next : List Char} (hcs : ∀ c ∈ cs, p c = true)
    (hnext : ∀ c ∈ next.head?, p c = false) :
    (cs ++ next).takeWhile p = cs ∧ (cs ++ next).dropWhile p = next := by
  rw [List.takeWhile_append_of_pos hcs, List.dropWhile_append_of_pos hcs]
  cases next with
  | nil => simp
  | cons c next => simp [hnext c (by simp)]

theorem forall_head {p : Char → Bool} {c : Char} (h : p c = false) (cs : List Char) :
    ∀ d ∈ (c :: cs).head?, p d = false := by
  simpa using h

/-! ### Lines -/

theorem linesFrom_append {line : List Char} (h : ∀ c ∈ line, isLineEnd c = false)
    (acc rest : List Char) :
    linesFrom acc (line ++ rest) = linesFrom (line.reverse ++ acc) rest := by
  induction line generalizing acc with
  | nil => rfl
  | cons c line ih =>
    have hc := h c (by simp)
    have hreturn : c ≠ '\r' := fun heq => absurd (heq ▸ hc) (by decide)
    rw [List.cons_append, linesFrom, hc, if_neg (by simp), ih fun d hd => h d (by simp [hd])]
    · simp
    · simp [hreturn]

theorem linesFrom_break {ending : List Char} (h : ending = ['\n'] ∨ ending = ['\r', '\n'])
    (acc rest : List Char) :
    linesFrom acc (ending ++ rest) = acc.reverse :: linesFrom [] rest := by
  rcases h with rfl | rfl
  · simp [linesFrom, isLineEnd]
  · simp [linesFrom]

/-- A line up to the end of the text or the next end of line. -/
theorem exists_linesFrom {line rest : List Char} (h : ∀ c ∈ line, isLineEnd c = false)
    (hne : line ≠ []) (hrest : rest = [] ∨ ∃ c cs, rest = c :: cs ∧ isLineEnd c = true) :
    ∃ more, lines (line ++ rest) = line :: more := by
  rw [lines, linesFrom_append h, List.append_nil]
  rcases hrest with rfl | ⟨c, cs, rfl, hc⟩
  · exact ⟨[], by simp [linesFrom, hne]⟩
  · unfold linesFrom
    split
    · simp at *
    · exact ⟨_, by rw [List.reverse_reverse]⟩
    · rename_i heq
      obtain ⟨rfl, rfl⟩ := List.cons.inj heq
      exact ⟨linesFrom [] cs, by rw [if_pos hc, List.reverse_reverse]⟩

/-! ### Words -/

/-- A word: some characters, none of them blank. -/
structure Solid (word : List Char) : Prop where
  some : word ≠ []
  dense : ∀ c ∈ word, isBlank c = false

theorem Solid.head {word : List Char} (h : Solid word) (next : List Char) :
    ∀ c ∈ (word ++ next).head?, isBlank c = false := by
  intro c hc
  obtain ⟨d, ds, rfl⟩ := List.exists_cons_of_ne_nil h.some
  obtain rfl : d = c := by simpa using hc
  exact h.dense d (by simp)

theorem wordsFrom_append {word : List Char} (h : ∀ c ∈ word, isBlank c = false)
    (acc rest : List Char) :
    wordsFrom acc (word ++ rest) = wordsFrom (word.reverse ++ acc) rest := by
  induction word generalizing acc with
  | nil => rfl
  | cons c word ih =>
    rw [List.cons_append, wordsFrom, h c (by simp), if_neg (by simp),
      ih fun d hd => h d (by simp [hd])]
    simp

theorem wordsFrom_blanks {gap : List Char} (h : ∀ c ∈ gap, isBlank c = true) (rest : List Char) :
    wordsFrom [] (gap ++ rest) = wordsFrom [] rest := by
  induction gap with
  | nil => rfl
  | cons c gap ih =>
    rw [List.cons_append, wordsFrom, h c (by simp), if_pos rfl]
    exact ih fun d hd => h d (by simp [hd])

/-- A word ends at a gap. -/
theorem words_append {word gap : List Char} (h : Solid word) (hgap : gap ≠ [])
    (hblank : ∀ c ∈ gap, isBlank c = true) (rest : List Char) :
    words (word ++ (gap ++ rest)) = word :: words rest := by
  obtain ⟨c, gap, rfl⟩ := List.exists_cons_of_ne_nil hgap
  have hword : (word.reverse ++ []).isEmpty = false := by simp [h.some]
  rw [words, wordsFrom_append h.dense, List.cons_append, wordsFrom, hblank c (by simp),
    if_pos rfl, hword, if_neg (by simp), wordsFrom_blanks fun d hd => hblank d (by simp [hd])]
  simp [words]

theorem words_eq_singleton {word : List Char} (h : Solid word) : words word = [word] := by
  have hword : word.reverse.isEmpty = false := by simp [h.some]
  have hcut := wordsFrom_append h.dense [] []
  rw [List.append_nil, List.append_nil] at hcut
  rw [words, hcut, wordsFrom, hword]
  simp

/-! ### Blanks at the ends -/

/-- Blanks around a text whose ends are no blanks are left out. -/
theorem trim_eq {before plain after : List Char} (hbefore : ∀ c ∈ before, isBlank c = true)
    (hafter : ∀ c ∈ after, isBlank c = true) (hne : plain ≠ [])
    (hfirst : ∀ c ∈ plain.head?, isBlank c = false)
    (hlast : ∀ c ∈ plain.getLast?, isBlank c = false) :
    trim (before ++ (plain ++ after)) = plain := by
  have hhead : ∀ c ∈ (plain ++ after).head?, isBlank c = false := by
    obtain ⟨c, cs, rfl⟩ := List.exists_cons_of_ne_nil hne
    simpa using hfirst
  have hend : ∀ c ∈ plain.reverse.head?, isBlank c = false := by
    simpa [List.head?_reverse] using hlast
  have hreverse : ∀ c ∈ after.reverse, isBlank c = true := by simpa using hafter
  rw [trim, trimLeft, (span_append hbefore hhead).2, trimRight, List.reverse_append,
    (span_append hreverse hend).2, List.reverse_reverse]

theorem trim_blanks {cs : List Char} (h : ∀ c ∈ cs, isBlank c = true) : trim cs = [] := by
  have hnone := (span_append h (by simp : ∀ c ∈ [].head?, isBlank c = false)).2
  rw [List.append_nil] at hnone
  rw [trim, trimLeft, hnone]
  rfl

/-- A text whose ends are no blanks stays at the front. -/
theorem trim_append {text : List Char} (hne : text ≠ [])
    (hfirst : ∀ c ∈ text.head?, isBlank c = false) (hlast : ∀ c ∈ text.getLast?, isBlank c = false)
    (next : List Char) : trim (text ++ next) = text ++ trimRight next := by
  have hnone : ∀ c ∈ ([] : List Char), isBlank c = true := by simp
  have hhead : ∀ c ∈ (text ++ next).head?, isBlank c = false := by
    rwa [List.head?_append_of_ne_nil _ hne]
  have hend : ∀ c ∈ text.reverse.head?, isBlank c = false := by
    rwa [List.head?_reverse]
  have hleft : (text ++ next).dropWhile isBlank = text ++ next := (span_append hnone hhead).2
  have hright : text.reverse.dropWhile isBlank = text.reverse := (span_append hnone hend).2
  rw [trim, trimLeft, hleft, trimRight, trimRight, List.reverse_append, List.dropWhile_append]
  split
  · next hblank => simp [hright, List.isEmpty_iff.mp hblank]
  · simp

end Text

/-! ### Type arguments -/

namespace Listing

theorem Balanced.outsideFrom {inner : List Char} (h : Balanced inner) (depth : Nat)
    (rest : List Char) :
    Generics.outsideFrom (depth + 1) (inner ++ rest) = Generics.outsideFrom (depth + 1) rest := by
  induction h generalizing depth rest with
  | nil => rfl
  | char plain _ ih =>
    rw [List.cons_append, Generics.outsideFrom]
    simp [plain.1, plain.2, ih]
  | nested _ _ ih ih' =>
    rw [List.cons_append, Generics.outsideFrom, List.append_assoc, List.cons_append]
    simp only [beq_self_eq_true, if_true]
    rw [ih, Generics.outsideFrom]
    simpa using ih' depth rest

/-- What is read of a line is the text without type arguments. -/
theorem Decorated.outside {plain text : List Char} (h : Decorated plain text) :
    Generics.outside text = plain := by
  unfold Generics.outside
  induction h with
  | nil => rfl
  | char notBracket _ ih =>
    rw [Generics.outsideFrom]
    simp [notBracket.1, notBracket.2, ih]
  | arguments inside _ ih =>
    rw [Generics.outsideFrom]
    simp only [beq_self_eq_true, if_true]
    rw [inside.outsideFrom, Generics.outsideFrom]
    simpa using ih

/-- Characters that are no brackets stay. -/
theorem outside_append {text : List Char} (h : ∀ c ∈ text, c ≠ '<' ∧ c ≠ '>') (rest : List Char) :
    Generics.outside (text ++ rest) = text ++ Generics.outside rest := by
  induction text with
  | nil => rfl
  | cons c text ih =>
    have hc := h c (by simp)
    have hmore := ih fun d hd => h d (by simp [hd])
    unfold Generics.outside at hmore ⊢
    rw [List.cons_append, Generics.outsideFrom, hmore]
    simp [hc.1, hc.2]

theorem Shows.plainLine {line plain : List Char} (h : Shows line plain) (hne : plain ≠ [])
    (hfirst : ∀ c ∈ plain.head?, Text.isBlank c = false)
    (hlast : ∀ c ∈ plain.getLast?, Text.isBlank c = false) : plainLine line = plain := by
  obtain ⟨before, after, hbefore, hafter, hdecorated⟩ := h.decorated
  rw [Listing.plainLine, hdecorated.outside]
  exact Text.trim_eq (fun c hc => (hbefore c hc).1) (fun c hc => (hafter c hc).1) hne hfirst hlast

end Listing

end JavaAtlas
