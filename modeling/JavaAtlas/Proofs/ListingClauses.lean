import JavaAtlas.Proofs.ListingNames

/-! The clauses of a listing: where one starts, that none starts inside a list of names, and how the
clauses of a header and of a member are read. -/

namespace JavaAtlas.Listing

/-! ### Blanks and words in front of a text -/

theorem after?_append (word : String) (rest : List Char) :
    after? word (word.toList ++ rest) = some rest := by
  have hlength : word.length = word.toList.length := String.length_toList.symm
  rw [after?, if_pos (by simp), hlength, List.drop_left]

theorem after?_eq_none {word : String} {cs : List Char} (hword : word.toList ≠ [])
    (h : word.toList.head? ≠ cs.head?) : after? word cs = none := by
  rw [after?, if_neg]
  rw [List.isPrefixOf_iff_prefix]
  rintro ⟨rest, rfl⟩
  obtain ⟨c, chars, heq⟩ := List.exists_cons_of_ne_nil hword
  exact h (by simp [heq])

theorem afterRun?_append {p : Char → Bool} {run rest : List Char} (hne : run ≠ [])
    (hrun : ∀ c ∈ run, p c = true) (hrest : ∀ c ∈ rest.head?, p c = false) :
    afterRun? p (run ++ rest) = some rest := by
  obtain ⟨c, run, rfl⟩ := List.exists_cons_of_ne_nil hne
  rw [List.cons_append, afterRun?, if_pos (hrun c (by simp)),
    (Text.span_append (fun d hd => hrun d (by simp [hd])) hrest).2]

theorem afterRun?_eq_none {p : Char → Bool} {cs : List Char} (h : ∀ c ∈ cs.head?, p c = false) :
    afterRun? p cs = none := by
  cases cs with
  | nil => rfl
  | cons c cs => simp [afterRun?, h c (by simp)]

/-! ### Where a clause starts -/

/-- A text starts with a word and a blank behind it. -/
def opens (word : String) (cs : List Char) : Bool :=
  match after? word cs with
  | some (c :: _) => Text.isBlank c
  | _ => false

/-- A clause starts here: blanks, its word and a blank. -/
def startsClause (word : String) (cs : List Char) : Bool :=
  ((afterRun? Text.isBlank cs).map (opens word)).getD false

theorem startsThrows_eq (cs : List Char) : startsThrows cs = startsClause "throws" cs := by
  unfold startsThrows startsClause opens
  cases afterRun? Text.isBlank cs <;> rfl

/-- What may stand behind a name. -/
def Follows (rest : List Char) : Prop :=
  ∀ c ∈ rest.head?, Text.isBlank c = true ∨ c ∈ separators

theorem follows_gap {gap : List Char} (h : Separates gap) (rest : List Char) :
    Follows (gap ++ rest) := by
  obtain ⟨c, gap, rfl⟩ := List.exists_cons_of_ne_nil h.1
  intro d hd
  obtain rfl : c = d := by simpa using hd
  exact .inl (h.2 c (by simp)).1

theorem follows_separator {c : Char} (h : c ∈ separators) (rest : List Char) :
    Follows (c :: rest) := by
  intro d hd
  obtain rfl : c = d := by simpa using hd
  exact .inr h

theorem isWord_keyword {word : String} (h : word ∈ keywords) : IsWord word.toList := by
  refine ⟨(by decide : ∀ w ∈ keywords, w.toList ≠ []) word h, fun c hc => ?_⟩
  rcases mem_keyword h c hc with hchar | rfl
  · exact inner_of_isWordChar (isWordChar_of_isIdentifierChar hchar)
  · decide

theorem solid_keyword {word : String} (h : word ∈ keywords) : Text.Solid word.toList :=
  (isWord_keyword h).solid

/-- Only the keyword itself opens its clause, and only in front of a blank. -/
theorem opens_eq_false {word : String} {text rest : List Char} (hword : word ∈ keywords)
    (htext : ∀ c ∈ text, Text.isBlank c = false) (hrest : Follows rest)
    (hne : text = word.toList → ∀ c ∈ rest.head?, Text.isBlank c = false) :
    opens word (text ++ rest) = false := by
  unfold opens
  split
  · rename_i c tail heq
    rw [after?] at heq
    split at heq
    · rename_i hpre
      obtain ⟨tail', happend⟩ := List.isPrefixOf_iff_prefix.mp hpre
      have hlength : word.length = word.toList.length := String.length_toList.symm
      rw [← happend, hlength, List.drop_left, Option.some.injEq] at heq
      subst heq
      -- Either the word ends inside the text or the text inside the word.
      rcases List.append_eq_append_iff.mp happend with ⟨more, rfl, htail⟩ | ⟨more, hwhole, rfl⟩
      · cases more with
        | nil =>
          obtain rfl : c :: tail = rest := htail
          exact hne (by simp) c (by simp)
        | cons d more =>
          obtain rfl : c = d := by simpa using (List.cons.inj htail).1
          exact htext c (by simp)
      · cases more with
        | nil => exact hne (by simp [hwhole]) c (by simp)
        | cons d more =>
          obtain ⟨hblank, hsep⟩ := (isWord_keyword hword).inner d (by simp [hwhole])
          rcases hrest d (by simp) with h | h
          · simp [h] at hblank
          · exact absurd h hsep
    · simp at heq
  · rfl

theorem startsClause_gap {word : String} {gap text : List Char} (hgap : Separates gap)
    (htext : ∀ c ∈ text.head?, Text.isBlank c = false) :
    startsClause word (gap ++ text) = opens word text := by
  rw [startsClause, afterRun?_append hgap.1 (fun c hc => (hgap.2 c hc).1) htext]
  rfl

theorem startsClause_dense {word : String} {text : List Char}
    (htext : ∀ c ∈ text.head?, Text.isBlank c = false) : startsClause word text = false := by
  rw [startsClause, afterRun?_eq_none htext]
  rfl

theorem startsClause_self {word : String} (hword : word ∈ keywords) {gap gap' : List Char}
    (hgap : Separates gap) (hgap' : Separates gap') (text : List Char) :
    startsClause word (gap ++ (word.toList ++ (gap' ++ text))) = true := by
  rw [startsClause_gap hgap ((solid_keyword hword).head _), opens, after?_append]
  obtain ⟨c, gap', rfl⟩ := List.exists_cons_of_ne_nil hgap'.1
  exact (hgap'.2 c (by simp)).1

/-! ### Texts without clauses -/

/-- One of the clauses asked for, or the brace at the end of a header, starts here. -/
def closes (asked : List String) (cs : List Char) : Bool :=
  asked.any (startsClause · cs) || endsHeader cs

theorem closes_eq_false {asked : List String} {cs : List Char} : closes asked cs = false ↔
    (∀ w ∈ asked, startsClause w cs = false) ∧ endsHeader cs = false := by
  simp [closes]

/-- Nothing closes inside the text, up to the rest. -/
def Continues (asked : List String) : List Char → List Char → Prop
  | [], _ => True
  | c :: text, rest => closes asked (c :: (text ++ rest)) = false ∧ Continues asked text rest

/-- Nothing closes in front of the text or in blanks before it. -/
def Apart (asked : List String) (text : List Char) : Prop :=
  ∀ gap, IsGap gap → closes asked (gap ++ text) = false

/-- A word that is no clause's keyword. -/
structure Free (asked : List String) (word : List Char) : Prop where
  isWord : IsWord word
  free : ∀ w ∈ asked, word ≠ w.toList

section Asked

variable {asked : List String} (hasked : ∀ w ∈ asked, w ∈ keywords)

theorem closes_dense {c : Char} (hblank : Text.isBlank c = false) (hbrace : c ≠ '\x7b')
    (cs : List Char) : closes asked (c :: cs) = false := by
  have hcode : c.toNat ≠ 123 := fun heq => hbrace (Char.toNat_inj.mp heq)
  have hstarts : ∀ w ∈ asked, startsClause w (c :: cs) = false :=
    fun w _ => startsClause_dense (by simp [hblank])
  exact closes_eq_false.mpr ⟨hstarts, by simp [endsHeader, hblank, hcode]⟩

theorem Continues.append {text more rest : List Char} (h : Continues asked text (more ++ rest))
    (h' : Continues asked more rest) : Continues asked (text ++ more) rest := by
  induction text with
  | nil => exact h'
  | cons c text ih =>
    refine ⟨?_, ih h.2⟩
    have hc := h.1
    rwa [← List.append_assoc] at hc

theorem continues_dense {text : List Char}
    (h : ∀ c ∈ text, Text.isBlank c = false ∧ c ≠ '\x7b') (rest : List Char) :
    Continues asked text rest := by
  induction text with
  | nil => trivial
  | cons c text ih =>
    obtain ⟨hblank, hbrace⟩ := h c (by simp)
    exact ⟨closes_dense hblank hbrace _, ih fun d hd => h d (by simp [hd])⟩

theorem continues_gap {gap text : List Char} (hgap : IsGap gap) (h : Apart asked text) :
    Continues asked gap text := by
  induction gap with
  | nil => trivial
  | cons c gap ih => exact ⟨h _ hgap, ih fun d hd => hgap d (by simp [hd])⟩

theorem continues_word {word : List Char} (h : IsWord word) (rest : List Char) :
    Continues asked word rest := by
  refine continues_dense (fun c hc => ⟨(h.inner c hc).1, ?_⟩) rest
  rintro rfl
  exact h.notMem (by decide) hc

include hasked

/-- Nothing closes in front of a word, even if it is a keyword with a separator behind it. -/
theorem IsWord.apart {word : List Char} (h : IsWord word) {rest : List Char}
    (hrest : Follows rest)
    (hfree : ∀ w ∈ asked, word = w.toList → ∀ c ∈ rest.head?, Text.isBlank c = false) :
    Apart asked (word ++ rest) := by
  intro gap hgap
  have hhead := h.solid.head rest
  have hstarts : ∀ w ∈ asked, startsClause w (gap ++ (word ++ rest)) = false := by
    intro w hw
    by_cases hnil : gap = []
    · rw [hnil, List.nil_append]
      exact startsClause_dense hhead
    · rw [startsClause_gap ⟨hnil, hgap⟩ hhead]
      exact opens_eq_false (hasked w hw) h.solid.dense hrest (hfree w hw)
  have hends : endsHeader (gap ++ (word ++ rest)) = false := by
    rw [endsHeader, (Text.span_append (fun c hc => (hgap c hc).1) hhead).2]
    obtain ⟨c, chars, rfl⟩ := List.exists_cons_of_ne_nil h.some
    have hbrace : c ≠ '\x7b' := fun heq => h.notMem (c := '\x7b') (by decide) (by simp [heq])
    have hcode : c.toNat ≠ 123 := fun heq => hbrace (Char.toNat_inj.mp heq)
    simp [hcode]
  exact closes_eq_false.mpr ⟨hstarts, hends⟩

theorem Free.apart {word : List Char} (h : Free asked word) {rest : List Char}
    (hrest : Follows rest) : Apart asked (word ++ rest) :=
  h.isWord.apart hasked hrest fun w hw heq => absurd heq (h.free w hw)

/-- The words at the start of a line. -/
theorem Leading.continues {words : List (List Char)} {text : List Char} (h : Leading words text)
    (hwords : ∀ w ∈ words, Free asked w) {rest : List Char} (hrest : Apart asked rest) :
    Continues asked text rest ∧ Apart asked (text ++ rest) := by
  induction h with
  | nil => exact ⟨trivial, hrest⟩
  | @cons word gap text words apart more ih =>
    obtain ⟨hcontinues, hapart⟩ := ih fun w hw => hwords w (by simp [hw])
    have hword := hwords word (by simp)
    refine ⟨(continues_word hword.isWord _).append
      ((continues_gap apart.2 hapart).append hcontinues), ?_⟩
    rw [List.append_assoc, List.append_assoc]
    exact hword.apart hasked (follows_gap apart _)

theorem free_printed {printed : List Char} {name : String} (h : Spells printed name)
    (hname : Plain name) : Free asked printed where
  isWord := isWord_printed h hname
  free w hw := printed_ne h hname (hasked w hw)

/-- A list of names. -/
theorem Lists.continues {names : List String} {text : List Char} (h : Lists names text)
    (hnames : ∀ n ∈ names, Plain n) {rest : List Char} (hrest : Follows rest) :
    Continues asked text rest ∧ (names ≠ [] → Apart asked (text ++ rest)) := by
  induction h with
  | nil => exact ⟨trivial, by simp⟩
  | @one printed name spelled =>
    have hfree := free_printed hasked spelled (hnames name (by simp))
    exact ⟨continues_word hfree.isWord _, fun _ => hfree.apart hasked hrest⟩
  | @cons printed gap text name next names spelled apart more ih =>
    obtain ⟨hcontinues, hapart⟩ := ih fun n hn => hnames n (by simp_all)
    have hfree := free_printed hasked spelled (hnames name (by simp))
    have hcomma : Continues asked (',' :: (gap ++ text)) rest :=
      ⟨closes_dense (by decide) (by decide) _,
        (continues_gap apart (hapart (by simp))).append hcontinues⟩
    refine ⟨(continues_word hfree.isWord _).append hcomma, fun _ => ?_⟩
    rw [List.append_assoc]
    exact hfree.apart hasked (follows_separator (by decide) _)

end Asked

end JavaAtlas.Listing
