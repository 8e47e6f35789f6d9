import JavaAtlas.Proofs.ListingText
import JavaAtlas.Proofs.Names

/-! Names in listings: their characters, how they are read back from print, and that no keyword is
one of them. -/

namespace JavaAtlas.Listing

/-! ### Characters -/

theorem toNat_lt_of_isIdentifierChar {c : Char} (h : isIdentifierChar c = true) :
    c.toNat < 128 := by
  simp only [isIdentifierChar, Bool.or_eq_true, beq_iff_eq] at h
  rcases h with h | rfl
  · exact Text.toNat_lt_of_isAlphanum h
  · decide

theorem isWordChar_of_isIdentifierChar {c : Char} (h : isIdentifierChar c = true) :
    Text.isWordChar c = true := by
  have hcode : c.toNat < 0x80 := toNat_lt_of_isIdentifierChar h
  simp only [Text.isWordChar, Text.isLetter, Text.isDecimalDigit, hcode, if_true]
  simp only [isIdentifierChar, Char.isAlphanum, Bool.or_eq_true] at h
  rcases h with (halpha | hdigit) | hline
  · simp [halpha]
  · simp [hdigit]
  · simp [hline]

theorem isBlank_of_isWordChar {c : Char} (h : Text.isWordChar c = true) : Text.isBlank c = false :=
  Text.isBlank_eq_false_of_blankCodes (by decide +kernel) h

/-- The characters that separate the parts of a line. -/
def separators : List Char := [',', '(', ')', ';', '\x7b', '\x7d']

/-- A character inside a part of a line. -/
def Inner (c : Char) : Prop := Text.isBlank c = false ∧ c ∉ separators

instance (c : Char) : Decidable (Inner c) :=
  inferInstanceAs (Decidable (Text.isBlank c = false ∧ c ∉ separators))

theorem inner_of_isWordChar {c : Char} (h : Text.isWordChar c = true) : Inner c := by
  refine ⟨isBlank_of_isWordChar h, fun hmem => ?_⟩
  have hall : (separators.all fun c => !Text.isWordChar c) = true := by decide
  have hc := List.all_eq_true.mp hall c hmem
  simp [h] at hc

/-- Some characters inside a part of a line. -/
structure IsWord (word : List Char) : Prop where
  some : word ≠ []
  inner : ∀ c ∈ word, Inner c

theorem IsWord.solid {word : List Char} (h : IsWord word) : Text.Solid word :=
  ⟨h.some, fun c hc => (h.inner c hc).1⟩

theorem IsWord.notMem {word : List Char} (h : IsWord word) {c : Char} (hc : c ∈ separators) :
    c ∉ word :=
  fun hmem => (h.inner c hmem).2 hc

theorem IsWord.trim {word gap : List Char} (h : IsWord word) (hgap : IsGap gap) :
    Text.trim (gap ++ word) = word := by
  have htrim := Text.trim_eq (fun c hc => (hgap c hc).1) (by simp : ∀ c ∈ [], Text.isBlank c = true)
    h.some (by simpa using h.solid.head [])
    (fun c hc => h.solid.dense c (List.mem_of_mem_getLast? hc))
  rwa [List.append_nil] at htrim

theorem IsWord.className {word : List Char} (h : IsWord word) :
    className word = String.ofList (word.map fun c => if c == '$' then '.' else c) := by
  have hnone : IsGap [] := by decide
  have htrim := h.trim hnone
  rw [List.nil_append] at htrim
  rw [Listing.className, htrim]

/-- Without dollar signs, and only then, a word is read as it is. -/
theorem className_eq_self_iff {name : String} (h : IsWord name.toList) :
    className name.toList = name ↔ '$' ∉ name.toList := by
  rw [h.className, ← String.toList_inj, String.toList_ofList]
  constructor
  · intro heq hmem
    rw [← heq] at hmem
    obtain ⟨c, -, hc⟩ := List.mem_map.mp hmem
    split at hc
    · exact absurd hc (by decide)
    · next hne => exact hne (by simp [hc])
  · intro hnone
    refine (List.map_congr_left fun c hc => ?_).trans (List.map_id _)
    have hdollar : c ≠ '$' := fun heq => hnone (heq ▸ hc)
    simp [hdollar]

/-! ### Names -/

theorem mem_dotted {name : String} (h : IsDotted name) {c : Char} (hc : c ∈ name.toList) :
    isIdentifierChar c = true ∨ c = '.' := by
  rcases Text.mem_of_mem_splitFrom '.' c [] name.toList (.inr hc) with hpoint | ⟨p, hp, hmem⟩
  · exact .inr hpoint
  · have hsegment := h (String.ofList p) (List.mem_map_of_mem hp)
    exact .inl (hsegment.2.1 c (by simpa using hmem))

/-- A text with neither blanks nor separators nor dollar signs, which is no keyword. -/
structure Plain (text : String) : Prop where
  some : text.toList ≠ []
  chars : ∀ c ∈ text.toList, Inner c ∧ c ≠ '$'
  free : text ∉ keywords

/-- A keyword has neither dots nor brackets. -/
theorem mem_keyword {word : String} (h : word ∈ keywords) :
    ∀ c ∈ word.toList, isIdentifierChar c = true ∨ c = '-' := by
  have hall : (keywords.all fun w => w.toList.all fun c => isIdentifierChar c || c == '-') = true := by
    decide
  intro c hc
  simpa using List.all_eq_true.mp (List.all_eq_true.mp hall word h) c hc

/-- A class name of any script. -/
structure IsName (name : String) : Prop where
  some : name.toList ≠ []
  chars : ∀ c ∈ name.toList, Text.isWordChar c = true ∨ c = '.'
  free : name ∉ keywords

theorem IsName.plain {name : String} (h : IsName name) : Plain name := by
  refine ⟨h.some, fun c hc => ?_, h.free⟩
  rcases h.chars c hc with hchar | rfl
  · exact ⟨inner_of_isWordChar hchar, fun heq => absurd (heq ▸ hchar) (by decide)⟩
  · decide

theorem IsDotted.isName {name : String} (h : IsDotted name) : IsName name := by
  refine ⟨?_, fun c hc => (mem_dotted h hc).imp_left isWordChar_of_isIdentifierChar, ?_⟩
  · intro hempty
    have hsegments : Name.segments name = [""] := by
      simp [Name.segments, hempty, Text.splitAt, Text.splitFrom]
    exact (h "" (by simp [hsegments])).1 rfl
  · intro hkeyword
    have hpoint : '.' ∉ name.toList := fun hmem => by
      rcases mem_keyword hkeyword '.' hmem with hchar | heq
      · exact absurd hchar (by decide)
      · exact absurd heq (by decide)
    exact (h name (by simp [Name.segments_eq_singleton hpoint])).2.2 hkeyword

theorem IsDotted.plain {name : String} (h : IsDotted name) : Plain name := h.isName.plain

/-- Brackets and dots behind a name. -/
theorem Plain.append {name text : String} (h : Plain name) {more : List Char}
    (hmore : ∀ c ∈ more, c = '[' ∨ c = ']' ∨ c = '.') (htext : text.toList = name.toList ++ more) :
    Plain text := by
  refine ⟨by simp [htext, h.some], ?_, ?_⟩
  · intro c hc
    rw [htext] at hc
    rcases List.mem_append.mp hc with hc | hc
    · exact h.chars c hc
    · rcases hmore c hc with rfl | rfl | rfl <;> decide
  · intro hkeyword
    cases more with
    | nil =>
      rw [List.append_nil, String.toList_inj] at htext
      exact h.free (htext ▸ hkeyword)
    | cons c more =>
      rcases mem_keyword hkeyword c (by simp [htext]) with hchar | rfl
      · rcases hmore c (by simp) with rfl | rfl | rfl <;> exact absurd hchar (by decide)
      · exact absurd (hmore '-' (by simp)) (by decide)

theorem IsType.plain {text : String} (h : IsType text) : Plain text := by
  obtain ⟨name, dims, hname, htext⟩ := h
  refine hname.plain.append (fun c hc => ?_) htext
  simp only [List.mem_flatten, List.mem_replicate] at hc
  obtain ⟨pair, ⟨-, rfl⟩, hc⟩ := hc
  simpa [or_assoc] using Or.inl hc

theorem IsParam.plain {text : String} (h : IsParam text) : Plain text := by
  obtain ⟨type, dots, htype, hdots, htext⟩ := h
  refine htype.plain.append (fun c hc => ?_) htext
  rcases hdots with rfl | rfl
  · simp at hc
  · simp_all

/-! ### Printed names -/

section Printed

variable {printed : List Char} {name : String} (h : Spells printed name) (hname : Plain name)

include h hname

/-- With dots for the dollar signs, the printed name is the name. -/
theorem map_printed : printed.map (fun c => if c == '$' then '.' else c) = name.toList := by
  have hchars : ∀ c ∈ name.toList, c ≠ '$' := fun c hc => (hname.chars c hc).2
  unfold Spells at h
  clear hname
  generalize name.toList = chars at h hchars
  induction h with
  | nil => rfl
  | @cons c d printed chars hcd _ ih =>
    rw [List.map_cons, ih fun c hc => hchars c (by simp [hc])]
    rcases hcd with rfl | ⟨rfl, rfl⟩
    · simp [hchars c (by simp)]
    · rfl

theorem mem_printed {c : Char} (hc : c ∈ printed) : c = '$' ∨ c ∈ name.toList := by
  have hmem := List.mem_map_of_mem (f := fun c => if c == '$' then '.' else c) hc
  rw [map_printed h hname] at hmem
  by_cases hdollar : c = '$'
  · exact .inl hdollar
  · rw [if_neg (by simpa using hdollar)] at hmem
    exact .inr hmem

theorem isWord_printed : IsWord printed := by
  refine ⟨?_, fun c hc => ?_⟩
  · rintro rfl
    exact hname.some (map_printed h hname).symm
  · rcases mem_printed h hname hc with rfl | hmem
    · decide
    · exact (hname.chars c hmem).1

/-- A printed name is read back, with or without blanks in front. -/
theorem className_printed {gap : List Char} (hgap : IsGap gap) :
    className (gap ++ printed) = name := by
  rw [className, (isWord_printed h hname).trim hgap, map_printed h hname, String.ofList_toList]

theorem className_spells : className printed = name := by
  have hnone : IsGap [] := by decide
  simpa using className_printed h hname hnone

/-- No keyword is printed for a name. -/
theorem printed_ne {word : String} (hword : word ∈ keywords) : printed ≠ word.toList := by
  rintro rfl
  have hmap := map_printed h hname
  have hself : word.toList.map (fun c => if c == '$' then '.' else c) = word.toList := by
    refine (List.map_congr_left fun c hc => ?_).trans (List.map_id _)
    have hdollar : c ≠ '$' := by
      rintro rfl
      exact absurd (mem_keyword hword '$' hc) (by decide)
    simp [hdollar]
  rw [hself, String.toList_inj] at hmap
  exact hname.free (hmap ▸ hword)

end Printed

/-! ### Lists of names -/

theorem Lists.head {name : String} {names : List String} {text : List Char}
    (h : Lists (name :: names) text) (hnames : ∀ n ∈ name :: names, Plain n) :
    ∃ printed rest, text = printed ++ rest ∧ Spells printed name ∧
      (rest = [] ∨ ∃ more, rest = ',' :: more) := by
  cases h with
  | one spelled => exact ⟨text, [], by simp, spelled, .inl rfl⟩
  | cons spelled apart more => exact ⟨_, _, rfl, spelled, .inr ⟨_, rfl⟩⟩

theorem blank_notMem_separators {c : Char} (h : Text.isBlank c = true) : c ∉ separators := by
  have hall : (separators.all fun c => !Text.isBlank c) = true := by decide
  intro hmem
  have hc := List.all_eq_true.mp hall c hmem
  simp [h] at hc

/-- A list of names is read back, with or without blanks in front. -/
theorem classNames_lists {names : List String} {text : List Char} (h : Lists names text)
    (hnames : ∀ n ∈ names, Plain n) {gap : List Char} (hgap : IsGap gap) :
    classNames (gap ++ text) = names := by
  -- No comma stands in a gap or in a name, so the pieces are the names with their gaps.
  have hcomma : ∀ {gap : List Char}, IsGap gap → ',' ∉ gap := fun hgap hmem =>
    blank_notMem_separators (hgap _ hmem).1 (by decide)
  have hpiece : ∀ {gap printed : List Char} {name : String}, IsGap gap → Spells printed name →
      Plain name → ',' ∉ gap ++ printed ∧ (Text.trim (gap ++ printed)).isEmpty = false := by
    intro gap printed name hgap hprinted hname
    have hword := isWord_printed hprinted hname
    refine ⟨fun hmem => ?_, by simp [hword.trim hgap, hword.some]⟩
    rcases List.mem_append.mp hmem with hmem | hmem
    · exact hcomma hgap hmem
    · exact hword.notMem (by decide) hmem
  induction h generalizing gap with
  | nil =>
    have hblank := Text.trim_blanks fun c hc => (hgap c hc).1
    rw [List.append_nil, classNames, Text.splitAt_eq_singleton (hcomma hgap)]
    simp [hblank]
  | @one printed name spelled =>
    have hname := hnames name (by simp)
    obtain ⟨hsplit, hsome⟩ := hpiece hgap spelled hname
    rw [classNames, Text.splitAt_eq_singleton hsplit]
    simp [hsome, className_printed spelled hname hgap]
  | @cons printed gap' text name next names spelled apart more ih =>
    have hname := hnames name (by simp)
    obtain ⟨hsplit, hsome⟩ := hpiece hgap spelled hname
    have hrest := ih (fun n hn => hnames n (by simp_all)) apart
    rw [classNames] at hrest
    rw [← List.append_assoc, classNames, Text.splitAt_append hsplit, List.filter_cons_of_pos
      (by simp [hsome]), List.map_cons, hrest, className_printed spelled hname hgap]

end JavaAtlas.Listing
