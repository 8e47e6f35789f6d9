import JavaAtlas.Proofs.Printing

/-! Printed declarations are cut at their words by both lexers. A word runs into what follows only if
another word follows without a space, and a point only if another point follows; the printers never
put such words next to each other. -/

namespace JavaAtlas

open Java

namespace Java

/-- No word runs into what starts like this. -/
def Open (ws : List Word) : Prop := ∀ w ∈ ws.head?, w.space = true ∨ w.text ∈ marks

/-- The words can be told apart. -/
def Sound : List Word → Prop
  | [] => True
  | w :: ws =>
    (isPlainWord w.text = true ∧ Open ws ∨
      w.text ∈ marks ∧ (w.text = "." → ∀ v ∈ ws.head?, v.text ≠ "." ∧ v.text ≠ "...")) ∧
    Sound ws

namespace Sound

variable {ws : List Word}

theorem word {w : Word} (hw : isPlainWord w.text = true) (h : Sound ws) (hopen : Open ws) :
    Sound (w :: ws) :=
  ⟨.inl ⟨hw, hopen⟩, h⟩

theorem mark {w : Word} (hw : w.text ∈ marks) (hpoint : w.text ≠ ".") (h : Sound ws) :
    Sound (w :: ws) :=
  ⟨.inr ⟨hw, fun heq => absurd heq hpoint⟩, h⟩

theorem segment {s : String} (hs : isPlainWord s = true) (h : Sound ws) (hopen : Open ws) :
    Sound (tight "." :: tight s :: ws) := by
  have hne : s ≠ "." ∧ s ≠ "..." := by
    constructor <;> rintro rfl <;> exact absurd hs (by decide)
  refine ⟨.inr ⟨by decide, fun _ v hv => ?_⟩, word hs h hopen⟩
  obtain rfl : tight s = v := by simpa using hv
  exact hne

/-- How the text of words starts. -/
theorem head_cases (h : Sound ws) {c : Char}
    (hc : c ∈ (Lexeme.render (ws.map Word.lexeme)).head?) :
    ∃ w ∈ ws.head?, (isPlainWord w.text = true ∨ w.text ∈ marks) ∧
      (w.space = true ∧ c = ' ' ∨ w.space = false ∧ c ∈ w.text.toList.head?) := by
  cases ws with
  | nil => simp at hc
  | cons w ws =>
    have hchars : w.lexeme.chars = (if w.space then [' '] else []) ++ w.text.toList := by
      unfold Lexeme.chars Word.lexeme
      cases w.space <;> rfl
    have hvalid : isPlainWord w.text = true ∨ w.text ∈ marks := h.1.imp And.left And.left
    have hne : w.text.toList ≠ [] := by
      rcases hvalid with hplain | hmark
      · obtain ⟨d, ds, hword, -⟩ := exists_of_isPlainWord hplain
        simp [hword]
      · exact (by decide : ∀ m ∈ marks, m.toList ≠ []) _ hmark
    obtain ⟨d, ds, htext⟩ := List.exists_cons_of_ne_nil hne
    rw [List.map_cons, Lexeme.render_cons, hchars, htext] at hc
    refine ⟨w, by simp, hvalid, ?_⟩
    cases hspace : w.space with
    | true => exact .inl ⟨rfl, by simpa [hspace, eq_comm] using hc⟩
    | false => exact .inr ⟨rfl, by simpa [hspace, htext] using hc⟩

theorem isPlainStart_of_head {text : String} (h : isPlainWord text = true) {c : Char}
    (hc : c ∈ text.toList.head?) : isPlainStart c = true := by
  obtain ⟨d, ds, hword, hd, -⟩ := exists_of_isPlainWord h
  obtain rfl : d = c := by simpa [hword] using hc
  exact hd

/-- A word ends where it meets open text. -/
theorem head_not_part (h : Sound ws) (hopen : Open ws) :
    ∀ c ∈ (Lexeme.render (ws.map Word.lexeme)).head?, isPart c = false := by
  intro c hc
  obtain ⟨w, hw, -, ⟨-, rfl⟩ | ⟨hspace, hchar⟩⟩ := head_cases h hc
  · decide
  · have hmark : w.text ∈ marks := (hopen w hw).resolve_left (by simp [hspace])
    exact (by decide : ∀ m ∈ marks, ∀ c ∈ m.toList.head?, isPart c = false) _ hmark c hchar

theorem head_not_point (h : Sound ws)
    (hpoint : ∀ v ∈ ws.head?, v.text ≠ "." ∧ v.text ≠ "...") :
    ∀ c ∈ (Lexeme.render (ws.map Word.lexeme)).head?, c ≠ '.' ∧ c.isDigit = false := by
  intro c hc
  obtain ⟨w, hw, hplain | hmark, ⟨-, rfl⟩ | ⟨-, hchar⟩⟩ := head_cases h hc
  · decide
  · have htests : (c != '.' && !c.isDigit) = true :=
      forall_plain (p := isPlainStart) (q := fun c => c != '.' && !c.isDigit)
        (fun _ h => isPlainPart_of_isPlainStart h) (by decide)
        (isPlainStart_of_head hplain hchar)
    simpa using htests
  · decide
  · exact (by decide : ∀ m ∈ marks, m ≠ "." ∧ m ≠ "..." →
      ∀ c ∈ m.toList.head?, c ≠ '.' ∧ c.isDigit = false) _ hmark (hpoint w hw) c hchar

theorem head_not_equals (h : Sound ws) :
    ∀ c ∈ (Lexeme.render (ws.map Word.lexeme)).head?, c ≠ '=' := by
  intro c hc
  obtain ⟨w, -, hplain | hmark, ⟨-, rfl⟩ | ⟨-, hchar⟩⟩ := head_cases h hc
  · decide
  · rintro rfl
    exact absurd (isPlainStart_of_head hplain hchar) (by decide)
  · decide
  · exact (by decide : ∀ m ∈ marks, ∀ c ∈ m.toList.head?, c ≠ '=') _ hmark c hchar

theorem fit (h : Sound ws) : Lexeme.Fit (ws.map Word.lexeme) [] := by
  induction ws with
  | nil => exact trivial
  | cons w ws ih =>
    refine ⟨?_, ?_, ih h.2⟩
    · unfold Word.lexeme
      cases w.space with
      | false => exact .nil
      | true => exact .blanks (by decide) (by decide) (by simp) .nil
    · rw [List.append_nil]
      rcases h.1 with ⟨hplain, hopen⟩ | ⟨hmark, hpoint⟩
      · exact .word hplain (head_not_part h.2 hopen)
      · exact .mark hmark (fun heq => head_not_point h.2 (hpoint heq))
          fun _ => head_not_equals h.2

end Sound

theorem lineAfter_lexeme (w : Word) (line : Nat) : w.lexeme.lineAfter line = line := by
  unfold Lexeme.lineAfter Word.lexeme
  cases w.space <;> rfl

theorem tokens_lexeme (g : Grammar) (ws : List Word) :
    Lexeme.tokens g 1 (ws.map Word.lexeme) = ws.map (Word.token g) := by
  induction ws with
  | nil => rfl
  | cons w ws ih =>
    rw [List.map_cons, Lexeme.tokens, lineAfter_lexeme, ih]
    rfl

/-- No text of words has a character with a role in one of the encodings of Java text. -/
theorem Sound.mem_render {ws : List Word} (h : Sound ws) {c : Char}
    (hc : c ∈ Lexeme.render (ws.map Word.lexeme)) :
    c ≠ '\\' ∧ c ≠ '\x00' ∧ c ≠ '\ufeff' := by
  induction ws with
  | nil => simp at hc
  | cons w ws ih =>
    rw [List.map_cons, Lexeme.render_cons, List.mem_append] at hc
    rcases hc with hc | hc
    · rcases List.mem_append.mp hc with hc | hc
      · obtain rfl : c = ' ' := by
          unfold Word.lexeme at hc
          cases hspace : w.space <;> simp_all [Lexeme.gapChars, Gap.text]
        decide
      · rcases h.1 with ⟨hplain, -⟩ | ⟨hmark, -⟩
        · have hpart := isPlainPart_of_mem hplain hc
          refine ⟨?_, ?_, ?_⟩ <;> rintro rfl <;> exact absurd hpart (by decide)
        · exact (by decide :
            ∀ m ∈ marks, ∀ c ∈ m.toList, c ≠ '\\' ∧ c ≠ '\x00' ∧ c ≠ '\ufeff') _ hmark c hc
    · exact ih h.2 hc

theorem Sound.classic_tokens {ws : List Word} (h : Sound ws) :
    Classic.tokens (String.ofList (Lexeme.render (ws.map Word.lexeme))) =
      some (ws.map (Word.token .classic)) := by
  have hplain : ¬ ['\\', 'u'] <:+: Lexeme.render (ws.map Word.lexeme) := fun hin =>
    (h.mem_render (hin.subset (by simp : '\\' ∈ ['\\', 'u']))).1 rfl
  have hcut : Classic.tokensFrom 1 (Lexeme.render (ws.map Word.lexeme) ++ []) = _ :=
    Classic.tokensFrom_render h.fit
  rw [List.append_nil, tokens_lexeme, Classic.tokensFrom_nil] at hcut
  simp [Classic.tokens, Classic.decodeEscapes_eq_self hplain, hcut]

theorem Sound.modern_tokens {ws : List Word} (h : Sound ws) :
    Modern.tokens (String.ofList (Lexeme.render (ws.map Word.lexeme))) =
      some (ws.map (Word.token .modern)) := by
  have hnull : (Lexeme.render (ws.map Word.lexeme)).contains '\x00' = false := by
    rw [List.contains_eq_mem, decide_eq_false_iff_not]
    exact fun hmem => (h.mem_render hmem).2.1 rfl
  have hmark : ((Lexeme.render (ws.map Word.lexeme)).head? == some '\ufeff') = false := by
    rw [beq_eq_false_iff_ne]
    exact fun hhead => (h.mem_render (List.mem_of_mem_head? hhead)).2.2 rfl
  have hcut : Modern.tokensFrom 1 [] [] (Lexeme.render (ws.map Word.lexeme) ++ []) = _ :=
    Modern.tokensFrom_render h.fit
  rw [List.append_nil, tokens_lexeme, Modern.tokensFrom_nil] at hcut
  simp only [Modern.tokens, String.toList_ofList, hnull, hmark]
  simpa using hcut

/-! ### Printed declarations -/

/-- Words that may follow any word. -/
structure Ready (k : List Word) : Prop where
  sound : Sound k
  opens : Open k

/-- A printed item, with a space in front or without one. -/
structure Prints (words : Bool → List Word) : Prop where
  sound : ∀ {k}, Ready k → ∀ space, Sound (words space ++ k)
  opens : ∀ {k}, Open (words true ++ k)

theorem Prints.ready {words : Bool → List Word} (h : Prints words) {k : List Word} (hk : Ready k) :
    Ready (words true ++ k) :=
  ⟨h.sound hk true, h.opens⟩

theorem AreModifiers.plain {words : List String} (h : AreModifiers words) :
    ∀ w ∈ words, isPlainWord w = true := fun w hw =>
  (by decide : ∀ w ∈ sharedModifiers,
    isPlainWord w = true) w (h.subset hw)

namespace Ready

variable {k : List Word}

theorem nil : Ready [] := ⟨trivial, by simp [Open]⟩

theorem keyword {text : String} (htext : isPlainWord text = true) (h : Ready k) :
    Ready (spaced text :: k) :=
  ⟨.word htext h.sound h.opens, by simp [Open, spaced]⟩

theorem mark {w : Word} (hw : w.text ∈ marks) (hpoint : w.text ≠ ".") (h : Ready k) :
    Ready (w :: k) :=
  ⟨.mark hw hpoint h.sound, by simp [Open, hw]⟩

theorem star (h : Ready k) : Ready (tight "." :: tight "*" :: k) := by
  have hstar : Ready (tight "*" :: k) := h.mark (by decide) (by decide)
  exact ⟨⟨.inr ⟨by decide, by simp⟩, hstar.sound⟩, by simp [Open, marks]⟩

theorem segments {more : List String} (hmore : ∀ s ∈ more, isPlainWord s = true) (h : Ready k) :
    Ready ((more.flatMap fun s => [tight ".", tight s]) ++ k) := by
  induction more with
  | nil => exact h
  | cons s more ih =>
    have hrest := ih fun t ht => hmore t (by simp [ht])
    exact ⟨.segment (hmore s (by simp)) hrest.sound hrest.opens, by simp [Open, marks]⟩

theorem pairs (n : Nat) (h : Ready k) : Ready (pairs n ++ k) := by
  induction n with
  | zero => exact h
  | succ n ih =>
    have hclose : Ready (tight "]" :: (Java.pairs n ++ k)) := ih.mark (by decide) (by decide)
    exact hclose.mark (by decide) (by decide)

variable {α : Type} {as : List α}

theorem flatMap {write : α → List Word} (hwrite : ∀ a ∈ as, ∀ {k}, Ready k → Ready (write a ++ k))
    (h : Ready k) : Ready (as.flatMap write ++ k) := by
  induction as with
  | nil => exact h
  | cons a as ih =>
    rw [List.flatMap_cons, List.append_assoc]
    exact hwrite a (by simp) (ih fun b hb => hwrite b (by simp [hb]))

theorem row {print : Bool → α → List Word} (hprint : ∀ a ∈ as, Prints fun s => print s a)
    (h : Ready k) (space : Bool) : Sound (row print space as ++ k) := by
  cases as with
  | nil => exact h.sound
  | cons a as =>
    have hmore : Ready (as.flatMap (print true) ++ k) :=
      h.flatMap fun b hb _ hk => (hprint b (by simp [hb])).ready hk
    rw [Java.row, List.append_assoc]
    exact (hprint a (by simp)).sound hmore space

theorem rowSpaced {print : Bool → α → List Word} (hprint : ∀ a ∈ as, Prints fun s => print s a)
    (h : Ready k) : Ready (Java.row print true as ++ k) := by
  cases as with
  | nil => exact h
  | cons a as =>
    refine ⟨h.row hprint true, ?_⟩
    rw [Java.row, List.append_assoc]
    exact (hprint a (by simp)).opens

theorem listed {print : Bool → α → List Word} (hprint : ∀ a ∈ as, Prints fun s => print s a)
    (h : Ready k) (space : Bool) : Sound (listed print space as ++ k) := by
  cases as with
  | nil => exact h.sound
  | cons a as =>
    have hmore : Ready ((as.flatMap fun b => tight "," :: print true b) ++ k) :=
      h.flatMap fun b hb k hk => ((hprint b (by simp [hb])).ready hk).mark (by decide) (by decide)
    rw [Java.listed, List.append_assoc]
    exact (hprint a (by simp)).sound hmore space

theorem modifiers {words : List String} (hwords : AreModifiers words) (h : Ready k) :
    Ready (words.map spaced ++ k) := by
  rw [List.map_eq_flatMap]
  exact h.flatMap fun w hw _ hk => hk.keyword (hwords.plain w hw)

end Ready

theorem IsIdentifier.plain {name : String} (h : IsIdentifier name) : isPlainWord name = true := h.1

theorem prints_word {text : String} (h : isPlainWord text = true) :
    Prints fun s => [⟨s, text⟩] :=
  ⟨fun hk _ => .word h hk.sound hk.opens, by simp [Open]⟩

theorem prints_dotted {name : String} (h : ∀ s ∈ Name.segments name, isPlainWord s = true) :
    Prints fun s => dotted s name := by
  unfold dotted
  split
  · rename_i hsegments
    exact absurd hsegments (Name.segments_ne_nil name)
  · rename_i s more hsegments
    rw [hsegments] at h
    refine ⟨fun hk space => ?_, by simp [Open]⟩
    have hmore := hk.segments fun t (ht : t ∈ more) => h t (by simp [ht])
    exact .word (h s (by simp)) hmore.sound hmore.opens

theorem IsDotted.prints {name : String} (h : IsDotted name) : Prints fun s => dotted s name :=
  prints_dotted fun s hs => (h s hs).plain

end Java

variable {k : List Word}

theorem TypeSpec.prints_words {t : TypeSpec}
    (h : ∀ s ∈ Name.segments t.name, isPlainWord s = true) : Prints fun s => t.words s := by
  have hname := prints_dotted h
  constructor
  · intro k hk space
    rw [TypeSpec.words, List.append_assoc]
    exact hname.sound (hk.pairs _) space
  · intro k
    rw [TypeSpec.words, List.append_assoc]
    exact hname.opens

theorem TypeSpec.Printable.plain {t : TypeSpec} (h : t.Printable) :
    ∀ s ∈ Name.segments t.name, isPlainWord s = true := by
  rcases h.name with hbasic | hdotted
  · have hall : ∀ b ∈ Token.basicTypes, ∀ s ∈ Name.segments b, isPlainWord s = true := by
      decide
    exact hall t.name hbasic
  · exact fun s hs => (hdotted s hs).plain

theorem TypeSpec.IsReference.printable {t : TypeSpec} (h : t.IsReference) : t.Printable :=
  ⟨.inr h.name, h.dims ▸ Int.le_refl 0⟩

theorem TypeSpec.ready_clause {keyword : String} (hword : isPlainWord keyword = true)
    {ts : List TypeSpec} (hts : ∀ t ∈ ts, t.IsReference) (h : Ready k) :
    Ready (clause keyword ts ++ k) := by
  cases ts with
  | nil => exact h
  | cons t ts =>
    have hprint : ∀ t' ∈ t :: ts, Prints fun s => TypeSpec.words s t' :=
      fun t' ht' => prints_words (hts t' ht').printable.plain
    have hopens : Open (listed TypeSpec.words true (t :: ts) ++ k) := by
      rw [listed, List.append_assoc]
      exact (hprint t (by simp)).opens
    exact Ready.keyword hword ⟨h.listed hprint true, hopens⟩

theorem ImportDecl.prints_words {i : ImportDecl} (h : IsDotted i.name) :
    Prints fun s => i.words s := by
  refine ⟨fun {k} hk space => ?_, by simp [ImportDecl.words, Open]⟩
  have hend : Ready (tight ";" :: k) := hk.mark (by decide) (by decide)
  have hstar : Ready ((if i.onDemand then [tight ".", tight "*"] else []) ++ tight ";" :: k) := by
    split
    · exact hend.star
    · exact hend
  have hname := h.prints.ready hstar
  have hstatic : Ready ((if i.isStatic then [spaced "static"] else []) ++ (dotted true i.name ++
      ((if i.onDemand then [tight ".", tight "*"] else []) ++ tight ";" :: k))) := by
    split
    · exact hname.keyword (by decide)
    · exact hname
  simpa [ImportDecl.words] using (prints_word (by decide)).sound hstatic space

theorem ParamDecl.Printable.prints_words {p : ParamDecl} (h : p.Printable) : Prints fun s => p.words s := by
  have htype := TypeSpec.prints_words h.type.plain
  have hname := prints_dotted h.type.plain
  unfold ParamDecl.words
  split
  · simp only [List.append_assoc]
    refine ⟨fun {k} hk space => ?_, fun {k} => ?_⟩
    · have hend : Ready (tight "..." :: spaced p.name :: k) :=
        (hk.keyword h.name.plain).mark (by decide) (by decide)
      simpa using hname.sound (hend.pairs (p.type.dims.toNat - 1)) space
    · rw [List.append_assoc]
      exact hname.opens
  · refine ⟨fun {k} hk space => ?_, fun {k} => ?_⟩
    · simpa using htype.sound (hk.keyword h.name.plain) space
    · rw [List.append_assoc]
      exact htype.opens

theorem FieldDecl.Printable.ready_words {f : FieldDecl} (h : f.Printable) (hk : Ready k) :
    Ready (f.words ++ k) := by
  have hend : Ready (spaced f.name :: tight ";" :: k) :=
    (hk.mark (by decide) (by decide)).keyword h.name.plain
  have htype := (TypeSpec.prints_words h.type.plain).ready hend
  simpa [FieldDecl.words] using htype.modifiers h.modifiers

theorem MethodDecl.Printable.plain {m : MethodDecl} (h : m.Printable) {t : TypeSpec}
    (ht : t ∈ m.returns.toList) : ∀ s ∈ Name.segments t.name, isPlainWord s = true := by
  cases hcon : m.isConstructor with
  | true => simp [h.constructed hcon] at ht
  | false =>
    obtain ⟨t', hreturns, hvoid | ht'⟩ := h.returns hcon
    · obtain rfl : t = t' := by simpa [hreturns] using ht
      rw [hvoid]
      decide
    · obtain rfl : t = t' := by simpa [hreturns] using ht
      exact ht'.plain

theorem MethodDecl.Printable.ready_words {m : MethodDecl} (h : m.Printable) (bodied : Bool)
    (hk : Ready k) : Ready (m.words bodied ++ k) := by
  have hbody : Ready (bodyWords (bodied || m.isConstructor) ++ k) := by
    unfold bodyWords
    split
    · have hclose : Ready (spaced rightBrace :: k) := hk.mark (by decide) (by decide)
      exact hclose.mark (by decide) (by decide)
    · exact hk.mark (by decide) (by decide)
  have hclose := (TypeSpec.ready_clause (by decide : isPlainWord "throws" = true) h.throws
    hbody).mark (w := tight ")") (by decide) (by decide)
  have hparams := hclose.listed (fun p hp => (h.params p hp).prints_words) false
  have hname := Ready.keyword h.name.plain
    ⟨.mark (w := tight "(") (by decide) (by decide) hparams, by simp [Open, marks]⟩
  have hreturns := hname.flatMap fun t ht k hk =>
    (TypeSpec.prints_words (h.plain ht)).ready (k := k) hk
  simpa [MethodDecl.words, MethodDecl.rest] using hreturns.modifiers h.modifiers

theorem TypeDecl.Printable.prints_words {t : TypeDecl} (h : t.Printable) (style : Style) :
    Prints fun s => t.words style s := by
  induction h with
  | @intro t kind name modifiers superclass interfaces fields methods _ _ ih =>
    have hwords : ∀ w ∈ t.modifiers ++ [t.kind.word], Prints fun s => [⟨s, w⟩] := by
      intro w hw
      rcases List.mem_append.mp hw with hw | hw
      · exact prints_word (modifiers.plain w hw)
      · rw [List.mem_singleton.mp hw]
        rcases kind with hkind | hkind <;> rw [hkind] <;> exact prints_word (by decide)
    refine ⟨fun {k} hk space => ?_, fun {k} => ?_⟩
    · -- A word is told apart by what follows it, so the parts are taken from the last one on.
      have hend : Ready (spaced rightBrace :: k) := hk.mark (by decide) (by decide)
      have hnested := hend.flatMap fun n hn k hk => (ih n hn).ready (k := k) hk
      have hmethods := hnested.flatMap fun m hm k hk =>
        (methods m hm).ready_words (style t.kind m) (k := k) hk
      have hfields := hmethods.flatMap fun f hf k hk => (fields f hf).ready_words (k := k) hk
      have hbody := hfields.mark (w := spaced leftBrace) (by decide) (by decide)
      have hword : isPlainWord t.kind.interfaceWord = true := by
        rcases kind with hkind | hkind <;> rw [hkind] <;> decide
      have hclause := TypeSpec.ready_clause hword interfaces hbody
      have hextends : ∀ s ∈ t.superclass.toList, ∀ {k}, Ready k →
          Ready ((spaced "extends" :: s.words true) ++ k) := by
        intro s hs k hk
        have hs := superclass s (by simpa using hs)
        exact ((TypeSpec.prints_words hs.printable.plain).ready hk).keyword (by decide)
      have hsuper := hclause.flatMap hextends
      have hname := hsuper.keyword name.plain
      simpa [TypeDecl.words_eq, TypeDecl.rest, TypeDecl.body] using hname.row hwords space
    · rw [TypeDecl.words_eq]
      cases t.modifiers <;> simp [row, Open]

theorem UnitDecl.Printable.sound_words {u : UnitDecl} (h : u.Printable) (style : Style) :
    Sound (u.words style) := by
  have himports : ∀ i ∈ u.imports, Prints fun s => i.words s :=
    fun i hi => ImportDecl.prints_words (h.imports i hi)
  have htypes : ∀ t ∈ u.types, Prints fun s => t.words style s :=
    fun t ht => (h.types t ht).prints_words style
  have htail : Ready (row (TypeDecl.words style) true u.types) := by
    simpa using Ready.nil.rowSpaced htypes
  rcases h.package with hempty | hpackage
  · by_cases hnone : u.imports = []
    · simpa [UnitDecl.words, hempty, hnone, row] using Ready.nil.row htypes false
    · simpa [UnitDecl.words, hempty, hnone] using htail.row himports false
  · have hne : u.package ≠ "" := by
      intro heq
      exact absurd (heq ▸ hpackage : IsDotted "") (by decide)
    have hrest := htail.rowSpaced himports
    have hend := hpackage.prints.ready (hrest.mark (w := tight ";") (by decide) (by decide))
    have hwords := (prints_word (by decide : isPlainWord "package" = true)).sound hend false
    simpa [UnitDecl.words, hne, tight] using hwords

end JavaAtlas
