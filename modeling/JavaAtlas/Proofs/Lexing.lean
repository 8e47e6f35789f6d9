import JavaAtlas.Proofs.Layout

/-! Both lexers take laid-out text apart at its lexemes: first the gaps in front of a lexeme, then
its word or mark, then all lexemes one after the other. -/

namespace JavaAtlas.Java

open Lexeme

theorem isBlank_of_isSpace {c : Char} (h : Modern.isSpace c = true) : Text.isBlank c = true := by
  simp only [Modern.isSpace, Bool.or_eq_true, Bool.and_eq_true, decide_eq_true_eq, beq_iff_eq] at h
  rcases h with rfl | h
  · decide
  · simp [Text.isBlank, h]

/-- What follows a run of blanks starts with no blank. -/
theorem Lexeme.Laid.head_not_blank {gaps : List Gap} (h : Laid gaps)
    (happart : ∀ g ∈ gaps.head?, g.comment?.isSome) {next : List Char}
    (hnext : ∀ c ∈ next.head?, Text.isBlank c = false) :
    ∀ c ∈ (gapChars gaps ++ next).head?, Text.isBlank c = false := by
  cases h with
  | nil => exact hnext
  | blanks => simp [Gap.comment?] at happart
  | block opened =>
    simp only [gapChars, List.flatMap_cons, Gap.text, opened, List.cons_append, List.head?_cons,
      Option.mem_some_iff, forall_eq']
    decide
  | line opened =>
    simp only [gapChars, List.flatMap_cons, Gap.text, opened, List.cons_append, List.head?_cons,
      Option.mem_some_iff, forall_eq']
    decide

theorem Lexeme.Ends.head_not_blank {text : String} {next : List Char} (h : Ends text next)
    (more : List Char) : ∀ c ∈ (text.toList ++ more).head?, Text.isBlank c = false := by
  cases h with
  | word plain _ =>
    obtain ⟨c, cs, hword, hc, -⟩ := exists_of_isPlainWord plain
    rw [hword]
    intro d hd
    obtain rfl : c = d := by simpa using hd
    have := isNameChar_of_isPlainPart (isPlainPart_of_isPlainStart hc)
    simp only [isNameChar, Bool.and_eq_true, Bool.not_eq_true'] at this
    exact this.1.1
  | mark hmark _ _ =>
    have hall : (marks.all fun m => m.toList.head?.all fun c => !Text.isBlank c) = true := by
      decide
    have hne : ∀ m ∈ marks, m.toList ≠ [] := by decide
    cases htext : text.toList with
    | nil => exact absurd htext (hne text hmark)
    | cons c cs =>
      intro d hd
      obtain rfl : c = d := by simpa using hd
      simpa [htext] using List.all_eq_true.mp hall text hmark

/-- The marks of one character that start no longer mark. -/
def brackets : List Char := ['(', ')', '{', '}', '[', ']', ';', ',']

theorem mark_cases {text : String} (h : text ∈ marks) :
    text = "." ∨ text = "..." ∨ text = "*" ∨ ∃ c ∈ brackets, text.toList = [c] := by
  have hall : (marks.all fun m => m == "." || m == "..." || m == "*" ||
      brackets.any fun c => m.toList == [c]) = true := by
    decide
  simpa [or_assoc] using List.all_eq_true.mp hall text h

theorem blockLength_append {n m : Nat} {cs : List Char} (h : blockLength n cs = some m)
    (more : List Char) : blockLength n (cs ++ more) = some m := by
  induction cs generalizing n with
  | nil => simp [blockLength] at h
  | cons c cs ih =>
    unfold blockLength at h ⊢
    split at h
    · simp at *
    · simp_all
    · rename_i hstar heq
      obtain ⟨rfl, rfl⟩ := List.cons.inj heq
      split
      · simp at *
      · rename_i ds heq'
        obtain ⟨rfl, hrest⟩ := List.cons.inj heq'
        cases cs with
        | nil => simp [blockLength] at h
        | cons d cs =>
          obtain ⟨rfl, rfl⟩ := List.cons.inj hrest
          exact absurd rfl (hstar cs rfl)
      · rename_i heq'
        obtain ⟨rfl, rfl⟩ := List.cons.inj heq'
        exact ih h

namespace Classic

variable {line : Nat} {next : List Char}

theorem tokensFrom_nil : tokensFrom line [] = some [] := by rw [tokensFrom.eq_def]

theorem tokensFrom_piece {c : Char} {cs : List Char} {p : Piece}
    (h : piece c (cs ++ next) = some (p, cs.length)) :
    tokensFrom line (c :: (cs ++ next)) =
      (tokensFrom (line + p.lineEnds (c :: cs)) next).map
        ((p.token? (c :: cs) line).toList ++ ·) := by
  rw [tokensFrom.eq_def]
  simp only [h, List.take_left, List.drop_left]
  cases tokensFrom (line + p.lineEnds (c :: cs)) next <;> rfl

theorem tokensFrom_gap {c : Char} {cs : List Char}
    (h : piece c (cs ++ next) = some (.gap, cs.length)) :
    tokensFrom line (c :: (cs ++ next)) = tokensFrom (line + (c :: cs).count '\n') next := by
  rw [tokensFrom_piece h]
  simp [Piece.token?, Piece.lineEnds]

theorem tokensFrom_blanks {bs : List Char} (hbs : ∀ c ∈ bs, Modern.isSpace c = true)
    (hnext : ∀ c ∈ next.head?, Text.isBlank c = false) :
    tokensFrom line (bs ++ next) = tokensFrom (line + bs.count '\n') next := by
  cases bs with
  | nil => simp
  | cons c bs =>
    apply tokensFrom_gap
    have hc : Text.isBlank c = true := isBlank_of_isSpace (hbs c (by simp))
    have hrun : (bs ++ next).takeWhile Text.isBlank = bs :=
      takeWhile_append_stop (fun d hd => isBlank_of_isSpace (hbs d (by simp [hd]))) hnext
    simp [piece, hc, hrun]

theorem tokensFrom_block {body : List Char}
    (h : blockLength 0 (body ++ ['*', '/']) = some (body.length + 2)) :
    tokensFrom line ('/' :: '*' :: (body ++ ['*', '/']) ++ next) =
      tokensFrom (line + ('/' :: '*' :: (body ++ ['*', '/'])).count '\n') next := by
  have hblock := blockLength_append h next
  simp only [List.append_assoc, List.cons_append, List.nil_append] at hblock
  have hpiece : piece '/' (('*' :: (body ++ ['*', '/'])) ++ next) =
      some (.gap, ('*' :: (body ++ ['*', '/'])).length) := by
    simp [piece, Text.isBlank, oneOf, hblock, Nat.add_comm]
  exact tokensFrom_gap hpiece

theorem tokensFrom_line {body : List Char} (h : '\n' ∉ body) :
    tokensFrom line ('/' :: '/' :: body ++ '\n' :: next) = tokensFrom (line + 1) next := by
  have hrun : (body ++ '\n' :: next).takeWhile (· != '\n') = body :=
    takeWhile_append_stop (fun c hc => by simpa using ne_of_mem_of_not_mem hc h) (by simp)
  have hpiece : piece '/' (('/' :: (body ++ ['\n'])) ++ next) =
      some (.gap, ('/' :: (body ++ ['\n'])).length) := by
    simp [piece, Text.isBlank, oneOf, lineLength, hrun, Nat.add_comm]
  have hgap : tokensFrom line ('/' :: ('/' :: (body ++ ['\n']) ++ next)) = _ :=
    tokensFrom_gap hpiece
  simpa [List.count_append, List.count_cons, List.count_eq_zero_of_not_mem h] using hgap

theorem tokensFrom_gaps {gaps : List Gap} (h : Laid gaps)
    (hnext : ∀ c ∈ next.head?, Text.isBlank c = false) :
    tokensFrom line (gapChars gaps ++ next) =
      tokensFrom (line + (gapChars gaps).count '\n') next := by
  induction h generalizing line with
  | nil => simp [gapChars]
  | @blanks b gaps _ space apart more ih =>
    have hhead := more.head_not_blank apart hnext
    have hchars : gapChars (.blanks b :: gaps) = b.toList ++ gapChars gaps := rfl
    rw [hchars, List.append_assoc, tokensFrom_blanks space hhead, ih, List.count_append,
      Nat.add_assoc]
  | @block t body gaps opened closed _ ih =>
    have hchars : gapChars (.comment t :: gaps) = t.toList ++ gapChars gaps := rfl
    rw [hchars, List.append_assoc, opened, tokensFrom_block closed, ih, List.count_append,
      Nat.add_assoc]
  | @line t b body bs gaps opened inside closed more ih =>
    have hchars : gapChars (.comment t :: .blanks b :: gaps) =
      t.toList ++ gapChars (.blanks b :: gaps) := rfl
    have hblanks : gapChars (.blanks b :: gaps) = '\n' :: (bs ++ gapChars gaps) := by
      simp [gapChars, Gap.text, closed]
    -- The comment takes the end of its line along, which leaves the other blanks to the next gap.
    have hshift : tokensFrom (line + 1) (bs ++ (gapChars gaps ++ next)) =
        tokensFrom line (gapChars (.blanks b :: gaps) ++ next) := by
      cases more with
      | blanks _ space apart more =>
        rw [closed] at space
        have hhead := more.head_not_blank apart hnext
        rw [tokensFrom_blanks (fun c hc => space c (by simp [hc])) hhead, hblanks]
        rw [show '\n' :: (bs ++ gapChars gaps) ++ next = '\n' :: bs ++ (gapChars gaps ++ next) by
          simp, tokensFrom_blanks space hhead]
        simp [Nat.add_assoc, Nat.add_comm 1]
    have hjoin : '\n' :: (bs ++ gapChars gaps) ++ next = '\n' :: (bs ++ (gapChars gaps ++ next)) := by
      simp
    rw [hchars, List.append_assoc, opened, hblanks, hjoin, tokensFrom_line inside, hshift, ih,
      hblanks]
    simp [List.count_append, List.count_eq_zero_of_not_mem inside]

/-- What tells a word from all other pieces. -/
theorem piece_word {c : Char} {cs : List Char} (hc : isPlainStart c = true)
    (hcs : ∀ d ∈ cs, isPlainPart d = true) (hnext : ∀ d ∈ next.head?, isPart d = false) :
    piece c (cs ++ next) = some (.identifier, cs.length) := by
  have htests : (!Text.isBlank c && c != '/' && c != '.' && c != '@' && !separators.contains c &&
      c != Char.ofNat 0x22 && c != Char.ofNat 0x27 && !c.isDigit && isIdentifierStart c) = true :=
    forall_plain (p := isPlainStart) (q := fun c => !Text.isBlank c && c != '/' && c != '.' &&
        c != '@' && !separators.contains c && c != Char.ofNat 0x22 && c != Char.ofNat 0x27 &&
        !c.isDigit && isIdentifierStart c)
      (fun _ h => isPlainPart_of_isPlainStart h) (by decide) hc
  simp only [Bool.and_eq_true, Bool.not_eq_true', bne_iff_ne, ne_eq] at htests
  obtain ⟨⟨⟨⟨⟨⟨⟨⟨hblank, hslash⟩, hpoint⟩, hat⟩, hsep⟩, hquote⟩, hmark⟩, hdigit⟩, hstart⟩ := htests
  have hrun : (cs ++ next).takeWhile isIdentifierPart = cs := by
    refine takeWhile_append_stop (fun d hd => isIdentifierPart_of_isPlainPart (hcs d hd)) ?_
    intro d hd
    have := hnext d hd
    simp only [isPart, Bool.or_eq_false_iff] at this
    exact this.1
  have hdots : "...".toList.isPrefixOf (c :: (cs ++ next)) = false := by
    simp [List.isPrefixOf, Ne.symm hpoint]
  simp only [piece, hblank, hsep, hdigit, hstart, hrun, hdots]
  simp [hslash, hpoint, hat, hquote, hmark]

theorem piece_bracket {c : Char} (hc : c ∈ brackets) : piece c next = some (.token .symbol, 0) := by
  simp only [brackets, List.mem_cons, List.not_mem_nil, or_false] at hc
  rcases hc with rfl | rfl | rfl | rfl | rfl | rfl | rfl | rfl <;>
    simp [piece, Text.isBlank, separators, List.isPrefixOf]

theorem piece_point (h : ∀ c ∈ next.head?, c ≠ '.' ∧ c.isDigit = false) :
    piece '.' next = some (.token .symbol, 0) := by
  cases next with
  | nil => simp [piece, Text.isBlank, separators, List.isPrefixOf]
  | cons c next =>
    obtain ⟨hpoint, hdigit⟩ := h c (by simp)
    simp [piece, Text.isBlank, separators, List.isPrefixOf, hdigit, Ne.symm hpoint]

theorem piece_star (h : ∀ c ∈ next.head?, c ≠ '=') :
    piece '*' next = some (.token .symbol, 0) := by
  have hop : operatorLength ('*' :: next) = some 1 := by
    cases next with
    | nil => decide
    | cons c next =>
      have hc := h c (by simp)
      simp only [operatorLength, operators]
      simp [List.isPrefixOf, Ne.symm hc]
      rfl
  have hstart : isIdentifierStart '*' = false := by decide
  simp [piece, Text.isBlank, separators, List.isPrefixOf, hop, hstart]

theorem piece_mark {text : String} (hmark : text ∈ marks)
    (hpoint : text = "." → ∀ c ∈ next.head?, c ≠ '.' ∧ c.isDigit = false)
    (hstar : text = "*" → ∀ c ∈ next.head?, c ≠ '=') :
    ∃ c cs, text.toList = c :: cs ∧ piece c (cs ++ next) = some (.token .symbol, cs.length) := by
  obtain rfl | rfl | rfl | ⟨c, hc, htext⟩ := mark_cases hmark
  · exact ⟨'.', [], by decide, piece_point (hpoint rfl)⟩
  · exact ⟨'.', ['.', '.'], by decide, by simp [piece, Text.isBlank, List.isPrefixOf]⟩
  · exact ⟨'*', [], by decide, piece_star (hstar rfl)⟩
  · exact ⟨c, [], htext, piece_bracket hc⟩

theorem ofChars_eq_token {l : Lexeme} {line : Nat} (hkind : ∀ c ∈ l.text.toList,
      kindOf .classic l.text = .word → isIdentifierPart c = true) :
    Token.ofChars isIdentifierPart isNameChar_of_isIdentifierPart (kindOf .classic l.text)
      l.text.toList line = l.token .classic line := by
  unfold Token.ofChars
  split
  · rename_i hword
    have hall : l.text.toList.takeWhile isIdentifierPart = l.text.toList :=
      List.takeWhile_eq_self_iff.mpr fun c hc => hkind c hc hword
    simp [token, hall, hword]
  · simp [token]

theorem tokensFrom_text {l : Lexeme} (h : Ends l.text next) :
    tokensFrom line (l.text.toList ++ next) =
      (tokensFrom line next).map (l.token .classic line :: ·) := by
  have htoken : Token.ofChars isIdentifierPart isNameChar_of_isIdentifierPart
      (kindOf .classic l.text) l.text.toList line = l.token .classic line :=
    ofChars_eq_token fun c hc hword =>
      isIdentifierPart_of_isPlainPart (isPlainPart_of_mem (isPlainWord_of_kindOf hword) hc)
  cases h with
  | word plain stop =>
    obtain ⟨c, cs, hword, hc, hcs⟩ := exists_of_isPlainWord plain
    have hkind : kindOf .classic l.text = wordKind (String.ofList (c :: cs)) := by
      simp [kindOf, plain, ← hword]
    rw [hword, hkind] at htoken
    rw [hword, List.cons_append, tokensFrom_piece (piece_word hc hcs stop)]
    simp only [Piece.token?, htoken]
    rfl
  | mark hmark point star =>
    obtain ⟨c, cs, htext, hpiece⟩ := piece_mark hmark point star
    have hkind : kindOf .classic l.text = .symbol := by
      simp [kindOf, isPlainWord_eq_false_of_mem_marks hmark]
    rw [htext, hkind] at htoken
    rw [htext, List.cons_append, tokensFrom_piece hpiece]
    simp only [Piece.token?, htoken]
    rfl

theorem tokensFrom_render {ls : List Lexeme} (h : Fit ls next) :
    tokensFrom line (render ls ++ next) =
      (tokensFrom (lineAfterAll line ls) next).map (Lexeme.tokens .classic line ls ++ ·) := by
  induction ls generalizing line with
  | nil => simp [lineAfterAll, Lexeme.tokens]
  | cons l ls ih =>
    obtain ⟨hgaps, hends, hmore⟩ := h
    rw [render_cons, chars, List.append_assoc, List.append_assoc,
      tokensFrom_gaps hgaps (hends.head_not_blank _), tokensFrom_text hends, ih hmore,
      Option.map_map]
    rfl

/-- A text without Unicode escapes is its own decoding. -/
theorem decodeEscapes_eq_self {cs : List Char} (h : ¬ ['\\', 'u'] <:+: cs) (since : List Char) :
    decodeEscapes since cs = some (since.reverse ++ cs) := by
  fun_induction decodeEscapes since cs with
  | case1 => simp
  | case2 since rest => exact absurd ⟨[], rest, by simp⟩ h
  | case3 since rest => exact absurd ⟨[], rest, by simp⟩ h
  | case4 since rest => exact absurd ⟨[], rest, by simp⟩ h
  | case5 since c rest _ ih =>
    rw [ih fun hrest => h (hrest.trans ⟨['\\', c], [], by simp⟩)]
    simp
  | case6 since c rest _ _ ih =>
    rw [ih fun hrest => h (hrest.trans ⟨[c], [], by simp⟩)]
    simp

end Classic

namespace Modern

variable {line : Nat} {next : List Char} {gaps : List Gap} {outer : List Enclosing}

theorem tokensFrom_nil : tokensFrom line gaps outer [] = some [] := by rw [tokensFrom.eq_def]

theorem tokensFrom_blanks {c : Char} {cs : List Char}
    (h : piece c (cs ++ next) = some (.blanks, cs.length)) :
    tokensFrom line gaps outer (c :: cs ++ next) =
      tokensFrom (line + (c :: cs).count '\n') (.blanks (String.ofList (c :: cs)) :: gaps) outer
        next := by
  rw [List.cons_append, tokensFrom.eq_def]
  simp only [h, List.take_left, List.drop_left]

theorem tokensFrom_comment {c : Char} {cs : List Char}
    (h : piece c (cs ++ next) = some (.comment, cs.length)) :
    tokensFrom line gaps outer (c :: cs ++ next) =
      tokensFrom (line + (c :: cs).count '\n') (.comment (String.ofList (c :: cs)) :: gaps) outer
        next := by
  rw [List.cons_append, tokensFrom.eq_def]
  simp only [h, List.take_left, List.drop_left]

theorem tokensFrom_token {c : Char} {cs : List Char} {kind : TokenKind}
    (h : piece c (cs ++ next) = some (.token kind, cs.length)) :
    tokensFrom line gaps [] (c :: cs ++ next) =
      (tokensFrom (line + (c :: cs).count '\n') [] [] next).map
        (tokenOf kind (c :: cs) line gaps.reverse :: ·) := by
  rw [List.cons_append, tokensFrom.eq_def]
  simp only [h, List.take_left, List.drop_left, closesExpression, afterToken]
  cases tokensFrom (line + (c :: cs).count '\n') [] [] next <;> rfl

theorem piece_blanks {c : Char} {cs : List Char} (hcs : ∀ d ∈ c :: cs, isSpace d = true)
    (hnext : ∀ d ∈ next.head?, Text.isBlank d = false) :
    piece c (cs ++ next) = some (.blanks, cs.length) := by
  have hrun : (cs ++ next).takeWhile isSpace = cs := by
    refine takeWhile_append_stop (fun d hd => hcs d (by simp [hd])) fun d hd => ?_
    cases hspace : isSpace d with
    | false => rfl
    | true => exact absurd (hnext d hd) (by simp [isBlank_of_isSpace hspace])
  simp [piece, hcs c (by simp), hrun]

theorem piece_block {body : List Char}
    (h : blockLength 0 (body ++ ['*', '/']) = some (body.length + 2)) :
    piece '/' ('*' :: (body ++ ['*', '/']) ++ next) =
      some (.comment, ('*' :: (body ++ ['*', '/'])).length) := by
  have hblock := blockLength_append h next
  simp only [List.append_assoc, List.cons_append, List.nil_append] at hblock
  have hspace : isSpace '/' = false := by decide
  simp [piece, hspace, commentLength, hblock]
  omega

theorem piece_line {body : List Char} (h : '\n' ∉ body) :
    piece '/' ('/' :: body ++ '\n' :: next) = some (.comment, ('/' :: body).length) := by
  have hrun : (body ++ '\n' :: next).takeWhile (· != '\n') = body :=
    takeWhile_append_stop (fun c hc => by simpa using ne_of_mem_of_not_mem hc h) (by simp)
  have hspace : isSpace '/' = false := by decide
  simp [piece, hspace, commentLength, hrun]
  omega

theorem tokensFrom_gaps {more : List Gap} (h : Laid more)
    (hnext : ∀ c ∈ next.head?, Text.isBlank c = false) :
    tokensFrom line gaps outer (gapChars more ++ next) =
      tokensFrom (line + (gapChars more).count '\n') (more.reverse ++ gaps) outer next := by
  induction h generalizing line gaps with
  | nil => simp [gapChars]
  | @blanks b more some space apart hmore ih =>
    have hhead := hmore.head_not_blank apart hnext
    have hchars : gapChars (.blanks b :: more) = b.toList ++ gapChars more := rfl
    cases hb : b.toList with
    | nil => exact absurd hb some
    | cons c cs =>
      rw [hb] at space
      rw [hchars, List.append_assoc, hb, tokensFrom_blanks (piece_blanks space hhead), ih,
        List.count_append, Nat.add_assoc, ← hb, String.ofList_toList]
      simp
  | @block t body more opened closed _ ih =>
    have hchars : gapChars (.comment t :: more) = t.toList ++ gapChars more := rfl
    rw [hchars, List.append_assoc, opened, tokensFrom_comment (piece_block closed), ih,
      List.count_append, Nat.add_assoc, ← opened, String.ofList_toList]
    simp
  | @line t b body bs more opened inside closed hmore ih =>
    have hchars : gapChars (.comment t :: .blanks b :: more) =
      t.toList ++ gapChars (.blanks b :: more) := rfl
    have hend : gapChars (.blanks b :: more) ++ next = '\n' :: (bs ++ (gapChars more ++ next)) := by
      simp [gapChars, Gap.text, closed]
    rw [hchars, List.append_assoc, hend, opened, tokensFrom_comment (piece_line inside), ← hend, ih,
      List.count_append, Nat.add_assoc, ← opened, String.ofList_toList]
    simp

theorem piece_word {c : Char} {cs : List Char} (hc : isPlainStart c = true)
    (hcs : ∀ d ∈ cs, isPlainPart d = true) (hnext : ∀ d ∈ next.head?, isPart d = false) :
    piece c (cs ++ next) = some (.token .word, cs.length) := by
  have htests : (!isSpace c && c != '/' && c != quote && c != Char.ofNat 0x27 && !c.isDigit &&
      c != '.' && isWordStart c) = true :=
    forall_plain (p := isPlainStart) (q := fun c => !isSpace c && c != '/' && c != quote &&
        c != Char.ofNat 0x27 && !c.isDigit && c != '.' && isWordStart c)
      (fun _ h => isPlainPart_of_isPlainStart h) (by decide) hc
  simp only [Bool.and_eq_true, Bool.not_eq_true', bne_iff_ne, ne_eq] at htests
  obtain ⟨⟨⟨⟨⟨⟨hspace, hslash⟩, hquote⟩, hmark⟩, hdigit⟩, hpoint⟩, hstart⟩ := htests
  have hrun : (cs ++ next).takeWhile isWordPart = cs := by
    refine takeWhile_append_stop (fun d hd => isWordPart_of_isPlainPart (hcs d hd)) ?_
    intro d hd
    have := hnext d hd
    simp only [isPart, Bool.or_eq_false_iff] at this
    exact this.2
  have hcomment : commentLength (c :: (cs ++ next)) = none := by
    unfold commentLength
    split <;> simp_all
  simp only [piece, hspace, hcomment, hdigit, hstart, hrun]
  simp [hquote, hmark, hpoint]

theorem commentLength_eq_none {c : Char} (h : c ≠ '/') (cs : List Char) :
    commentLength (c :: cs) = none := by
  unfold commentLength
  split <;> simp_all

theorem piece_bracket {c : Char} (hc : c ∈ brackets) : piece c next = some (.token .symbol, 0) := by
  simp only [brackets, List.mem_cons, List.not_mem_nil, or_false] at hc
  have hstart : isWordStart c = false := by
    rcases hc with rfl | rfl | rfl | rfl | rfl | rfl | rfl | rfl <;> decide
  have hsymbol : symbolLength (c :: next) = some 1 := by
    rcases hc with rfl | rfl | rfl | rfl | rfl | rfl | rfl | rfl <;>
      (simp only [symbolLength, symbols]; simp [List.isPrefixOf]; rfl)
  rcases hc with rfl | rfl | rfl | rfl | rfl | rfl | rfl | rfl <;>
    simp [piece, isSpace, quote, commentLength_eq_none, hstart, hsymbol]

theorem piece_point (h : ∀ c ∈ next.head?, c ≠ '.' ∧ c.isDigit = false) :
    piece '.' next = some (.token .symbol, 0) := by
  have hstart : isWordStart '.' = false := by decide
  have hsymbol : symbolLength ('.' :: next) = some 1 := by
    cases next with
    | nil => decide
    | cons c next =>
      have hc := (h c (by simp)).1
      simp only [symbolLength, symbols]
      simp [List.isPrefixOf, Ne.symm hc]
      rfl
  cases next with
  | nil => simp [piece, isSpace, quote, commentLength_eq_none, hstart, hsymbol]
  | cons c next =>
    have hdigit := (h c (by simp)).2
    simp [piece, isSpace, quote, commentLength_eq_none, hstart, hsymbol, hdigit]

theorem piece_dots : piece '.' ('.' :: '.' :: next) = some (.token .symbol, 2) := by
  have hstart : isWordStart '.' = false := by decide
  have hsymbol : symbolLength ('.' :: '.' :: '.' :: next) = some 3 := by
    simp only [symbolLength, symbols]
    simp [List.isPrefixOf]
    rfl
  simp [piece, isSpace, quote, commentLength_eq_none, hstart, hsymbol]

theorem piece_star (h : ∀ c ∈ next.head?, c ≠ '=') :
    piece '*' next = some (.token .symbol, 0) := by
  have hstart : isWordStart '*' = false := by decide
  have hsymbol : symbolLength ('*' :: next) = some 1 := by
    cases next with
    | nil => decide
    | cons c next =>
      have hc := h c (by simp)
      simp only [symbolLength, symbols]
      simp [List.isPrefixOf, Ne.symm hc]
      rfl
  simp [piece, isSpace, quote, commentLength_eq_none, hstart, hsymbol]

theorem piece_mark {text : String} (hmark : text ∈ marks)
    (hpoint : text = "." → ∀ c ∈ next.head?, c ≠ '.' ∧ c.isDigit = false)
    (hstar : text = "*" → ∀ c ∈ next.head?, c ≠ '=') :
    ∃ c cs, text.toList = c :: cs ∧ piece c (cs ++ next) = some (.token .symbol, cs.length) := by
  obtain rfl | rfl | rfl | ⟨c, hc, htext⟩ := mark_cases hmark
  · exact ⟨'.', [], by decide, piece_point (hpoint rfl)⟩
  · exact ⟨'.', ['.', '.'], by decide, piece_dots⟩
  · exact ⟨'*', [], by decide, piece_star (hstar rfl)⟩
  · exact ⟨c, [], htext, piece_bracket hc⟩

theorem tokenOf_eq_token (l : Lexeme) (line : Nat) :
    tokenOf (kindOf .modern l.text) l.text.toList line l.gaps = l.token .modern line := by
  unfold tokenOf Token.ofChars
  split
  · rename_i hword
    have hall : l.text.toList.takeWhile isWordPart = l.text.toList :=
      List.takeWhile_eq_self_iff.mpr fun c hc =>
        isWordPart_of_isPlainPart (isPlainPart_of_mem (isPlainWord_of_kindOf hword) hc)
    simp [token, hall, hword]
  · simp [token]

theorem count_text {text : String} (h : Ends text next) : text.toList.count '\n' = 0 := by
  refine List.count_eq_zero_of_not_mem fun hmem => ?_
  cases h with
  | word plain _ => exact absurd (isPlainPart_of_mem plain hmem) (by decide)
  | mark hmark _ _ =>
    have hall : (marks.all fun m => !m.toList.contains '\n') = true := by decide
    have htext := List.all_eq_true.mp hall text hmark
    simp [hmem] at htext

theorem tokensFrom_text {l : Lexeme} (h : Ends l.text next) :
    tokensFrom line l.gaps.reverse [] (l.text.toList ++ next) =
      (tokensFrom line [] [] next).map (l.token .modern line :: ·) := by
  have hlines := count_text h
  have htoken := tokenOf_eq_token l line
  have hpiece : ∃ c cs, l.text.toList = c :: cs ∧
      piece c (cs ++ next) = some (.token (kindOf .modern l.text), cs.length) := by
    cases h with
    | word plain stop =>
      obtain ⟨c, cs, hword, hc, hcs⟩ := exists_of_isPlainWord plain
      exact ⟨c, cs, hword, by simpa [kindOf, plain] using piece_word hc hcs stop⟩
    | mark hmark point star =>
      simpa [kindOf, isPlainWord_eq_false_of_mem_marks hmark] using piece_mark hmark point star
  obtain ⟨c, cs, htext, hpiece⟩ := hpiece
  rw [htext] at hlines htoken ⊢
  rw [tokensFrom_token hpiece, hlines, List.reverse_reverse, htoken]
  rfl

theorem tokensFrom_render {ls : List Lexeme} (h : Fit ls next) :
    tokensFrom line [] [] (render ls ++ next) =
      (tokensFrom (lineAfterAll line ls) [] [] next).map (Lexeme.tokens .modern line ls ++ ·) := by
  induction ls generalizing line with
  | nil => simp [lineAfterAll, Lexeme.tokens]
  | cons l ls ih =>
    obtain ⟨hgaps, hends, hmore⟩ := h
    rw [render_cons, chars, List.append_assoc, List.append_assoc,
      tokensFrom_gaps hgaps (hends.head_not_blank _), List.append_nil, tokensFrom_text hends,
      ih hmore, Option.map_map]
    rfl

end Modern

end JavaAtlas.Java
