import JavaAtlas.Proofs.ListingClauses
import Mathlib.Tactic.Tauto

/-! Headers are read back. A clause is read as short as it can be, so nothing that follows it may be
read from inside its list of names: `reads_clause`. The words in front of the kind are read one by
one: `Leading.headerFrom`. -/

namespace JavaAtlas.Listing

/-! ### Characters -/

theorem isNameChar_of_isBlank {c : Char} (h : Text.isBlank c = true) : isNameChar c = false := by
  have hword : Text.isWordChar c = false := by
    by_contra hc
    rw [isBlank_of_isWordChar (by simpa using hc)] at h
    cases h
  have hpoint : c ≠ '.' := fun heq => absurd (heq ▸ h) (by decide)
  have hdollar : c ≠ '$' := fun heq => absurd (heq ▸ h) (by decide)
  simp [isNameChar, hword, hpoint, hdollar]

theorem isModifierChar_of_isBlank {c : Char} (h : Text.isBlank c = true) :
    isModifierChar c = false := by
  have hname := isNameChar_of_isBlank h
  have hhyphen : c ≠ '-' := fun heq => absurd (heq ▸ h) (by decide)
  simp only [isNameChar, Bool.or_eq_false_iff] at hname
  simp [isModifierChar, hname.1.1, hhyphen]

theorem isNameChar_printed {printed : List Char} {name : String} (h : Spells printed name)
    (hname : IsName name) {c : Char} (hc : c ∈ printed) : isNameChar c = true := by
  rcases mem_printed h hname.plain hc with rfl | hmem
  · decide
  · rcases hname.chars c hmem with hchar | rfl
    · simp [isNameChar, hchar]
    · decide

theorem isClauseChar_lists {names : List String} {text : List Char} (h : Lists names text)
    (hnames : ∀ n ∈ names, IsName n) : ∀ c ∈ text, isClauseChar c = true := by
  have hname {printed : List Char} {name : String} (hp : Spells printed name)
      (hn : IsName name) : ∀ c ∈ printed, isClauseChar c = true := by
    intro c hc
    simp [isClauseChar, isNameChar_printed hp hn hc]
  induction h with
  | nil => simp
  | one spelled => exact hname spelled (hnames _ (by simp))
  | @cons printed gap text name next names spelled apart more ih =>
    intro c hc
    simp only [List.mem_append, List.mem_cons] at hc
    rcases hc with hc | rfl | hc | hc
    · exact hname spelled (hnames _ (by simp)) c hc
    · decide
    · simp [isClauseChar, (apart c hc).1]
    · exact ih (fun n hn => hnames n (by simp_all)) c hc

/-! ### One clause -/

section Readers

variable {α : Type}

theorem blanks_append {next : List Char → Option α} {gap text : List Char} (hgap : Separates gap)
    (htext : ∀ c ∈ text.head?, Text.isBlank c = false) {r : α} (h : next text = some r) :
    blanks next (gap ++ text) = some r := by
  obtain ⟨htake, hdrop⟩ := Text.span_append (fun c hc => (hgap.2 c hc).1) htext
  rw [blanks, htake, hdrop]
  obtain ⟨c, run, hrun⟩ := List.exists_cons_of_ne_nil (mt List.reverse_eq_nil_iff.mp hgap.1)
  rw [hrun, orFewer, h]

theorem blanks_eq_none {next : List Char → Option α} {cs : List Char}
    (h : ∀ c ∈ cs.head?, Text.isBlank c = false) : blanks next cs = none := by
  cases cs with
  | nil => rfl
  | cons c cs =>
    rw [blanks, List.takeWhile_cons_of_neg (by simp [h c (by simp)])]
    rfl

/-- A clause that does not start here is missing. -/
theorem clause_of_not_starts {word : String} {cs : List Char}
    (h : startsClause word cs = false) (next : Option (List Char) → List Char → Option α) :
    clause word next cs = next none cs := by
  rw [clause]
  rw [startsClause] at h
  cases hrun : afterRun? Text.isBlank cs with
  | none => rfl
  | some rest =>
    rw [hrun, Option.map_some, Option.getD_some, opens] at h
    cases hafter : after? word rest with
    | none => simp [hafter]
    | some tail =>
      have hhead : ∀ c ∈ tail.head?, Text.isBlank c = false := by
        intro c hc
        cases tail with
        | nil => simp at hc
        | cons d tail =>
          obtain rfl : d = c := by simpa using hc
          simpa [hafter] using h
      simp [hafter, blanks_eq_none hhead]

/-- A clause is read as short as what follows it allows. -/
theorem clauseFrom_append {next : List Char → List Char → Option α} {text rest : List Char} {r : α}
    (hchars : ∀ c ∈ text, isClauseChar c = true) (taken : List Char)
    (hcut : ∀ a b, text = a ++ b → b ≠ [] → next (taken.reverse ++ a) (b ++ rest) = none)
    (hlast : next (taken.reverse ++ text) rest = some r) :
    clauseFrom next taken (text ++ rest) = some r := by
  induction text generalizing taken with
  | nil =>
    rw [List.append_nil] at hlast
    cases rest with
    | nil => rw [List.nil_append, clauseFrom, hlast]
    | cons c rest => rw [List.nil_append, clauseFrom, hlast]
  | cons c text ih =>
    have hnone := hcut [] (c :: text) rfl (by simp)
    rw [List.append_nil] at hnone
    rw [List.cons_append, clauseFrom, ← List.cons_append, hnone]
    simp only [hchars c (by simp), if_true]
    refine ih (fun d hd => hchars d (by simp [hd])) (c :: taken) (fun a b hab hb => ?_) ?_
    · simpa using hcut (c :: a) b (by simp [hab]) hb
    · simpa using hlast

theorem clause_append {word : String} {gap gap' text rest : List Char}
    {next : Option (List Char) → List Char → Option α} {r : α} (hword : word ∈ keywords)
    (hgap : Separates gap) (hgap' : Separates gap') (hne : text ≠ [])
    (hhead : ∀ c ∈ (text ++ rest).head?, Text.isBlank c = false)
    (hchars : ∀ c ∈ text, isClauseChar c = true)
    (hcut : ∀ a b, text = a ++ b → b ≠ [] → next (some a) (b ++ rest) = none)
    (hlast : next (some text) rest = some r) :
    clause word next (gap ++ (word.toList ++ (gap' ++ text)) ++ rest) = some r := by
  have hread : clauseText (fun taken => next (some taken)) (text ++ rest) = some r := by
    obtain ⟨c, text, rfl⟩ := List.exists_cons_of_ne_nil hne
    rw [List.cons_append, clauseText, if_pos (hchars c (by simp))]
    refine clauseFrom_append (fun d hd => hchars d (by simp [hd])) [c] (fun a b hab hb => ?_) hlast
    exact hcut (c :: a) b (by simp [hab]) hb
  rw [clause]
  simp only [List.append_assoc]
  rw [afterRun?_append hgap.1 (fun c hc => (hgap.2 c hc).1) ((solid_keyword hword).head _)]
  simp only [Option.bind_some, after?_append, blanks_append hgap' hhead hread, Option.some_or]

end Readers

/-! ### Clauses one after the other -/

theorem Continues.closes {asked : List String} {a b rest : List Char}
    (h : Continues asked (a ++ b) rest) (hb : b ≠ []) : closes asked (b ++ rest) = false := by
  induction a with
  | nil =>
    obtain ⟨c, b, rfl⟩ := List.exists_cons_of_ne_nil hb
    exact h.1
  | cons c a ih => exact ih h.2

theorem Clause.follows {word : String} {names : List String} {text rest : List Char}
    (h : Clause word names text) (hrest : Follows rest) : Follows (text ++ rest) := by
  cases h with
  | none => exact hrest
  | some apart apart' listed =>
    rw [List.append_assoc]
    exact follows_gap apart _

/-- Where one clause may start, no other does. -/
theorem Clause.startsClause_of_ne {word other : String} {names : List String}
    {text rest : List Char} (h : Clause word names text) (hword : word ∈ keywords)
    (hother : other ∈ keywords) (hne : word ≠ other) (hrest : startsClause other rest = false) :
    startsClause other (text ++ rest) = false := by
  cases h with
  | none => exact hrest
  | @some gap gap' text name names apart apart' listed =>
    simp only [List.append_assoc]
    rw [startsClause_gap apart ((solid_keyword hword).head _)]
    exact opens_eq_false hother (solid_keyword hword).dense (follows_gap apart' _)
      fun heq => absurd (String.toList_inj.mp heq) hne

theorem clause_eq_none {α : Type} {next : Option (List Char) → List Char → Option α}
    {asked : List String} (hnext : ∀ c cs, closes asked cs = false → next c cs = none)
    {word : String} {cs : List Char} (h : closes (word :: asked) cs = false) :
    clause word next cs = none := by
  obtain ⟨hstarts, hends⟩ := closes_eq_false.mp h
  have hrest : ∀ w ∈ asked, startsClause w cs = false :=
    fun w hw => hstarts w (List.mem_cons_of_mem _ hw)
  rw [clause_of_not_starts (hstarts word List.mem_cons_self)]
  exact hnext none cs (closes_eq_false.mpr ⟨hrest, hends⟩)

/-- A clause is read back if nothing that follows it can be read where nothing closes. -/
theorem reads_clause {α : Type} {next : Option (List Char) → List Char → Option α}
    {asked : List String} (hnext : ∀ c cs, closes asked cs = false → next c cs = none)
    (hasked : ∀ w ∈ asked, w ∈ keywords) {word : String} (hword : word ∈ keywords)
    {names : List String} (hnames : ∀ n ∈ names, IsName n) {text rest : List Char}
    (h : Clause word names text) (hfollows : Follows rest)
    (hstarts : startsClause word rest = false) :
    ∃ c, classNames (c.getD []) = names ∧
      ∀ r, next c rest = some r → clause word next (text ++ rest) = some r := by
  have hgap : IsGap [] := by decide
  cases h with
  | none =>
    refine ⟨none, ?_, fun r hr => ?_⟩
    · exact classNames_lists .nil (by simp) hgap
    · rw [List.nil_append, clause_of_not_starts hstarts, hr]
  | @some gap gap' text name names apart apart' listed =>
    have hplain : ∀ n ∈ name :: names, Plain n := fun n hn => (hnames n hn).plain
    have hcontinues := (listed.continues hasked hplain hfollows).1
    obtain ⟨printed, more, htext, hprinted, -⟩ := listed.head hplain
    have hsolid := (isWord_printed hprinted (hplain name (by simp))).solid
    refine ⟨some text, ?_, fun r hr => ?_⟩
    · exact classNames_lists listed hplain hgap
    · refine clause_append hword apart apart' ?_ ?_ (isClauseChar_lists listed hnames) ?_ hr
      · simp [htext, hsolid.some]
      · rw [htext, List.append_assoc]
        exact hsolid.head _
      · -- A shorter reading would have to go on inside the list, where nothing closes.
        rintro a b rfl hb
        exact hnext _ _ (hcontinues.closes hb)

/-! ### Headers -/

/-- A header that ends here. -/
def ending (r : Header) (cs : List Char) : Option Header := if endsHeader cs then some r else none

/-- The clauses of a header, from the name of the class on. -/
def clausesOf (modifiers : List (List Char)) (kind : TypeKind) (name : List Char) :
    List Char → Option Header :=
  clause "extends" fun extends? => clause "implements" fun implements? =>
    clause "permits" fun _ => ending { modifiers, kind, name, extends?, implements? }

/-- A header from a keyword on. -/
def afterKind (modifiers : List (List Char)) (cs : List Char) (k : String × TypeKind) :
    Option Header := do
  let rest ← after? k.1 cs
  let rest ← afterRun? Text.isBlank rest
  let name := rest.takeWhile isNameChar
  if name.isEmpty then none else clausesOf modifiers k.2 name (rest.dropWhile isNameChar)

theorem afterModifiers_eq (modifiers : List (List Char)) (cs : List Char) :
    afterModifiers modifiers cs = kinds.findSome? (afterKind modifiers cs) := rfl

theorem solid_kind {k : String × TypeKind} (h : k ∈ kinds) : Text.Solid k.1.toList := by
  have hall : (kinds.all fun k => k.1.toList.all fun c => !Text.isBlank c) = true := by decide
  refine ⟨(by decide : ∀ k ∈ kinds, k.1.toList ≠ []) k h, fun c hc => ?_⟩
  simpa using List.all_eq_true.mp (List.all_eq_true.mp hall k h) c hc

/-- The kinds are told apart by the first characters of their keywords. -/
theorem afterKind_eq_none {k : String × TypeKind} (hk : k.1.toList ≠ []) {cs : List Char}
    (h : k.1.toList.head? ≠ cs.head?) (modifiers : List (List Char)) :
    afterKind modifiers cs k = none := by
  rw [afterKind, after?_eq_none hk h]
  rfl

theorem afterModifiers_append {word : String} {kind : TypeKind} (h : (word, kind) ∈ kinds)
    {modifiers : List (List Char)} {gap name rest : List Char} (hgap : Separates gap)
    (hname : name ≠ []) (hchars : ∀ c ∈ name, isNameChar c = true)
    (hhead : ∀ c ∈ (name ++ rest).head?, Text.isBlank c = false)
    (hrest : ∀ c ∈ rest.head?, isNameChar c = false) {r : Header}
    (hr : clausesOf modifiers kind name rest = some r) :
    afterModifiers modifiers (word.toList ++ (gap ++ (name ++ rest))) = some r := by
  have hnext : afterRun? Text.isBlank (gap ++ (name ++ rest)) = some (name ++ rest) :=
    afterRun?_append hgap.1 (fun c hc => (hgap.2 c hc).1) hhead
  obtain ⟨htake, hdrop⟩ := Text.span_append hchars hrest
  have hself : afterKind modifiers (word.toList ++ (gap ++ (name ++ rest))) (word, kind) =
      some r := by
    rw [afterKind, after?_append]
    simp only [Option.bind_eq_bind, Option.bind_some, hnext, htake, hdrop, hr, List.isEmpty_iff,
      hname, if_false]
  have hapart : kinds.Pairwise fun k k' => k.1.toList.head? ≠ k'.1.toList.head? := by decide
  -- The kinds that are tried before this one fail at their first characters.
  obtain ⟨earlier, later, hsplit⟩ := List.append_of_mem h
  rw [hsplit] at hapart
  rw [afterModifiers_eq, List.findSome?_eq_some_iff]
  refine ⟨earlier, _, later, hsplit, hself, fun k hk => ?_⟩
  refine afterKind_eq_none (solid_kind (by simp [hsplit, hk])).some ?_ modifiers
  rw [List.head?_append_of_ne_nil _ (solid_kind h).some]
  exact (List.pairwise_append.mp hapart).2.2 k hk _ List.mem_cons_self

/-! ### Modifiers -/

theorem keyword_of_modifier {word : String} (h : word ∈ Modifier.canonical) : word ∈ keywords :=
  List.mem_append_right _ h

theorem isModifierChar_of_mem {word : String} (h : word ∈ Modifier.canonical) {c : Char}
    (hc : c ∈ word.toList) : isModifierChar c = true := by
  have hall : (Modifier.canonical.all fun w => w.toList.all isModifierChar) = true := by decide
  exact List.all_eq_true.mp (List.all_eq_true.mp hall word h) c hc

/-- No modifier starts like the keyword of a kind. -/
theorem afterModifiers_modifier {word : String} (h : word ∈ Modifier.canonical)
    (modifiers : List (List Char)) (rest : List Char) :
    afterModifiers modifiers (word.toList ++ rest) = none := by
  have hapart : ∀ k ∈ kinds, ∀ w ∈ Modifier.canonical, k.1.toList.head? ≠ w.toList.head? := by
    decide
  rw [afterModifiers_eq, List.findSome?_eq_none_iff]
  intro k hk
  refine afterKind_eq_none (solid_kind hk).some ?_ modifiers
  rw [List.head?_append_of_ne_nil _ (solid_keyword (keyword_of_modifier h)).some]
  exact hapart k hk word h

theorem Leading.head {words : List (List Char)} {text rest : List Char} (h : Leading words text)
    (hwords : ∀ w ∈ words, Text.Solid w) (hrest : ∀ c ∈ rest.head?, Text.isBlank c = false) :
    ∀ c ∈ (text ++ rest).head?, Text.isBlank c = false := by
  cases h with
  | nil => exact hrest
  | cons apart more =>
    rw [List.append_assoc]
    exact (hwords _ (by simp)).head _

theorem Leading.length_le {words : List (List Char)} {text : List Char} (h : Leading words text) :
    words.length ≤ text.length := by
  induction h with
  | nil => simp
  | @cons word gap text words apart more ih =>
    have hgap := List.length_pos_iff.mpr apart.1
    simp only [List.length_cons, List.length_append]
    omega

theorem solid_modifiers {words : List String} (h : AreModifiers words) :
    ∀ w ∈ words.map String.toList, Text.Solid w := by
  intro w hw
  obtain ⟨word, hword, rfl⟩ := List.mem_map.mp hw
  exact solid_keyword (keyword_of_modifier (h word hword))

/-- The words in front of the kind are read as modifiers, one after the other. -/
theorem Leading.headerFrom {words : List String} {text : List Char}
    (h : Leading (words.map String.toList) text) (hwords : AreModifiers words) {rest : List Char}
    (hhead : ∀ c ∈ rest.head?, Text.isBlank c = false) (modifiers : List (List Char)) {bound : Nat}
    (hbound : words.length ≤ bound) {r : Header}
    (hr : afterModifiers (modifiers ++ words.map String.toList) rest = some r) :
    Listing.headerFrom modifiers bound (text ++ rest) = some r := by
  induction words generalizing text modifiers bound with
  | nil =>
    cases h
    rw [List.map_nil, List.append_nil] at hr
    cases bound with
    | zero => exact hr
    | succ bound => rw [List.nil_append, Listing.headerFrom, hr]
  | cons word words ih =>
    cases h with
    | @cons _ gap text _ apart more =>
      cases bound with
      | zero => simp at hbound
      | succ bound =>
        have hword := hwords word (by simp)
        have hmore : AreModifiers words := fun w hw => hwords w (by simp [hw])
        have hsolid := more.head (solid_modifiers hmore) hhead
        have hnext := ih more hmore (modifiers ++ [word.toList])
          (Nat.le_of_succ_le_succ hbound) (by simpa using hr)
        obtain ⟨c, gap, rfl⟩ := List.exists_cons_of_ne_nil apart.1
        have hgap : ∀ d ∈ (c :: gap ++ (text ++ rest)).head?, isModifierChar d = false :=
          Text.forall_head (isModifierChar_of_isBlank (apart.2 c (by simp)).1) _
        obtain ⟨htake, hdrop⟩ :=
          Text.span_append (fun c hc => isModifierChar_of_mem hword hc) hgap
        have hrun := afterRun?_append apart.1 (fun c hc => (apart.2 c hc).1) hsolid
        have hsome := (solid_keyword (keyword_of_modifier hword)).some
        -- A modifier is no kind, so the header goes on behind the gap after it.
        simp only [List.append_assoc]
        rw [Listing.headerFrom, afterModifiers_modifier hword]
        simp only [htake, hdrop, hrun, hsome, List.isEmpty_iff, if_false, Option.bind_some, hnext]

/-! ### Headers -/

section Clauses

variable {extended implementing permitting gap : List Char}
  {supers interfaces permitted : List String}

theorem endsHeader_gap (hgap : IsGap gap) : endsHeader (gap ++ ['\x7b']) = true := by
  rw [endsHeader, (Text.span_append (fun c hc => (hgap c hc).1) (Text.forall_head (by decide) _)).2]
  rfl

theorem startsClause_brace {word : String} (hword : word ∈ keywords) (hgap : Separates gap) :
    startsClause word (gap ++ ['\x7b']) = false := by
  rw [startsClause_gap hgap (Text.forall_head (by decide) _)]
  have hnone : ∀ c ∈ ([] : List Char), Text.isBlank c = false := by simp
  exact opens_eq_false hword hnone (follows_separator (by decide) _) fun heq =>
    absurd heq.symm (solid_keyword hword).some

/-- Where neither a clause nor the brace is in sight, nothing is read. -/
theorem ending_eq_none {r : Header} {asked : List String} {cs : List Char}
    (h : closes asked cs = false) : ending r cs = none := by
  rw [ending, (closes_eq_false.mp h).2, if_neg (by simp)]

theorem clausesOf_append (modifiers : List (List Char)) (kind : TypeKind) (name : List Char)
    (hextends : Clause "extends" supers extended)
    (himplements : Clause "implements" interfaces implementing)
    (hpermits : Clause "permits" permitted permitting) (hgap : Separates gap)
    (hsupers : ∀ s ∈ supers, IsName s) (hinterfaces : ∀ s ∈ interfaces, IsName s)
    (hpermitted : ∀ s ∈ permitted, IsName s) :
    ∃ extends? implements?, classNames (extends?.getD []) = supers ∧
      classNames (implements?.getD []) = interfaces ∧
      clausesOf modifiers kind name
        (extended ++ (implementing ++ (permitting ++ (gap ++ ['\x7b'])))) =
          some { modifiers, kind, name, extends?, implements? } := by
  have hext : "extends" ∈ keywords := by decide
  have himp : "implements" ∈ keywords := by decide
  have hper : "permits" ∈ keywords := by decide
  have hfollows := follows_gap hgap ['\x7b']
  -- A clause is left out where what follows it would fail there, so the last reader comes first.
  have hend : ∀ (r : Header) (c : Option (List Char)) (cs : List Char),
      closes [] cs = false → ending r cs = none := fun _ _ _ => ending_eq_none
  have hpermit : ∀ (r : Option (List Char) → Header) (c : Option (List Char)) (cs : List Char),
      closes ["permits"] cs = false → clause "permits" (fun _ => ending (r c)) cs = none :=
    fun r c _ => clause_eq_none (hend (r c))
  have himplement : ∀ (r : Option (List Char) → Option (List Char) → Header)
      (c : Option (List Char)) (cs : List Char), closes ["implements", "permits"] cs = false →
        clause "implements" (fun c' => clause "permits" fun _ => ending (r c c')) cs = none :=
    fun r c _ => clause_eq_none (hpermit (r c))
  obtain ⟨extends?, hsuper, hread⟩ := reads_clause
    (himplement fun extends? implements? => { modifiers, kind, name, extends?, implements? })
    (by simp [himp, hper]) hext hsupers hextends (himplements.follows (hpermits.follows hfollows))
    (himplements.startsClause_of_ne himp hext (by decide)
      (hpermits.startsClause_of_ne hper hext (by decide) (startsClause_brace hext hgap)))
  obtain ⟨implements?, hinterface, hread'⟩ := reads_clause
    (hpermit fun implements? => { modifiers, kind, name, extends?, implements? })
    (by simp [hper]) himp hinterfaces himplements (hpermits.follows hfollows)
    (hpermits.startsClause_of_ne hper himp (by decide) (startsClause_brace himp hgap))
  obtain ⟨permits?, -, hread''⟩ := reads_clause
    (hend { modifiers, kind, name, extends?, implements? })
    (by simp) hper hpermitted hpermits hfollows (startsClause_brace hper hgap)
  refine ⟨extends?, implements?, hsuper, hinterface, hread _ (hread' _ (hread'' _ ?_))⟩
  rw [ending, endsHeader_gap hgap.2, if_pos rfl]

end Clauses

theorem isNameChar_of_follows {rest : List Char} (h : Follows rest) :
    ∀ c ∈ rest.head?, isNameChar c = false := by
  intro c hc
  rcases h c hc with hblank | hsep
  · exact isNameChar_of_isBlank hblank
  · have hall : (separators.all fun c => !isNameChar c) = true := by decide
    simpa using List.all_eq_true.mp hall c hsep

theorem isModifier_toList {word : String} (h : word ∈ Modifier.canonical) :
    isModifier word.toList = true := by
  simpa [isModifier] using h

theorem texts_filter_modifiers {words : List String} (h : AreModifiers words) :
    texts ((words.map String.toList).filter isModifier) = words := by
  have hall : ∀ w ∈ words.map String.toList, isModifier w = true := by
    intro w hw
    obtain ⟨word, hword, rfl⟩ := List.mem_map.mp hw
    exact isModifier_toList (h word hword)
  rw [List.filter_eq_self.mpr hall]
  simp [texts]

/-- The header of a class in print: its modifiers, its kind, its full name, and the names of other
classes, of any script. -/
inductive HeadText (full : String) (words : List String) (kind : TypeKind)
    (supers interfaces : List String) : List Char → Prop
  | intro {modifiers gap name extended implementing permitting gap' : List Char} {word : String}
      {permitted : List String} (modified : AreModifiers words)
      (names : ∀ s ∈ supers ++ (interfaces ++ permitted), IsName s)
      (led : Leading (words.map String.toList) modifiers) (keyword : (word, kind) ∈ kinds)
      (apart : Separates gap) (named : Spells name full)
      (extending : Clause "extends" supers extended)
      (implements : Clause "implements" interfaces implementing)
      (permits : Clause "permits" permitted permitting) (apart' : Separates gap') :
      HeadText full words kind supers interfaces (modifiers ++ (word.toList ++ (gap ++ (name ++
        (extended ++ (implementing ++ (permitting ++ (gap' ++ ['\x7b']))))))))

/-- What is read of a header in print. -/
structure Heads (full : String) (words : List String) (kind : TypeKind)
    (supers interfaces : List String) (r : Header) : Prop where
  name : className r.name = full
  modifiers : r.modifiers = words.map String.toList
  kind : r.kind = kind
  extended : classNames (r.extends?.getD []) = supers
  implementing : classNames (r.implements?.getD []) = interfaces

theorem HeadText.header? {full : String} {words supers interfaces : List String} {kind : TypeKind}
    {text : List Char} (h : HeadText full words kind supers interfaces text)
    (hfull : IsName full) :
    ∃ r, Listing.header? text = some r ∧ Heads full words kind supers interfaces r := by
  cases h with
  | @intro modifiers gap name extended implementing permitting gap' word permitted modified names
      led keyword apart named extending implements permits apart' =>
    have hsolid := (isWord_printed named hfull.plain).solid
    have hfollows := extending.follows
      (implements.follows (permits.follows (follows_gap apart' ['\x7b'])))
    obtain ⟨extends?, implements?, hsupers, hinterfaces, hclauses⟩ := clausesOf_append
      (words.map String.toList) kind name extending implements permits apart'
      (fun s hs => names s (by simp [hs])) (fun s hs => names s (by simp [hs]))
      (fun s hs => names s (by simp [hs]))
    refine ⟨{ modifiers := words.map String.toList, kind, name, extends?, implements? }, ?_,
      className_spells named hfull.plain, rfl, rfl, hsupers, hinterfaces⟩
    refine led.headerFrom modified ?_ [] ?_ (afterModifiers_append keyword apart hsolid.some
      (fun c hc => isNameChar_printed named hfull hc) (hsolid.head _)
      (isNameChar_of_follows hfollows) hclauses)
    · exact (solid_kind keyword).head _
    · have hlength := led.length_le
      simp only [List.length_map] at hlength
      simp only [List.length_append]
      omega

theorem isDotted_object : IsDotted "java.lang.Object" := by decide

section Entry

variable {full : String} {e : Entry}

theorem Extends.dotted {supers : List String} (h : Extends e supers) (he : Listable full e) :
    ∀ s ∈ supers, IsDotted s := by
  unfold Extends at h
  split at h
  · subst h
    exact he.interfaces
  · rcases h with rfl | ⟨-, rfl⟩
    · intro s hs
      exact (he.superclass s (by simpa using hs)).1
    · simpa using isDotted_object

theorem implemented_dotted (he : Listable full e) : ∀ s ∈ implemented e, IsDotted s := by
  unfold implemented
  split
  · simp
  · exact he.interfaces

theorem HeaderText.headText {text : List Char} (h : HeaderText full e text)
    (he : Listable full e) :
    ∃ supers, Extends e supers ∧
      HeadText full e.modifiers e.kind supers (implemented e) text := by
  cases h with
  | intro dotted led kind apart named superclass extending implements permits apart' =>
    have hdotted := List.forall_mem_append.mpr
      ⟨superclass.dotted he, List.forall_mem_append.mpr ⟨implemented_dotted he, dotted⟩⟩
    exact ⟨_, superclass, .intro he.modifiers (fun s hs => (hdotted s hs).isName) led kind apart
      named extending implements permits apart'⟩

/-- The entry of a header has all of the class but its members. -/
theorem Heads.entry {supers : List String} {r : Header}
    (h : Heads full e.modifiers e.kind supers (implemented e) r) (he : Listable full e)
    (hsuper : Extends e supers) : r.entry = { e with fields := [], methods := [] } := by
  have hinterfaces := h.implementing
  unfold Header.entry
  unfold Extends at hsuper
  unfold implemented at hinterfaces
  simp only [h.extended, hinterfaces, h.kind, h.modifiers, texts_filter_modifiers he.modifiers]
  split at hsuper
  · next hkind => simp [hkind, hsuper, he.single hkind]
  · next hkind =>
    have hfirst : supers.head?.filter (· != "java.lang.Object") = e.superclass := by
      rcases hsuper with rfl | ⟨hnone, rfl⟩
      · cases hs : e.superclass with
        | none => rfl
        | some s => simpa using (he.superclass s hs).2
      · simp [hnone]
    simp [hkind, hfirst]

theorem HeaderText.header? {text : List Char} (h : HeaderText full e text) (he : Listable full e) :
    ∃ r, Listing.header? text = some r ∧ className r.name = full ∧
      r.entry = { e with fields := [], methods := [] } := by
  obtain ⟨supers, hsuper, htext⟩ := h.headText he
  obtain ⟨r, hread, hheads⟩ := htext.header? he.named.1.isName
  exact ⟨r, hread, hheads.name, hheads.entry he hsuper⟩

end Entry

end JavaAtlas.Listing
