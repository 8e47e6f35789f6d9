import JavaAtlas.Proofs.Printed
import JavaAtlas.Proofs.Reads

/-! The tokens of printed words as readers meet them: which of them are names, what no name is
spelled like, and what stands second in a member. -/

namespace JavaAtlas.Java

open Reader

variable {g : Grammar} {k : List Token}

/-- The tokens of words. -/
def spell (g : Grammar) (ws : List Word) : List Token := ws.map (Word.token g)

@[simp] theorem spell_nil : spell g [] = [] := rfl

@[simp] theorem spell_cons (w : Word) (ws : List Word) :
    spell g (w :: ws) = w.token g :: spell g ws := rfl

@[simp] theorem spell_append (ws vs : List Word) : spell g (ws ++ vs) = spell g ws ++ spell g vs := by
  simp [spell]

@[simp] theorem spell_flatMap {α : Type} (as : List α) (print : α → List Word) :
    spell g (as.flatMap print) = as.flatMap fun a => spell g (print a) := by
  simp [spell, List.map_flatMap]

@[simp] theorem length_spell (ws : List Word) : (spell g ws).length = ws.length := by simp [spell]

theorem IsIdentifier.isWord {w : Word} (h : IsIdentifier w.text) : (w.token g).isWord = true := by
  have hreserved := h.2
  simp only [reservedWords, List.mem_append, not_or] at hreserved
  rw [Token.isWord_iff]
  show kindOf g w.text = .word
  unfold kindOf
  rw [if_pos h.1]
  cases g with
  | classic => simp [Classic.wordKind, hreserved.1.1, hreserved.1.2]
  | modern => rfl

/-- The reserved words, and the marks that start something in one of the grammars. -/
def unnamed : List String :=
  reservedWords ++ marks ++ ["@", "<", "=", "->", ":", "::", "-"]

theorem IsIdentifier.notMem {name : String} (h : IsIdentifier name) {words : List String}
    (hwords : words ⊆ unnamed) : name ∉ words := by
  intro hmem
  rcases List.mem_append.mp (hwords hmem) with hmem | hmem
  · rcases List.mem_append.mp hmem with hmem | hmem
    · exact h.2 hmem
    · exact absurd h.plain (by simp [isPlainWord_eq_false_of_mem_marks hmem])
  · have hall : ∀ m ∈ ["@", "<", "=", "->", ":", "::", "-"], isPlainWord m = false := by
      decide
    exact absurd h.plain (by simp [hall _ hmem])

theorem IsIdentifier.avoids {w : Word} (h : IsIdentifier w.text) {words : List String}
    (hwords : words ⊆ unnamed) : Avoids words (w.token g :: k) :=
  Avoids.cons.mpr (h.notMem hwords)

/-! ### Names -/

/-- The segments of a name, its first word and the words after it. -/
theorem dotted_eq (name : String) :
    ∃ first more, Name.segments name = first :: more ∧ ∀ space,
      dotted space name = ⟨space, first⟩ :: more.flatMap fun s => [tight ".", tight s] := by
  cases hsegments : Name.segments name with
  | nil => exact absurd hsegments (Name.segments_ne_nil name)
  | cons first more => exact ⟨first, more, rfl, fun space => by simp [dotted, hsegments]⟩

theorem intercalate_segments {name first : String} {more : List String}
    (h : Name.segments name = first :: more) : ".".intercalate (first :: more) = name := by
  rw [← h]
  exact Name.join_segments name

theorem avoids_segments {words : List String} (hpoint : "." ∉ words) (more : List String)
    (hk : Avoids words k) :
    Avoids words ((more.flatMap fun s => spell g [tight ".", tight s]) ++ k) := by
  cases more with
  | nil => exact hk
  | cons s more => exact Avoids.cons.mpr hpoint

theorem avoids_pairs {words : List String} (hbracket : "[" ∉ words) (n : Nat)
    (hk : Avoids words k) : Avoids words (spell g (pairs n) ++ k) := by
  cases n with
  | zero => exact hk
  | succ n => exact Avoids.cons.mpr hbracket

/-- Pairs of brackets, each read by one step. -/
theorem repeats_pairs {step : Reader (Option Unit)}
    (hstep : ∀ k, Reads step ((tight "[").token g :: (tight "]").token g :: k) (some ()) k)
    (n : Nat) : Repeats step (spell g (pairs n) ++ k) (List.replicate n ()) k := by
  have hpairs : pairs n = (List.replicate n ()).flatMap fun _ => [tight "[", tight "]"] := by
    rw [List.flatMap_replicate, pairs]
  have hpair : ∀ u ∈ List.replicate n (), ∀ k,
      Reads step (spell g [tight "[", tight "]"] ++ k) (some u) k := fun _ _ => hstep
  have hread : Repeats step (_ ++ k) _ k := .each hpair (by simp)
  rwa [List.map_id', ← spell_flatMap, ← hpairs] at hread

theorem fits_second {p q : Token → Bool} {words : List String} {t : Token} (hk : Avoids words k)
    (hq : ∀ t, q t = true → t.text ∈ words) : fits [p, q] (t :: k) = false := by
  simp [fits, hk.fits hq]

/-- The tokens that a type may go on with. -/
def typeMarks : List String := ["[", ".", "<", "@"]

/-- What starts with a name, or with one of the words that stand for types, starts with no mark and
no modifier. -/
theorem avoids_typeName {t : TypeSpec} {own : List String}
    (hown : ∀ b ∈ own, Name.segments b = [b]) (h : t.name ∈ own ∨ IsDotted t.name) (space : Bool)
    {words : List String} (hwords : words ⊆ unnamed) (hnone : ∀ b ∈ own, b ∉ words) :
    Avoids words (spell g (t.words space) ++ k) := by
  obtain ⟨first, more, hsegments, heq⟩ := dotted_eq t.name
  rw [TypeSpec.words, heq]
  refine Avoids.cons.mpr ?_
  rcases h with hname | hdotted
  · obtain ⟨rfl, -⟩ : t.name = first ∧ [] = more := by
      simpa [hown _ hname] using hsegments
    exact hnone _ hname
  · exact (hdotted first (by simp [hsegments])).notMem hwords

theorem avoids_type {t : TypeSpec} (h : t.Printable) (space : Bool) {words : List String}
    (hwords : words ⊆ unnamed) (hbasic : ∀ b ∈ Token.basicTypes, b ∉ words) :
    Avoids words (spell g (t.words space) ++ k) :=
  avoids_typeName (by decide) h.name space hwords hbasic

/-- The dots of a parameter stand for one of its dimensions, so the type in front of them has one
less. -/
theorem exists_type_of_variadic {p : ParamDecl} (h : p.Printable) (hvariadic : p.variadic = true)
    (space : Bool) :
    ∃ t : TypeSpec, t.Printable ∧ p = ⟨p.name, ⟨t.name, t.dims + 1⟩, true⟩ ∧
      p.words space = t.words space ++ [tight "...", spaced p.name] := by
  have hpos := h.variadic hvariadic
  refine ⟨⟨p.type.name, p.type.dims - 1⟩, ⟨h.type.name, by simp; omega⟩, ?_, ?_⟩
  · rw [Int.sub_add_cancel, ← hvariadic]
  · have hdims : (p.type.dims - 1).toNat = p.type.dims.toNat - 1 := by omega
    rw [ParamDecl.words, if_pos hvariadic, TypeSpec.words, hdims]

theorem words_of_fixed {p : ParamDecl} (h : p.variadic = false) (space : Bool) :
    p.words space = p.type.words space ++ [spaced p.name] := by
  simp [ParamDecl.words, h]

/-- A parameter starts with a word. -/
theorem avoids_parameter {p : ParamDecl} (h : p.Printable) (space : Bool) {words : List String}
    (hwords : ∀ w ∈ words, isPlainWord w = false) :
    Avoids words (spell g (p.words space) ++ k) := by
  obtain ⟨first, more, hsegments, heq⟩ := dotted_eq p.type.name
  have hfirst : isPlainWord first = true := h.type.plain first (by simp [hsegments])
  have hp : p.words space = ⟨space, first⟩ :: (p.words space).tail := by
    unfold ParamDecl.words TypeSpec.words
    split <;> simp [heq]
  rw [hp]
  exact Avoids.cons.mpr fun hmem => absurd (hwords first hmem) (by simp [hfirst])

theorem avoids_bodyWords {words : List String} (hbrace : leftBrace ∉ words) (hend : ";" ∉ words)
    (bodied : Bool) : Avoids words (spell g (bodyWords bodied) ++ k) := by
  cases bodied <;> simpa [bodyWords]

theorem avoids_clause {keyword : String} {words : List String} (hword : keyword ∉ words)
    (ts : List TypeSpec) (hk : Avoids words k) :
    Avoids words (spell g (TypeSpec.clause keyword ts) ++ k) := by
  cases ts with
  | nil => exact hk
  | cons t ts => simpa [TypeSpec.clause] using hword

theorem avoids_extends (superclass : Option TypeSpec) {words : List String}
    (hword : "extends" ∉ words) (hk : Avoids words k) :
    Avoids words (spell g (superclass.toList.flatMap fun s => spaced "extends" :: s.words true) ++
      k) := by
  cases superclass with
  | none => exact hk
  | some s => exact Avoids.cons.mpr hword

theorem length_le_listed {α : Type} (print : Bool → α → List Word) (space : Bool) (a : α)
    (as : List α) : as.length ≤ (listed print space (a :: as)).length := by
  have hmore : as.length ≤ (as.flatMap fun b => tight "," :: print true b).length := by
    induction as with
    | nil => simp
    | cons b as ih =>
      simp only [List.flatMap_cons, List.length_cons, List.length_append]
      omega
  simp only [listed, List.length_append]
  omega

/-- What stands second in a type and what follows it. -/
theorem exists_spell_type (t : TypeSpec) (space : Bool) :
    ∃ (first : String) (tail : List Token), first ∈ Name.segments t.name ∧
      spell g (t.words space) = (⟨space, first⟩ : Word).token g :: tail ∧
      ∀ {words k}, "." ∉ words → "[" ∉ words → Avoids words k → Avoids words (tail ++ k) := by
  obtain ⟨first, more, hsegments, heq⟩ := dotted_eq t.name
  refine ⟨first, (more.flatMap fun s => spell g [tight ".", tight s]) ++
    spell g (pairs t.dims.toNat), by simp [hsegments], by simp [TypeSpec.words, heq], ?_⟩
  intro words k hpoint hbracket hk
  rw [List.append_assoc]
  exact avoids_segments hpoint more (avoids_pairs hbracket _ hk)

/-! ### Modifiers -/

section Modifiers

variable {leading : List Word} (h : AreModifiers (leading.map Word.text))

include h

theorem avoids_modifiers {words : List String}
    (hwords : ∀ w ∈ sharedModifiers, w ∉ words)
    (hk : Avoids words k) : Avoids words (spell g leading ++ k) := by
  cases leading with
  | nil => exact hk
  | cons w leading => exact Avoids.cons.mpr (hwords w.text (h.subset (by simp)))

/-- No block of code starts where a member does. -/
theorem fits_static (hk : Avoids ["static", leftBrace] k) :
    fits [Token.is "static", Token.is leftBrace] (spell g leading ++ k) = false := by
  cases leading with
  | nil => exact (hk.mono (by simp : ["static"] ⊆ _)).fits (by simp [Token.is])
  | cons w leading =>
    have hmore : AreModifiers (leading.map Word.text) := (List.sublist_cons_self _ _).trans h
    have hnext : Avoids [leftBrace] (spell g leading ++ k) :=
      avoids_modifiers hmore (by decide) (hk.mono (by simp))
    exact fits_second hnext (by simp [Token.is])

end Modifiers

theorem map_text_spaced (words : List String) : (words.map spaced).map Word.text = words := by
  simp [Function.comp_def]

/-- The words in front of a declaration, of which the first may have no space before it. -/
theorem exists_spell_row (space : Bool) (words : List String) (keyword : String) :
    ∃ (leading : List Word) (s : Bool), leading.map Word.text = words ∧
      row (fun s w => [⟨s, w⟩]) space (words ++ [keyword]) = leading ++ [⟨s, keyword⟩] := by
  cases words with
  | nil => exact ⟨[], space, rfl, rfl⟩
  | cons w words =>
    refine ⟨⟨space, w⟩ :: words.map spaced, true, ?_, ?_⟩
    · simp [Function.comp_def]
    · simp [row, List.flatMap_append, List.map_eq_flatMap, spaced]

/-- The word `static` of an import, which may be left out. -/
theorem reads_static (isStatic : Bool) (hk : Avoids ["static"] k) :
    Reads (try1 "static") (spell g (if isStatic then [spaced "static"] else []) ++ k) isStatic k := by
  cases isStatic with
  | true => exact .try1 rfl
  | false => exact .notTry1 hk (by simp)

/-- Items in a row, each with the space in front of it. -/
def flags {α : Type} (space : Bool) : List α → List (Bool × α)
  | [] => []
  | a :: as => (space, a) :: as.map fun b => (true, b)

theorem row_eq_flatMap {α : Type} (print : Bool → α → List Word) (space : Bool) (as : List α) :
    row print space as = (flags space as).flatMap fun x => print x.1 x.2 := by
  cases as <;> simp [row, flags, List.flatMap_map]

theorem map_flags {α β : Type} (f : α → β) (space : Bool) (as : List α) :
    (flags space as).map (fun x => f x.2) = as.map f := by
  cases as <;> simp [flags]

theorem map_snd_flags {α : Type} (space : Bool) (as : List α) :
    (flags space as).map Prod.snd = as :=
  (map_flags id space as).trans (List.map_id as)

theorem mem_of_mem_flags {α : Type} {space : Bool} {as : List α} {x : Bool × α}
    (h : x ∈ flags space as) : x.2 ∈ as := by
  have hmem := List.mem_map_of_mem (f := Prod.snd) h
  rwa [map_snd_flags] at hmem

/-- A row of items, each read by one step wherever it stands. -/
theorem repeats_row {α β : Type} {step : Reader (Option β)} {print : Bool → α → List Word}
    {items : List α} {value : α → β}
    (hstep : ∀ a ∈ items, ∀ space k, Reads step (spell g (print space a) ++ k) (some (value a)) k)
    (hprint : ∀ space a, print space a ≠ []) (space : Bool) :
    Repeats step (spell g (row print space items) ++ k) (items.map value) k := by
  rw [row_eq_flatMap, spell_flatMap, ← map_flags value space items]
  exact .each (fun x hx => hstep x.2 (mem_of_mem_flags hx) x.1)
    fun x _ => by simpa [spell] using hprint x.1 x.2

theorem filter_contains_of_sublist {words all : List String} (h : words.Sublist all)
    (hnodup : all.Nodup) : all.filter words.contains = words := by
  induction h with
  | slnil => rfl
  | @cons words all w hsub ih =>
    obtain ⟨hw, hnodup⟩ := List.nodup_cons.mp hnodup
    have hnot : w ∉ words := fun hmem => hw (hsub.subset hmem)
    rw [List.filter_cons_of_neg (by simpa using hnot), ih hnodup]
  | @cons_cons words all w hsub ih =>
    obtain ⟨hw, hnodup⟩ := List.nodup_cons.mp hnodup
    have hsame : all.filter (w :: words).contains = all.filter words.contains := by
      refine List.filter_congr fun v hv => ?_
      have hne : v ≠ w := ne_of_mem_of_not_mem hv hw
      simp [hne]
    rw [List.filter_cons_of_pos (by simp), hsame, ih hnodup]

theorem ordered_eq_self {words : List String} (h : AreModifiers words) :
    Modifier.ordered words = words :=
  filter_contains_of_sublist (h.trans (by decide)) (by decide)

/-! ### Members -/

/-- The words that are keywords where a member starts. -/
def memberWords : List String :=
  ["void", "class", "enum", "interface", "record", "@", "<", ";", leftBrace, rightBrace] ++
    Modern.modifierWords

theorem eq_of_returns {m : MethodDecl} {t : TypeSpec} (hreturns : m.returns = some t)
    (hcon : m.isConstructor = false) :
    (⟨m.name, some t, m.params, m.modifiers, false, m.throws⟩ : MethodDecl) = m := by
  rw [← hreturns, ← hcon]

theorem eq_of_constructed {m : MethodDecl} (h : m.Printable) (hcon : m.isConstructor = true) :
    (⟨m.name, none, m.params, m.modifiers, true, m.throws⟩ : MethodDecl) = m := by
  rw [← h.constructed hcon, ← hcon]

theorem words_void : TypeSpec.words true ⟨"void", 0⟩ = [spaced "void"] := by decide

section Types

variable {t : TypeDecl}

theorem modifiers_of_printable (h : t.Printable) : AreModifiers t.modifiers := by
  cases h
  assumption

theorem kind_of_printable (h : t.Printable) : t.kind = .classType ∨ t.kind = .interfaceType := by
  cases h
  assumption

/-- The keyword of a type is none of the others. -/
theorem avoids_keyword (h : t.Printable) {words : List String}
    (hwords : "class" ∉ words ∧ "interface" ∉ words) (space : Bool) :
    Avoids words ((⟨space, t.kind.word⟩ : Word).token g :: k) := by
  refine Avoids.cons.mpr ?_
  rcases kind_of_printable h with hkind | hkind
  · simpa [hkind, TypeKind.word] using hwords.1
  · simpa [hkind, TypeKind.word] using hwords.2

theorem spell_field (f : FieldDecl) :
    spell g f.words ++ k = spell g (f.modifiers.map spaced) ++
      (spell g (f.type.words true) ++ (spaced f.name).token g :: (tight ";").token g :: k) := by
  simp [FieldDecl.words]

theorem spell_method {m : MethodDecl} {t : TypeSpec} (hreturns : m.returns = some t)
    (bodied : Bool) :
    spell g (m.words bodied) ++ k = spell g (m.modifiers.map spaced) ++
      (spell g (t.words true) ++ (spaced m.name).token g :: (spell g (m.rest bodied) ++ k)) := by
  simp [MethodDecl.words, hreturns]

theorem spell_constructor {m : MethodDecl} (hreturns : m.returns = none) (bodied : Bool) :
    spell g (m.words bodied) ++ k = spell g (m.modifiers.map spaced) ++
      (spaced m.name).token g :: (spell g (m.rest bodied) ++ k) := by
  simp [MethodDecl.words, hreturns]

/-- The words of a type: its modifiers, its keyword, and what follows. -/
theorem exists_spell_typeDecl (style : Style) (h : t.Printable) (space : Bool) :
    ∃ (leading : List Word) (s : Bool), leading.map Word.text = t.modifiers ∧
      AreModifiers (leading.map Word.text) ∧
      spell g (t.words style space) ++ k = spell g leading ++
        (⟨s, t.kind.word⟩ : Word).token g :: (spell g (t.rest style) ++ k) := by
  obtain ⟨leading, s, htexts, hrow⟩ := exists_spell_row space t.modifiers t.kind.word
  exact ⟨leading, s, htexts, htexts ▸ modifiers_of_printable h, by simp [TypeDecl.words_eq, hrow]⟩

/-- The words of a type after its keyword, with the braces of its body. -/
theorem spell_rest (style : Style) (t : TypeDecl) : spell g (t.rest style) ++ k =
    (spaced t.name).token g ::
      (spell g (t.superclass.toList.flatMap fun s => spaced "extends" :: s.words true) ++
        (spell g (TypeSpec.clause t.kind.interfaceWord t.interfaces) ++ (spaced leftBrace).token g ::
          (spell g (t.body style) ++ (spaced rightBrace).token g :: k))) := by
  simp [TypeDecl.rest]

/-- How the words of a member start: with modifiers, then with a word that is none. -/
theorem field_spell {f : FieldDecl} (h : f.Printable) :
    ∃ core, spell g f.words ++ k = spell g (f.modifiers.map spaced) ++ core ∧
      Avoids memberWords core :=
  ⟨_, spell_field f, avoids_type h.type true (by decide) (by decide)⟩

theorem method_spell {m : MethodDecl} (h : m.Printable) (bodied : Bool) :
    ∃ core, spell g (m.words bodied) ++ k =
      spell g (m.modifiers.map spaced) ++ core ∧ Avoids (memberWords.erase "void") core := by
  have hname : IsIdentifier (spaced m.name).text := h.name
  cases hcon : m.isConstructor with
  | true => exact ⟨_, spell_constructor (h.constructed hcon) bodied, hname.avoids (by decide)⟩
  | false =>
    obtain ⟨t, hreturns, hvoid | ht⟩ := h.returns hcon
    · refine ⟨_, spell_method hreturns bodied, ?_⟩
      rw [hvoid, words_void]
      exact Avoids.cons.mpr (by decide : "void" ∉ memberWords.erase "void")
    · exact ⟨_, spell_method hreturns bodied, avoids_type ht true (by decide) (by decide)⟩

theorem type_spell (style : Style) (h : t.Printable) :
    ∃ leading core, AreModifiers (leading.map Word.text) ∧
      spell g (t.words style true) ++ k = spell g leading ++ core ∧
      Avoids ((memberWords.erase "class").erase "interface") core := by
  obtain ⟨leading, s, -, hmods, hspell⟩ := exists_spell_typeDecl style h true
  exact ⟨leading, _, hmods, hspell, avoids_keyword h (by decide) s⟩

/-- A type starts with a modifier or with its keyword. -/
theorem avoids_typeDecl {style : Style} (h : t.Printable) (space : Bool) {words : List String}
    (hwords : ∀ w ∈ sharedModifiers ++ ["class", "interface"], w ∉ words) :
    Avoids words (spell g (t.words style space) ++ k) := by
  obtain ⟨leading, s, -, hmods, hspell⟩ := exists_spell_typeDecl style h space
  rw [hspell]
  exact avoids_modifiers hmods (fun w hw => hwords w (List.mem_append_left _ hw))
    (avoids_keyword h ⟨hwords _ (by simp), hwords _ (by simp)⟩ s)

theorem avoids_typeDecls {style : Style} {types : List TypeDecl} (h : ∀ t ∈ types, t.Printable)
    (space : Bool) {words : List String}
    (hwords : ∀ w ∈ sharedModifiers ++ ["class", "interface"], w ∉ words) :
    Avoids words (spell g (row (TypeDecl.words style) space types)) := by
  cases types with
  | nil => simp [row]
  | cons t types =>
    rw [row, spell_append]
    exact avoids_typeDecl (h t (by simp)) space hwords

/-- The words of a member type are among those of the type around it. -/
theorem length_rest_lt {style : Style} {n : TypeDecl} (hn : n ∈ t.nested) :
    (n.rest style).length < (t.rest style).length := by
  obtain ⟨before, after, hnested⟩ := List.append_of_mem hn
  have hwords : (n.rest style).length ≤ (n.words style true).length := by
    simp only [TypeDecl.words_eq, List.length_append]
    omega
  have hbody : (n.words style true).length ≤ (t.body style).length := by
    simp only [TypeDecl.body, hnested, List.flatMap_append, List.flatMap_cons, List.length_append]
    omega
  have hrest : (t.body style).length + 2 ≤ (t.rest style).length := by
    simp only [TypeDecl.rest, List.length_cons, List.length_append]
    omega
  omega

theorem length_rest_le_words {style : Style} {u : UnitDecl} (ht : t ∈ u.types) :
    (t.rest style).length ≤ (u.words style).length := by
  have hflags : ∀ space, ∃ x ∈ flags space u.types, x.2 = t := fun space =>
    List.mem_map.mp ((map_snd_flags space u.types).symm ▸ ht)
  obtain ⟨⟨s, t⟩, hx, rfl⟩ := hflags (u.package ≠ "" ∨ u.imports ≠ [])
  obtain ⟨before, after, hsplit⟩ := List.append_of_mem hx
  have hwords : (t.rest style).length ≤ (t.words style s).length := by
    simp only [TypeDecl.words_eq, List.length_append]
    omega
  simp only [UnitDecl.words, row_eq_flatMap (TypeDecl.words style), hsplit, List.flatMap_append,
    List.flatMap_cons, List.length_append]
  omega

/-- The readers of a unit go deep enough for all its types. -/
theorem length_rest_le_spell {style : Style} {u : UnitDecl} (ht : t ∈ u.types) :
    (t.rest style).length ≤ 4 * (spell g (u.words style)).length + 8 := by
  have hlength : (t.rest style).length ≤ (u.words style).length := length_rest_le_words ht
  rw [length_spell]
  omega

end Types

end JavaAtlas.Java
