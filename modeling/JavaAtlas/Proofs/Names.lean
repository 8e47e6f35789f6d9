import JavaAtlas.Name

/-! Dotted names taken apart and put together again. A qualified name is its package and its class
joined, unless it starts with a dot: `within_splitQualified`. A compiled class can be meant by no
more names than its dollar signs can be read in ways: `mem_readings_of_mem_binaryNames`. -/

namespace JavaAtlas.Text

theorem toNat_lt_of_isAlphanum {c : Char} (h : c.isAlphanum = true) : c.toNat < 128 := by
  delta Char.isAlphanum Char.isAlpha Char.isUpper Char.isLower Char.isDigit at h
  simp only [Bool.or_eq_true, Bool.and_eq_true, decide_eq_true_eq, ge_iff_le,
    UInt32.le_iff_toNat_le] at h
  rcases h with (h | h) | h <;> exact Nat.lt_of_le_of_lt h.2 (by decide)

theorem splitFrom_ne_nil (sep : Char) (piece cs : List Char) : splitFrom sep piece cs ≠ [] := by
  induction cs generalizing piece with
  | nil => simp [splitFrom]
  | cons c cs ih =>
    rw [splitFrom]
    split
    · simp
    · exact ih _

/-- The pieces of a text with the separators put back between them are the text. -/
theorem intercalate_splitFrom (sep : Char) (piece cs : List Char) :
    [sep].intercalate (splitFrom sep piece cs) = piece.reverse ++ cs := by
  induction cs generalizing piece with
  | nil => simp [splitFrom]
  | cons c cs ih =>
    rw [splitFrom]
    split
    · next h =>
      obtain rfl : c = sep := by simpa using h
      rw [List.intercalate_cons_of_ne_nil (splitFrom_ne_nil c [] cs), ih]
      simp
    · rw [ih]
      simp

/-- Every character of a text is a separator or stands in a piece. -/
theorem mem_of_mem_splitFrom (sep c : Char) (piece cs : List Char) (h : c ∈ piece ∨ c ∈ cs) :
    c = sep ∨ ∃ p ∈ splitFrom sep piece cs, c ∈ p := by
  induction cs generalizing piece with
  | nil => exact .inr ⟨piece.reverse, by simp [splitFrom], by simpa using h⟩
  | cons d cs ih =>
    rw [splitFrom]
    split
    · rename_i hd
      rcases h with h | h
      · exact .inr ⟨piece.reverse, by simp, by simpa using h⟩
      · rcases List.mem_cons.mp h with rfl | h
        · exact .inl (by simpa using hd)
        · rcases ih [] (.inr h) with hsep | ⟨p, hp, hc⟩
          · exact .inl hsep
          · exact .inr ⟨p, by simp [hp], hc⟩
    · refine ih (d :: piece) ?_
      rcases h with h | h
      · exact .inl (by simp [h])
      · rcases List.mem_cons.mp h with rfl | h
        · exact .inl (by simp)
        · exact .inr h

theorem splitFrom_append {sep : Char} {piece : List Char} (h : sep ∉ piece) (acc rest : List Char) :
    splitFrom sep acc (piece ++ rest) = splitFrom sep (piece.reverse ++ acc) rest := by
  induction piece generalizing acc with
  | nil => rfl
  | cons c piece ih =>
    have hc : (c == sep) = false := by
      rw [beq_eq_false_iff_ne]
      exact fun heq => h (by simp [heq])
    rw [List.cons_append, splitFrom, hc, if_neg (by simp), ih fun hmem => h (by simp [hmem])]
    simp

theorem splitAt_append {sep : Char} {piece : List Char} (h : sep ∉ piece) (rest : List Char) :
    splitAt sep (piece ++ sep :: rest) = piece :: splitAt sep rest := by
  rw [splitAt, splitFrom_append h, splitFrom]
  simp [splitAt]

theorem splitAt_eq_singleton {sep : Char} {piece : List Char} (h : sep ∉ piece) :
    splitAt sep piece = [piece] := by
  have hcut := splitFrom_append h [] []
  rw [List.append_nil, List.append_nil] at hcut
  rw [splitAt, hcut, splitFrom, List.reverse_reverse]

/-- No piece holds the separator. -/
theorem notMem_of_mem_splitFrom {sep : Char} {piece cs p : List Char} (hpiece : sep ∉ piece)
    (hp : p ∈ splitFrom sep piece cs) : sep ∉ p := by
  induction cs generalizing piece with
  | nil =>
    obtain rfl : p = piece.reverse := by simpa [splitFrom] using hp
    simpa using hpiece
  | cons c cs ih =>
    rw [splitFrom] at hp
    split at hp
    · rcases List.mem_cons.mp hp with rfl | hp
      · simpa using hpiece
      · exact ih (by simp) hp
    · next hc =>
      refine ih ?_ hp
      rintro hmem
      rcases List.mem_cons.mp hmem with rfl | hmem
      · simp at hc
      · exact hpiece hmem

/-- Pieces with separators between them are the pieces of that text. -/
theorem splitAt_intercalate {sep : Char} {ps : List (List Char)} (hne : ps ≠ [])
    (hps : ∀ p ∈ ps, sep ∉ p) : splitAt sep ([sep].intercalate ps) = ps := by
  induction ps with
  | nil => exact absurd rfl hne
  | cons p ps ih =>
    have hp := hps p List.mem_cons_self
    by_cases hnil : ps = []
    · simp [hnil, splitAt_eq_singleton hp]
    · rw [List.intercalate_cons_of_ne_nil hnil, List.append_assoc, List.singleton_append,
        splitAt_append hp, ih hnil fun q hq => hps q (List.mem_cons_of_mem p hq)]

theorem mem_intercalate {sep : Char} {ps : List (List Char)} {p : List Char} (hp : p ∈ ps)
    {c : Char} (hc : c ∈ p) : c ∈ [sep].intercalate ps := by
  induction ps with
  | nil => cases hp
  | cons q ps ih =>
    by_cases hnil : ps = []
    · subst hnil
      obtain rfl := List.mem_singleton.mp hp
      simpa using hc
    · rw [List.intercalate_cons_of_ne_nil hnil, List.append_assoc]
      rcases List.mem_cons.mp hp with rfl | hp
      · exact List.mem_append_left _ hc
      · exact List.mem_append_right _ (List.mem_append_right _ (ih hp))

end JavaAtlas.Text

namespace JavaAtlas.Name

/-! ### Segments -/

theorem segments_ne_nil (name : String) : segments name ≠ [] := by
  intro h
  exact Text.splitFrom_ne_nil '.' [] name.toList (List.map_eq_nil_iff.mp h)

@[simp] theorem join_segments (name : String) : join (segments name) = name := by
  apply String.toList_inj.mp
  have hmap : (segments name).map String.toList = Text.splitAt '.' name.toList := by
    simp [segments]
  rw [join, String.toList_intercalate, hmap]
  exact Text.intercalate_splitFrom '.' [] name.toList

theorem mem_of_mem_last {name : String} {c : Char} (h : c ∈ (last name).toList) :
    c ∈ name.toList := by
  obtain ⟨piece, hpiece, heq⟩ : ∃ p ∈ Text.splitAt '.' name.toList, String.ofList p = last name := by
    rw [← List.mem_map, last, List.getLastD_eq_getLast?,
      List.getLast?_eq_some_getLast (segments_ne_nil name)]
    exact List.getLast_mem _
  rw [← heq, String.toList_ofList] at h
  have hmem : c ∈ ['.'].intercalate (Text.splitAt '.' name.toList) :=
    Text.mem_intercalate hpiece h
  rwa [Text.splitAt, Text.intercalate_splitFrom] at hmem

theorem segments_eq_singleton {name : String} (h : '.' ∉ name.toList) : segments name = [name] := by
  simp [segments, Text.splitAt_eq_singleton h]

theorem last_eq_self {name : String} (h : '.' ∉ name.toList) : last name = name := by
  rw [last, segments_eq_singleton h]
  rfl

theorem join_append {xs ys : List String} (hx : xs ≠ []) (hy : ys ≠ []) :
    join (xs ++ ys) = join xs ++ "." ++ join ys :=
  String.intercalate_append_of_ne_nil hx hy

theorem join_concat {xs : List String} (h : xs ≠ []) (x : String) :
    join (xs ++ [x]) = join xs ++ "." ++ x := by
  rw [join_append h (by simp)]
  simp [join]

/-- Joining the last two segments first makes no difference. -/
theorem join_append_pair (xs : List String) (a b : String) :
    join (xs ++ [a, b]) = join (xs ++ [a ++ "." ++ b]) := by
  have hpair : join [a, b] = join [a ++ "." ++ b] := by simp [join]
  by_cases hx : xs = []
  · simp [hx, hpair]
  · rw [join_append hx (by simp), join_append hx (by simp), hpair]

/-! ### Package and class -/

/-- No segment of a package starts in upper case, and the first one of a class does, unless it is
the only one. -/
structure Parted (package rest : List String) : Prop where
  lower : ∀ part ∈ package, Text.startsUpper part = false
  upper : ∃ part parts, rest = part :: parts ∧ (Text.startsUpper part = true ∨ parts = [])

theorem parted_takeWhile (front : List String) (final : String) :
    Parted (front.takeWhile fun part => !Text.startsUpper part)
      (front.dropWhile (fun part => !Text.startsUpper part) ++ [final]) where
  lower := by
    intro part hpart
    have hall := List.all_eq_true.mp (List.all_takeWhile (l := front)) part hpart
    simpa using hall
  upper := by
    cases hdrop : front.dropWhile fun part => !Text.startsUpper part with
    | nil => exact ⟨final, [], rfl, Or.inr rfl⟩
    | cons part parts =>
      have hpart := List.head?_dropWhile_not (fun part => !Text.startsUpper part) front
      rw [hdrop] at hpart
      exact ⟨part, parts ++ [final], rfl, Or.inl (by simpa using hpart)⟩

/-- The package of a name is a beginning of it, in front of at least one segment. -/
theorem splitQualified_eq (name : String) :
    ∃ package rest : List String, Parted package rest ∧ segments name = package ++ rest ∧
      splitQualified name = (join package, join rest) := by
  obtain ⟨front, final, hname⟩ : ∃ front final, segments name = front ++ [final] :=
    ⟨_, _, (List.dropLast_concat_getLast (segments_ne_nil name)).symm⟩
  have hsegments : segments name = front.takeWhile (fun part => !Text.startsUpper part) ++
      (front.dropWhile (fun part => !Text.startsUpper part) ++ [final]) := by
    rw [← List.append_assoc, List.takeWhile_append_dropWhile, hname]
  refine ⟨_, _, parted_takeWhile front final, hsegments, ?_⟩
  have hfront : (segments name).dropLast = front := by rw [hname, List.dropLast_concat]
  simp only [splitQualified, hfront]
  rw [hsegments, List.drop_left]

/-- A qualified name is its package and its class. A dot in front would get lost. -/
theorem within_splitQualified {name : String} (h : name.toList.head? ≠ some '.') :
    within (splitQualified name).1 (splitQualified name).2 = name := by
  obtain ⟨package, rest, hparted, hsegments, hsplit⟩ := splitQualified_eq name
  have hrest : rest ≠ [] := by
    obtain ⟨part, parts, rfl, -⟩ := hparted.upper
    simp
  have hname : join (package ++ rest) = name := by rw [← hsegments, join_segments]
  rw [hsplit, within]
  by_cases hp : package = []
  · subst hp
    simpa [join] using hname
  · rw [join_append hp hrest] at hname
    by_cases he : join package = ""
    · exfalso
      apply h
      rw [← hname, he]
      simp
    · have hne : (join package).isEmpty = false := by simpa using he
      simp only [hne, Bool.false_eq_true, if_false]
      exact hname

/-! ### Binary names -/

/-- The names that a binary name may stand for: each dollar sign is one, or stands for a dot. -/
def readings : List Char → List (List Char)
  | [] => [[]]
  | c :: cs =>
    if c = '$' then (readings cs).map ('$' :: ·) ++ (readings cs).map ('.' :: ·)
    else (readings cs).map (c :: ·)

theorem length_readings (cs : List Char) : (readings cs).length = Nat.pow 2 (cs.count '$') := by
  induction cs with
  | nil => rfl
  | cons c cs ih =>
    by_cases h : c = '$'
    · simp only [readings, h, if_true, List.length_append, List.length_map, ih,
        List.count_cons_self, Nat.pow_eq, Nat.pow_succ]
      omega
    · simp only [readings, h, if_false, List.length_map, ih, List.count_cons_of_ne h]

theorem self_mem_readings (cs : List Char) : cs ∈ readings cs := by
  induction cs with
  | nil => simp [readings]
  | cons c cs ih =>
    by_cases h : c = '$' <;> simp [readings, h, ih]

theorem append_mem_readings {cs ds bs es : List Char} (hc : cs ∈ readings bs)
    (hd : ds ∈ readings es) : cs ++ ds ∈ readings (bs ++ es) := by
  induction bs generalizing cs with
  | nil =>
    obtain rfl : cs = [] := by simpa [readings] using hc
    exact hd
  | cons b bs ih =>
    by_cases h : b = '$'
    · simp only [readings, h, if_true, List.mem_append, List.mem_map, List.cons_append] at hc ⊢
      rcases hc with ⟨xs, hx, rfl⟩ | ⟨xs, hx, rfl⟩
      · exact Or.inl ⟨xs ++ ds, ih hx, rfl⟩
      · exact Or.inr ⟨xs ++ ds, ih hx, rfl⟩
    · simp only [readings, h, if_false, List.mem_map, List.cons_append] at hc ⊢
      obtain ⟨xs, hx, rfl⟩ := hc
      exact ⟨xs ++ ds, ih hx, rfl⟩

/-- In the binary forms of a name, dots have become dollar signs and nothing else has changed. -/
theorem mem_readings_of_mem_binaryForms {parts : List String} {full last b : String}
    (hfull : full.toList ∈ readings last.toList) (hb : b ∈ binaryForms last parts) :
    (join (parts.reverse ++ [full])).toList ∈ readings b.toList := by
  induction parts generalizing full last with
  | nil =>
    obtain rfl : b = last := by simpa [binaryForms] using hb
    simpa [join] using hfull
  | cons part parts ih =>
    rw [binaryForms] at hb
    have hjoin : (part :: parts).reverse ++ [full] = parts.reverse ++ [part, full] := by simp
    rw [hjoin]
    rcases List.mem_cons.mp hb with rfl | hb
    · have hsplit : ∀ x : String, join (parts.reverse ++ [part, x]) =
          join (parts.reverse ++ [part]) ++ "." ++ x := by
        intro x
        have happ : parts.reverse ++ [part, x] = (parts.reverse ++ [part]) ++ [x] := by simp
        rw [happ, join_append (by simp) (by simp)]
        simp [join]
      simp only [hsplit, String.toList_append]
      exact append_mem_readings (self_mem_readings _) hfull
    · split at hb
      · rw [join_append_pair]
        refine ih ?_ hb
        have hdot : ".".toList ∈ readings "$".toList := by decide
        simp only [String.toList_append]
        exact append_mem_readings (append_mem_readings (self_mem_readings _) hdot) hfull
      · simp at hb

/-- A name is one of the readings of every binary name under which its class may be stored. -/
theorem mem_readings_of_mem_binaryNames {name b : String} (hb : b ∈ binaryNames name) :
    name.toList ∈ readings b.toList := by
  rw [binaryNames] at hb
  split at hb
  · obtain rfl : b = name := by simpa using hb
    exact self_mem_readings _
  · next last parts hparts =>
    have hname : join (parts.reverse ++ [last]) = name := by
      have hseg : segments name = parts.reverse ++ [last] := by
        rw [← List.reverse_cons, ← hparts, List.reverse_reverse]
      rw [← hseg, join_segments]
    rw [← hname]
    exact mem_readings_of_mem_binaryForms (self_mem_readings _) hb

end JavaAtlas.Name
