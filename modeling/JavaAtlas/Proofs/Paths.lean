import JavaAtlas.File.Path
import JavaAtlas.Proofs.Names

/-! Paths and their texts. The text of a path denotes that path again and ends in its last component,
while other texts of the path may have a dot or a slash behind that: `ofText_text`,
`exists_steps_dot`. -/

namespace JavaAtlas.File.Path

theorem pieces_ne_nil (text : String) : pieces text ≠ [] := by
  intro h
  exact Text.splitFrom_ne_nil '/' [] text.toList (List.map_eq_nil_iff.mp h)

theorem slash_notMem_of_mem_pieces {text p : String} (h : p ∈ pieces text) : '/' ∉ p.toList := by
  obtain ⟨cs, hcs, rfl⟩ := List.mem_map.mp h
  rw [String.toList_ofList]
  exact Text.notMem_of_mem_splitFrom (by simp) hcs

theorem rootOf_cases (cs : List Char) : rootOf cs = "" ∨ rootOf cs = "/" ∨ rootOf cs = "//" := by
  unfold rootOf
  split <;> simp

/-- A path as texts denote it: with a root of at most two slashes and with components that are
neither empty nor a dot and hold no slash. -/
structure Proper (p : Path) : Prop where
  root : p.root = "" ∨ p.root = "/" ∨ p.root = "//"
  parts : ∀ x ∈ p.parts, x ≠ "" ∧ x ≠ "." ∧ '/' ∉ x.toList

theorem proper_ofText (text : String) : Proper (ofText text) where
  root := rootOf_cases text.toList
  parts x hx := by
    obtain ⟨hpiece, hx⟩ := List.mem_filter.mp hx
    simp only [Bool.and_eq_true, bne_iff_ne] at hx
    exact ⟨hx.1, hx.2, slash_notMem_of_mem_pieces hpiece⟩

theorem parts_eq {p : Path} (h : p.name ≠ "") : p.parts = p.parts.dropLast ++ [p.name] := by
  rw [name, List.getLastD_eq_getLast?] at h ⊢
  cases hlast : p.parts.getLast? with
  | none => simp [hlast] at h
  | some x =>
    obtain ⟨xs, hxs⟩ := List.getLast?_eq_some_iff.mp hlast
    simp [hxs]

theorem name_mem_parts {p : Path} (h : p.name ≠ "") : p.name ∈ p.parts := by
  rw [parts_eq h]
  simp

/-- A path with a last component as text. -/
theorem toList_text {p : Path} (h : p.name ≠ "") :
    p.text.toList = p.root.toList ++ ['/'].intercalate (p.parts.map String.toList) := by
  have hall : (p.root ++ "/".intercalate p.parts).toList =
      p.root.toList ++ ['/'].intercalate (p.parts.map String.toList) := by
    rw [String.toList_append, String.toList_intercalate]
    rfl
  have hne : (p.root ++ "/".intercalate p.parts).isEmpty = false := by
    obtain ⟨c, hc⟩ : ∃ c, c ∈ p.name.toList := by
      apply List.exists_mem_of_ne_nil
      simpa using h
    have hmem : c ∈ (p.root ++ "/".intercalate p.parts).toList := by
      rw [hall]
      exact List.mem_append_right _
        (Text.mem_intercalate (List.mem_map_of_mem (name_mem_parts h)) hc)
    rw [String.isEmpty_eq_false_iff]
    rintro hempty
    simp [hempty] at hmem
  rw [text, if_neg (by simp [hne]), hall]

/-- The pieces of a path's text are its components behind an empty piece for each slash in front. -/
theorem Proper.pieces_text {p : Path} (hp : p.Proper) (h : p.name ≠ "") :
    pieces p.text = p.root.toList.map (fun _ => "") ++ p.parts := by
  have hne : p.parts.map String.toList ≠ [] := by
    simpa using List.ne_nil_of_mem (name_mem_parts h)
  have hsplit : Text.splitAt '/' (['/'].intercalate (p.parts.map String.toList)) =
      p.parts.map String.toList := by
    refine Text.splitAt_intercalate hne fun cs hcs => ?_
    obtain ⟨x, hx, rfl⟩ := List.mem_map.mp hcs
    exact (hp.parts x hx).2.2
  have hslash (cs : List Char) : Text.splitAt '/' ('/' :: cs) = [] :: Text.splitAt '/' cs :=
    Text.splitAt_append List.not_mem_nil cs
  have hparts : (p.parts.map String.toList).map String.ofList = p.parts := by simp
  rw [pieces, toList_text h]
  rcases hp.root with hroot | hroot | hroot
  · rw [hroot]
    simp [hsplit]
  · rw [hroot]
    simp [hslash, hsplit]
  · rw [hroot]
    simp [hslash, hsplit]

theorem Proper.rootOf_text {p : Path} (hp : p.Proper) (h : p.name ≠ "") :
    rootOf p.text.toList = p.root := by
  rw [toList_text h]
  obtain ⟨x, xs, hparts⟩ := List.exists_cons_of_ne_nil (List.ne_nil_of_mem (name_mem_parts h))
  obtain ⟨hempty, -, hslash⟩ := hp.parts x (by simp [hparts])
  obtain ⟨c, cs, hx⟩ := List.exists_cons_of_ne_nil (mt String.toList_eq_nil_iff.mp hempty)
  have hc : c ≠ '/' := fun heq => hslash (by simp [hx, heq])
  obtain ⟨rest, hrest⟩ : ∃ rest, ['/'].intercalate (p.parts.map String.toList) = c :: rest := by
    rw [hparts, List.map_cons, hx]
    cases xs with
    | nil => exact ⟨cs, by simp⟩
    | cons y ys =>
      rw [List.intercalate_cons_of_ne_nil (by simp)]
      exact ⟨_, rfl⟩
  rw [hrest]
  rcases hp.root with hroot | hroot | hroot <;> rw [hroot] <;> simp [rootOf, hc]

/-- A path that a text denotes is also denoted by its own text, which ends in its last component. -/
theorem ofText_text {text : String} (h : (ofText text).name ≠ "") :
    ofText (ofText text).text = ofText text ∧
      (pieces (ofText text).text).getLast? = some (ofText text).name := by
  have hp := proper_ofText text
  have hpieces := hp.pieces_text h
  constructor
  · rw [ofText, hp.rootOf_text h, hpieces, List.filter_append]
    have hblank : ((ofText text).root.toList.map fun _ => "").filter
        (fun x => x != "" && x != ".") = [] := by
      refine List.filter_eq_nil_iff.mpr fun x hx => ?_
      obtain ⟨_, _, rfl⟩ := List.mem_map.mp hx
      simp
    have hkept : (ofText text).parts.filter (fun x => x != "" && x != ".") =
        (ofText text).parts := by
      refine List.filter_eq_self.mpr fun x hx => ?_
      obtain ⟨hempty, hdot, -⟩ := hp.parts x hx
      simp [hempty, hdot]
    rw [hblank, hkept, List.nil_append]
  · rw [hpieces, parts_eq h]
    simp

/-! ### Steps of a text -/

/-- The steps that a text leads by. A slash at the end is a step to where one stands. -/
def steps (text : String) : List String :=
  (pieces text).dropLast.filter (· != "") ++
    [if ((pieces text).getLastD "").isEmpty then "." else (pieces text).getLastD ""]

section Steps

variable {text : String} {front : List String} {last : String}

theorem exists_pieces (text : String) : ∃ front last, pieces text = front ++ [last] :=
  ⟨_, _, (List.dropLast_concat_getLast (pieces_ne_nil text)).symm⟩

theorem steps_eq (h : pieces text = front ++ [last]) :
    steps text = front.filter (· != "") ++ [if last.isEmpty then "." else last] := by
  simp [steps, h]

theorem filter_front (front : List String) :
    (front.filter (· != "")).filter (· != ".") = front.filter fun p => p != "" && p != "." := by
  rw [List.filter_filter]
  exact List.filter_congr fun x _ => Bool.and_comm ..

/-- Without the dots, the steps are the components of the path. -/
theorem filter_steps (text : String) : (steps text).filter (· != ".") = (ofText text).parts := by
  obtain ⟨front, last, hpieces⟩ := exists_pieces text
  rw [steps_eq hpieces, ofText, hpieces, List.filter_append, List.filter_append, filter_front]
  by_cases hlast : last = ""
  · simp [hlast]
  · simp [hlast, List.filter_cons]

/-- A text that ends in the last component of its path has this as its last step. -/
theorem exists_steps (hname : (ofText text).name ≠ "")
    (hlast : (pieces text).getLast? = some (ofText text).name) :
    ∃ front, steps text = front ++ [(ofText text).name] ∧
      front.filter (· != ".") = (ofText text).parts.dropLast := by
  obtain ⟨front, last, hpieces⟩ := exists_pieces text
  obtain rfl : last = (ofText text).name := by simpa [hpieces] using hlast
  refine ⟨front.filter (· != ""), ?_, ?_⟩
  · rw [steps_eq hpieces, if_neg (by simpa using hname)]
  · have hkept := filter_steps text
    have hdot : (ofText text).name ≠ "." :=
      ((proper_ofText text).parts _ (name_mem_parts hname)).2.1
    rw [steps_eq hpieces, if_neg (by simpa using hname), List.filter_append,
      List.filter_cons_of_pos (by simpa using hdot)] at hkept
    rw [← hkept, List.filter_nil, List.dropLast_concat]

/-- Any other text has a step to where one stands at its end. -/
theorem exists_steps_dot
    (hlast : (pieces text).getLast? ≠ some (ofText text).name) :
    ∃ front, steps text = front ++ ["."] := by
  obtain ⟨front, last, hpieces⟩ := exists_pieces text
  refine ⟨front.filter (· != ""), ?_⟩
  rw [steps_eq hpieces]
  by_cases hempty : last = ""
  · rw [if_pos (by simpa using hempty)]
  by_cases hdot : last = "."
  · rw [if_neg (by simpa using hempty), hdot]
  -- otherwise the last piece is the last component
  · refine absurd ?_ hlast
    have hparts : (ofText text).parts = front.filter (fun p => p != "" && p != ".") ++ [last] := by
      simp [ofText, hpieces, hempty, hdot]
    simp [hpieces, name, hparts]

end Steps

/-! ### Longer endings -/

theorem name_withEnding (p : Path) (ending : String) :
    (p.withEnding ending).name = p.name ++ ending := by
  simp [withEnding, name]

theorem dropLast_withEnding (p : Path) (ending : String) :
    (p.withEnding ending).parts.dropLast = p.parts.dropLast := by
  simp [withEnding]

theorem name_withEnding_ne {p : Path} (h : p.name ≠ "") (ending : String) :
    (p.withEnding ending).name ≠ "" := by
  rw [name_withEnding]
  intro hempty
  exact h (String.append_eq_empty_iff.mp hempty).1

/-- A character of a text other than slashes and dots stands in the text of the path, too, also with
a longer ending. -/
theorem mem_text_withEnding {text : String} (h : (ofText text).name ≠ "") {c : Char}
    (hc : c ∈ text.toList) (hslash : c ≠ '/') (hdot : c ≠ '.') (ending : String) :
    c ∈ ((ofText text).withEnding ending).text.toList := by
  rcases Text.mem_of_mem_splitFrom '/' c [] text.toList (.inr hc) with rfl | ⟨cs, hcs, hmem⟩
  · exact absurd rfl hslash
  have hpart : String.ofList cs ∈ (ofText text).parts := by
    refine List.mem_filter.mpr ⟨List.mem_map_of_mem hcs, ?_⟩
    have hne {x : String} (hx : c ∉ x.toList) : String.ofList cs ≠ x := by
      rintro rfl
      exact hx (by simpa using hmem)
    simp [hne (x := "") (by simp), hne (x := ".") (by simpa using hdot)]
  rw [parts_eq h] at hpart
  rw [toList_text (name_withEnding_ne h ending)]
  apply List.mem_append_right
  rcases List.mem_append.mp hpart with hpart | hpart
  · refine Text.mem_intercalate (p := cs) ?_ hmem
    exact List.mem_map.mpr ⟨_, List.mem_append_left _ hpart, by simp⟩
  · have hname : (ofText text).name.toList = cs := by
      rw [← List.mem_singleton.mp hpart, String.toList_ofList]
    refine Text.mem_intercalate (p := cs ++ ending.toList) ?_ (List.mem_append_left _ hmem)
    exact List.mem_map.mpr ⟨_, List.mem_append_right _ (List.mem_singleton_self _), by simp [hname]⟩

end JavaAtlas.File.Path
