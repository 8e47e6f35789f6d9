import JavaAtlas.Entry
import JavaAtlas.Proofs.ListingText
import JavaAtlas.TypeRef
import JavaAtlas.Workspace

/-! Displayed types. A reference is shown as a name with a pair of brackets for each dimension, and
an entry writes a type in the same way, with three dots for the last dimension of a variable-arity
parameter. Reading counts the pairs of brackets and takes them away wherever they stand, so the name
must not hold one; then none can arise where name and brackets meet: `Entry.readType_displayed`. -/

namespace JavaAtlas

theorem TypeRef.toList_brackets (k : Nat) :
    (TypeRef.brackets k).toList = (List.replicate k ['[', ']']).flatten := by
  induction k with
  | zero => rfl
  | succ k ih =>
    have hbrackets : TypeRef.brackets (k + 1 : Nat) = "[]" ++ TypeRef.brackets k := by
      simp [TypeRef.brackets, List.replicate_succ]
    rw [hbrackets, String.toList_append, ih, List.replicate_succ, List.flatten_cons]
    rfl

/-- What is made of an answer is answered where the answer is. -/
theorem Workspace.run_map {α β : Type} (f : α → β) (q : Query α) (w : Workspace) :
    (w.run (q >>= fun a => .answer (f a))).1 = (w.run q).1.map f := by
  induction q generalizing w with
  | answer a => rfl
  | home unit next ih => exact ih _ w
  | sources id next ih => exact ih _ w
  | reach next ih => exact ih _ w
  | find id name next ih =>
    rw [Query.find_bind, run, run]
    rcases w.find id name with ⟨_ | found, after⟩
    · rfl
    · exact ih found after

namespace Entry

/-! ### Brackets -/

theorem stripBrackets_cons {c : Char} {cs : List Char} (h : ¬['[', ']'] <+: c :: cs) :
    stripBrackets (c :: cs) = (c :: (stripBrackets cs).1, (stripBrackets cs).2) := by
  rw [stripBrackets.eq_def]
  split
  · next heq => cases heq
  · next heq =>
    rw [heq] at h
    exact absurd ⟨_, rfl⟩ h
  · next heq =>
    obtain ⟨rfl, rfl⟩ := List.cons.inj heq
    rfl

theorem stripBrackets_pairs (k : Nat) :
    stripBrackets (List.replicate k ['[', ']']).flatten = ([], k) := by
  induction k with
  | zero => rfl
  | succ k ih =>
    rw [List.replicate_succ, List.flatten_cons]
    simp [stripBrackets, ih]

/-- A name without a pair of brackets is kept, and so is the number of pairs behind it. -/
theorem stripBrackets_append {cs : List Char} (h : ¬['[', ']'] <:+: cs) (k : Nat) :
    stripBrackets (cs ++ (List.replicate k ['[', ']']).flatten) = (cs, k) := by
  induction cs with
  | nil => exact stripBrackets_pairs k
  | cons c cs ih =>
    have hrest := ih fun hpair => h (hpair.trans (List.suffix_cons c cs).isInfix)
    -- a pair at the front would be one of the name, or would begin with its last character
    have hfront : ¬['[', ']'] <+: c :: (cs ++ (List.replicate k ['[', ']']).flatten) := by
      intro hpair
      rw [List.cons_prefix_cons] at hpair
      obtain ⟨hopen, hclose⟩ := hpair
      cases cs with
      | nil => cases k <;> simp [List.replicate_succ] at hclose
      | cons d cs =>
        rw [List.cons_append, List.cons_prefix_cons] at hclose
        obtain ⟨hclose, -⟩ := hclose
        exact h ⟨[], cs, by rw [hopen, hclose]; rfl⟩
    rw [List.cons_append, stripBrackets_cons hfront, hrest]

/-! ### Types -/

/-- A name that can be told apart from the brackets and dots behind it. -/
structure IsBare (name : String) : Prop where
  noBrackets : ¬['[', ']'] <:+: name.toList
  noDots : ¬['.', '.', '.'] <:+ name.toList
  first : ∀ c ∈ name.toList.head?, Text.isBlank c = false
  last : ∀ c ∈ name.toList.getLast?, Text.isBlank c = false

variable {name : String}

theorem IsBare.trim_eq (h : IsBare name) : Text.trim name.toList = name.toList := by
  by_cases hempty : name.toList = []
  · rw [hempty]
    rfl
  · have hkept := Text.trim_append hempty h.first h.last []
    rwa [List.append_nil, show Text.trimRight [] = [] from rfl, List.append_nil] at hkept

theorem isVariadic_eq_false_iff {text : String} :
    isVariadic text = false ↔ ¬['.', '.', '.'] <:+ text.toList := by
  rw [isVariadic, ← Bool.not_eq_true, List.isSuffixOf_iff_suffix]

theorem IsBare.isVariadic_brackets (h : IsBare name) (k : Nat) :
    isVariadic (name ++ TypeRef.brackets k) = false := by
  rw [isVariadic_eq_false_iff, String.toList_append, TypeRef.toList_brackets]
  cases k with
  | zero => simpa using h.noDots
  | succ k =>
    rintro ⟨front, hfront⟩
    have hlast := congrArg List.getLast? hfront
    rw [List.replicate_succ', List.flatten_concat] at hlast
    simp at hlast

theorem readType_of_not_variadic {text : String} (h : isVariadic text = false) :
    readType text =
      ⟨String.ofList (Text.trim (stripBrackets text.toList).1), (stripBrackets text.toList).2⟩ := by
  simp [readType, h]

theorem isVariadic_dots (text : String) : isVariadic (text ++ "...") = true := by
  rw [isVariadic, List.isSuffixOf_iff_suffix, String.toList_append]
  exact List.suffix_append _ _

theorem readType_dots (text : String) :
    readType (text ++ "...") =
      ⟨String.ofList (Text.trim (stripBrackets text.toList).1),
        (stripBrackets text.toList).2 + 1⟩ := by
  have htext : (text ++ "...").toList.take ((text ++ "...").toList.length - 3) = text.toList := by
    simp
  rw [readType, isVariadic_dots]
  simp only [if_true, htext]

/-- Reading takes the brackets and dots behind a name for its dimensions and keeps the name, if no
pair of brackets stands in the name and neither blanks nor dots are part of its ends. So it undoes
the display of a reference, and a variable-arity parameter has the type in an entry that it has in
a source text. -/
theorem readType_displayed (h : IsBare name) (k : Nat) :
    readType (name ++ TypeRef.brackets k) = ⟨name, k⟩ ∧
    readType (name ++ TypeRef.brackets k ++ "...") = ⟨name, k + 1⟩ ∧
    (∀ (w : Workspace) (r : TypeRef), (w.run r.fullName).1 = .ok name → r.dims = k →
      (w.run r.display).1 = .ok (name ++ TypeRef.brackets k)) ∧
    ∀ (p : ParamDecl) (position : Nat), p.variadic = true → p.type = ⟨name, k + 1⟩ →
      readParam position (name ++ TypeRef.brackets k ++ "...") =
        { p with name := "arg" ++ toString position } := by
  have hstrip : stripBrackets (name ++ TypeRef.brackets k).toList = (name.toList, k) := by
    rw [String.toList_append, TypeRef.toList_brackets]
    exact stripBrackets_append h.noBrackets k
  have hplain : readType (name ++ TypeRef.brackets k) = ⟨name, k⟩ := by
    rw [readType_of_not_variadic (h.isVariadic_brackets k), hstrip, h.trim_eq, String.ofList_toList]
  have hdots : readType (name ++ TypeRef.brackets k ++ "...") = ⟨name, k + 1⟩ := by
    rw [readType_dots, hstrip, h.trim_eq, String.ofList_toList]
  refine ⟨hplain, hdots, fun w r hname hdims => ?_, fun p position hvariadic htype => ?_⟩
  · have hshown : (w.run r.display).1 =
        (w.run r.fullName).1.map (· ++ TypeRef.brackets r.dims) :=
      w.run_map (· ++ TypeRef.brackets r.dims) r.fullName
    rw [hshown, hname, hdims]
    rfl
  · rw [readParam, hdots, isVariadic_dots, htype, hvariadic]

/-- A name whose ends look like parts of brackets and dots. -/
def raggedName : String := "]..["

theorem isBare_raggedName : IsBare raggedName := by
  refine ⟨?_, ?_, ?_, ?_⟩ <;> decide

/-- A reference of that name, which stands for nothing, so that it is shown as it is written. -/
def raggedRef : TypeRef := { name := raggedName, dims := 2 }

/-- A parameter of a source text whose type is that of the reference with the dots behind it. -/
def raggedParam : ParamDecl := { name := "xs", type := ⟨raggedName, 3⟩, variadic := true }

theorem readType_displayed_ragged :
    IsBare raggedName ∧ (Workspace.run raggedRef.display {}).1 = .ok "]..[[][]" ∧
      readType "]..[[][]" = ⟨raggedName, 2⟩ ∧ readType "]..[[][]..." = ⟨raggedName, 3⟩ ∧
      readParam 0 "]..[[][]..." = { raggedParam with name := "arg0" } := by
  have htext : raggedName ++ TypeRef.brackets 2 = "]..[[][]" := by decide
  obtain ⟨hplain, hdots, hshown, hparam⟩ := readType_displayed isBare_raggedName 2
  have hname : (Workspace.run raggedRef.fullName {}).1 = .ok raggedName := rfl
  have hread := hparam raggedParam 0 rfl rfl
  have hdisplay := hshown {} raggedRef hname rfl
  rw [← htext]
  exact ⟨isBare_raggedName, hdisplay, hplain, hdots, hread⟩

end Entry

end JavaAtlas
