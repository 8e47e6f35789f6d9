import JavaAtlas.Proofs.Outside
import Mathlib.Data.List.Basic

/-! The binary names of a class. In a name that keeps to the usual case, segments of packages start
in lower case and segments of classes in upper case, so that the boundary between package and class
can be seen. The binary names of such a name are the name with more and more of its last dots
written as dollar signs, up to that boundary: `Conventional.binaryNames_eq`. A resolver of compiled
classes has them listed in this order until a listing can be read: `Resolver.searches_listFirst`. -/

namespace JavaAtlas.Name

/-! ### Dots and dollar signs -/

/-- The text with its first dots, as many as are asked for, written as dollar signs. -/
def dollarFirst : Nat → List Char → List Char
  | 0, cs => cs
  | _ + 1, [] => []
  | n + 1, c :: cs => if c = '.' then '$' :: dollarFirst n cs else c :: dollarFirst (n + 1) cs

/-- The name with its last dots written as dollar signs. -/
def dollarLast (n : Nat) (name : String) : String :=
  String.ofList (dollarFirst n name.toList.reverse).reverse

@[simp] theorem dollarLast_zero (name : String) : dollarLast 0 name = name := by
  simp [dollarLast, dollarFirst]

theorem dollarFirst_dollarFirst (n k : Nat) (cs : List Char) :
    dollarFirst n (dollarFirst k cs) = dollarFirst (n + k) cs := by
  induction cs generalizing n k with
  | nil =>
    have hnil (n : Nat) : dollarFirst n [] = [] := by cases n <;> rfl
    simp [hnil]
  | cons c cs ih =>
    cases k with
    | zero => rfl
    | succ k =>
      cases n with
      | zero => simp [dollarFirst]
      | succ n =>
        have hsum : n + 1 + (k + 1) = (n + 1 + k) + 1 := by omega
        rw [hsum, dollarFirst, dollarFirst]
        split
        · -- the dollar sign is passed over
          rw [dollarFirst, if_neg (by decide), ih]
        · next hc => rw [dollarFirst, if_neg hc, ih, ← Nat.add_assoc]

theorem dollarLast_dollarLast (n k : Nat) (name : String) :
    dollarLast n (dollarLast k name) = dollarLast (n + k) name := by
  simp [dollarLast, dollarFirst_dollarFirst]

theorem dollarFirst_one {cs : List Char} (h : '.' ∉ cs) (rest : List Char) :
    dollarFirst 1 (cs ++ '.' :: rest) = cs ++ '$' :: rest := by
  induction cs with
  | nil => simp [dollarFirst]
  | cons c cs ih =>
    have hc : c ≠ '.' := fun heq => h (by simp [heq])
    rw [List.cons_append, dollarFirst, if_neg hc, ih fun hmem => h (by simp [hmem])]
    rfl

theorem dollarLast_one {last : String} (h : '.' ∉ last.toList) (front : String) :
    dollarLast 1 (front ++ "." ++ last) = front ++ "$" ++ last := by
  have hlast : '.' ∉ last.toList.reverse := by simpa using h
  apply String.toList_inj.mp
  simp [dollarLast, dollarFirst_one hlast]

theorem notMem_intercalate_dollar {parts : List String} (h : ∀ part ∈ parts, '.' ∉ part.toList) :
    '.' ∉ ("$".intercalate parts).toList := by
  induction parts with
  | nil => simp
  | cons part parts ih =>
    have hrest := ih fun p hp => h p (by simp [hp])
    by_cases hnil : parts = []
    · simpa [hnil] using h part (by simp)
    · rw [String.intercalate_cons_of_ne_nil hnil]
      simp only [String.toList_append, List.mem_append, not_or]
      exact ⟨⟨h part (by simp), by decide⟩, hrest⟩

/-- All dots between some segments become dollar signs. -/
theorem dollarLast_join {parts : List String} (hne : parts ≠ [])
    (h : ∀ part ∈ parts, '.' ∉ part.toList) (front : String) :
    dollarLast (parts.length - 1) (front ++ join parts) = front ++ "$".intercalate parts := by
  induction parts generalizing front with
  | nil => exact absurd rfl hne
  | cons part parts ih =>
    by_cases hnil : parts = []
    · simp [hnil, join]
    · have hlength : (part :: parts).length - 1 = 1 + (parts.length - 1) := by
        have hpos := List.length_pos_iff.mpr hnil
        simp only [List.length_cons]
        omega
      have hrest : ∀ p ∈ parts, '.' ∉ p.toList := fun p hp => h p (by simp [hp])
      have hjoin : front ++ join (part :: parts) = front ++ part ++ "." ++ join parts := by
        rw [join, String.intercalate_cons_of_ne_nil hnil, join]
        simp [String.append_assoc]
      calc dollarLast ((part :: parts).length - 1) (front ++ join (part :: parts))
          = dollarLast 1 (dollarLast (parts.length - 1) (front ++ part ++ "." ++ join parts)) := by
            rw [hlength, hjoin, dollarLast_dollarLast]
        _ = dollarLast 1 (front ++ part ++ "." ++ "$".intercalate parts) := by
            rw [ih hnil hrest]
        _ = front ++ part ++ "$" ++ "$".intercalate parts :=
            dollarLast_one (notMem_intercalate_dollar hrest) _
        _ = front ++ "$".intercalate (part :: parts) := by
            rw [String.intercalate_cons_of_ne_nil hnil]
            simp [String.append_assoc]

/-! ### Names in the usual case -/

/-- Segments of a package, none in upper case, and of a class, all in upper case. -/
structure Conventional (package classes : List String) : Prop where
  lower : ∀ part ∈ package, part ≠ "" ∧ '.' ∉ part.toList ∧ Text.startsUpper part = false
  upper : ∀ part ∈ classes, '.' ∉ part.toList ∧ Text.startsUpper part = true
  nonempty : classes ≠ []

theorem segments_join {parts : List String} (hne : parts ≠ [])
    (h : ∀ part ∈ parts, '.' ∉ part.toList) : segments (join parts) = parts := by
  have hparts : parts.map String.toList ≠ [] := by simpa using hne
  have hdots : ∀ p ∈ parts.map String.toList, '.' ∉ p := by
    intro p hp
    obtain ⟨part, hpart, rfl⟩ := List.mem_map.mp hp
    exact h part hpart
  rw [segments, join, String.toList_intercalate, show ".".toList = ['.'] from rfl,
    Text.splitAt_intercalate hparts hdots]
  simp

theorem join_concat_append (parts : List String) (a b : String) :
    join (parts ++ [a ++ b]) = join (parts ++ [a]) ++ b := by
  by_cases hnil : parts = []
  · simp [hnil, join]
  · rw [join_concat hnil, join_concat hnil, String.append_assoc, String.append_assoc,
      String.append_assoc]

/-- The last dot of a name stands in front of its last segment. -/
theorem dollarLast_one_join {last : String} (h : '.' ∉ last.toList) (parts : List String)
    (part : String) :
    dollarLast 1 (join (parts ++ [part, last])) = join (parts ++ [part ++ "$" ++ last]) := by
  calc dollarLast 1 (join (parts ++ [part, last]))
      = dollarLast 1 (join (parts ++ [part]) ++ "." ++ last) := by
        rw [← join_concat (by simp), List.append_assoc, List.singleton_append]
    _ = join (parts ++ [part]) ++ "$" ++ last := dollarLast_one h _
    _ = join (parts ++ [part ++ "$" ++ last]) := by
        rw [String.append_assoc, String.append_assoc, join_concat_append]

theorem head?_join {first : String} (hne : first ≠ "") (parts : List String) :
    (join (first :: parts)).toList.head? = first.toList.head? := by
  have hfirst : first.toList ≠ [] := by simpa using hne
  by_cases hnil : parts = []
  · simp [hnil, join]
  · rw [join, String.intercalate_cons_of_ne_nil hnil, String.toList_append, String.toList_append,
      List.append_assoc, List.head?_append_of_ne_nil _ hfirst]

/-- As long as segments in upper case stand in front, each of them gives one more form. -/
theorem binaryForms_eq {last : String} {ups rest : List String} (hlast : '.' ∉ last.toList)
    (hups : ∀ part ∈ ups, '.' ∉ part.toList ∧ Text.startsUpper part = true)
    (hrest : ∀ part parts, rest = part :: parts → Text.startsUpper part = false) :
    binaryForms last (ups ++ rest) =
      (List.range (ups.length + 1)).map fun n =>
        dollarLast n (join ((ups ++ rest).reverse ++ [last])) := by
  induction ups generalizing last with
  | nil =>
    cases rest with
    | nil => simp [binaryForms, join]
    | cons part parts =>
      have hpart := hrest part parts rfl
      simp [binaryForms, hpart]
  | cons part ups ih =>
    obtain ⟨hdot, hupper⟩ := hups part (by simp)
    -- With a dollar sign between them, the last two segments are one for the forms that follow.
    have hjoined : '.' ∉ (part ++ "$" ++ last).toList := by
      simp only [String.toList_append, List.mem_append, not_or]
      exact ⟨⟨hdot, by decide⟩, hlast⟩
    have hfirst : (part :: ups ++ rest).reverse ++ [last] =
        (ups ++ rest).reverse ++ [part, last] := by
      simp
    rw [hfirst, List.cons_append, binaryForms, if_pos hupper,
      ih hjoined fun p hp => hups p (by simp [hp]), ← dollarLast_one_join hlast]
    simp only [dollarLast_dollarLast]
    rw [List.length_cons, List.range_succ_eq_map (n := ups.length + 1)]
    simp

namespace Conventional

variable {package classes : List String}

theorem dotless (h : Conventional package classes) :
    ∀ part ∈ package ++ classes, '.' ∉ part.toList := by
  intro part hpart
  rcases List.mem_append.mp hpart with hpart | hpart
  · exact (h.lower part hpart).2.1
  · exact (h.upper part hpart).1

theorem segments_eq (h : Conventional package classes) :
    segments (join (package ++ classes)) = package ++ classes :=
  segments_join (by simp [h.nonempty]) h.dotless

/-- The boundary that is seen is the one that is meant. -/
theorem splitQualified_eq (h : Conventional package classes) :
    splitQualified (join (package ++ classes)) = (join package, join classes) := by
  obtain ⟨front, final, rfl⟩ : ∃ front final, classes = front ++ [final] :=
    ⟨_, _, (List.dropLast_concat_getLast h.nonempty).symm⟩
  have hpackage : ∀ part ∈ package, (!Text.startsUpper part) = true := by
    intro part hpart
    simp [(h.lower part hpart).2.2]
  have htake : (package ++ front).takeWhile (fun part => !Text.startsUpper part) = package := by
    rw [List.takeWhile_append_of_pos hpackage]
    cases front with
    | nil => simp
    | cons part parts => simp [(h.upper part (by simp)).2]
  have hfront : (package ++ (front ++ [final])).dropLast = package ++ front := by
    rw [← List.append_assoc, List.dropLast_concat]
  simp only [splitQualified, h.segments_eq, hfront, htake, List.drop_left]

theorem head?_ne_dot (h : Conventional package classes) :
    (join (package ++ classes)).toList.head? ≠ some '.' := by
  obtain ⟨first, parts, hparts⟩ := List.exists_cons_of_ne_nil
    (show package ++ classes ≠ [] by simp [h.nonempty])
  have hmem : first ∈ package ++ classes := by simp [hparts]
  have hne : first ≠ "" := by
    rcases List.mem_append.mp hmem with hfirst | hfirst
    · exact (h.lower first hfirst).1
    · rintro rfl
      simpa [Text.startsUpper] using (h.upper "" hfirst).2
  rw [hparts, head?_join hne]
  intro hdot
  exact h.dotless first hmem (List.mem_of_mem_head? hdot)

theorem join_eq (h : Conventional package classes) :
    join (package ++ classes) = within (join package) (join classes) := by
  have hwithin := within_splitQualified h.head?_ne_dot
  rw [h.splitQualified_eq] at hwithin
  exact hwithin.symm

/-- A class has as many binary names as segments, with one dollar sign more in each. -/
theorem binaryNames_eq (h : Conventional package classes) :
    binaryNames (join (package ++ classes)) =
      (List.range classes.length).map fun n => dollarLast n (join (package ++ classes)) := by
  obtain ⟨front, final, rfl⟩ : ∃ front final, classes = front ++ [final] :=
    ⟨_, _, (List.dropLast_concat_getLast h.nonempty).symm⟩
  have hreverse : (package ++ (front ++ [final])).reverse =
      final :: (front.reverse ++ package.reverse) := by
    simp
  have hups : ∀ part ∈ front.reverse, '.' ∉ part.toList ∧ Text.startsUpper part = true := by
    intro part hpart
    exact h.upper part (List.mem_append_left _ (List.mem_reverse.mp hpart))
  have hrest : ∀ part parts, package.reverse = part :: parts → Text.startsUpper part = false := by
    intro part parts hparts
    have hmem : part ∈ package.reverse := by simp [hparts]
    exact (h.lower part (List.mem_reverse.mp hmem)).2.2
  rw [binaryNames, h.segments_eq, hreverse]
  simpa using binaryForms_eq (h.upper final (by simp)).1 hups hrest

/-- In the last binary name all dots of the class are dollar signs. -/
theorem getLast?_binaryNames (h : Conventional package classes) :
    (binaryNames (join (package ++ classes))).getLast? =
      some (within (join package) ("$".intercalate classes)) := by
  have hdots : ∀ part ∈ classes, '.' ∉ part.toList := fun part hpart => (h.upper part hpart).1
  have hlast : (binaryNames (join (package ++ classes))).getLast? =
      some (dollarLast (classes.length - 1) (join (package ++ classes))) := by
    have hpos := List.length_pos_iff.mpr h.nonempty
    obtain ⟨n, hn⟩ : ∃ n, classes.length = n + 1 := ⟨classes.length - 1, by omega⟩
    rw [h.binaryNames_eq, hn, List.range_succ]
    simp
  rw [hlast, h.join_eq]
  congr 1
  unfold within
  split
  · simpa using dollarLast_join h.nonempty hdots ""
  · exact dollarLast_join h.nonempty hdots _

end Conventional

end JavaAtlas.Name

namespace JavaAtlas.Resolver

/-! ### Listings of compiled classes -/

/-- The tool lists the class of a binary name, and the listing can be read. -/
def Lists (tool : Tool) (binaryName : String) (e : Entry) : Prop :=
  ∃ output errors, tool.run binaryName = .finished 0 output errors ∧ Listing.read output = some e

/-- What comes of trying some binary names in their order: the class of the first one with a listing
that can be read, with no command for the names behind it, or nothing once all have been tried. -/
inductive Searches (tool : Tool) (command : String) (classpath : List String) (key : UnitKey)
    (fullName : String) (names : List String) (reply : Reply) : Prop
  | found {front back : List String} {name : String} {e : Entry} {c : Class} :
      names = front ++ name :: back → (∀ b ∈ front, ∀ e, ¬Lists tool b e) → Lists tool name e →
      reply.commands = (front ++ [name]).map (commandLine command classpath) →
      e.toClass key fullName "resolver:javap" = .ok c → reply.answer = .ok (some c) →
      Searches tool command classpath key fullName names reply
  | missed : (∀ b ∈ names, ∀ e, ¬Lists tool b e) →
      reply.commands = names.map (commandLine command classpath) → reply.answer = .ok none →
      Searches tool command classpath key fullName names reply

section Search

variable {tool : Tool} {command : String} {classpath : List String} {key : UnitKey}
  {fullName : String}

theorem Searches.cons {names : List String} {reply : Reply}
    (h : Searches tool command classpath key fullName names reply) {name : String}
    (hname : ∀ e, ¬Lists tool name e) (notices : List Notice) :
    Searches tool command classpath key fullName (name :: names)
      { reply with commands := commandLine command classpath name :: reply.commands, notices } := by
  have hall {front : List String} (hfront : ∀ b ∈ front, ∀ e, ¬Lists tool b e) :
      ∀ b ∈ name :: front, ∀ e, ¬Lists tool b e := by
    intro b hb
    rcases List.mem_cons.mp hb with rfl | hb
    · exact hname
    · exact hfront b hb
  cases h with
  | @found front back b e c hsplit hfront hlists hcommands hclass hanswer =>
    have hsplit' : name :: names = (name :: front) ++ b :: back := by simp [hsplit]
    exact .found hsplit' (hall hfront) hlists (by simp [hcommands]) hclass hanswer
  | missed hnone hcommands hanswer => exact .missed (hall hnone) (by simp [hcommands]) hanswer

theorem searches_listFirst (tool : Tool) (command : String) (classpath : List String)
    (key : UnitKey) (fullName : String) (names : List String) :
    Searches tool command classpath key fullName names
      (listFirst tool command classpath key fullName names) := by
  induction names with
  | nil => exact .missed (by simp) rfl rfl
  | cons name names ih =>
    simp only [listFirst]
    cases hrun : tool.run name with
    | notRun reason =>
      refine ih.cons (fun e => ?_) _
      rintro ⟨output, errors, hfinished, -⟩
      simp [hrun] at hfinished
    | finished code output errors =>
      by_cases hcode : code = 0
      · subst hcode
        simp only [bne_self_eq_false, Bool.false_eq_true, if_false]
        cases hread : Listing.read output with
        | none =>
          refine ih.cons (fun e => ?_) _
          rintro ⟨output', errors', hfinished, he⟩
          obtain ⟨-, rfl, -⟩ := ToolRun.finished.inj (hrun.symm.trans hfinished)
          simp [hread] at he
        | some e =>
          obtain ⟨c, hc⟩ := Listing.exists_toClass_of_read hread key fullName "resolver:javap"
          have hsplit : name :: names = [] ++ name :: names := rfl
          exact .found hsplit (by simp) ⟨output, errors, hrun, hread⟩ rfl hc
            (by simp [hc, Except.map])
      · have hne : (code != 0) = true := by simpa using hcode
        simp only [hne, if_true]
        refine ih.cons (fun e => ?_) _
        rintro ⟨output', errors', hfinished, -⟩
        exact hcode (ToolRun.finished.inj (hrun.symm.trans hfinished)).1

end Search

/-- With the listing tool at hand, a name in the usual case is asked for by its binary names, which
are the name with none of its last dots written as dollar signs, then one, and so on up to the
boundary between package and class. They are tried in this order. -/
theorem ask_tries_binaryNames {package classes : List String}
    (h : Name.Conventional package classes) {tool : Tool} {chosen : Option String}
    {command : String} (hcommand : commandOf tool chosen = some command) (classpath : List String)
    (warned : Bool) (key : UnitKey) :
    Name.splitQualified (Name.join (package ++ classes)) = (Name.join package, Name.join classes) ∧
    Name.binaryNames (Name.join (package ++ classes)) =
      ((List.range classes.length).map fun n =>
        Name.dollarLast n (Name.join (package ++ classes))) ∧
    (Name.binaryNames (Name.join (package ++ classes))).getLast? =
      some (Name.within (Name.join package) ("$".intercalate classes)) ∧
    Searches tool command classpath key (Name.join (package ++ classes))
      (Name.binaryNames (Name.join (package ++ classes)))
      ((binaries classpath chosen).ask tool warned key (Name.join (package ++ classes))) ∧
    ∀ c, ((binaries classpath chosen).ask tool warned key
        (Name.join (package ++ classes))).answer = .ok (some c) →
      c.fullName = Name.join (package ++ classes) := by
  refine ⟨h.splitQualified_eq, h.binaryNames_eq, h.getLast?_binaryNames, ?_, fun c hc => ?_⟩
  · simp only [ask, hcommand]
    exact searches_listFirst ..
  · have hanswer : (binaries classpath chosen).answer tool key (Name.join (package ++ classes)) =
        .ok (some c) := by
      simpa only [answer, ask, hcommand] using hc
    exact fullName_of_answer hanswer h.head?_ne_dot

/-- A tool that lists a class only under its last binary name, and something else under the one
before. -/
def nestedTool : Tool :=
  { command := some "javap"
    runs := [("a.b.C.D$E", .finished 0 "no listing" ""),
      ("a.b.C$D$E", .finished 0 "public class a.b.C$D$E \x7b\n\x7d\n" "")] }

theorem ask_tries_binaryNames_nested :
    Name.Conventional ["a", "b"] ["C", "D", "E"] ∧ commandOf nestedTool none = some "javap" ∧
      ((binaries ["lib"] none).ask nestedTool false (.outside none "") "a.b.C.D.E").commands =
        ["a.b.C.D.E", "a.b.C.D$E", "a.b.C$D$E"].map (commandLine "javap" ["lib"]) ∧
      ∃ c, ((binaries ["lib"] none).ask nestedTool false (.outside none "") "a.b.C.D.E").answer =
        .ok (some c) ∧ c.fullName = "a.b.C.D.E" := by
  have h : Name.Conventional ["a", "b"] ["C", "D", "E"] := ⟨by decide, by decide, by decide⟩
  have hcommand : commandOf nestedTool none = some "javap" := rfl
  have hname : Name.join (["a", "b"] ++ ["C", "D", "E"]) = "a.b.C.D.E" := by decide
  obtain ⟨-, -, -, -, hfull⟩ :=
    ask_tries_binaryNames h hcommand ["lib"] false (.outside none "")
  rw [hname] at hfull
  obtain ⟨c, hc⟩ : ∃ c, ((binaries ["lib"] none).ask nestedTool false (.outside none "")
      "a.b.C.D.E").answer = .ok (some c) := ⟨_, rfl⟩
  exact ⟨h, hcommand, by decide, c, hc, hfull c hc⟩

end JavaAtlas.Resolver
