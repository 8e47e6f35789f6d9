import JavaAtlas.Property
import Mathlib.Data.List.Induction
import Mathlib.Data.List.Nodup

/-! Properties are methods, grouped. `Reads` and `Writes` say which methods belong to a property,
and `Groups` that some properties are exactly those of a list of methods: in the order of the first
method of each, with the first accessor and the first mutator. Entering one more method keeps this,
`Groups.enter`, and so the properties of every class are the grouping of its methods. -/

namespace JavaAtlas

namespace Text

/-! ### Lower case -/

/-- A character and its lower case. -/
inductive LowersTo : Char → List Char → Prop
  | ascii {c : Char} (hc : c.toNat < 0x80) : LowersTo c [c.toLower]
  /-- The capital `i` with a dot keeps the dot. -/
  | dotted : LowersTo '\u0130' ['i', '\u0307']
  /-- A row of the table holds the character and shifts it to another one. -/
  | shifted {c : Char} {first last step : Nat} {shift : Int} (hc : 0x80 ≤ c.toNat)
      (row : (first, last, step, shift) ∈ lowercaseShifts) (low : first ≤ c.toNat)
      (high : c.toNat ≤ last) (steps : step ∣ c.toNat - first) :
      LowersTo c [Char.ofNat (c.toNat + shift).toNat]
  | same {c : Char} (hc : 0x80 ≤ c.toNat) (undotted : c ≠ '\u0130')
      (noRow : ∀ row ∈ lowercaseShifts,
        ¬(row.1 ≤ c.toNat ∧ c.toNat ≤ row.2.1 ∧ row.2.2.1 ∣ c.toNat - row.1)) : LowersTo c [c]

theorem inProgression_iff {first last step n : Nat} :
    inProgression first last step n = true ↔ first ≤ n ∧ n ≤ last ∧ step ∣ n - first := by
  simp [inProgression, Nat.dvd_iff_mod_eq_zero, and_assoc]

/-- Each row of the table ends before the next one begins. -/
theorem lowercaseShifts_sorted :
    lowercaseShifts.Pairwise fun row next => row.2.1 < next.1 := by
  decide +kernel

/-- The character is in one row at most. -/
theorem find?_lowercaseShifts {n : Nat} {row : Nat × Nat × Nat × Int} (h : row ∈ lowercaseShifts)
    (hn : inProgression row.1 row.2.1 row.2.2.1 n = true) :
    (lowercaseShifts.find? fun r => inProgression r.1 r.2.1 r.2.2.1 n) = some row := by
  obtain ⟨front, back, heq⟩ := List.append_of_mem h
  have hsorted := lowercaseShifts_sorted
  rw [heq, List.pairwise_append] at hsorted
  have hlow := (inProgression_iff.mp hn).1
  refine List.find?_eq_some_iff_append.mpr ⟨hn, front, back, heq, fun r hr => ?_⟩
  have hlast : r.2.1 < row.1 := hsorted.2.2 r hr row List.mem_cons_self
  rw [Bool.not_eq_true', Bool.eq_false_iff, Ne, inProgression_iff]
  omega

theorem lowersTo_iff {c : Char} {low : List Char} : LowersTo c low ↔ low = lower c := by
  have hdotted : lower '\u0130' = ['i', '\u0307'] := by decide +kernel
  constructor
  · rintro (hc | _ | ⟨hc, row, hlow, hhigh, hsteps⟩ | ⟨hc, hundotted, hnone⟩)
    · rw [lower, if_pos hc]
    · exact hdotted.symm
    · have hin := inProgression_iff.mpr ⟨hlow, hhigh, hsteps⟩
      have hne : c.toNat ≠ 0x130 := by
        intro heq
        rw [heq] at hin
        exact absurd hin ((by decide +kernel : ∀ r ∈ lowercaseShifts,
          ¬inProgression r.1 r.2.1 r.2.2.1 0x130 = true) _ row)
      rw [lower, if_neg (by omega), if_neg hne, find?_lowercaseShifts row hin]
    · have hne : c.toNat ≠ 0x130 := fun heq => hundotted (Char.toNat_inj.mp heq)
      have hfind : (lowercaseShifts.find? fun r => inProgression r.1 r.2.1 r.2.2.1 c.toNat) =
          none := by
        refine List.find?_eq_none.mpr fun r hr hin => hnone r hr (inProgression_iff.mp hin)
      rw [lower, if_neg (by omega), if_neg hne, hfind]
  · rintro rfl
    by_cases hc : c.toNat < 0x80
    · rw [lower, if_pos hc]
      exact .ascii hc
    · have hc' : 0x80 ≤ c.toNat := Nat.le_of_not_lt hc
      by_cases hdot : c = '\u0130'
      · rw [hdot, hdotted]
        exact .dotted
      · have hne : c.toNat ≠ 0x130 := fun heq => hdot (Char.toNat_inj.mp heq)
        rw [lower, if_neg hc, if_neg hne]
        cases hfind : lowercaseShifts.find? fun r => inProgression r.1 r.2.1 r.2.2.1 c.toNat with
        | none =>
          refine .same hc' hdot fun r hr hin => ?_
          exact List.find?_eq_none.mp hfind r hr (inProgression_iff.mpr hin)
        | some row =>
          have hin : inProgression row.1 row.2.1 row.2.2.1 c.toNat = true := by
            simpa using List.find?_some hfind
          obtain ⟨hlow, hhigh, hsteps⟩ := inProgression_iff.mp hin
          exact .shifted hc' (List.mem_of_find?_eq_some hfind) hlow hhigh hsteps

/-- The first character of a text in lower case, with the rest behind it. -/
theorem lowerFirst_cons (c : Char) (cs : List Char) :
    lowerFirst (String.ofList (c :: cs)) = String.ofList (lower c ++ cs) := by
  simp [lowerFirst]

end Text

namespace Property

/-! ### Which methods belong to a property -/

/-- The method is called `word` with more behind it. The name of the property is what stands
behind the word, with its first character in lower case. -/
def Names (word : String) (m : MethodDecl) (name : String) : Prop :=
  ∃ first rest low, m.name = word ++ String.ofList (first :: rest) ∧ Text.LowersTo first low ∧
    name = String.ofList (low ++ rest)

/-- A method without parameters that reads the property: it gets a value or tells whether something
is so. -/
inductive Reads (m : MethodDecl) (name : String) : Prop
  | get {t : TypeSpec} : m.isConstructor = false → m.params = [] → m.returns = some t →
      t ≠ ⟨"void", 0⟩ → Names "get" m name → Reads m name
  | is {t : TypeSpec} : m.isConstructor = false → m.params = [] → m.returns = some t →
      t.name = "boolean" → ¬0 < t.dims → Names "is" m name → Reads m name

/-- A method with one parameter and no result that writes the property. -/
structure Writes (m : MethodDecl) (name : String) : Prop where
  ordinary : m.isConstructor = false
  param : ∃ p, m.params = [p]
  returns : m.returns = some ⟨"void", 0⟩
  named : Names "set" m name

def Belongs (m : MethodDecl) (name : String) : Prop := Reads m name ∨ Writes m name

theorem nameAfter_eq_some_iff {word : String} {m : MethodDecl} {name : String} :
    nameAfter word m.name = some name ↔ Names word m name := by
  unfold nameAfter Names
  constructor
  · intro h
    split at h
    · next hword =>
      simp only [Bool.and_eq_true, List.isPrefixOf_iff_prefix, decide_eq_true_eq] at hword
      obtain ⟨⟨stem, hstem⟩, hlength⟩ := hword
      have hdrop : m.name.toList.drop word.length = stem := by
        rw [← hstem, ← String.length_toList, List.drop_left]
      cases stem with
      | nil =>
        rw [← String.length_toList, ← String.length_toList, ← hstem] at hlength
        simp at hlength
      | cons first rest =>
        rw [hdrop, Text.lowerFirst_cons] at h
        refine ⟨first, rest, _, ?_, Text.lowersTo_iff.mpr rfl, (Option.some.inj h).symm⟩
        apply String.toList_inj.mp
        simp [hstem]
    · simp at h
  · rintro ⟨first, rest, low, hname, hlow, rfl⟩
    obtain rfl := Text.lowersTo_iff.mp hlow
    have hword : (word.toList.isPrefixOf m.name.toList && decide (word.length < m.name.length)) =
        true := by
      simp only [hname, String.toList_append, String.length_append, Bool.and_eq_true,
        List.isPrefixOf_iff_prefix, decide_eq_true_eq]
      exact ⟨List.prefix_append .., by simp [Nat.add_comm 1]⟩
    rw [if_pos hword, hname, String.toList_append, ← String.length_toList, List.drop_left,
      String.ofList_toList, Text.lowerFirst_cons]

theorem isValue_eq_false_iff {t : TypeSpec} : isValue t = false ↔ t = ⟨"void", 0⟩ := by
  obtain ⟨name, dims⟩ := t
  simp [isValue]

theorem not_names_get_of_is {m : MethodDecl} {name other : String} (h : Names "is" m name) :
    ¬Names "get" m other := by
  rintro ⟨first, rest, -, hget, -⟩
  obtain ⟨first', rest', -, his, -⟩ := h
  have hboth := congrArg String.toList (his.symm.trans hget)
  simp at hboth

/-- A method that is no constructor reads what it belongs to as an accessor. -/
theorem readBy_eq_some_iff {m : MethodDecl} {name : String} (hm : m.isConstructor = false) :
    readBy m = some name ↔ Reads m name := by
  unfold readBy
  constructor
  · intro h
    split at h
    · next t hparams hreturns =>
      split at h
      · next name' hget =>
        obtain rfl : name' = name := Option.some.inj h
        obtain ⟨hvalue, hname⟩ := Option.ite_none_right_eq_some.mp hget
        refine .get hm hparams hreturns (fun ht => ?_) (nameAfter_eq_some_iff.mp hname)
        rw [isValue_eq_false_iff.mpr ht] at hvalue
        simp at hvalue
      · obtain ⟨hbool, hname⟩ := Option.ite_none_right_eq_some.mp h
        simp only [Bool.and_eq_true, beq_iff_eq, decide_eq_true_eq] at hbool
        exact .is hm hparams hreturns hbool.1 (Int.not_lt.mpr hbool.2)
          (nameAfter_eq_some_iff.mp hname)
    · simp at h
  · rintro (⟨-, hparams, hreturns, hvalue, hname⟩ | ⟨-, hparams, hreturns, hbool, hdims, hname⟩)
    · have ht : isValue _ = true := Bool.of_not_eq_false fun h => hvalue (isValue_eq_false_iff.mp h)
      simp [hparams, hreturns, ht, nameAfter_eq_some_iff.mpr hname]
    · have hget : nameAfter "get" m.name = none :=
        Option.eq_none_iff_forall_ne_some.mpr fun other hother =>
          not_names_get_of_is hname (nameAfter_eq_some_iff.mp hother)
      simp [hparams, hreturns, hget, hbool, Int.not_lt.mp hdims, nameAfter_eq_some_iff.mpr hname]

theorem writtenBy_eq_some_iff {m : MethodDecl} {name : String} (hm : m.isConstructor = false) :
    writtenBy m = some name ↔ Writes m name := by
  unfold writtenBy
  constructor
  · intro h
    split at h
    · next p t hparams hreturns =>
      obtain ⟨hvalue, hname⟩ := Option.ite_none_left_eq_some.mp h
      refine ⟨hm, ⟨p, hparams⟩, ?_, nameAfter_eq_some_iff.mp hname⟩
      rw [hreturns, isValue_eq_false_iff.mp (Bool.eq_false_iff.mpr hvalue)]
    · simp at h
  · rintro ⟨-, ⟨p, hparams⟩, hreturns, hname⟩
    have hvoid : isValue ⟨"void", 0⟩ = false := isValue_eq_false_iff.mpr rfl
    simp [hparams, hreturns, hvoid, nameAfter_eq_some_iff.mpr hname]

theorem not_reads_of_writes {m : MethodDecl} {name other : String} (h : Writes m name) :
    ¬Reads m other := by
  obtain ⟨p, hparams⟩ := h.param
  rintro (⟨-, hnone, -⟩ | ⟨-, hnone, -⟩) <;> simp [hparams] at hnone

theorem role?_eq_accessor_iff {m : MethodDecl} {name : String} :
    role? m = some (.accessor name) ↔ Reads m name := by
  cases hm : m.isConstructor with
  | true =>
    simp only [role?, hm, if_true]
    constructor
    · intro h
      cases h
    · rintro (⟨hno, -⟩ | ⟨hno, -⟩) <;> simp [hm] at hno
  | false =>
    rw [← readBy_eq_some_iff hm]
    simp only [role?, hm, Bool.false_eq_true, if_false]
    cases readBy m <;> simp

theorem role?_eq_mutator_iff {m : MethodDecl} {name : String} :
    role? m = some (.mutator name) ↔ Writes m name := by
  cases hm : m.isConstructor with
  | true =>
    simp only [role?, hm, if_true]
    constructor
    · intro h
      cases h
    · intro h
      have hno := h.ordinary
      simp [hm] at hno
  | false =>
    constructor
    · intro h
      simp only [role?, hm, Bool.false_eq_true, if_false] at h
      rw [← writtenBy_eq_some_iff hm]
      cases hread : readBy m <;> simp_all
    · intro h
      have hread : readBy m = none :=
        Option.eq_none_iff_forall_ne_some.mpr fun other hother =>
          not_reads_of_writes h ((readBy_eq_some_iff hm).mp hother)
      simp [role?, hm, hread, (writtenBy_eq_some_iff hm).mpr h]

instance (m : MethodDecl) (name : String) : Decidable (Reads m name) :=
  decidable_of_iff _ role?_eq_accessor_iff

instance (m : MethodDecl) (name : String) : Decidable (Writes m name) :=
  decidable_of_iff _ role?_eq_mutator_iff

instance (m : MethodDecl) (name : String) : Decidable (Belongs m name) :=
  inferInstanceAs (Decidable (Reads m name ∨ Writes m name))

theorem belongs_iff {m : MethodDecl} {name : String} :
    Belongs m name ↔ ∃ role, role? m = some role ∧ role.name = name := by
  unfold Belongs
  rw [← role?_eq_accessor_iff, ← role?_eq_mutator_iff]
  constructor
  · rintro (h | h)
    · exact ⟨_, h, rfl⟩
    · exact ⟨_, h, rfl⟩
  · rintro ⟨role, h, rfl⟩
    cases role with
    | accessor name => exact .inl h
    | mutator name => exact .inr h

theorem belongs_iff_of_role {m : MethodDecl} {role : Role} (h : role? m = some role)
    {name : String} : Belongs m name ↔ name = role.name := by
  rw [belongs_iff, h]
  simp [eq_comm]

/-! ### The grouping of methods -/

/-- The position of the first method that belongs to a property. -/
def firstOf (methods : List MethodDecl) (name : String) : Nat :=
  methods.findIdx fun m => decide (Belongs m name)

/-- The methods of the property are the first ones that read and write it. -/
structure Halves (methods : List MethodDecl) (p : Property) : Prop where
  accessor : p.accessor = methods.find? fun m => decide (Reads m p.name)
  mutator : p.mutator = methods.find? fun m => decide (Writes m p.name)

/-- The properties are those that some methods form, in the order of the first method of each. -/
structure Groups (methods : List MethodDecl) (found : List Property) : Prop where
  ordered : (found.map Property.name).Pairwise fun a b => firstOf methods a < firstOf methods b
  mem_iff : ∀ name, name ∈ found.map Property.name ↔ ∃ m ∈ methods, Belongs m name
  halves : ∀ p ∈ found, Halves methods p

@[simp] theorem name_fill (m : MethodDecl) (role : Role) (p : Property) :
    (fill m role p).name = p.name := by
  cases role <;> rfl

theorem enter_cases (m : MethodDecl) (role : Role) (found : List Property) :
    (role.name ∉ found.map Property.name ∧
      enter m role found = found ++ [fill m role { name := role.name }]) ∨
    ∃ front p back, found = front ++ p :: back ∧ p.name = role.name ∧
      enter m role found = front ++ fill m role p :: back := by
  induction found with
  | nil => exact .inl ⟨by simp, rfl⟩
  | cons q found ih =>
    rw [enter]
    by_cases hq : q.name = role.name
    · exact .inr ⟨[], q, found, rfl, hq, by simp [hq]⟩
    · simp only [beq_iff_eq, hq, if_false]
      rcases ih with ⟨hnew, heq⟩ | ⟨front, p, back, rfl, hp, heq⟩
      · refine .inl ⟨?_, by simp [heq]⟩
        simp only [List.map_cons, List.mem_cons, not_or]
        exact ⟨fun h => hq h.symm, hnew⟩
      · exact .inr ⟨q :: front, p, back, rfl, hp, by simp [heq]⟩

section Step

variable {methods : List MethodDecl} {m : MethodDecl} {name : String} {p : Property}

theorem firstOf_lt (h : ∃ x ∈ methods, Belongs x name) : firstOf methods name < methods.length := by
  obtain ⟨x, hx, hbelongs⟩ := h
  exact List.findIdx_lt_length_of_exists ⟨x, hx, decide_eq_true hbelongs⟩

theorem firstOf_concat (h : ∃ x ∈ methods, Belongs x name) (m : MethodDecl) :
    firstOf (methods ++ [m]) name = firstOf methods name := by
  have hlt := firstOf_lt h
  unfold firstOf at hlt ⊢
  rw [List.findIdx_append, if_pos hlt]

theorem length_le_firstOf_concat (h : ¬∃ x ∈ methods, Belongs x name) (m : MethodDecl) :
    methods.length ≤ firstOf (methods ++ [m]) name := by
  have hnone : methods.findIdx (fun x => decide (Belongs x name)) = methods.length := by
    rw [List.findIdx_eq_length]
    intro x hx
    exact decide_eq_false fun hbelongs => h ⟨x, hx, hbelongs⟩
  unfold firstOf
  rw [List.findIdx_append, hnone, if_neg (Nat.lt_irrefl _)]
  omega

/-- A method that belongs elsewhere changes nothing. -/
theorem Halves.concat (h : Halves methods p) (hm : ¬Belongs m p.name) :
    Halves (methods ++ [m]) p where
  accessor := by
    have hreads : ¬Reads m p.name := fun hr => hm (.inl hr)
    simp [List.find?_append, hreads, h.accessor]
  mutator := by
    have hwrites : ¬Writes m p.name := fun hw => hm (.inr hw)
    simp [List.find?_append, hwrites, h.mutator]

theorem Halves.fill {role : Role} (h : Halves methods p) (hrole : role? m = some role)
    (hname : p.name = role.name) : Halves (methods ++ [m]) (Property.fill m role p) := by
  cases role with
  | accessor name =>
    obtain rfl : p.name = name := hname
    have hreads := role?_eq_accessor_iff.mp hrole
    have hwrites : ¬Writes m p.name := fun hw => not_reads_of_writes hw hreads
    refine ⟨?_, ?_⟩
    · simp [Property.fill, List.find?_append, hreads, h.accessor]
    · simp [Property.fill, List.find?_append, hwrites, h.mutator]
  | mutator name =>
    obtain rfl : p.name = name := hname
    have hwrites := role?_eq_mutator_iff.mp hrole
    have hreads : ¬Reads m p.name := not_reads_of_writes hwrites
    refine ⟨?_, ?_⟩
    · simp [Property.fill, List.find?_append, hreads, h.accessor]
    · simp [Property.fill, List.find?_append, hwrites, h.mutator]

/-- A new property has no methods yet. -/
theorem halves_new (h : ¬∃ x ∈ methods, Belongs x name) : Halves methods { name } where
  accessor := by
    symm
    rw [List.find?_eq_none]
    intro x hx hreads
    exact h ⟨x, hx, .inl (of_decide_eq_true hreads)⟩
  mutator := by
    symm
    rw [List.find?_eq_none]
    intro x hx hwrites
    exact h ⟨x, hx, .inr (of_decide_eq_true hwrites)⟩

theorem Groups.ordered_concat {found : List Property} (h : Groups methods found) (m : MethodDecl) :
    (found.map Property.name).Pairwise fun a b =>
      firstOf (methods ++ [m]) a < firstOf (methods ++ [m]) b := by
  refine h.ordered.imp_of_mem fun {a b} ha hb hlt => ?_
  rwa [firstOf_concat ((h.mem_iff a).mp ha), firstOf_concat ((h.mem_iff b).mp hb)]

theorem Groups.nodup {found : List Property} (h : Groups methods found) :
    (found.map Property.name).Nodup :=
  h.ordered.imp fun {a b} hlt (heq : a = b) => by
    subst heq
    exact Nat.lt_irrefl _ hlt

theorem Groups.concat_of_none {found : List Property} (h : Groups methods found)
    (hrole : role? m = none) : Groups (methods ++ [m]) found := by
  have hm (name : String) : ¬Belongs m name := by
    rw [belongs_iff, hrole]
    simp
  refine ⟨h.ordered_concat m, fun name => ?_, fun p hp => (h.halves p hp).concat (hm p.name)⟩
  rw [h.mem_iff]
  simp [or_and_right, exists_or, hm]

section Entering

variable {role : Role} (hrole : role? m = some role)

include hrole

theorem Groups.exists_concat_iff {found : List Property} (h : Groups methods found)
    (name : String) : (∃ x ∈ methods ++ [m], Belongs x name) ↔
      name ∈ found.map Property.name ∨ name = role.name := by
  rw [h.mem_iff, ← belongs_iff_of_role hrole]
  simp [or_and_right, exists_or]

theorem Groups.append_new {found : List Property} (h : Groups methods found)
    (hnew : role.name ∉ found.map Property.name) :
    Groups (methods ++ [m]) (found ++ [Property.fill m role { name := role.name }]) := by
  have hnone : ¬∃ x ∈ methods, Belongs x role.name := fun hold => hnew ((h.mem_iff _).mpr hold)
  refine ⟨?_, fun name => ?_, fun q hq => ?_⟩
  · rw [List.map_append, List.pairwise_append]
    refine ⟨h.ordered_concat m, List.pairwise_singleton .., fun a ha b hb => ?_⟩
    -- the new property comes last, since all methods of the others stand before this one
    obtain rfl : b = role.name := by simpa using hb
    have hold := (h.mem_iff a).mp ha
    have hlt := firstOf_lt hold
    have hle := length_le_firstOf_concat hnone m
    rw [firstOf_concat hold]
    omega
  · rw [h.exists_concat_iff hrole]
    simp
  · rcases List.mem_append.mp hq with hq | hq
    · refine (h.halves q hq).concat fun hbelongs => hnew ?_
      rw [← (belongs_iff_of_role hrole).mp hbelongs]
      exact List.mem_map_of_mem hq
    · obtain rfl := List.mem_singleton.mp hq
      exact (halves_new hnone).fill hrole rfl

theorem Groups.fill_old {front back : List Property} (h : Groups methods (front ++ p :: back))
    (hp : p.name = role.name) :
    Groups (methods ++ [m]) (front ++ Property.fill m role p :: back) := by
  have hnames : (front ++ Property.fill m role p :: back).map Property.name =
      (front ++ p :: back).map Property.name := by
    simp
  -- names do not repeat, so no other property has that of the method
  have hdistinct := h.nodup
  rw [List.map_append, List.map_cons, List.nodup_middle, List.nodup_cons, ← List.map_append,
    hp] at hdistinct
  have hother {q : Property} (hq : q ∈ front ++ back) : Halves (methods ++ [m]) q := by
    have hold : q ∈ front ++ p :: back := by
      rcases List.mem_append.mp hq with hq | hq <;> simp [hq]
    refine (h.halves q hold).concat fun hbelongs => hdistinct.1 ?_
    rw [← (belongs_iff_of_role hrole).mp hbelongs]
    exact List.mem_map_of_mem hq
  refine ⟨?_, fun name => ?_, fun q hq => ?_⟩
  · rw [hnames]
    exact h.ordered_concat m
  · rw [hnames, h.exists_concat_iff hrole, iff_comm, or_iff_left_iff_imp]
    rintro rfl
    exact List.mem_map.mpr ⟨p, by simp, hp⟩
  · rcases List.mem_append.mp hq with hq | hq
    · exact hother (List.mem_append_left back hq)
    · rcases List.mem_cons.mp hq with rfl | hq
      · exact (h.halves p (by simp)).fill hrole hp
      · exact hother (List.mem_append_right front hq)

/-- Entering a method takes care of it and of nothing else. -/
theorem Groups.enter {found : List Property} (h : Groups methods found) :
    Groups (methods ++ [m]) (Property.enter m role found) := by
  rcases enter_cases m role found with ⟨hnew, heq⟩ | ⟨front, p, back, rfl, hp, heq⟩
  · rw [heq]
    exact h.append_new hrole hnew
  · rw [heq]
    exact h.fill_old hrole hp

end Entering

theorem Groups.isSome {found : List Property} (h : Groups methods found) (hp : p ∈ found) :
    p.accessor.isSome ∨ p.mutator.isSome := by
  obtain ⟨x, hx, hbelongs⟩ := (h.mem_iff p.name).mp (List.mem_map_of_mem hp)
  rw [(h.halves p hp).accessor, (h.halves p hp).mutator, List.find?_isSome, List.find?_isSome]
  rcases hbelongs with hreads | hwrites
  · exact .inl ⟨x, hx, decide_eq_true hreads⟩
  · exact .inr ⟨x, hx, decide_eq_true hwrites⟩

theorem Groups.find?_eq_some_iff {found : List Property} (h : Groups methods found) :
    found.find? (fun q => q.name == name) = some p ↔ p ∈ found ∧ p.name = name := by
  constructor
  · intro hfind
    exact ⟨List.mem_of_find?_eq_some hfind, by simpa using List.find?_some hfind⟩
  · rintro ⟨hp, rfl⟩
    cases hfind : found.find? fun q => q.name == p.name with
    | none =>
      have hno := List.find?_eq_none.mp hfind p hp
      simp at hno
    | some q =>
      -- no two properties share a name
      have hq : q ∈ found := List.mem_of_find?_eq_some hfind
      have hname : q.name = p.name := by simpa using List.find?_some hfind
      rw [List.inj_on_of_nodup_map h.nodup hq hp hname]

end Step

theorem groups_ofMethods (methods : List MethodDecl) : Groups methods (ofMethods methods) := by
  -- the last method is entered into the properties of those before it
  induction methods using List.reverseRecOn with
  | nil => exact ⟨.nil, by simp [ofMethods], by simp [ofMethods]⟩
  | append_singleton methods m ih =>
    rw [ofMethods, List.foldl_concat, ← ofMethods]
    cases hrole : role? m with
    | none => exact ih.concat_of_none hrole
    | some role => exact ih.enter hrole

end Property

/-- The properties of a class are the grouping of its methods: one for each name that a method reads
or writes, in the order of the first such method, with the first method that reads it and the first
that writes it. A property is found by its name. -/
theorem Class.properties_group_methods (c : Class) :
    Property.Groups c.decl.methods c.properties ∧
      (c.properties.map Property.name).Nodup ∧
      (∀ p ∈ c.properties, p.accessor.isSome ∨ p.mutator.isSome) ∧
      ∀ name p, c.property? name = some p ↔ p ∈ c.properties ∧ p.name = name := by
  have h := Property.groups_ofMethods c.decl.methods
  exact ⟨h, h.nodup, fun p hp => h.isSome hp, fun name p => h.find?_eq_some_iff⟩

/-- A class whose methods are called `getURL`, `setURL` and `isÉtat`. -/
def casedClass : Class where
  key := .source 0
  unit := none
  path := [0]
  decl :=
    { name := "C"
      methods :=
        [{ name := "getURL", returns := some ⟨"String", 0⟩ },
          { name := "setURL", returns := some ⟨"void", 0⟩
            params := [{ name := "text", type := ⟨"String", 0⟩ }] },
          { name := "isÉtat", returns := some ⟨"boolean", 0⟩ }] }

/-- Of several capitals the first one alone becomes a small letter, also outside ASCII. -/
theorem Class.properties_group_methods_cased :
    "uRL" ∈ casedClass.properties.map Property.name ∧
      "état" ∈ casedClass.properties.map Property.name ∧
      "url" ∉ casedClass.properties.map Property.name := by
  obtain ⟨hgroups, -⟩ := Class.properties_group_methods casedClass
  refine ⟨(hgroups.mem_iff _).mpr ⟨_, List.mem_cons_self, .inl ?_⟩,
    (hgroups.mem_iff _).mpr ⟨_, .tail _ (.tail _ (.head _)), .inl ?_⟩, fun h => ?_⟩
  · exact .get rfl rfl rfl (by decide) ⟨'U', ['R', 'L'], _, rfl, .ascii (by decide), rfl⟩
  · have hrow : (0xc0, 0xd6, 1, 32) ∈ Text.lowercaseShifts := by decide
    exact .is rfl rfl rfl rfl (by decide) ⟨'É', ['t', 'a', 't'], _, rfl,
      .shifted (by decide) hrow (by decide) (by decide) (by decide), by decide⟩
  · exact absurd ((hgroups.mem_iff _).mp h) (by decide +kernel)

end JavaAtlas
