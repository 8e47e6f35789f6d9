import JavaAtlas.Proofs.Lookup
import JavaAtlas.Proofs.Names

/-! Classes from outside the sources. The class that is made from an entry has the name it was asked
for by, if that does not start with a dot, and it can be made if the entry is complete. So a resolver
that knows no name with a dot in front answers with classes of the names it was asked for, and one
whose entries are complete never fails; a listing is complete by itself. -/

namespace JavaAtlas

namespace Entry

/-- The entry has all names and types that it must have. -/
def isComplete (e : Entry) : Bool :=
  e.fields.all (fun f => f.name.isSome && f.type.isSome) && e.methods.all (·.name.isSome)

theorem exists_mapM_ok {α β : Type} {f : α → Except EntryError β} {as : List α}
    (h : ∀ a ∈ as, ∃ b, f a = .ok b) : ∃ bs, as.mapM f = .ok bs := by
  induction as with
  | nil => exact ⟨[], rfl⟩
  | cons a as ih =>
    obtain ⟨b, hb⟩ := h a List.mem_cons_self
    obtain ⟨bs, hbs⟩ := ih fun x hx => h x (List.mem_cons_of_mem a hx)
    refine ⟨b :: bs, ?_⟩
    rw [List.mapM_cons, hb, hbs]
    rfl

theorem exists_declaration {e : Entry} (h : e.isComplete = true) (name : String) :
    ∃ d, e.declaration name = .ok d := by
  simp only [isComplete, Bool.and_eq_true, List.all_eq_true] at h
  obtain ⟨hfields, hmethods⟩ := h
  have hf : ∀ f ∈ e.fields, ∃ d, readField f = .ok d := by
    intro f hf
    obtain ⟨n, hn⟩ := Option.isSome_iff_exists.mp (hfields f hf).1
    obtain ⟨t, ht⟩ := Option.isSome_iff_exists.mp (hfields f hf).2
    simp only [readField, hn, ht, require]
    exact ⟨_, rfl⟩
  have hm : ∀ m ∈ e.methods, ∃ d, readMethod m = .ok d := by
    intro m hm
    obtain ⟨n, hn⟩ := Option.isSome_iff_exists.mp (hmethods m hm)
    simp only [readMethod, hn, require]
    exact ⟨_, rfl⟩
  obtain ⟨fs, hfs⟩ := exists_mapM_ok hf
  obtain ⟨ms, hms⟩ := exists_mapM_ok hm
  rw [declaration, hfs, hms]
  exact ⟨_, rfl⟩

theorem exists_toClass {e : Entry} (h : e.isComplete = true) (key : UnitKey)
    (name origin : String) : ∃ c, (e.toClass key name origin).map some = .ok c := by
  obtain ⟨d, hd⟩ := exists_declaration h (Name.splitQualified name).2
  simp only [toClass, hd]
  exact ⟨_, rfl⟩

theorem name_of_declaration {e : Entry} {name : String} {d : TypeDecl}
    (h : e.declaration name = .ok d) : d.name = name := by
  rw [declaration] at h
  cases hf : e.fields.mapM readField with
  | error _ =>
    rw [hf] at h
    cases h
  | ok fs =>
    cases hm : e.methods.mapM readMethod with
    | error _ =>
      rw [hf, hm] at h
      cases h
    | ok ms =>
      rw [hf, hm] at h
      cases h
      rfl

/-- A class that is made from an entry can be found under its own full name. -/
theorem fullName_toClass {e : Entry} {key : UnitKey} {name origin : String} {c : Class}
    (h : e.toClass key name origin = .ok c) (hdot : name.toList.head? ≠ some '.') :
    c.fullName = name := by
  rw [toClass] at h
  cases hd : e.declaration (Name.splitQualified name).2 with
  | error _ =>
    simp only [hd] at h
    cases h
  | ok d =>
    simp only [hd] at h
    cases h
    show Name.within (Name.splitQualified name).1 d.name = name
    rw [name_of_declaration hd, Name.within_splitQualified hdot]

/-- The unit around a class that is made from an entry goes under the given key. -/
theorem key_of_toClass {e : Entry} {key : UnitKey} {name origin : String} {c : Class}
    (h : (e.toClass key name origin).map some = .ok (some c)) {u : SourceUnit}
    (hu : c.unit = some u) : u.key = key := by
  rw [toClass] at h
  cases hd : e.declaration (Name.splitQualified name).2 with
  | error _ =>
    simp only [hd] at h
    cases h
  | ok d =>
    simp only [hd] at h
    cases h
    cases hu
    rfl

end Entry

namespace Listing

/-- The member has what its entry must have. -/
def Member.isComplete : Member → Bool
  | .field f => f.name.isSome && f.type.isSome
  | .method m => m.name.isSome

theorem isComplete_of_member? {owner : String} {line : List Char} {m : Member}
    (h : member? owner line = some m) : m.isComplete = true := by
  rw [member?] at h
  split at h
  · simp only [callable?] at h
    split at h
    · simp at h
    · split at h
      · obtain rfl := Option.some.inj h
        rfl
      · obtain rfl := Option.some.inj h
        rfl
  · simp only [fieldLine?] at h
    split at h
    · split at h
      · simp at h
      · obtain rfl := Option.some.inj h
        rfl
    · simp at h

theorem isComplete_addMember {e : Entry} (he : e.isComplete = true) {m : Member}
    (hm : m.isComplete = true) : (addMember e m).isComplete = true := by
  simp only [Entry.isComplete, Bool.and_eq_true] at he ⊢
  cases m with
  | field f =>
    have hlast : (f.name.isSome && f.type.isSome) = true := hm
    refine ⟨?_, he.2⟩
    rw [addMember, List.all_append, he.1]
    simpa using hlast
  | method m =>
    have hlast : m.name.isSome = true := hm
    refine ⟨he.1, ?_⟩
    rw [addMember, List.all_append, he.2]
    simpa using hlast

theorem isComplete_readMembers {owner : String} {e : Entry} (he : e.isComplete = true)
    (lines : List (List Char)) : (readMembers owner e lines).isComplete = true := by
  induction lines generalizing e with
  | nil => exact he
  | cons line lines ih =>
    rw [readMembers]
    split
    · exact he
    · split
      · exact ih he
      · split
        · next m hm => exact ih (isComplete_addMember he (isComplete_of_member? hm))
        · exact ih he

/-- The entry of a listing lacks nothing. -/
theorem isComplete_of_read {text : String} {e : Entry} (h : read text = some e) :
    e.isComplete = true := by
  rw [read] at h
  generalize ((Text.lines text.toList).map plainLine).filter isTelling = lines at h
  induction lines with
  | nil => simp [readLines] at h
  | cons line lines ih =>
    rw [readLines] at h
    split at h
    · next header hheader =>
      have hstart : header.entry.isComplete = true := by
        rw [Header.entry]
        split <;> rfl
      obtain rfl := Option.some.inj h
      exact isComplete_readMembers hstart lines
    · exact ih h

theorem exists_toClass_of_read {text : String} {e : Entry} (h : read text = some e)
    (key : UnitKey) (name origin : String) : ∃ c, e.toClass key name origin = .ok c := by
  obtain ⟨found, hfound⟩ := Entry.exists_toClass (isComplete_of_read h) key name origin
  cases hc : e.toClass key name origin with
  | error _ =>
    rw [hc] at hfound
    cases hfound
  | ok c => exact ⟨c, rfl⟩

end Listing

namespace Resolver

/-- A catalog in which no name starts with a dot. -/
def isCatalog : Resolver → Bool
  | .catalog _ entries => entries.all fun entry => entry.1.toList.head? != some '.'
  | _ => false

/-- A catalog that has only complete entries. -/
def isComplete : Resolver → Bool
  | .catalog _ entries => entries.all fun entry => entry.2.isComplete
  | _ => false

/-- A catalog answers with the class of an entry, or does not know the name. -/
theorem answer_catalog (label : String) (entries : List (String × Entry)) (tool : Tool)
    (key : UnitKey) (name : String) :
    answer (.catalog label entries) tool key name =
      match entries.lookup name with
      | none => .ok none
      | some e => (e.toClass key name ("resolver:" ++ label)).map some := by
  simp only [answer, ask, Catalog.entry?]
  cases entries.lookup name <;> rfl

/-- A resolver that does not fail: no entry of it lacks anything. -/
def isTotal : Resolver → Bool
  | .catalog _ entries => entries.all fun entry => entry.2.isComplete
  | .binaries .. | .bare _ => true

theorem isTotal_of_isComplete {r : Resolver} (hr : r.isComplete = true) : r.isTotal = true := by
  cases r with
  | catalog label entries => exact hr
  | binaries => rfl
  | bare => rfl

/-- What a resolver can answer: nothing, the class of an entry, or a class that stands in no unit. -/
theorem answer_cases (r : Resolver) (tool : Tool) (key : UnitKey) (name : String) :
    r.answer tool key name = .ok none ∨
    (∃ (e : Entry) (origin : String), (r.isTotal = true → e.isComplete = true) ∧
      r.answer tool key name = (e.toClass key name origin).map some) ∨
    ∃ kinds kind, r = .bare kinds ∧ r.answer tool key name =
      .ok (some { key, unit := none, path := [0], decl := { kind, name } }) := by
  cases r with
  | catalog label entries =>
    rw [answer_catalog]
    cases hl : entries.lookup name with
    | none => exact Or.inl rfl
    | some e =>
      refine Or.inr (Or.inl ⟨e, _, fun hr => ?_, rfl⟩)
      simp only [isTotal, List.all_eq_true] at hr
      exact hr (name, e) (mem_of_lookup hl)
  | binaries classpath command =>
    simp only [answer, ask]
    cases commandOf tool command with
    | none => exact Or.inl rfl
    | some command =>
      simp only [answer_listFirst]
      cases hfound : (Name.binaryNames name).findSome? (listing? tool) with
      | none => exact Or.inl rfl
      | some e =>
        obtain ⟨b, -, hb⟩ := List.exists_of_findSome?_eq_some hfound
        obtain ⟨output, errors, -, hread⟩ := exists_read_of_listing? hb
        exact Or.inr (Or.inl ⟨e, _, fun _ => Listing.isComplete_of_read hread, rfl⟩)
  | bare kinds =>
    simp only [answer, ask]
    cases kinds.lookup name with
    | none => exact Or.inl rfl
    | some kind => exact Or.inr (Or.inr ⟨kinds, kind, rfl, rfl⟩)

theorem exists_answer_of_isTotal {r : Resolver} (hr : r.isTotal = true) (tool : Tool)
    (key : UnitKey) (name : String) : ∃ c, r.answer tool key name = .ok c := by
  rcases r.answer_cases tool key name with hnone | ⟨e, origin, hcomplete, he⟩ | ⟨_, _, _, hbare⟩
  · exact ⟨none, hnone⟩
  · rw [he]
    exact Entry.exists_toClass (hcomplete hr) key name origin
  · exact ⟨_, hbare⟩

variable {r : Resolver} {tool : Tool} {key : UnitKey} {name : String} {c : Class}

/-- The unit around a class that a resolver answers goes under the given key. -/
theorem key_of_answer (h : r.answer tool key name = .ok (some c)) {u : SourceUnit}
    (hu : c.unit = some u) : u.key = key := by
  rcases r.answer_cases tool key name with hnone | ⟨e, origin, -, he⟩ | ⟨_, _, _, hbare⟩
  · simp [hnone] at h
  · exact Entry.key_of_toClass (he.symm.trans h) hu
  · rw [hbare] at h
    cases h
    cases hu

/-- A class that a resolver answers has the name it was asked for by. -/
theorem fullName_of_answer (h : r.answer tool key name = .ok (some c))
    (hdot : name.toList.head? ≠ some '.') : c.fullName = name := by
  rcases r.answer_cases tool key name with hnone | ⟨e, origin, -, he⟩ | ⟨_, _, _, hbare⟩
  · simp [hnone] at h
  · have hclass : (e.toClass key name origin).map some = .ok (some c) := he.symm.trans h
    cases hc : e.toClass key name origin with
    | error _ => simp [hc, Except.map] at hclass
    | ok d =>
      obtain rfl : d = c := by simpa [hc, Except.map] using hclass
      exact Entry.fullName_toClass hc hdot
  · rw [hbare] at h
    cases h
    rfl

/-- The resolver knows no name that starts with a dot. -/
def Undotted (r : Resolver) (tool : Tool) : Prop :=
  ∀ key name c, r.answer tool key name = .ok (some c) → name.toList.head? ≠ some '.'

theorem undotted_of_isCatalog (hr : r.isCatalog = true) (tool : Tool) : r.Undotted tool := by
  intro key name c h
  cases r with
  | catalog label entries =>
    rw [answer_catalog] at h
    cases hl : entries.lookup name with
    | none => simp [hl] at h
    | some e =>
      simp only [isCatalog, List.all_eq_true] at hr
      have hdot := hr (name, e) (mem_of_lookup hl)
      simpa using hdot
  | binaries => simp [isCatalog] at hr
  | bare => simp [isCatalog] at hr

theorem exists_firstAnswer {rs : List Resolver} (hr : ∀ r ∈ rs, r.isTotal = true) (tool : Tool)
    (key : UnitKey) (name : String) : ∃ c, firstAnswer tool key name rs = .ok c := by
  induction rs with
  | nil => exact ⟨none, rfl⟩
  | cons r rs ih =>
    obtain ⟨c, hc⟩ := exists_answer_of_isTotal (hr r List.mem_cons_self) tool key name
    rw [firstAnswer, hc]
    cases c with
    | none => exact ih fun s hs => hr s (List.mem_cons_of_mem r hs)
    | some c => exact ⟨some c, rfl⟩

end Resolver

/-- A class that is found has the name it was looked up by, if no resolver knows names with a dot in
front. -/
theorem fullName_of_lookup {tool : Tool} {id : RegistryId} {cs : List Class} {rs : List Resolver}
    (hr : ∀ r ∈ rs, r.Undotted tool) {name : String} {c : Class}
    (h : lookup tool id cs rs name = .ok (some c)) : c.fullName = name := by
  rcases lookup_cases h with hl | ⟨r, hmem, ha⟩
  · exact fullName_of_lastNamed hl
  · exact Resolver.fullName_of_answer ha (hr r hmem _ name c ha)

/-- A class that is found has the name it was looked up by, if that has no dot in front. -/
theorem fullName_of_lookup_undotted {tool : Tool} {id : RegistryId} {cs : List Class}
    {rs : List Resolver} {name : String} (hdot : name.toList.head? ≠ some '.') {c : Class}
    (h : lookup tool id cs rs name = .ok (some c)) : c.fullName = name := by
  rcases lookup_cases h with hl | ⟨r, -, ha⟩
  · exact fullName_of_lastNamed hl
  · exact Resolver.fullName_of_answer ha hdot

theorem exists_lookup_of_isTotal {tool : Tool} {id : RegistryId} {cs : List Class}
    {rs : List Resolver} (hr : ∀ r ∈ rs, r.isTotal = true) (name : String) :
    ∃ c, lookup tool id cs rs name = .ok c := by
  rw [lookup]
  split
  · exact ⟨none, rfl⟩
  cases lastNamed cs name with
  | some d => exact ⟨some d, rfl⟩
  | none => exact Resolver.exists_firstAnswer hr tool _ name

theorem exists_lookup {tool : Tool} {id : RegistryId} {cs : List Class} {rs : List Resolver}
    (hr : ∀ r ∈ rs, r.isComplete = true) (name : String) :
    ∃ c, lookup tool id cs rs name = .ok c :=
  exists_lookup_of_isTotal (fun r hmem => Resolver.isTotal_of_isComplete (hr r hmem)) name

end JavaAtlas
