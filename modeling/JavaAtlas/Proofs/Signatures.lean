import JavaAtlas.Members
import JavaAtlas.Proofs.Outside
import JavaAtlas.Proofs.Reachable
import Mathlib.Data.List.Forall2

/-! Methods and their signatures. A type is the wanted one by its full name or as it is written; in
the body of one class both come to the same, since what is written alike there has one full name. So
every method is found by the types of its own parameters, or an earlier method is that has the same
ones: `Reachable.method?_own_signature`. A look-up on the way can fail, and then so does the search;
`Tells` and `Finds` are what a test and a search come to if they may fail. -/

namespace JavaAtlas

/-! ### Tests and searches that may fail -/

/-- A test says whether something holds, or fails in one of the ways in `fails`. -/
inductive Tells (fails : EntryError → Prop) (P : Prop) : Except EntryError Bool → Prop
  | yes : P → Tells fails P (.ok true)
  | no : ¬P → Tells fails P (.ok false)
  | error {e : EntryError} : fails e → Tells fails P (.error e)

/-- The first of some methods for which something holds. -/
def IsFirst (P : MethodDecl → Prop) (methods : List MethodDecl) (found : MethodDecl) : Prop :=
  ∃ earlier later, methods = earlier ++ found :: later ∧ P found ∧ ∀ x ∈ earlier, ¬P x

/-- A search finds the first method for which something holds, or fails. -/
inductive Finds (fails : EntryError → Prop) (P : MethodDecl → Prop) (methods : List MethodDecl) :
    Except EntryError (Option MethodDecl) → Prop
  | found {m : MethodDecl} : IsFirst P methods m → Finds fails P methods (.ok (some m))
  | missed : (∀ x ∈ methods, ¬P x) → Finds fails P methods (.ok none)
  | error {e : EntryError} : fails e → Finds fails P methods (.error e)

variable {fails : EntryError → Prop}

theorem Tells.of_iff {P Q : Prop} {result : Except EntryError Bool} (h : Tells fails P result)
    (hiff : P ↔ Q) : Tells fails Q result := by
  cases h with
  | yes hp => exact .yes (hiff.mp hp)
  | no hp => exact .no fun hq => hp (hiff.mpr hq)
  | error he => exact .error he

/-- A second test after a first one that has to hold. -/
theorem Tells.and {P Q : Prop} {result next : Except EntryError Bool} (h : Tells fails P result)
    (hnext : Tells fails Q next) :
    Tells fails (P ∧ Q) (result >>= fun b => if b then next else .ok false) := by
  cases h with
  | yes hp => exact hnext.of_iff ⟨fun hq => ⟨hp, hq⟩, And.right⟩
  | no hp => exact .no fun hpq => hp hpq.1
  | error he => exact .error he

section IsFirst

variable {P : MethodDecl → Prop} {methods front back : List MethodDecl} {m found : MethodDecl}

theorem IsFirst.cons (h : IsFirst P methods found) (hm : ¬P m) :
    IsFirst P (m :: methods) found := by
  obtain ⟨earlier, later, rfl, hfound, hearlier⟩ := h
  refine ⟨m :: earlier, later, rfl, hfound, fun x hx => ?_⟩
  rcases List.mem_cons.mp hx with rfl | hx
  · exact hm
  · exact hearlier x hx

/-- The first method stands at a given one for which the same holds, or in front of it. -/
theorem IsFirst.mem_front (h : IsFirst P (front ++ m :: back) found) (hm : P m) :
    found = m ∨ found ∈ front := by
  obtain ⟨earlier, later, hsplit, -, hearlier⟩ := h
  rcases List.append_eq_append_iff.mp hsplit with ⟨rest, rfl, hrest⟩ | ⟨rest, rfl, hrest⟩
  · cases rest with
    | nil => exact .inl (List.cons.inj hrest).1.symm
    | cons y rest =>
      obtain ⟨rfl, -⟩ := List.cons.inj hrest
      exact absurd hm (hearlier m (by simp))
  · cases rest with
    | nil => exact .inl (List.cons.inj hrest).1
    | cons y rest =>
      obtain ⟨rfl, -⟩ := List.cons.inj hrest
      exact .inr (by simp)

end IsFirst

namespace Class

variable {v : View} {c : Class} {m : MethodDecl}

/-! ### One parameter type -/

theorem fullName_of_same_place {r s : TypeRef} (hname : r.name = s.name)
    (howner : r.owner = s.owner) (hscope : r.scope = s.scope) : r.fullName = s.fullName := by
  unfold TypeRef.fullName TypeRef.resolvedName TypeRef.isPrimitive
  rw [hname, howner, hscope]

/-- Where equal names mean the same, to be written alike is no other way to be the wanted type. -/
theorem tells_fits_ref {d r : TypeRef} (hsame : d.name = r.name → d.fullName = r.fullName)
    (hd : ∀ e, d.fullName.eval v = .error e → fails e)
    (hr : ∀ e, r.fullName.eval v = .error e → fails e) :
    Tells fails ((d.fullName.eval v, d.dims) = (r.fullName.eval v, r.dims))
      ((fits d (.ref r)).eval v) := by
  by_cases hdims : d.dims = r.dims
  · have heval : (fits d (.ref r)).eval v = d.fullName.eval v >>= fun left =>
        r.fullName.eval v >>= fun right => .ok (left == right || d.name == r.name) := by
      simp [fits, hdims]
    rw [heval, hdims]
    cases hleft : d.fullName.eval v with
    | error e => exact .error (hd e hleft)
    | ok left =>
      cases hright : r.fullName.eval v with
      | error e => exact .error (hr e hright)
      | ok right =>
        show Tells fails _ (.ok (left == right || d.name == r.name))
        by_cases hfull : left = right
        · have htrue : (left == right || d.name == r.name) = true := by simp [hfull]
          rw [htrue, hfull]
          exact .yes rfl
        · have hname : d.name ≠ r.name := by
            intro hname
            rw [hsame hname, hright] at hleft
            exact hfull (Except.ok.inj hleft).symm
          have hfalse : (left == right || d.name == r.name) = false := by simp [hfull, hname]
          rw [hfalse]
          exact .no fun h => hfull (Except.ok.inj (Prod.mk.inj h).1)
  · have heval : (fits d (.ref r)).eval v = .ok false := by simp [fits, hdims]
    rw [heval]
    exact .no fun h => hdims (Prod.mk.inj h).2

/-- The text shows the type, with its full name or as it is written. -/
def ShownBy (v : View) (r : TypeRef) (text : String) : Prop :=
  ∃ full, r.fullName.eval v = .ok full ∧
    (text = full ++ TypeRef.brackets r.dims ∨ text = r.name ++ TypeRef.brackets r.dims)

theorem tells_fits_text {d : TypeRef} (text : String)
    (hd : ∀ e, d.fullName.eval v = .error e → fails e) :
    Tells fails (ShownBy v d text) ((fits d (.text text)).eval v) := by
  rw [fits, Query.eval_bind]
  unfold ShownBy
  cases hfull : d.fullName.eval v with
  | error e => exact .error (hd e hfull)
  | ok full =>
    by_cases h : text = full ++ TypeRef.brackets d.dims ∨ text = d.name ++ TypeRef.brackets d.dims
    · have htrue : (text == full ++ TypeRef.brackets d.dims ||
          text == d.name ++ TypeRef.brackets d.dims) = true := by simpa using h
      simp only [Query.ok_bind, htrue, Query.pure_eq, Query.eval_answer]
      exact .yes ⟨full, rfl, h⟩
    · have hfalse : (text == full ++ TypeRef.brackets d.dims ||
          text == d.name ++ TypeRef.brackets d.dims) = false := by simpa using h
      simp only [Query.ok_bind, hfalse, Query.pure_eq, Query.eval_answer]
      refine .no ?_
      rintro ⟨full', hfull', h'⟩
      obtain rfl := Except.ok.inj hfull'
      exact h h'

/-! ### Whole signatures -/

theorem tells_allFit {P : TypeRef → Wanted → Prop} {ds : List TypeRef} {ws : List Wanted}
    (h : ∀ d ∈ ds, ∀ w ∈ ws, Tells fails (P d w) ((fits d w).eval v))
    (hlength : ws.length = ds.length) :
    Tells fails (List.Forall₂ P ds ws) ((allFit ds ws).eval v) := by
  induction ds generalizing ws with
  | nil =>
    obtain rfl := List.length_eq_zero_iff.mp hlength
    exact .yes .nil
  | cons d ds ih =>
    cases ws with
    | nil => simp at hlength
    | cons w ws =>
      have hrest : Tells fails (List.Forall₂ P ds ws) ((allFit ds ws).eval v) :=
        ih (fun d' hd' w' hw' => h d' (by simp [hd']) w' (by simp [hw'])) (by simpa using hlength)
      have heval : (allFit (d :: ds) (w :: ws)).eval v = (fits d w).eval v >>= fun b =>
          if b then (allFit ds ws).eval v else .ok false := by
        rw [allFit, Query.eval_bind]
        congr 1
        funext b
        cases b <;> rfl
      rw [heval]
      exact ((h d (by simp) w (by simp)).and hrest).of_iff List.forall₂_cons.symm

theorem tells_hasSignature {P : TypeRef → Wanted → Prop} {name : String} {ws : List Wanted}
    (h : ∀ d ∈ c.parameterRefs m, ∀ w ∈ ws, Tells fails (P d w) ((fits d w).eval v)) :
    Tells fails (m.name = name ∧ List.Forall₂ P (c.parameterRefs m) ws)
      ((c.hasSignature m name ws).eval v) := by
  have hrefs : (c.parameterRefs m).length = m.params.length := List.length_map ..
  unfold hasSignature
  by_cases hno : name ≠ m.name ∨ ws.length ≠ m.params.length
  · have htrue : (name != m.name || ws.length != m.params.length) = true := by simpa using hno
    rw [if_pos htrue]
    refine .no ?_
    rintro ⟨hname, hall⟩
    rcases hno with hno | hno
    · exact hno hname.symm
    · exact hno (hall.length_eq.symm.trans hrefs)
  · obtain ⟨hname, hlength⟩ := not_or.mp hno
    have hfalse : (name != m.name || ws.length != m.params.length) = false := by
      simpa using hno
    rw [hfalse, if_neg (by simp)]
    have hall := tells_allFit h ((not_not.mp hlength).trans hrefs.symm)
    exact hall.of_iff ⟨fun hp => ⟨(not_not.mp hname).symm, hp⟩, And.right⟩

theorem finds_firstFitting {P : MethodDecl → Prop} {name : String} {ws : List Wanted}
    {methods : List MethodDecl}
    (h : ∀ x ∈ methods, Tells fails (P x) ((c.hasSignature x name ws).eval v)) :
    Finds fails P methods ((c.firstFitting name ws methods).eval v) := by
  induction methods with
  | nil => exact .missed (by simp)
  | cons m methods ih =>
    have hrest := ih fun x hx => h x (by simp [hx])
    have hm := h m (by simp)
    rw [firstFitting, Query.eval_bind]
    generalize (c.hasSignature m name ws).eval v = result at hm
    cases hm with
    | yes hp => exact .found ⟨[], methods, rfl, hp, by simp⟩
    | no hp =>
      show Finds fails P (m :: methods) ((c.firstFitting name ws methods).eval v)
      generalize (c.firstFitting name ws methods).eval v = result at hrest
      cases hrest with
      | found hfirst => exact .found (hfirst.cons hp)
      | missed hnone =>
        refine .missed fun x hx => ?_
        rcases List.mem_cons.mp hx with rfl | hx
        · exact hp
        · exact hnone x hx
      | error he => exact .error he
    | error he => exact .error he

/-! ### The signatures of a class's own methods -/

/-- The types of a method's parameters as signatures tell them: what their full names come to, and
their dimensions. -/
def typesOf (full : TypeRef → Except EntryError String) (c : Class) (m : MethodDecl) :
    List (Except EntryError String × Int) :=
  (c.parameterRefs m).map fun r => (full r, r.dims)

/-- The method `x` has the name of `m` and the types of its parameters. -/
structure Alike (full : TypeRef → Except EntryError String) (c : Class) (m x : MethodDecl) :
    Prop where
  name : x.name = m.name
  types : c.typesOf full x = c.typesOf full m

/-- The full name of a type in the parameters of some method cannot be looked up. -/
def Fails (full : TypeRef → Except EntryError String) (c : Class) (e : EntryError) : Prop :=
  ∃ m ∈ c.decl.methods, ∃ r ∈ c.parameterRefs m, full r = .error e

theorem forall₂_ref_iff {full : TypeRef → Except EntryError String} {x : MethodDecl} :
    List.Forall₂ (fun d w => ∃ r, w = Wanted.ref r ∧ (full d, d.dims) = (full r, r.dims))
        (c.parameterRefs x) ((c.parameterRefs m).map .ref) ↔
      c.typesOf full x = c.typesOf full m := by
  rw [List.forall₂_map_right_iff, typesOf, typesOf, ← List.forall₂_eq_eq_eq,
    List.forall₂_map_left_iff, List.forall₂_map_right_iff]
  simp

/-- By the types of its parameters, a method is looked for as one with its name and types. -/
theorem finds_own_types (v : View) (hm : m ∈ c.decl.methods) :
    Finds (c.Fails fun r => r.fullName.eval v) (c.Alike (fun r => r.fullName.eval v) m)
      c.decl.methods ((c.method? m.name ((c.parameterRefs m).map .ref)).eval v) := by
  refine finds_firstFitting fun x hx => ?_
  have hfits : ∀ d ∈ c.parameterRefs x, ∀ w ∈ (c.parameterRefs m).map Wanted.ref,
      Tells (c.Fails fun r => r.fullName.eval v) (∃ r, w = Wanted.ref r ∧
        (d.fullName.eval v, d.dims) = (r.fullName.eval v, r.dims)) ((fits d w).eval v) := by
    intro d hd w hw
    obtain ⟨r, hr, rfl⟩ := List.mem_map.mp hw
    -- both stand in the body of the class, where a name has one meaning
    have hsame : d.name = r.name → d.fullName = r.fullName := by
      obtain ⟨p, -, rfl⟩ := List.mem_map.mp hd
      obtain ⟨q, -, rfl⟩ := List.mem_map.mp hr
      exact fun hname => fullName_of_same_place hname rfl rfl
    refine (tells_fits_ref hsame (fun e he => ⟨x, hx, d, hd, he⟩)
      (fun e he => ⟨m, hm, r, hr, he⟩)).of_iff ?_
    simp
  refine (tells_hasSignature hfits).of_iff ⟨fun h => ?_, fun h => ?_⟩
  · exact ⟨h.1, forall₂_ref_iff.mp h.2⟩
  · exact ⟨h.name, forall₂_ref_iff.mpr h.types⟩

theorem eval_displays (v : View) (rs : List TypeRef) :
    (∃ e, (displays rs).eval v = .error e ∧ ∃ r ∈ rs, r.fullName.eval v = .error e) ∨
      ∃ texts, (displays rs).eval v = .ok texts ∧ List.Forall₂ (ShownBy v) rs texts := by
  induction rs with
  | nil => exact .inr ⟨[], rfl, .nil⟩
  | cons r rs ih =>
    have heval : (displays (r :: rs)).eval v = r.fullName.eval v >>= fun full =>
        (displays rs).eval v >>= fun texts => .ok ((full ++ TypeRef.brackets r.dims) :: texts) := by
      simp [displays, TypeRef.display]
    rw [heval]
    cases hfull : r.fullName.eval v with
    | error e => exact .inl ⟨e, rfl, r, by simp, hfull⟩
    | ok full =>
      rcases ih with ⟨e, he, r', hr', hr'e⟩ | ⟨texts, htexts, hshown⟩
      · exact .inl ⟨e, by simp [he], r', by simp [hr'], hr'e⟩
      · exact .inr ⟨_, by simp [htexts], .cons ⟨full, hfull, .inl rfl⟩ hshown⟩

/-- By the displays of the types of its parameters, a method is looked for as one whose types are
shown in this way, as its own are. -/
theorem finds_own_displays (v : View) (hm : m ∈ c.decl.methods) :
    ∃ P : MethodDecl → Prop, P m ∧ Finds (c.Fails fun r => r.fullName.eval v) P c.decl.methods
      ((displays (c.parameterRefs m) >>= fun texts =>
        c.method? m.name (texts.map .text)).eval v) := by
  rw [Query.eval_bind]
  rcases eval_displays v (c.parameterRefs m) with ⟨e, he, r, hr, hre⟩ | ⟨texts, htexts, hshown⟩
  · rw [he]
    exact ⟨fun x => x = m, rfl, .error ⟨m, hm, r, hr, hre⟩⟩
  · rw [htexts]
    refine ⟨fun x => x.name = m.name ∧ List.Forall₂ (fun d w => ∃ s, w = Wanted.text s ∧
      ShownBy v d s) (c.parameterRefs x) (texts.map .text), ⟨rfl, ?_⟩, ?_⟩
    · rw [List.forall₂_map_right_iff]
      simpa using hshown
    · refine finds_firstFitting fun x hx => tells_hasSignature fun d hd w hw => ?_
      obtain ⟨s, -, rfl⟩ := List.mem_map.mp hw
      refine (tells_fits_text s fun e he => ⟨x, hx, d, hd, he⟩).of_iff ?_
      simp

end Class

/-- A search comes to a method of which something holds, or it fails. -/
def Yields (fails : EntryError → Prop) (P : MethodDecl → Prop)
    (result : Except EntryError (Option MethodDecl)) : Prop :=
  (∃ found, result = .ok (some found) ∧ P found) ∨ ∃ e, result = .error e ∧ fails e

theorem Finds.yields {P : MethodDecl → Prop} {methods : List MethodDecl} {m : MethodDecl}
    {result : Except EntryError (Option MethodDecl)} (h : Finds fails P methods result)
    (hm : m ∈ methods) (hp : P m) : Yields fails (IsFirst P methods) result := by
  cases h with
  | found hfirst => exact .inl ⟨_, rfl, hfirst⟩
  | missed hnone => exact absurd hp (hnone m hm)
  | error he => exact .inr ⟨_, rfl, he⟩

theorem Yields.imp {P Q : MethodDecl → Prop} {result : Except EntryError (Option MethodDecl)}
    (h : Yields fails P result) (hpq : ∀ m, P m → Q m) : Yields fails Q result := by
  rcases h with ⟨found, hfound, hp⟩ | herror
  · exact .inl ⟨found, hfound, hpq found hp⟩
  · exact .inr herror

namespace Workspace

/-- What the full name of a reference comes to. -/
def fullNameOf (w : Workspace) (r : TypeRef) : Except EntryError String := (w.run r.fullName).1

/-- Behind complete catalogs no question fails. -/
theorem exists_eval_of_isTotal {α : Type} {w : Workspace}
    (h : ∀ r ∈ w.registries, ∀ s ∈ r.resolvers, s.isTotal = true) (q : Query α) :
    ∃ a, q.eval w.view = .ok a := by
  refine Query.exists_eval (fun id name => ?_) q
  cases hr : w.registry? id with
  | none => exact ⟨none, by simp [view, hr]⟩
  | some r =>
    obtain ⟨c, hc⟩ := exists_lookup_of_isTotal (h r (List.mem_of_getElem? hr)) name
    exact ⟨c, by simpa [view, hr, Registry.known] using hc⟩

end Workspace

/-- A method is found by the types of its own parameters, and by their displays. By the types it is
the first method with its name and the same full names and dimensions, and so the method itself if
none before it is like that. Only a full name that cannot be looked up can keep the search from its
end, and behind complete catalogs there is none. -/
theorem Reachable.method?_own_signature {tool : Tool} {w : Workspace} (h : Reachable tool w)
    (c : Class) {front back : List MethodDecl} {m : MethodDecl}
    (hm : c.decl.methods = front ++ m :: back) :
    Yields (c.Fails w.fullNameOf) (fun found =>
        IsFirst (c.Alike w.fullNameOf m) c.decl.methods found ∧
          ((∀ x ∈ front, ¬c.Alike w.fullNameOf m x) → found = m))
      (w.run (c.method? m.name ((c.parameterRefs m).map .ref))).1 ∧
    Yields (c.Fails w.fullNameOf) (fun found => found = m ∨ found ∈ front)
      (w.run (Class.displays (c.parameterRefs m) >>= fun texts =>
        c.method? m.name (texts.map .text))).1 ∧
    ((∀ r ∈ w.registries, ∀ s ∈ r.resolvers, s.isTotal = true) → ∀ e, ¬c.Fails w.fullNameOf e) := by
  have hfaithful := h.faithful.1
  have hfull : w.fullNameOf = fun r => r.fullName.eval w.view := by
    funext r
    exact hfaithful.run_answer _
  have hmem : m ∈ c.decl.methods := by simp [hm]
  rw [hfull, hfaithful.run_answer, hfaithful.run_answer]
  refine ⟨?_, ?_, ?_⟩
  · refine ((Class.finds_own_types w.view hmem).yields hmem ⟨rfl, rfl⟩).imp fun found hfirst => ?_
    refine ⟨hfirst, fun hfront => ?_⟩
    rw [hm] at hfirst
    rcases hfirst.mem_front ⟨rfl, rfl⟩ with heq | hin
    · exact heq
    · obtain ⟨-, -, -, halike, -⟩ := hfirst
      exact absurd halike (hfront found hin)
  · obtain ⟨P, hp, hfinds⟩ := Class.finds_own_displays w.view hmem
    refine (hfinds.yields hmem hp).imp fun found hfirst => ?_
    rw [hm] at hfirst
    exact hfirst.mem_front hp
  · rintro htotal e ⟨x, -, r, -, he⟩
    obtain ⟨full, hok⟩ := Workspace.exists_eval_of_isTotal htotal r.fullName
    have hno : Except.ok full = Except.error e := hok.symm.trans he
    simp at hno

namespace History

/-- Two methods of one name, whose parameters are of the same type but written in two ways. -/
def shortly : MethodDecl := { name := "f", params := [{ name := "a", type := ⟨"A", 1⟩ }] }

def fully : MethodDecl := { name := "f", params := [{ name := "a", type := ⟨"p.A", 1⟩ }] }

def overloadedUnit : SourceUnit :=
  { key := .source 0, package := "p", types := [{ name := "A", methods := [shortly, fully] }] }

def overloaded : Class := overloadedUnit.top 0 { name := "A", methods := [shortly, fully] }

def overloads : List Step :=
  [.addUnit overloadedUnit, .addResolver { resolver := circleCatalog }]

/-- Both are found as the first of the two. -/
theorem method?_own_signature_overloaded :
    overloaded.decl.methods = [shortly] ++ fully :: [] ∧
      ((after {} .null overloads).run
        (overloaded.method? "f" ((overloaded.parameterRefs fully).map .ref))).1 =
          .ok (some shortly) ∧
      overloaded.Alike (after {} .null overloads).fullNameOf fully shortly := by
  have hm : overloaded.decl.methods = [shortly] ++ fully :: [] := rfl
  have hrun : ((after {} .null overloads).run
      (overloaded.method? "f" ((overloaded.parameterRefs fully).map .ref))).1 =
        .ok (some shortly) := rfl
  obtain ⟨hrefs, -, -⟩ :=
    (reachable_after {} .null overloads).method?_own_signature overloaded hm
  refine ⟨hm, hrun, ?_⟩
  rcases hrefs with ⟨found, hfound, ⟨-, -, -, halike, -⟩, -⟩ | ⟨e, he, -⟩
  · have heq : some shortly = some found := Except.ok.inj (hrun.symm.trans hfound)
    rwa [Option.some.inj heq]
  · have hno : Except.ok (some shortly) = Except.error e := hrun.symm.trans he
    simp at hno

end History

end JavaAtlas
