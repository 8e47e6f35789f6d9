import JavaAtlas.Proofs.ListedClasses
import JavaAtlas.Proofs.ListingText
import Mathlib.Data.List.Infix

/-! Type arguments. They are left out of the lines of a listing and of the types of a source text,
and the two counters of open lists differ only where a closing mark has no opening one: the first
stays at zero and the second goes below. So both leave out the same arguments wherever every list
is opened before it is closed, `Generics.compact_agrees_outside`. -/

namespace JavaAtlas.Generics

open Text (isBlank)

/-! ### What is kept -/

theorem outsideFrom_sublist (depth : Nat) (cs : List Char) : (outsideFrom depth cs).Sublist cs := by
  induction cs generalizing depth with
  | nil => exact List.Sublist.refl []
  | cons c cs ih =>
    rw [outsideFrom]
    split
    · exact (ih (depth + 1)).cons c
    · split
      · exact (ih (depth - 1)).cons c
      · split
        · exact (ih depth).cons_cons c
        · exact (ih depth).cons c

theorem outside_eq_self {cs : List Char} (h : Listing.Unmarked cs) : outside cs = cs := by
  have hplain : ∀ c ∈ cs, c ≠ '<' ∧ c ≠ '>' := by
    intro c hc
    constructor
    · rintro rfl
      exact h.1 hc
    · rintro rfl
      exact h.2 hc
  have hkept := Listing.outside_append hplain []
  rwa [List.append_nil, show outside [] = [] from rfl, List.append_nil] at hkept

/-- Blanks can be left out before or after: no mark is one. -/
theorem outsideFrom_filter (depth : Nat) (cs : List Char) :
    outsideFrom depth (cs.filter (!isBlank ·)) = (outsideFrom depth cs).filter (!isBlank ·) := by
  induction cs generalizing depth with
  | nil => rfl
  | cons c cs ih =>
    by_cases hopen : c = '<'
    · subst hopen
      rw [List.filter_cons_of_pos (by decide)]
      exact ih (depth + 1)
    by_cases hclose : c = '>'
    · subst hclose
      rw [List.filter_cons_of_pos (by decide)]
      exact ih (depth - 1)
    by_cases hblank : isBlank c = true
    · rw [List.filter_cons_of_neg (by simp [hblank]), ih, outsideFrom]
      by_cases hdepth : depth = 0
      · simp [hopen, hclose, hdepth, hblank]
      · simp [hopen, hclose, hdepth]
    · rw [List.filter_cons_of_pos (by simp [hblank]), outsideFrom, outsideFrom]
      by_cases hdepth : depth = 0
      · simp [hopen, hclose, hdepth, hblank, ih]
      · simp [hopen, hclose, hdepth, ih]

/-! ### The two counters -/

/-- With `depth` lists open in front of it, no part of a text from its start closes more lists than
are open. -/
def Opened (depth : Nat) (cs : List Char) : Prop :=
  ∀ front, front <+: cs → front.count '>' ≤ depth + front.count '<'

namespace Opened

variable {depth : Nat} {c : Char} {cs : List Char}

theorem opening (h : Opened depth ('<' :: cs)) : Opened (depth + 1) cs := by
  intro front hfront
  have hcount := h ('<' :: front) ((List.prefix_cons_inj '<').mpr hfront)
  rw [List.count_cons_self, List.count_cons_of_ne (by decide)] at hcount
  omega

theorem closing (h : Opened depth ('>' :: cs)) : 0 < depth ∧ Opened (depth - 1) cs := by
  have hopen : 0 < depth := by
    have hcount := h ['>'] ⟨cs, rfl⟩
    simp at hcount
    omega
  refine ⟨hopen, fun front hfront => ?_⟩
  have hcount := h ('>' :: front) ((List.prefix_cons_inj '>').mpr hfront)
  rw [List.count_cons_self, List.count_cons_of_ne (by decide)] at hcount
  omega

theorem tail (h : Opened depth (c :: cs)) (hopen : c ≠ '<') (hclose : c ≠ '>') :
    Opened depth cs := by
  intro front hfront
  have hcount := h (c :: front) ((List.prefix_cons_inj c).mpr hfront)
  rwa [List.count_cons_of_ne hclose, List.count_cons_of_ne hopen] at hcount

/-- Both counters stand at the number of open lists, so that neither ever has to go below zero. -/
theorem compactFrom_eq (h : Opened depth cs) :
    compactFrom depth cs = (outsideFrom depth cs).filter (!isBlank ·) := by
  induction cs generalizing depth with
  | nil => rfl
  | cons c cs ih =>
    by_cases hopen : c = '<'
    · subst hopen
      exact ih h.opening
    by_cases hclose : c = '>'
    · subst hclose
      obtain ⟨hpos, hrest⟩ := h.closing
      have hdepth : (depth : Int) - 1 = ((depth - 1 : Nat) : Int) := by omega
      show compactFrom ((depth : Int) - 1) cs = (outsideFrom (depth - 1) cs).filter (!isBlank ·)
      rw [hdepth]
      exact ih hrest
    have hrest := ih (h.tail hopen hclose)
    rw [compactFrom, outsideFrom]
    by_cases hdepth : depth = 0
    · subst hdepth
      by_cases hblank : isBlank c = true
      · simpa [hopen, hclose, hblank] using hrest
      · simpa [hopen, hclose, hblank] using hrest
    · simpa [hopen, hclose, hdepth] using hrest

end Opened

/-- Where no part of a text from its start closes more lists than it opens, a type and a line of a
listing are left with the same characters, up to blanks. Whatever the text is, a line is left with
some of its characters in order, with no mark among them, and there is nothing more to leave out. -/
theorem compact_agrees_outside (cs : List Char) :
    ((∀ front, front <+: cs → front.count '>' ≤ front.count '<') →
      compact cs = (outside cs).filter (!isBlank ·) ∧
        compact cs = outside (cs.filter (!isBlank ·))) ∧
    '<' ∉ outside cs ∧ '>' ∉ outside cs ∧ (outside cs).Sublist cs ∧
    outside (outside cs) = outside cs := by
  have hunmarked : Listing.Unmarked (outside cs) := Listing.unmarked_outsideFrom 0 cs
  refine ⟨fun h => ?_, hunmarked.1, hunmarked.2, outsideFrom_sublist 0 cs,
    outside_eq_self hunmarked⟩
  have hopened : Opened 0 cs := fun front hfront => by
    rw [Nat.zero_add]
    exact h front hfront
  have hkept : compact cs = (outside cs).filter (!isBlank ·) := hopened.compactFrom_eq
  exact ⟨hkept, hkept.trans (outsideFrom_filter 0 cs).symm⟩

/-- Lists inside and beside others, with blanks around them. -/
def layeredType : List Char := "a. Map <K, List<V[]> >\t. Entry<?>".toList

theorem compact_agrees_outside_layered :
    (∀ front, front <+: layeredType → front.count '>' ≤ front.count '<') ∧
      compact layeredType = outside (layeredType.filter (!isBlank ·)) ∧
      compact layeredType = "a.Map.Entry".toList ∧
      outside (outside layeredType) = outside layeredType := by
  have hopened : ∀ front, front <+: layeredType → front.count '>' ≤ front.count '<' := by
    have hall : ∀ front ∈ layeredType.inits, front.count '>' ≤ front.count '<' := by decide
    exact fun front hfront => hall front ((List.mem_inits _ _).mpr hfront)
  obtain ⟨hagree, -, -, -, hagain⟩ := compact_agrees_outside layeredType
  exact ⟨hopened, (hagree hopened).2, by decide, hagain⟩

end JavaAtlas.Generics
