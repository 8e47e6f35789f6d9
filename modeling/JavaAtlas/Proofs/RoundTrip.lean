import JavaAtlas.Proofs.ClassicReads
import JavaAtlas.Proofs.ModernUnits

/-! Reading undoes printing. -/

namespace JavaAtlas

open Java

/-- A unit that is printed on one line is read back by either grammar as it was, with the line of
the text on each of its types. It does not matter which methods are printed with a body. -/
theorem Grammar.read_print (g : Grammar) {u : UnitDecl} (h : u.Printable) (style : Style)
    (origin : Option String) : g.read (u.print style) origin = .ok (u.onLine 1) := by
  cases g with
  | classic => rw [read, Classic.read_words h]; rfl
  | modern => simp only [read, Modern.read_words h]

namespace Java

/-- Nested types, a constructor of variable arity and an import of all static members. -/
def sample : UnitDecl where
  package := "org.shop"
  imports := [⟨"java.util.List", true, true⟩]
  types := [{
    name := "Cart", modifiers := ["public", "final"], superclass := some ⟨"Base", 0⟩
    interfaces := [⟨"java.io.Closeable", 0⟩]
    fields := [{ name := "rows", type := ⟨"int", 2⟩, modifiers := ["private"] }]
    methods := [
      { name := "Cart", isConstructor := true, throws := [⟨"Failed", 0⟩]
        params := [⟨"size", ⟨"long", 0⟩, false⟩, ⟨"names", ⟨"String", 2⟩, true⟩] },
      { name := "close", returns := some ⟨"void", 0⟩, modifiers := ["public"] }]
    nested := [{
      kind := .interfaceType, name := "Listener"
      methods := [{ name := "added", returns := some ⟨"Item", 1⟩ }]
      nested := [{ name := "Silent" }] }] }]

theorem sample_printable : sample.Printable := by
  refine ⟨by decide +kernel, by decide +kernel, ?_⟩
  intro cart hcart
  obtain rfl := List.mem_singleton.mp hcart
  refine .intro (by decide) (by decide +kernel) (by decide) (by decide +kernel) (by decide +kernel)
    (by decide +kernel) (by decide +kernel) (by decide) ?_
  intro listener hlistener
  obtain rfl := List.mem_singleton.mp hlistener
  refine .intro (by decide) (by decide +kernel) (by decide) (by decide) (by decide) (by decide)
    (by decide +kernel) (by decide) ?_
  intro silent hsilent
  obtain rfl := List.mem_singleton.mp hsilent
  exact .intro (by decide) (by decide +kernel) (by decide) (by decide) (by decide) (by decide)
    (by decide) (by decide) (by simp)

end Java

theorem Grammar.read_print_sample :
    sample.Printable ∧ ∀ g : Grammar,
      g.read (sample.print fun kind _ => kind = .classType) none = .ok (sample.onLine 1) :=
  ⟨sample_printable, fun g => g.read_print sample_printable _ none⟩

end JavaAtlas
