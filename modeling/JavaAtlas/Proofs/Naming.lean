import JavaAtlas.Proofs.Outside
import JavaAtlas.Proofs.Reachable

/-! Classes are found under their own names. The name of a class of a unit comes from the classes
around it, that of a class from outside is put together from the two halves of the name it was asked
for by. Either is the name of the look-up, as long as that has no dot in front:
`Reachable.fullName_of_classNamed`. Walks through a hierarchy rest on this when they remember the
names of the classes they have entered. -/

namespace JavaAtlas

/-- The two halves of a name, of which the second starts at the first segment in upper case that is
not the last, or is the last segment. -/
structure Name.Halved (name package rest : String) : Prop where
  segments : ∃ front back, Name.segments name = front ++ back ∧ Name.Parted front back ∧
    package = Name.join front ∧ rest = Name.join back
  rejoined : Name.within package rest = name

theorem Name.halved_splitQualified {name : String} (hdot : name.toList.head? ≠ some '.') :
    Name.Halved name (splitQualified name).1 (splitQualified name).2 := by
  obtain ⟨front, back, hparted, hsegments, hsplit⟩ := splitQualified_eq name
  refine ⟨⟨front, back, hsegments, hparted, ?_, ?_⟩, within_splitQualified hdot⟩
  · rw [hsplit]
  · rw [hsplit]

-- A dot in front can get lost, since an empty package is as good as none.
example : Name.within (Name.splitQualified ".p.A").1 (Name.splitQualified ".p.A").2 = ".p.A" ∧
    Name.within (Name.splitQualified ".A").1 (Name.splitQualified ".A").2 = "A" := by decide

/-- Whatever was added, asked and loaded, a class that a registry answers has the name it was asked
for by. -/
theorem Reachable.fullName_of_classNamed {tool : Tool} {w : Workspace} (h : Reachable tool w)
    {name : String} (hdot : name.toList.head? ≠ some '.') :
    (∀ id c, (w.run (.classNamed id name)).1 = .ok (some c) → c.fullName = name) ∧
      Name.Halved name (Name.splitQualified name).1 (Name.splitQualified name).2 := by
  refine ⟨fun id c hc => ?_, Name.halved_splitQualified hdot⟩
  rw [h.faithful.1.run_answer, Query.eval_classNamed] at hc
  simp only [Workspace.view] at hc
  cases hr : w.registry? id with
  | none => simp [hr] at hc
  | some r =>
    rw [hr] at hc
    exact fullName_of_lookup_undotted hdot hc

namespace History

/-- A catalog that knows a name with an empty segment, a nested class in lower case and a dot at the
end. -/
def oddCatalog : Resolver := .catalog "c" [("a..B.c.", {})]

def oddlyNamed : List Step :=
  [.ask (Query.classNamed main "a..B.c."), .addResolver { resolver := oddCatalog },
    .addUnit circleUnit, .ask (Query.classNamed main "a..B.c.")]

theorem fullName_of_classNamed_odd :
    "a..B.c.".toList.head? ≠ some '.' ∧
      ∃ c, ((after {} .null oddlyNamed).run (.classNamed main "a..B.c.")).1 = .ok (some c) ∧
        c.package = "a." ∧ c.name = "B.c." ∧ c.fullName = "a..B.c." := by
  have hdot : "a..B.c.".toList.head? ≠ some '.' := by decide
  obtain ⟨c, hc, hpackage, hname⟩ : ∃ c,
      ((after {} .null oddlyNamed).run (.classNamed main "a..B.c.")).1 = .ok (some c) ∧
        c.package = "a." ∧ c.name = "B.c." := ⟨_, rfl, rfl, rfl⟩
  obtain ⟨hfound, -⟩ := (reachable_after {} .null oddlyNamed).fullName_of_classNamed hdot
  exact ⟨hdot, c, hc, hpackage, hname, hfound main c hc⟩

end History

end JavaAtlas
