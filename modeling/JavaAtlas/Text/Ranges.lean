/-! Sets of code points as tables of closed ranges. -/

namespace JavaAtlas.Text

/-- The number lies in one of the closed ranges. -/
def inRanges (ranges : List (Nat × Nat)) (n : Nat) : Bool :=
  ranges.any fun (first, last) => first ≤ n && n ≤ last

end JavaAtlas.Text
