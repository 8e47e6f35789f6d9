/-! Modifiers of declarations. -/

namespace JavaAtlas.Modifier

/-- The modifiers of a declaration, in the order in which they are listed. -/
def canonical : List String :=
  ["public", "protected", "private", "abstract", "static", "final", "sealed", "non-sealed",
    "transient", "volatile", "synchronized", "native", "strictfp", "default"]

/-- The known modifiers among the given words, each once and in canonical order. -/
def ordered (words : List String) : List String := canonical.filter words.contains

/-- The modifiers that a class or member is commonly asked for. -/
def flags : List String := ["public", "protected", "private", "static", "final", "abstract"]

/-- Those of the common modifiers that a declaration has. -/
def flagsOf (modifiers : List String) : List String := flags.filter modifiers.contains

end JavaAtlas.Modifier
