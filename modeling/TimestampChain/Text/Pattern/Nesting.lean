/-!
# How deep regular expressions are nested

The height of an item counts what it is made of: a group, a class in brackets, and a repetition
stand above what is in them, and a row stands above its items if there are several of them.
-/

namespace TimestampChain.Pattern

def heightLimit : Nat := 250

/-- The height of a row of items, by their heights. A single item makes no row. -/
def rowHeight : List Nat → Nat
  | [] => 0
  | [height] => height
  | heights => 1 + heights.foldr max 0

end TimestampChain.Pattern
