/-!
# Ranges of characters

Properties of characters are given as tables: closed ranges of code points in
ascending order, no two of which touch.
-/

namespace Stockroom.Text

def inRanges (ranges : List (Nat × Nat)) (c : Char) : Bool :=
  ranges.any fun range => range.1 ≤ c.toNat && c.toNat ≤ range.2

end Stockroom.Text
