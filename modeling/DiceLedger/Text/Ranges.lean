/-! # Ranges of code points

A class of characters is kept as the list of its ranges in ascending order, so a
search may stop at the first range that begins past the character.
-/

namespace DiceLedger

namespace Text

/-- Whether a code point lies in one of the ascending ranges. -/
def inRanges (code : Nat) : List (Nat × Nat) → Bool
  | [] => false
  | (first, last) :: rest =>
    if code < first then false else code ≤ last || inRanges code rest

end Text

end DiceLedger
