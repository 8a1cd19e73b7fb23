/-!
# Classes of characters given by ranges

A class of code points is stored as the ascending list of the points where membership changes: a
code point belongs to the class exactly when the number of entries that are at most it is odd.
-/

namespace PromptTemplates.Text

/-- How many of the entries `lo ≤ i < hi` of the ascending array are at most `x`, plus `lo`, by
halving the interval. `fuel` bounds the number of halvings. -/
def countUpTo (bounds : Array Nat) (x : Nat) : (fuel lo hi : Nat) → Nat
  | 0, lo, _ => lo
  | fuel + 1, lo, hi =>
    if lo < hi then
      let mid := (lo + hi) / 2
      match bounds[mid]? with
      | some b => if b ≤ x then countUpTo bounds x fuel (mid + 1) hi
          else countUpTo bounds x fuel lo mid
      | none => lo
    else lo

/-- Membership of a character in the class with these change points. -/
def inRanges (bounds : Array Nat) (c : Char) : Bool :=
  countUpTo bounds c.toNat (bounds.size + 1) 0 bounds.size % 2 == 1

end PromptTemplates.Text
