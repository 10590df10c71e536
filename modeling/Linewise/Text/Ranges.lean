/-
Sets of code points given by their bounds.

A class of characters is written as the ascending list of code points at which membership changes: in from the first,
out from the second, in from the third. Membership is a walk along the list.
-/
namespace Linewise

/-- `n` lies in one of the half-open intervals that the bounds pair up -/
def inBounds : List Nat → Nat → Bool
  | lo :: hi :: rest, n => if n < lo then false else if n < hi then true else inBounds rest n
  | _, _ => false

end Linewise
