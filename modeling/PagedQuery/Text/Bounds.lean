/-!
# PagedQuery.Text.Bounds

A set of code points written as the increasing list of those at which membership changes: the
first opens a run, the second closes it, and so on.
-/

namespace PagedQuery.Text

/-- Whether `n` lies in the set with these bounds: whether an odd number of them are at most `n`. -/
def withinBounds : List Nat → Nat → Bool
  | [], _ => false
  | b :: rest, n => if n < b then false else !withinBounds rest n

@[simp] theorem withinBounds_of_lt {b n : Nat} {rest : List Nat} (h : n < b) :
    withinBounds (b :: rest) n = false := by
  simp [withinBounds, h]

end PagedQuery.Text
