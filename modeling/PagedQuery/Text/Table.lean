import PagedQuery.Text.Bounds
import PagedQuery.Text.Hex

/-!
# PagedQuery.Text.Table

Tables of code points, written as hexadecimal numbers with blanks between them.
-/

namespace PagedQuery.Text

/-- The number that hexadecimal digits stand for. -/
def hexNumber (cs : List Char) : Nat :=
  cs.foldl (fun n c => 16 * n + (hexValue? c).getD 0) 0

/-- The words between blanks and line ends. -/
def words (table : String) : List (List Char) :=
  ((table.toList.map fun c => if c = '\n' then ' ' else c).splitOn ' ').filter (!·.isEmpty)

/-- The numbers of a table. -/
def hexNumbers (table : String) : List Nat :=
  (words table).map hexNumber

/-- Every two numbers. -/
def inPairs : List Nat → List (Nat × Nat)
  | a :: b :: rest => (a, b) :: inPairs rest
  | _ => []

/-- Every three numbers. -/
def inTriples : List Nat → List (Nat × Nat × Nat)
  | a :: b :: c :: rest => (a, b, c) :: inTriples rest
  | _ => []

/-- The value at `n`, where each row tells from where on its value holds. -/
def valueFrom (rows : List (Nat × Nat)) (n : Nat) : Nat :=
  ((rows.takeWhile fun row => row.1 ≤ n).getLast?.map Prod.snd).getD 0

/-- Rows about successive code points.  A word with a colon at its end tells which one is next;
every other word is a row, of numbers with plus signs between them. -/
def successiveRows (table : String) : List (Nat × List Nat) :=
  ((words table).foldl (fun (next, rows) word =>
    if word.contains ':' then (hexNumber (word.filter (· != ':')), rows)
    else (next + 1, (next, (word.splitOn '+').map hexNumber) :: rows)) (0, [])).2

end PagedQuery.Text
