/-!
# PagedQuery.Text.Blank

Blank characters, in the sense of the Unicode property `White_Space`, and trimming.  Field
names, raw filters, search terms and range headers all use this one notion of a blank.
-/

namespace PagedQuery.Text

/-- The 25 characters with the Unicode property `White_Space`. -/
def isBlank (c : Char) : Bool :=
  let n := c.toNat
  (9 ≤ n && n ≤ 13) || n == 0x20 || n == 0x85 || n == 0xA0 || n == 0x1680
    || (0x2000 ≤ n && n ≤ 0x200A) || n == 0x2028 || n == 0x2029 || n == 0x202F
    || n == 0x205F || n == 0x3000

/-- Core's ASCII notion of a blank is contained in this one. -/
theorem isBlank_of_isWhitespace {c : Char} (h : c.isWhitespace = true) : isBlank c = true := by
  simp only [Char.isWhitespace, Bool.or_eq_true, decide_eq_true_eq] at h
  rcases h with ((rfl | rfl) | rfl) | rfl <;> decide

/-! ## Trimming -/

/-- Drops the characters satisfying `p` from the end. -/
def dropEndWhile (p : Char → Bool) (cs : List Char) : List Char :=
  (cs.reverse.dropWhile p).reverse

/-- Drops the characters satisfying `p` from both ends. -/
def stripWhere (p : Char → Bool) (cs : List Char) : List Char :=
  dropEndWhile p (cs.dropWhile p)

/-- `s` without its leading and trailing blanks. -/
def trim (s : String) : String :=
  String.ofList (stripWhere isBlank s.toList)

@[simp] theorem toList_trim (s : String) : (trim s).toList = stripWhere isBlank s.toList := by
  simp [trim]

end PagedQuery.Text
