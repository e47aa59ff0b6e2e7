/-!
# PagedQuery.Text.Pieces

Cutting text at separators and joining it again.  Everything goes through the list of
characters, so that the laws of `List.splitOn` and `List.intercalate` apply.
-/

namespace PagedQuery.Text

/-- The pieces of `s` between the occurrences of `sep`; there is always at least one. -/
def split (sep : Char) (s : String) : List String :=
  (s.toList.splitOn sep).map String.ofList

/-- `pieces` with `sep` between every two of them. -/
def join (sep : String) (pieces : List String) : String :=
  sep.intercalate pieces

@[simp] theorem toList_join (sep : String) (pieces : List String) :
    (join sep pieces).toList = sep.toList.intercalate (pieces.map String.toList) := by
  simp [join, String.toList_intercalate]

/-- Cutting at a character and joining with it gives the text back. -/
theorem join_split (sep : Char) (s : String) : join (String.singleton sep) (split sep s) = s := by
  simp [← String.toList_inj, split, Function.comp_def, List.intercalate_splitOn]

/-! ## Doubled separators -/

/-- Puts `c` in front of the first piece. -/
def consHead (c : Char) : List (List Char) → List (List Char)
  | [] => [[c]]
  | piece :: rest => (c :: piece) :: rest

/-- The pieces between the occurrences of `sep sep`, read from the left without overlap: of
three separators in a row the first two cut and the third belongs to the next piece. -/
def splitOnPair (sep : Char) : List Char → List (List Char)
  | [] => [[]]
  | [c] => [[c]]
  | a :: b :: rest =>
    if a = sep ∧ b = sep then [] :: splitOnPair sep rest
    else consHead a (splitOnPair sep (b :: rest))

/-- The pieces of `s` between the occurrences of the doubled separator. -/
def splitPair (sep : Char) (s : String) : List String :=
  (splitOnPair sep s.toList).map String.ofList

/-! ## The first occurrence -/

/-- What stands before and after the first `sep`, if there is one. -/
def cut (sep : Char) : List Char → Option (List Char × List Char)
  | [] => none
  | c :: cs => if c = sep then some ([], cs) else (cut sep cs).map fun (a, b) => (c :: a, b)

theorem eq_of_cut {sep : Char} {cs a b : List Char} (h : cut sep cs = some (a, b)) :
    cs = a ++ sep :: b := by
  induction cs generalizing a with
  | nil => simp [cut] at h
  | cons c cs ih =>
    by_cases hc : c = sep
    · simp_all [cut]
    · simp only [cut, hc, if_false, Option.map_eq_some_iff] at h
      obtain ⟨⟨a', b'⟩, h', hab⟩ := h
      simp only [Prod.mk.injEq] at hab
      obtain ⟨rfl, rfl⟩ := hab
      simp [ih h']

end PagedQuery.Text
