import PagedQuery.Proofs.RangeText
import PagedQuery.Proofs.Text.Trimming

/-!
# PagedQuery.Proofs.RangeHeader

Which ranges come back from their header texts.  The dash between the two positions is the first
one of the text, so that no header is read as a range with a negative first position
(`toInt_first_nonneg`), and the text of such a range is refused (`ofText?_text_of_neg`).  All other
ranges come back, also those that were read from a header of another wording (`text_reads_back`).
-/

namespace PagedQuery.ContentRange

open Text

/-- The first position is read in front of the first dash. -/
theorem toInt_first_nonneg {header : String} {r : ContentRange} (h : ofText? header = some r) :
    0 ≤ r.first.toInt := by
  simp only [ofText?, Option.bind_eq_bind, Option.bind_eq_some_iff] at h
  obtain ⟨rest, -, ⟨span, count⟩, -, ⟨first, last⟩, hdash, i, hfirst, j, -, n, -, heq⟩ := h
  obtain rfl := Option.some.inj heq
  have hsign : '-' ∉ stripWhere isBlank first := fun hmem =>
    not_mem_of_cut hdash (mem_of_mem_stripWhere hmem)
  exact toInt_nonneg_of_int64? hsign hfirst

/-- The sign of a negative first position is taken for the dash, before which there is no number. -/
theorem ofText?_text_of_neg {r : ContentRange} (h : r.first.toInt < 0) :
    ofText? r.text = none := by
  have hslash := slash_not_mem_span r.first.toInt r.last.toInt
  have hsign : (toString r.first.toInt).toList =
      '-' :: Nat.toDigits 10 (-r.first.toInt).toNat := by
    rw [toList_toString_int, if_neg (by omega)]
  have hspan : cut '-' ((toString r.first.toInt).toList ++ '-' :: (toString r.last.toInt).toList) =
      some ([],
        Nat.toDigits 10 (-r.first.toInt).toNat ++ '-' :: (toString r.last.toInt).toList) := by
    rw [hsign]
    rfl
  have hnone : int64? (stripWhere isBlank []) = none := rfl
  rw [text_eq, ofText?, stripWhere_textOf, toList_textOf]
  simp only [dropUnit?, List.cons_append, List.nil_append, Option.bind_eq_bind,
    Option.bind_some, cut_append hslash, hspan, hnone, Option.bind_none]

theorem read_eq_ok_iff {header : String} {r : ContentRange} :
    read header = .ok r ↔ ofText? header = some r := by
  rw [read]
  cases ofText? header <;> simp

/-- The text of a range is read as this range if the first position is not negative, and is no
range header else.  What is read from any header, with blanks, signs and zeros in its numbers as it
may be, is a range with a first position that is not negative, and comes back from its own text. -/
theorem text_reads_back :
    (∀ r : ContentRange, read r.text =
      if 0 ≤ r.first.toInt then .ok r else .error (.decode (.range r.text))) ∧
    ∀ (header : String) (r : ContentRange), read header = .ok r →
      0 ≤ r.first.toInt ∧ read r.text = .ok r := by
  constructor
  · intro r
    by_cases hfirst : 0 ≤ r.first.toInt
    · rw [if_pos hfirst, read, ofText?_text hfirst]
    · rw [if_neg hfirst, read, ofText?_text_of_neg (by omega)]
  · intro header r hread
    have hnonneg := toInt_first_nonneg (read_eq_ok_iff.mp hread)
    exact ⟨hnonneg, read_eq_ok_iff.mpr (ofText?_text hnonneg)⟩

/-- A header with blanks, a plus sign and leading zeros. -/
theorem text_reads_back_padded :
    let header := "\u00a0 items  +007 - -01 /\t009 "
    let r : ContentRange := ⟨7, -1, 9⟩
    read header = .ok r ∧ r.text = "items 7--1/9" ∧ read r.text = .ok r := by
  intro header r
  have hread : read header = .ok r := read_eq_ok_iff.mpr (by decide)
  exact ⟨hread, by decide, (text_reads_back.2 header r hread).2⟩

end PagedQuery.ContentRange
