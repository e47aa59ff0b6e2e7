import PagedQuery.ContentRange
import PagedQuery.Proofs.Text.Decimal

/-!
# PagedQuery.Proofs.RangeText

Range headers that servers write are read as they were meant.  `ofText?_textOf` says what is read
of any header text with a first position that is not negative; of the text of a range this is the
range itself (`ofText?_text`).  The rest is about the ranges of pages: `isLastPage_iff_signedCount`
says when a range counts as the last one, and `isLastPage_iff` when this is the case of a count
that is a signed word.  The header of a page can be read if its positions are signed words
(`exists_describes`), and cannot if its offset is none (`ofText?_headerOfPage_of_lt`).
-/

namespace PagedQuery.ContentRange

open Text

/-- The header text with these numbers. -/
def textOf (first last : Int) (count : Nat) : String :=
  "items " ++ toString first ++ "-" ++ toString last ++ "/" ++ toString count

theorem text_eq (r : ContentRange) :
    r.text = textOf r.first.toInt r.last.toInt r.count.toNat := rfl

/-- The characters of a header text. -/
theorem toList_textOf (first last : Int) (count : Nat) :
    (textOf first last count).toList =
      ['i', 't', 'e', 'm', 's', ' '] ++ (((toString first).toList ++
        '-' :: (toString last).toList) ++ '/' :: Nat.toDigits 10 count) := by
  simp [textOf]

theorem stripWhere_textOf (first last : Int) (count : Nat) :
    stripWhere isBlank (textOf first last count).toList = (textOf first last count).toList := by
  apply stripWhere_eq_self
  · intro c hc
    rw [toList_textOf] at hc
    cases hc
    rfl
  · intro c hc
    have hlast : c ∈ (Nat.toDigits 10 count).getLast? := by
      rw [toList_textOf, List.getLast?_append, List.getLast?_append, List.getLast?_cons,
        List.getLast?_eq_some_getLast Nat.toDigits_ne_nil] at hc
      rw [List.getLast?_eq_some_getLast Nat.toDigits_ne_nil]
      simpa using hc
    exact not_isBlank_of_isDigit (isDigit_of_mem_decimal (List.mem_of_getLast? hlast))

/-- The digits of an integer, and its sign, contain no other character. -/
theorem not_mem_toString_int {c : Char} (hdigit : c.isDigit = false) (hsign : c ≠ '-')
    (i : Int) : c ∉ (toString i).toList := by
  rw [toList_toString_int]
  split
  · exact not_mem_decimal hdigit _
  · rw [List.mem_cons]
    rintro (heq | hmem)
    · exact hsign heq
    · exact not_mem_decimal hdigit _ hmem

/-- The slash of a header text comes behind both positions. -/
theorem slash_not_mem_span (first last : Int) :
    '/' ∉ (toString first).toList ++ '-' :: (toString last).toList := by
  rw [List.mem_append, List.mem_cons]
  rintro (hmem | heq | hmem)
  · exact not_mem_toString_int rfl (by decide) _ hmem
  · contradiction
  · exact not_mem_toString_int rfl (by decide) _ hmem

/-- The numbers of a header text are read one by one, if the first of them is not negative. -/
theorem ofText?_textOf {first : Int} (h : 0 ≤ first) (last : Int) (count : Nat) :
    ofText? (textOf first last count) =
      (toInt64? first).bind fun first => (toInt64? last).bind fun last =>
        (uint64? (Nat.toDigits 10 count)).bind fun count => some ⟨first, last, count⟩ := by
  have hslash := slash_not_mem_span first last
  have hdash : '-' ∉ (toString first).toList := by
    rw [toList_toString_int, if_pos h]
    exact not_mem_decimal rfl _
  rw [ofText?, stripWhere_textOf, toList_textOf]
  simp only [dropUnit?, List.cons_append, List.nil_append, Option.bind_eq_bind,
    Option.bind_some, cut_append hslash, cut_append hdash, stripWhere_toString_int,
    stripWhere_decimal, int64?_toString]

/-- A range with a first position that is not negative is read back from its header text. -/
theorem ofText?_text {r : ContentRange} (h : 0 ≤ r.first.toInt) : ofText? r.text = some r := by
  rw [text_eq, ofText?_textOf h, toInt64?_toInt, toInt64?_toInt, uint64?_decimal r.count.toNat_lt,
    UInt64.ofNat_toNat]
  rfl

/-! ## Ranges of pages -/

/-- The largest number of records that is a signed word; from the next one on, counts are
taken as negative. -/
def maxCount : Nat := 9223372036854775807

/-- The count as it is compared with a position: as a signed word. -/
def signedCount (r : ContentRange) : Int :=
  if r.count.toNat ≤ maxCount then r.count.toNat else r.count.toNat - UInt64.size

theorem toInt_toInt64_count (r : ContentRange) : r.count.toInt64.toInt = r.signedCount := by
  have hcount := r.count.toNat_lt
  have hword : r.count.toInt64 = Int64.ofNat r.count.toNat := by
    rw [← UInt64.toInt64_ofNat', UInt64.ofNat_toNat]
  have hsize : Int64.size = UInt64.size := rfl
  have hvalue : UInt64.size = 18446744073709551616 := rfl
  rw [hword, Int64.toInt_ofNat', hsize, signedCount, maxCount]
  split
  · exact Int.bmod_eq_of_le (by omega) (by omega)
  · rw [← Int.sub_bmod_right]
    exact Int.bmod_eq_of_le (by omega) (by omega)

/-- Unless the position behind the last one overflows, a page is the last one if it reaches the
signed count. -/
theorem isLastPage_iff_signedCount {r : ContentRange} (hlast : r.last.toInt < maxCount) :
    r.isLastPage = true ↔ r.signedCount ≤ r.last.toInt + 1 := by
  have hsum : (r.last + 1).toInt = r.last.toInt + 1 := by
    have hlow := r.last.le_toInt
    unfold maxCount at hlast
    rw [Int64.toInt_add, Int64.toInt_one]
    exact Int.bmod_eq_of_le (by omega) (by omega)
  rw [isLastPage, decide_eq_true_iff, Int64.le_iff_toInt_le, hsum, toInt_toInt64_count]

/-- Unless a word overflows, a page is the last one if it reaches the count. -/
theorem isLastPage_iff {r : ContentRange} (hlast : r.last.toInt < maxCount)
    (hcount : r.count.toNat ≤ maxCount) :
    r.isLastPage = true ↔ (r.count.toNat : Int) ≤ r.last.toInt + 1 := by
  rw [isLastPage_iff_signedCount hlast, signedCount, if_pos hcount]

/-- A count that is no signed word is above all positions, and is taken for a negative number. -/
theorem signedCount_of_large {r : ContentRange} (hlast : r.last.toInt < maxCount)
    (hcount : maxCount < r.count.toNat) :
    r.last.toInt + 1 < r.count.toNat ∧ r.signedCount = r.count.toNat - UInt64.size := by
  rw [signedCount, if_neg (by omega)]
  exact ⟨by omega, rfl⟩

/-- The range says that a page has `length` records from `offset` on, out of `count`. -/
structure Describes (r : ContentRange) (offset length count : Nat) : Prop where
  first : r.first.toInt = offset
  last : r.last.toInt = offset + length - 1
  count : r.count.toNat = count

theorem Describes.isLastPage_iff {r : ContentRange} {offset length count : Nat}
    (h : r.Describes offset length count) (hend : offset + length ≤ maxCount)
    (hcount : count ≤ maxCount) : r.isLastPage = true ↔ count ≤ offset + length := by
  rw [ContentRange.isLastPage_iff (by rw [h.last]; omega) (by rw [h.count]; exact hcount),
    h.last, h.count]
  omega

theorem Describes.ofText?_text {r : ContentRange} {offset length count : Nat}
    (h : r.Describes offset length count) : ofText? r.text = some r :=
  ContentRange.ofText?_text (by rw [h.first]; exact Int.natCast_nonneg offset)

/-- The header a server writes over a page of `length` records from `offset` on.  The last
position of a page without records comes before its first. -/
def headerOfPage (offset length count : Nat) : String :=
  "items " ++ toString offset ++ "-" ++ toString ((offset : Int) + length - 1) ++ "/"
    ++ toString count

theorem headerOfPage_eq (offset length count : Nat) :
    headerOfPage offset length count = textOf offset (offset + length - 1) count := rfl

/-- The header of a page is the text of a range that describes the page, if its numbers are
words. -/
theorem exists_describes {offset length count : Nat} (hend : offset + length ≤ maxCount)
    (hcount : count < UInt64.size) :
    ∃ r : ContentRange, headerOfPage offset length count = r.text ∧
      r.Describes offset length count := by
  let r : ContentRange :=
    ⟨Int64.ofInt offset, Int64.ofInt (offset + length - 1), UInt64.ofNat count⟩
  have hdescribes : r.Describes offset length count := by
    unfold maxCount at hend
    constructor
    · exact Int64.toInt_ofInt_of_le (by omega) (by omega)
    · exact Int64.toInt_ofInt_of_le (by omega) (by omega)
    · exact UInt64.toNat_ofNat_of_lt' hcount
  refine ⟨r, ?_, hdescribes⟩
  rw [headerOfPage_eq, text_eq, hdescribes.first, hdescribes.last, hdescribes.count]

/-- The header of a page at an offset that is no signed word cannot be read. -/
theorem ofText?_headerOfPage_of_lt {offset : Nat} (h : maxCount < offset) (length count : Nat) :
    ofText? (headerOfPage offset length count) = none := by
  have hlarge : toInt64? (offset : Int) = none := by
    unfold maxCount at h
    rw [toInt64?, if_neg (by rw [Int64.toInt_maxValue]; omega)]
  rw [headerOfPage_eq, ofText?_textOf (Int.natCast_nonneg offset), hlarge]
  rfl

end PagedQuery.ContentRange
