import PagedQuery.Text.Blank
import PagedQuery.Text.Integer
import PagedQuery.Text.Pieces

/-!
# PagedQuery.Proofs.Text.Decimal

Numbers written in decimal are read back.  The digits of a number contain no sign, blank or
separator, so they also survive trimming and cutting; what is needed for that is that every
one of them satisfies `Char.isDigit`.
-/

namespace PagedQuery.Text

/-! ## Digits -/

theorem isDigit_of_mem_decimal {n : Nat} {c : Char} (h : c ∈ Nat.toDigits 10 n) :
    c.isDigit = true :=
  Nat.isDigit_of_mem_toDigits (by decide) (by decide) h

theorem not_isBlank_of_isDigit {c : Char} (h : c.isDigit = true) : isBlank c = false := by
  simp only [Char.isDigit, Bool.and_eq_true, decide_eq_true_eq] at h
  obtain ⟨hlow, hhigh⟩ := h
  have hl : 48 ≤ c.toNat := UInt32.le_iff_toNat_le.mp hlow
  have hh : c.toNat ≤ 57 := UInt32.le_iff_toNat_le.mp hhigh
  unfold isBlank
  simp
  omega

/-- A character that is no digit does not occur in a number. -/
theorem not_mem_decimal {c : Char} (h : c.isDigit = false) (n : Nat) :
    c ∉ Nat.toDigits 10 n := by
  intro hmem
  rw [isDigit_of_mem_decimal hmem] at h
  contradiction

theorem digits?_decimal (n : Nat) : digits? (Nat.toDigits 10 n) = some n := by
  have hne : (Nat.toDigits 10 n).isEmpty = false :=
    List.isEmpty_eq_false_iff.mpr Nat.toDigits_ne_nil
  have hall : (Nat.toDigits 10 n).all Char.isDigit = true :=
    List.all_eq_true.mpr fun c hc => isDigit_of_mem_decimal hc
  rw [digits?, hne, hall]
  simp [Nat.ofDigitChars_ten_toDigits]

/-- A number starts with a digit. -/
theorem decimal_eq_cons (n : Nat) :
    ∃ c cs, Nat.toDigits 10 n = c :: cs ∧ c.isDigit = true := by
  obtain ⟨c, cs, h⟩ := List.exists_cons_of_ne_nil (Nat.toDigits_ne_nil (n := n) (b := 10))
  exact ⟨c, cs, h, isDigit_of_mem_decimal (n := n) (h ▸ List.mem_cons_self)⟩

theorem dropPlus_decimal (n : Nat) : dropPlus (Nat.toDigits 10 n) = Nat.toDigits 10 n := by
  obtain ⟨c, cs, h, hdigit⟩ := decimal_eq_cons n
  rw [h]
  unfold dropPlus
  split
  · next heq =>
    cases heq
    contradiction
  · rfl

/-! ## Words -/

theorem uint64?_decimal {n : Nat} (h : n < UInt64.size) :
    uint64? (Nat.toDigits 10 n) = some (UInt64.ofNat n) := by
  simp [uint64?, dropPlus_decimal, digits?_decimal, h]

/-- The digits of an integer, behind a sign if it is negative. -/
theorem toList_toString_int (i : Int) :
    (toString i).toList =
      if 0 ≤ i then Nat.toDigits 10 i.toNat else '-' :: Nat.toDigits 10 (-i).toNat := by
  rw [Int.toString_eq_repr, Int.repr_eq_if]
  split <;> simp

/-- What an integer writes is read as this integer, if it fits. -/
theorem int64?_toString (i : Int) : int64? (toString i).toList = toInt64? i := by
  rw [toList_toString_int]
  split
  · next hpos =>
    obtain ⟨c, cs, h, hdigit⟩ := decimal_eq_cons i.toNat
    have hvalue : (i.toNat : Int) = i := by omega
    have hread : int64? (Nat.toDigits 10 i.toNat) =
        (digits? (dropPlus (Nat.toDigits 10 i.toNat))).bind fun n => toInt64? n := by
      rw [h]
      unfold int64?
      split
      · next heq =>
        cases heq
        contradiction
      · rfl
    rw [hread, dropPlus_decimal, digits?_decimal, Option.bind_some, hvalue]
  · next hneg =>
    have hvalue : -((-i).toNat : Int) = i := by omega
    simp only [int64?]
    rw [digits?_decimal, Option.bind_some, hvalue]

theorem toInt64?_toInt (i : Int64) : toInt64? i.toInt = some i := by
  rw [toInt64?, if_pos ⟨i.minValue_le_toInt, i.toInt_le⟩, Int64.ofInt_toInt]

/-- Without a minus sign no negative integer is read. -/
theorem toInt_nonneg_of_int64? {cs : List Char} {i : Int64} (hsign : '-' ∉ cs)
    (h : int64? cs = some i) : 0 ≤ i.toInt := by
  unfold int64? at h
  split at h
  · exact absurd List.mem_cons_self hsign
  · obtain ⟨n, -, hfits⟩ := Option.bind_eq_some_iff.mp h
    rw [toInt64?] at hfits
    split at hfits
    · next hn =>
      rw [Int64.toInt_minValue, Int64.toInt_maxValue] at hn
      rw [← Option.some.inj hfits, Int64.toInt_ofInt_of_le (by omega) (by omega)]
      exact Int.natCast_nonneg n
    · contradiction

/-! ## Trimming and cutting -/

theorem dropWhile_eq_self {p : Char → Bool} {cs : List Char}
    (h : ∀ c ∈ cs.head?, p c = false) : cs.dropWhile p = cs := by
  cases cs with
  | nil => rfl
  | cons c cs => simp [h c rfl]

/-- Trimming leaves alone what has nothing to be trimmed at its ends. -/
theorem stripWhere_eq_self {p : Char → Bool} {cs : List Char}
    (hhead : ∀ c ∈ cs.head?, p c = false) (hlast : ∀ c ∈ cs.getLast?, p c = false) :
    stripWhere p cs = cs := by
  have hreverse : cs.reverse.dropWhile p = cs.reverse :=
    dropWhile_eq_self fun c hc => hlast c (by rwa [List.head?_reverse] at hc)
  rw [stripWhere, dropWhile_eq_self hhead, dropEndWhile, hreverse, List.reverse_reverse]

/-- Trimming blanks leaves an integer alone. -/
theorem stripWhere_toString_int (i : Int) :
    stripWhere isBlank (toString i).toList = (toString i).toList := by
  have hnone : ∀ c ∈ (toString i).toList, isBlank c = false := by
    intro c hc
    rw [toList_toString_int] at hc
    split at hc
    · exact not_isBlank_of_isDigit (isDigit_of_mem_decimal hc)
    · obtain rfl | hc := List.mem_cons.mp hc
      · rfl
      · exact not_isBlank_of_isDigit (isDigit_of_mem_decimal hc)
  exact stripWhere_eq_self (fun c hc => hnone c (List.mem_of_mem_head? hc))
    fun c hc => hnone c (List.mem_of_getLast? hc)

theorem stripWhere_decimal (n : Nat) :
    stripWhere isBlank (Nat.toDigits 10 n) = Nat.toDigits 10 n := by
  have h := stripWhere_toString_int n
  rwa [toList_toString_int, if_pos (Int.natCast_nonneg n), Int.toNat_natCast] at h

/-- A text is cut at the first separator. -/
theorem cut_append {sep : Char} {a : List Char} (h : sep ∉ a) (b : List Char) :
    cut sep (a ++ sep :: b) = some (a, b) := by
  induction a with
  | nil => simp [cut]
  | cons c cs ih =>
    have hc : c ≠ sep := fun heq => h (heq ▸ List.mem_cons_self)
    have hcs : sep ∉ cs := fun hmem => h (List.mem_cons_of_mem c hmem)
    simp [cut, hc, ih hcs]

/-- There is no separator before the first one. -/
theorem not_mem_of_cut {sep : Char} {cs a b : List Char} (h : cut sep cs = some (a, b)) :
    sep ∉ a := by
  induction cs generalizing a b with
  | nil => contradiction
  | cons c cs ih =>
    rw [cut] at h
    split at h
    · obtain ⟨rfl, -⟩ := Prod.mk.inj (Option.some.inj h)
      exact List.not_mem_nil
    · next hc =>
      obtain ⟨⟨a', b'⟩, hcut, heq⟩ := Option.map_eq_some_iff.mp h
      obtain ⟨rfl, -⟩ := Prod.mk.inj heq
      rw [List.mem_cons, not_or]
      exact ⟨Ne.symm hc, ih hcut⟩

end PagedQuery.Text
