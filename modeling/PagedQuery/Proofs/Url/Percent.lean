import PagedQuery.Url.Percent

/-!
# PagedQuery.Proofs.Url.Percent

Percent-encoding undone.  The bytes of a text without percent signs are what is decoded of it,
whichever of its characters are encoded (`percentDecode_percentEncode`).  A mark that is not kept
does not stand in what is encoded.
-/

namespace PagedQuery.Url

theorem hexValue?_hexDigit {n : Nat} (h : n < 16) : Text.hexValue? (hexDigit n) = some n := by
  have hall : ∀ n < 16, Text.hexValue? (hexDigit n) = some n := by decide
  exact hall n h

/-- A character other than the percent sign stands for itself. -/
theorem percentDecode_cons {c : Char} (hc : c ≠ '%') (cs : List Char) :
    percentDecode (c :: cs) = String.utf8EncodeChar c ++ percentDecode cs := by
  match cs with
  | [] => exact (List.append_nil _).symm
  | [d] => rfl
  | d :: e :: rest =>
    have hplain : (c == '%') = false := by simpa using hc
    rw [percentDecode, hplain]

theorem percentDecode_percentByte (b : UInt8) (cs : List Char) :
    percentDecode (percentByte b ++ cs) = b :: percentDecode cs := by
  have hhigh : b.toNat / 16 < 16 := by
    have hbyte := b.toNat_lt
    omega
  have hlow : b.toNat % 16 < 16 := Nat.mod_lt _ (by omega)
  have hbyte : UInt8.ofNat (b.toNat / 16 * 16 + b.toNat % 16) = b := by
    rw [Nat.div_add_mod' b.toNat 16, UInt8.ofNat_toNat]
  simp only [percentByte, List.cons_append, List.nil_append, percentDecode,
    hexValue?_hexDigit hhigh, hexValue?_hexDigit hlow, hbyte, beq_self_eq_true]

theorem percentDecode_percentBytes (bytes : List UInt8) (cs : List Char) :
    percentDecode (bytes.flatMap percentByte ++ cs) = bytes ++ percentDecode cs := by
  induction bytes with
  | nil => rfl
  | cons b bytes ih =>
    rw [List.flatMap_cons, List.append_assoc, percentDecode_percentByte, ih, List.cons_append]

/-- What is encoded is decoded, if a percent sign is not among the characters that may be kept. -/
theorem percentDecode_percentEncode {cs : List Char} (h : '%' ∉ cs) (keep : Char → Bool)
    (rest : List Char) :
    percentDecode (percentEncode keep cs ++ rest) =
      cs.flatMap String.utf8EncodeChar ++ percentDecode rest := by
  induction cs with
  | nil => rfl
  | cons c cs ih =>
    rw [List.mem_cons, not_or] at h
    obtain ⟨hc, hcs⟩ := h
    have hrest := ih hcs
    simp only [percentEncode, List.flatMap_cons, List.append_assoc] at hrest ⊢
    split
    · rw [List.singleton_append, percentDecode_cons (Ne.symm hc), hrest]
    · rw [percentDecode_percentBytes, hrest]

theorem percentDecode_of_plain {cs : List Char} (h : '%' ∉ cs) (rest : List Char) :
    percentDecode (cs ++ rest) = cs.flatMap String.utf8EncodeChar ++ percentDecode rest := by
  have hkept : percentEncode (fun _ => true) cs = cs := by simp [percentEncode]
  have hdecode := percentDecode_percentEncode h (fun _ => true) rest
  rwa [hkept] at hdecode

theorem percentEncode_eq_nil_iff {keep : Char → Bool} {cs : List Char} :
    percentEncode keep cs = [] ↔ cs = [] := by
  refine ⟨fun h => ?_, fun h => by rw [h]; rfl⟩
  cases cs with
  | nil => rfl
  | cons c cs =>
    obtain ⟨b, bytes, hbytes⟩ := List.exists_cons_of_ne_nil (String.utf8EncodeChar_ne_nil (c := c))
    rw [percentEncode, List.flatMap_cons, hbytes] at h
    split at h <;> simp [percentByte] at h

/-- A form leaves alone what it need not encode. -/
theorem formEncode_of_kept {s : String} (h : s.toList.all keepInForm = true) :
    formEncode s = s.toList := by
  rw [List.all_eq_true] at h
  have heach : ∀ c ∈ s.toList, (if c = ' ' then ['+'] else percentEncode keepInForm [c]) = [c] := by
    intro c hc
    have hspace : c ≠ ' ' := by
      rintro rfl
      exact absurd (h ' ' hc) (by decide)
    rw [if_neg hspace]
    simp [percentEncode, h c hc]
  rw [formEncode, List.flatMap_def, List.map_congr_left heach, ← List.flatMap_def,
    List.flatMap_singleton']

/-! ## Marks -/

theorem hexDigit_ne_mark {n : Nat} (h : n < 16) : hexDigit n ≠ '?' := by
  have hall : ∀ n < 16, hexDigit n ≠ '?' := by decide
  exact hall n h

theorem mark_not_mem_percentByte (b : UInt8) : '?' ∉ percentByte b := by
  have hbyte := b.toNat_lt
  simp only [percentByte, List.mem_cons, List.not_mem_nil, or_false, not_or]
  exact ⟨by decide, (hexDigit_ne_mark (by omega)).symm, (hexDigit_ne_mark (by omega)).symm⟩

/-- A question mark that is not kept is encoded. -/
theorem mark_not_mem_percentEncode {keep : Char → Bool} (hkeep : keep '?' = false)
    (cs : List Char) : '?' ∉ percentEncode keep cs := by
  intro hmem
  obtain ⟨c, -, hc⟩ := List.mem_flatMap.mp hmem
  split at hc
  · next hkept =>
    rw [← List.mem_singleton.mp hc, hkeep] at hkept
    contradiction
  · obtain ⟨b, -, hb⟩ := List.mem_flatMap.mp hc
    exact mark_not_mem_percentByte b hb

end PagedQuery.Url
