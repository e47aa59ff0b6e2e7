import PagedQuery.Text.Pieces

/-!
# PagedQuery.Proofs.Text.Splitting

Cutting what has been joined.  At a doubled separator exactly the pieces come back, if none of them
has one or ends in half of one (`splitPair_join`); at a single separator also the pieces are cut
(`split_join`, `split_append`), and no separator is left in them (`not_mem_of_mem_split`).
-/

namespace PagedQuery.Text

/-! ## Doubled separators -/

/-- No doubled separator is in the piece, and none comes about where one follows it. -/
structure IsPiece (sep : Char) (piece : List Char) : Prop where
  whole : ¬ [sep, sep] <:+: piece
  ended : ¬ [sep] <:+ piece

section Pairs

variable {sep : Char} {piece : List Char}

theorem IsPiece.tail {c : Char} (h : IsPiece sep (c :: piece)) : IsPiece sep piece where
  whole hpair := h.whole (List.infix_cons hpair)
  ended hlast := h.ended (hlast.trans (List.suffix_cons c piece))

theorem IsPiece.head_ne {c d : Char} (h : IsPiece sep (c :: d :: piece)) :
    ¬ (c = sep ∧ d = sep) := by
  rintro ⟨rfl, rfl⟩
  exact h.whole (List.prefix_append [d, d] piece).isInfix

theorem splitOnPair_append (h : IsPiece sep piece) (rest : List Char) :
    splitOnPair sep (piece ++ sep :: sep :: rest) = piece :: splitOnPair sep rest := by
  induction piece with
  | nil => simp [splitOnPair]
  | cons c piece ih =>
    have hrest := ih h.tail
    cases piece with
    | nil =>
      have hc : c ≠ sep := by
        rintro rfl
        exact h.ended List.suffix_rfl
      simp only [List.nil_append] at hrest
      simp [splitOnPair, hc, consHead]
    | cons d piece =>
      have hne := h.head_ne
      rw [List.cons_append] at hrest
      rw [List.cons_append, List.cons_append, splitOnPair, if_neg hne, hrest, consHead]

theorem splitOnPair_of_isPiece (h : IsPiece sep piece) : splitOnPair sep piece = [piece] := by
  induction piece with
  | nil => rfl
  | cons c piece ih =>
    cases piece with
    | nil => rfl
    | cons d piece => rw [splitOnPair, if_neg h.head_ne, ih h.tail, consHead]

theorem splitOnPair_intercalate {pieces : List (List Char)} (hne : pieces ≠ [])
    (h : ∀ p ∈ pieces, IsPiece sep p) :
    splitOnPair sep ([sep, sep].intercalate pieces) = pieces := by
  induction pieces with
  | nil => contradiction
  | cons p pieces ih =>
    obtain ⟨hp, hpieces⟩ := List.forall_mem_cons.mp h
    cases pieces with
    | nil =>
      rw [List.intercalate_singleton]
      exact splitOnPair_of_isPiece hp
    | cons q pieces =>
      rw [List.intercalate_cons_cons, List.append_assoc]
      have hrest := splitOnPair_append hp ([sep, sep].intercalate (q :: pieces))
      exact hrest.trans (congrArg _ (ih (List.cons_ne_nil q pieces) hpieces))

end Pairs

theorem splitPair_join {pieces : List String} (hne : pieces ≠ [])
    (h : ∀ p ∈ pieces, IsPiece '_' p.toList) : splitPair '_' (join "__" pieces) = pieces := by
  have hchars : splitOnPair '_' (['_', '_'].intercalate (pieces.map String.toList)) =
      pieces.map String.toList :=
    splitOnPair_intercalate (by simpa using hne) (by simpa using h)
  have hpair : "__".toList = ['_', '_'] := rfl
  rw [splitPair, toList_join, hpair, hchars, List.map_map]
  simp [Function.comp_def]

/-! ## Single separators -/

section Single

variable {sep : Char}

theorem split_ne_nil (sep : Char) (s : String) : split sep s ≠ [] :=
  fun h => List.splitOn_ne_nil sep s.toList (List.map_eq_nil_iff.mp h)

theorem not_mem_of_mem_splitOn {cs piece : List Char} (h : piece ∈ cs.splitOn sep) :
    sep ∉ piece := by
  induction cs generalizing piece with
  | nil =>
    rw [List.splitOn_nil, List.mem_singleton] at h
    simp [h]
  | cons c cs ih =>
    rw [List.splitOn_cons_eq_if_modifyHead] at h
    split at h
    · rcases List.mem_cons.mp h with rfl | hrest
      · exact List.not_mem_nil
      · exact ih hrest
    · next hc =>
      -- `c` goes in front of the first piece of the rest
      obtain ⟨first, more, hpieces⟩ := List.exists_cons_of_ne_nil (List.splitOn_ne_nil sep cs)
      rw [hpieces] at h ih
      rcases List.mem_cons.mp h with rfl | hrest
      · have hfirst := ih List.mem_cons_self
        have hne : sep ≠ c := fun heq => hc (beq_of_eq heq.symm)
        simp [hne, hfirst]
      · exact ih (List.mem_cons_of_mem first hrest)

theorem not_mem_of_mem_split {s piece : String} (h : piece ∈ split sep s) :
    sep ∉ piece.toList := by
  obtain ⟨cs, hcs, rfl⟩ := List.mem_map.mp h
  rw [String.toList_ofList]
  exact not_mem_of_mem_splitOn hcs

theorem split_append (sep : Char) (s t : String) :
    split sep (s ++ String.singleton sep ++ t) = split sep s ++ split sep t := by
  simp [split, List.splitOn_append_cons_self]

end Single

theorem splitOn_intercalate_eq_flatMap (sep : Char) {pieces : List (List Char)}
    (hne : pieces ≠ []) :
    ([sep].intercalate pieces).splitOn sep = pieces.flatMap (·.splitOn sep) := by
  induction pieces with
  | nil => contradiction
  | cons p pieces ih =>
    cases pieces with
    | nil => simp
    | cons q pieces =>
      rw [List.intercalate_cons_cons, List.append_assoc, List.flatMap_cons,
        ← ih (List.cons_ne_nil q pieces)]
      exact List.splitOnP_append_cons p _ (beq_self_eq_true sep)

/-- A piece that has separators itself is cut as well. -/
theorem split_join (sep : Char) {pieces : List String} (hne : pieces ≠ []) :
    split sep (join (String.singleton sep) pieces) = pieces.flatMap (split sep) := by
  have hsep : (String.singleton sep).toList = [sep] := by simp
  rw [split, toList_join, hsep, splitOn_intercalate_eq_flatMap sep (by simpa using hne),
    List.map_flatMap, List.flatMap_map]
  rfl

/-- Pieces without separators come back as they were. -/
theorem split_join_of_not_mem {sep : Char} {pieces : List String} (hne : pieces ≠ [])
    (h : ∀ p ∈ pieces, sep ∉ p.toList) :
    split sep (join (String.singleton sep) pieces) = pieces := by
  have hchars : ([sep].intercalate (pieces.map String.toList)).splitOn sep =
      pieces.map String.toList :=
    List.splitOn_intercalate sep (by simpa using h) (by simpa using hne)
  have hsep : (String.singleton sep).toList = [sep] := by simp
  rw [split, toList_join, hsep, hchars, List.map_map]
  simp [Function.comp_def]

end PagedQuery.Text
