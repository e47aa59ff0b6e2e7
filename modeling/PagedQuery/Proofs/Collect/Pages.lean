/-!
# PagedQuery.Proofs.Collect.Pages

Lists cut into pages of `p` elements of which only the first `m` are kept.  The pages one after
the other are the elements at positions whose remainder by `p` is below `m`
(`flatMap_pages`); nothing is lost if pages are kept whole or if there is one page only
(`map_firstOfEach_eq_iff`).
-/

namespace PagedQuery

variable {α : Type}

/-- Of each `p` elements the first `m`: those at positions whose remainder by `p` is below
`m`. -/
def firstOfEach (p m : Nat) (l : List α) : List α :=
  (l.zipIdx.filter fun x => x.2 % p < m).map Prod.fst

theorem firstOfEach_nil (p m : Nat) : firstOfEach p m ([] : List α) = [] := rfl

/-! ## One page -/

/-- The elements at positions below `m`, where positions are counted from `k` on. -/
theorem map_fst_filter_zipIdx (l : List α) (m k : Nat) :
    ((l.zipIdx k).filter fun x => x.2 < m).map Prod.fst = l.take (m - k) := by
  induction l generalizing k with
  | nil => simp
  | cons a l ih =>
    rw [List.zipIdx_cons]
    by_cases h : k < m
    · have hsub : m - k = (m - (k + 1)) + 1 := by omega
      rw [List.filter_cons_of_pos (by simpa using h), List.map_cons, ih, hsub,
        List.take_succ_cons]
    · have hsub : m - k = 0 := by omega
      have hnext : m - (k + 1) = 0 := by omega
      rw [List.filter_cons_of_neg (by simpa using h), ih, hsub, hnext, List.take_zero,
        List.take_zero]

theorem firstOfEach_of_length_le {p m : Nat} {l : List α} (h : l.length ≤ p) :
    firstOfEach p m l = l.take m := by
  have hmod : (l.zipIdx.filter fun x => x.2 % p < m) = l.zipIdx.filter fun x => x.2 < m := by
    apply List.filter_congr
    intro x hx
    have hlt : x.2 < l.length := by simpa using List.snd_lt_add_of_mem_zipIdx hx
    rw [Nat.mod_eq_of_lt (by omega)]
  rw [firstOfEach, hmod, map_fst_filter_zipIdx, Nat.sub_zero]

/-- Positions may be counted from any multiple of `p` on. -/
theorem map_fst_filter_zipIdx_mod (p m : Nat) (l : List α) :
    ((l.zipIdx p).filter fun x => x.2 % p < m).map Prod.fst = firstOfEach p m l := by
  rw [firstOfEach, List.zipIdx_eq_map_add, List.filter_map, List.map_map]
  have hmod : ((fun x : α × Nat => decide (x.2 % p < m)) ∘ fun x : α × Nat => (x.1, p + x.2)) =
      fun x => decide (x.2 % p < m) := by
    funext x
    simp only [Function.comp, Nat.add_mod_left]
  rw [hmod]
  rfl

/-- The first page, and then the same of what is behind it. -/
theorem firstOfEach_eq_append (p m : Nat) (l : List α) :
    firstOfEach p m l = (l.take p).take m ++ firstOfEach p m (l.drop p) := by
  by_cases h : l.length ≤ p
  · rw [firstOfEach_of_length_le h, List.take_of_length_le h, List.drop_of_length_le h,
      firstOfEach_nil, List.append_nil]
  · have hlength : (l.take p).length = p := by
      rw [List.length_take]
      omega
    have hfirst : firstOfEach p m (l.take p) = (l.take p).take m :=
      firstOfEach_of_length_le (Nat.le_of_eq hlength)
    conv => lhs; rw [← List.take_append_drop p l]
    rw [← hfirst, ← map_fst_filter_zipIdx_mod p m (l.drop p)]
    rw [firstOfEach, firstOfEach, List.zipIdx_append, List.filter_append, List.map_append,
      hlength, Nat.zero_add]

/-! ## All pages -/

/-- The pages one after the other, as many as it takes to reach the end of the list. -/
theorem flatMap_pages {p m n : Nat} {l : List α} (h : l.length ≤ n * p) :
    ((List.range n).flatMap fun i => (l.drop (i * p)).take (min p m)) = firstOfEach p m l := by
  induction n generalizing l with
  | zero =>
    have hnil : l = [] := List.length_eq_zero_iff.mp (by omega)
    rw [hnil]
    rfl
  | succ n ih =>
    have hrest : (l.drop p).length ≤ n * p := by
      rw [List.length_drop]
      rw [Nat.succ_mul] at h
      omega
    rw [List.range_succ_eq_map, List.flatMap_cons, List.flatMap_map, firstOfEach_eq_append,
      ← ih hrest, List.take_take, Nat.zero_mul, List.drop_zero, Nat.min_comm]
    congr 2
    funext i
    rw [List.drop_drop, Nat.succ_mul, Nat.add_comm]

theorem length_firstOfEach_le (p m : Nat) (l : List α) :
    (firstOfEach p m l).length ≤ l.length := by
  have hfilter := List.length_filter_le (fun x => decide (x.2 % p < m)) l.zipIdx
  rw [List.length_zipIdx] at hfilter
  rwa [firstOfEach, List.length_map]

/-! ## When nothing is lost -/

theorem firstOfEach_eq_self {p m : Nat} {l : List α} (h : ∀ i < l.length, i % p < m) :
    firstOfEach p m l = l := by
  have hall : (l.zipIdx.filter fun x => x.2 % p < m) = l.zipIdx := by
    rw [List.filter_eq_self]
    intro x hx
    have hlt : x.2 < l.length := by simpa using List.snd_lt_add_of_mem_zipIdx hx
    simpa using h x.2 hlt
  rw [firstOfEach, hall, List.zipIdx_map_fst]

/-- Whole pages, one after the other, are the list. -/
theorem firstOfEach_of_le {p m : Nat} (hp : 0 < p) (h : p ≤ m) (l : List α) :
    firstOfEach p m l = l :=
  firstOfEach_eq_self fun i _ => Nat.lt_of_lt_of_le (Nat.mod_lt i hp) h

/-- If nothing is missing in number, all positions are below `m` in their pages. -/
theorem mod_lt_of_length_firstOfEach {p m : Nat} {l : List α}
    (h : (firstOfEach p m l).length = l.length) : ∀ i < l.length, i % p < m := by
  have hall : ∀ x ∈ l.zipIdx, decide (x.2 % p < m) = true := by
    rw [← List.length_filter_eq_length_iff, List.length_zipIdx, ← h, firstOfEach,
      List.length_map]
  intro i hi
  have hmem : (l[i], i) ∈ l.zipIdx := List.mem_zipIdx_iff_getElem?.mpr (by simp [hi])
  exact of_decide_eq_true (hall (l[i], i) hmem)

theorem forall_mod_lt_iff {p : Nat} (hp : 0 < p) {m n : Nat} :
    (∀ i < n, i % p < m) ↔ p ≤ m ∨ n ≤ m := by
  constructor
  · intro hall
    by_cases hm : m < p ∧ m < n
    · have hlt := hall m hm.2
      rw [Nat.mod_eq_of_lt hm.1] at hlt
      omega
    · omega
  · rintro (hle | hle) i hi
    · exact Nat.lt_of_lt_of_le (Nat.mod_lt i hp) hle
    · exact Nat.lt_of_le_of_lt (Nat.mod_le i p) (Nat.lt_of_lt_of_le hi hle)

/-- Nothing is lost just if pages are whole or there is one page only, which is not cut; it
does not help that what is lost may look like what is left, since it is missing in number. -/
theorem map_firstOfEach_eq_iff {β : Type} {p m : Nat} (hp : 0 < p) {l : List α} (f : α → β) :
    (firstOfEach p m l).map f = l.map f ↔ p ≤ m ∨ l.length ≤ m := by
  rw [← forall_mod_lt_iff hp]
  constructor
  · intro heq
    have hlength := congrArg List.length heq
    rw [List.length_map, List.length_map] at hlength
    exact mod_lt_of_length_firstOfEach hlength
  · intro hall
    rw [firstOfEach_eq_self hall]

end PagedQuery
