import PagedQuery.Proofs.Text.Trimming
import PagedQuery.Proofs.Url.Front

/-!
# PagedQuery.Proofs.Url.Query

The query of an address whose text was put together: what stands behind the first question mark,
less what reading the address takes for something else (`query_of_ofText?`).  Spaces at the end of
the text and tabs and line ends anywhere are left out, and from the first number sign on the text is
the fragment.  A text with none of these is delivered whole (`delivered_eq_self_iff`).
-/

namespace PagedQuery.Url

/-! ## Cleaning -/

/-- A character that is left out at the ends of an address: a control or a space. -/
def isEdge (c : Char) : Bool := decide (c.toNat ≤ 0x20)

/-- No tab and no line end, which are left out everywhere. -/
def isUnbroken (c : Char) : Bool := c != '\t' && c != '\n' && c != '\r'

theorem clean_eq (cs : List Char) : clean cs = (Text.stripWhere isEdge cs).filter isUnbroken :=
  rfl

theorem clean_append_mark (a b : List Char) :
    clean (a ++ '?' :: b) = (a.dropWhile isEdge).filter isUnbroken ++
      '?' :: (Text.dropEndWhile isEdge b).filter isUnbroken := by
  have hmark : isEdge '?' = false := by decide
  have hkept : isUnbroken '?' = true := by decide
  rw [clean_eq, Text.stripWhere_append_mark hmark, List.filter_append,
    List.filter_cons_of_pos hkept]

/-! ## Cutting at a mark -/

section Mark

variable {mark : Char} {a cs : List Char}

theorem splitMark_mark (mark : Char) (b : List Char) :
    splitMark mark (mark :: b) = ([], some b) := by
  simp [splitMark, Text.cut]

theorem splitMark_cons {c : Char} (hc : c ≠ mark) (b : List Char) :
    splitMark mark (c :: b) = (c :: (splitMark mark b).1, (splitMark mark b).2) := by
  unfold splitMark
  rw [Text.cut, if_neg hc]
  cases Text.cut mark b <;> rfl

theorem splitMark_append (h : mark ∉ a) (b : List Char) :
    splitMark mark (a ++ b) = (a ++ (splitMark mark b).1, (splitMark mark b).2) := by
  induction a with
  | nil => rfl
  | cons c a ih =>
    rw [List.mem_cons, not_or] at h
    rw [List.cons_append, splitMark_cons (Ne.symm h.1), ih h.2]
    rfl

theorem isPrefix_fst_splitMark (mark : Char) (cs : List Char) : (splitMark mark cs).1 <+: cs := by
  unfold splitMark
  split
  · next front back hcut =>
    rw [Text.eq_of_cut hcut]
    exact List.prefix_append front _
  · exact List.prefix_refl cs

theorem fst_splitMark_eq_self_iff : (splitMark mark cs).1 = cs ↔ mark ∉ cs := by
  induction cs with
  | nil => simp [splitMark, Text.cut]
  | cons c cs ih =>
    by_cases hc : c = mark
    · simp [hc, splitMark_mark]
    · simp [splitMark_cons hc, ih, Ne.symm hc]

end Mark

/-! ## What is delivered -/

/-- What of a text at the end of an address, behind a question mark, is taken for its query. -/
def delivered (query : List Char) : List Char :=
  (splitMark '#' ((Text.dropEndWhile isEdge query).filter isUnbroken)).1

/-- The text has no number sign, tab or line end, and does not end with a control or a space. -/
def IsDeliverable (query : List Char) : Prop :=
  (∀ c ∈ query, c ≠ '#' ∧ c ≠ '\t' ∧ c ≠ '\n' ∧ c ≠ '\r') ∧ ∀ c ∈ query.getLast?, 0x20 < c.toNat

theorem dropEndWhile_eq_self_iff {p : Char → Bool} {cs : List Char} :
    Text.dropEndWhile p cs = cs ↔ ∀ c ∈ cs.getLast?, p c = false := by
  rw [Text.dropEndWhile, List.reverse_eq_iff, ← List.head?_reverse]
  exact ⟨Text.head?_of_dropWhile_eq_self, Text.dropWhile_eq_self⟩

/-- Just these texts are delivered whole. -/
theorem delivered_eq_self_iff {query : List Char} :
    delivered query = query ↔ IsDeliverable query := by
  have hunbroken : ∀ c, isUnbroken c = true ↔ c ≠ '\t' ∧ c ≠ '\n' ∧ c ≠ '\r' := by
    simp [isUnbroken, and_assoc]
  have hedge : (∀ c ∈ query.getLast?, isEdge c = false) ↔ ∀ c ∈ query.getLast?, 0x20 < c.toNat := by
    simp [isEdge]
  have hparts : IsDeliverable query ↔ (∀ c ∈ query.getLast?, isEdge c = false) ∧
      (∀ c ∈ query, isUnbroken c = true) ∧ '#' ∉ query := by
    rw [hedge]
    simp only [IsDeliverable, hunbroken]
    grind
  rw [hparts, ← dropEndWhile_eq_self_iff, ← List.filter_eq_self, ← fst_splitMark_eq_self_iff]
  constructor
  · intro h
    have hend := Text.isPrefix_dropEndWhile isEdge query
    have hbreaks : List.Sublist ((Text.dropEndWhile isEdge query).filter isUnbroken)
        (Text.dropEndWhile isEdge query) := List.filter_sublist
    have hmark : delivered query <+: (Text.dropEndWhile isEdge query).filter isUnbroken :=
      isPrefix_fst_splitMark '#' _
    -- nothing is left out in all, so that nothing is by any of the three steps
    have hlength := congrArg List.length h
    have hle := hend.length_le
    have hle' := hbreaks.length_le
    have hle'' := hmark.length_le
    have hsame := hend.eq_of_length_le (by omega)
    have hsame' := hbreaks.eq_of_length_le (by omega)
    rw [hsame] at hsame'
    refine ⟨hsame, hsame', ?_⟩
    rwa [delivered, hsame, hsame'] at h
  · rintro ⟨hend, hbreaks, hmark⟩
    rw [delivered, hend, hbreaks, hmark]

/-- The query of an address that was put together of a front and a query. -/
theorem query_of_ofText? {front query : List Char} {u : Url} (hfront : '?' ∉ front)
    (hfront' : '#' ∉ front) (h : ofText? (String.ofList (front ++ '?' :: query)) = some u) :
    u.query = some (percentEncode (keepInQuery (isSpecial u.scheme)) (delivered query)) := by
  have hclean : ∀ {c : Char}, c ∉ front → c ∉ (front.dropWhile isEdge).filter isUnbroken :=
    fun hc hmem => hc ((List.dropWhile_sublist isEdge).subset (List.mem_filter.mp hmem).1)
  have hnumber : '#' ∉ (front.dropWhile isEdge).filter isUnbroken ++ ['?'] := by
    simp only [List.mem_append, List.mem_singleton, not_or]
    exact ⟨hclean hfront', by decide⟩
  obtain ⟨-, hquery⟩ := ofText?_eq_some h
  rw [String.toList_ofList, clean_append_mark, List.append_cons, splitMark_append hnumber] at hquery
  simp only [List.append_assoc, List.singleton_append] at hquery
  rw [splitMark_append (hclean hfront), splitMark_mark] at hquery
  exact hquery

end PagedQuery.Url
