import PagedQuery.Term.Parser

/-!
# PagedQuery.Proofs.Term.Reading

What a character does to the reader of a query text, and what a text does.  One character opens,
closes or parts something, extends plain text, or is refused (`reads_step`); what all readers
keep is proved by cases on this.  A text that is read without refusal leads the reader somewhere
(`Reader.Reaches`), and reading is a matter of where that is (`run_eq_ok_iff`) or of the first
character refused (`run_eq_error`).
-/

namespace PagedQuery.Term

/-! ## One character -/

/-- Whether the piece is a term in brackets. -/
def Piece.isClosed : Piece → Bool
  | .closed _ => true
  | .text _ => false

/-- Whether the reader can go on with `c`. -/
def Reader.admits (r : Reader) (c : Char) : Bool :=
  if c = ')' ∨ c = ',' then !r.brackets.isEmpty
  else if c = '&' then r.brackets.isEmpty && !r.piece.isBlank
  else !r.piece.isClosed

namespace Reader

/-- What becomes of a reader by one character. -/
inductive Reads : Reader → Char → Except ParseProblem Reader → Prop
  | opens (terms : List Term) (brackets : List Bracket) (chars : List Char) :
    Reads ⟨terms, brackets, .text chars⟩ '(' (.ok (opened ⟨terms, brackets, .text chars⟩ chars))
  | lengthens (terms : List Term) (brackets : List Bracket) (chars : List Char) {c : Char}
      (hc : isStructural c = false) :
    Reads ⟨terms, brackets, .text chars⟩ c (.ok ⟨terms, brackets, .text (c :: chars)⟩)
  | parts (terms : List Term) (b : Bracket) (outer : List Bracket) (piece : Piece) :
    Reads ⟨terms, b :: outer, piece⟩ ','
      (.ok ⟨terms, ⟨b.name, piece.term :: b.before⟩ :: outer, .text []⟩)
  | closes (terms : List Term) (b : Bracket) (outer : List Bracket) (piece : Piece) :
    Reads ⟨terms, b :: outer, piece⟩ ')' (.ok ⟨terms, outer, .closed (b.close piece)⟩)
  | ends (terms : List Term) {piece : Piece} (hpiece : piece.isBlank = false) :
    Reads ⟨terms, [], piece⟩ '&' (.ok ⟨piece.term :: terms, [], .text []⟩)
  | refuses {r : Reader} {c : Char} (hc : r.admits c = false) : Reads r c (.error (r.refuse c))

theorem reads_separate {r : Reader} {c : Char}
    (hc : c = ')' ∨ c = ',' ∨ c = '&' ∨ r.piece.isClosed = true) : Reads r c (r.separate c) := by
  obtain ⟨terms, _ | ⟨b, outer⟩, piece⟩ := r
  · simp only [separate]
    split
    · next h =>
      simp only [Bool.and_eq_true, decide_eq_true_eq, Bool.not_eq_true'] at h
      obtain ⟨rfl, hpiece⟩ := h
      exact .ends terms hpiece
    · next h =>
      refine .refuses ?_
      grind [admits]
  · simp only [separate]
    split
    · next h => exact h ▸ .parts terms b outer piece
    · next hcomma =>
      split
      · next h => exact h ▸ .closes terms b outer piece
      · next hclose => exact .refuses (by grind [admits])

/-- Every character is read in one of these ways. -/
theorem reads_step (r : Reader) (c : Char) : Reads r c (r.step c) := by
  obtain ⟨terms, brackets, chars | term⟩ := r
  · simp only [step]
    split
    · next h => exact h ▸ .opens terms brackets chars
    · next hopen =>
      split
      · next h =>
        apply reads_separate
        grind [isStructural]
      · next h => exact .lengthens terms brackets chars (by simpa using h)
  · exact reads_separate (.inr (.inr (.inr rfl)))

/-- A character that structures nothing goes on with plain text. -/
theorem step_of_plain {c : Char} (hc : isStructural c = false) (terms : List Term)
    (brackets : List Bracket) (chars : List Char) :
    step ⟨terms, brackets, .text chars⟩ c = .ok ⟨terms, brackets, .text (c :: chars)⟩ := by
  have hopen : c ≠ '(' := by
    rintro rfl
    contradiction
  simp only [step, hopen, hc, if_false]
  rfl

theorem step_comma (terms : List Term) (b : Bracket) (outer : List Bracket) (piece : Piece) :
    step ⟨terms, b :: outer, piece⟩ ',' =
      .ok ⟨terms, ⟨b.name, piece.term :: b.before⟩ :: outer, .text []⟩ := by
  cases piece <;> rfl

theorem step_close (terms : List Term) (b : Bracket) (outer : List Bracket) (piece : Piece) :
    step ⟨terms, b :: outer, piece⟩ ')' = .ok ⟨terms, outer, .closed (b.close piece)⟩ := by
  cases piece <;> rfl

theorem step_ampersand (terms : List Term) {piece : Piece} (hpiece : piece.isBlank = false) :
    step ⟨terms, [], piece⟩ '&' = .ok ⟨piece.term :: terms, [], .text []⟩ := by
  obtain ⟨_ | _⟩ | _ := piece
  · contradiction
  · rfl
  · rfl

/-- A text ends outside of brackets, behind a term or where there are none at all. -/
theorem finish_eq_ok_iff {r : Reader} {ts : List Term} :
    r.finish = .ok ts ↔ r.brackets = [] ∧
      (r.piece.isBlank = false ∧ ts = (r.piece.term :: r.terms).reverse ∨
        r.piece.isBlank = true ∧ r.terms = [] ∧ ts = []) := by
  obtain ⟨terms, _ | ⟨b, outer⟩, piece⟩ := r
  · simp only [finish, List.isEmpty_nil, Bool.not_true, Bool.false_eq_true, if_false, true_and]
    cases piece.isBlank with
    | false => simp [eq_comm]
    | true => cases terms <;> simp [eq_comm]
  · simp [finish]

/-! ## Texts -/

/-- The text leads from one reader to another, without refusal. -/
inductive Reaches : Reader → List Char → Reader → Prop
  | refl (r : Reader) : Reaches r [] r
  | step {r r' r'' : Reader} {c : Char} {cs : List Char} (hstep : r.step c = .ok r')
      (hrest : Reaches r' cs r'') : Reaches r (c :: cs) r''

namespace Reaches

variable {r r' r'' : Reader} {cs ds : List Char}

theorem single {c : Char} (h : r.step c = .ok r') : r.Reaches [c] r' :=
  .step h (.refl r')

theorem append (h : r.Reaches cs r') (h' : r'.Reaches ds r'') : r.Reaches (cs ++ ds) r'' := by
  induction h with
  | refl r => exact h'
  | step hstep _ ih => exact .step hstep (ih h')

/-- What each character preserves is preserved by a text. -/
theorem preserves {P : Reader → Prop} (hP : ∀ r c r', r.step c = .ok r' → P r → P r')
    (h : r.Reaches cs r') (hr : P r) : P r' := by
  induction h with
  | refl r => exact hr
  | step hstep _ ih => exact ih (hP _ _ _ hstep hr)

/-- Behind a text that leads somewhere the reader goes on from there. -/
theorem run_append (h : r.Reaches cs r') (position : Nat) (ds : List Char) :
    r.run position (cs ++ ds) = r'.run (position + cs.length) ds := by
  induction h generalizing position with
  | refl r => rfl
  | @step r r' r'' c cs hstep _ ih =>
    rw [List.cons_append, run, hstep, List.length_cons]
    simp only [ih]
    congr 1
    omega

end Reaches

variable {r : Reader} {position : Nat} {cs : List Char}

/-- A text is read just if it leads to where it may end. -/
theorem run_eq_ok_iff {ts : List Term} :
    r.run position cs = .ok ts ↔ ∃ r', r.Reaches cs r' ∧ r'.finish = .ok ts := by
  constructor
  · intro h
    induction cs generalizing r position with
    | nil =>
      refine ⟨r, .refl r, ?_⟩
      rw [run] at h
      cases hfinish : r.finish with
      | error problem => rw [hfinish] at h; cases h
      | ok terms => rw [hfinish] at h; cases h; rfl
    | cons c cs ih =>
      rw [run] at h
      cases hstep : r.step c with
      | error problem => rw [hstep] at h; cases h
      | ok r' =>
        rw [hstep] at h
        obtain ⟨r'', hreaches, hfinish⟩ := ih h
        exact ⟨r'', .step hstep hreaches, hfinish⟩
  · rintro ⟨r', hreaches, hfinish⟩
    have hrun := hreaches.run_append position []
    rw [List.append_nil] at hrun
    rw [hrun, run, hfinish]
    rfl

/-- A text that is not read either ends too early or has a first character that is refused. -/
theorem run_eq_error {p : Nat} {problem : ParseProblem}
    (h : r.run position cs = .error (p, problem)) :
    (∃ r', r.Reaches cs r' ∧ r'.finish = .error problem ∧ p = position + cs.length) ∨
      ∃ before c after r', cs = before ++ c :: after ∧ r.Reaches before r' ∧
        r'.step c = .error problem ∧ p = position + before.length := by
  induction cs generalizing r position with
  | nil =>
    refine .inl ⟨r, .refl r, ?_⟩
    rw [run] at h
    cases hfinish : r.finish with
    | ok terms => rw [hfinish] at h; cases h
    | error problem' => rw [hfinish] at h; cases h; exact ⟨rfl, rfl⟩
  | cons c cs ih =>
    rw [run] at h
    cases hstep : r.step c with
    | error problem' =>
      rw [hstep] at h
      cases h
      exact .inr ⟨[], c, cs, r, rfl, .refl r, hstep, rfl⟩
    | ok r' =>
      rw [hstep] at h
      obtain ⟨r'', hreaches, hfinish, hp⟩ | ⟨before, c', after, r'', hcs, hreaches, hrefused, hp⟩ :=
        ih h
      · exact .inl ⟨r'', .step hstep hreaches, hfinish, by rw [hp, List.length_cons]; omega⟩
      · exact .inr ⟨c :: before, c', after, r'', by rw [hcs]; rfl, .step hstep hreaches, hrefused,
          by rw [hp, List.length_cons]; omega⟩

end Reader

end PagedQuery.Term
