import Mathlib.Data.List.Infix
import PagedQuery.Proofs.Term.Reading

/-!
# PagedQuery.Proofs.Term.Depth

Which texts are queries, told without terms: by counting the brackets that are open.  What a
reader makes of the rest of a text depends on no more than their number and the kind of piece it
holds (`Reader.isOk_run`), so that a text is read just if the count finds nothing wrong with it
(`isOk_parseQuery_iff`).
-/

namespace PagedQuery.Term

/-- Whether this may follow a closing bracket: the end, or a character that ends a term. -/
def isBehindBracket : List Char → Bool
  | [] => true
  | c :: _ => c == ',' || c == ')' || c == '&'

/-- Reads a text from the left and keeps no more than the number of open brackets.  Brackets match,
commas stand inside of them and ampersands outside, and a closing bracket ends its term. -/
def scan (depth : Nat) : List Char → Bool
  | [] => depth == 0
  | c :: cs =>
    if c = '(' then scan (depth + 1) cs
    else if c = ')' then depth != 0 && isBehindBracket cs && scan (depth - 1) cs
    else if c = ',' then depth != 0 && scan depth cs
    else if c = '&' then depth == 0 && scan depth cs
    else scan depth cs

/-! ## Fragments -/

/-- Whether a fragment starts here: there is a character, and not the one that ends fragments. -/
def startsFragment : List Char → Bool
  | [] => false
  | c :: _ => c != '&'

/-- Whether a fragment starts behind every ampersand. -/
def fillsFragments : List Char → Bool
  | [] => true
  | c :: cs => (c != '&' || startsFragment cs) && fillsFragments cs

theorem fillsFragments_iff {cs : List Char} :
    fillsFragments cs = true ↔ ¬ ['&'] <:+ cs ∧ ¬ ['&', '&'] <:+: cs := by
  induction cs with
  | nil => simp [fillsFragments]
  | cons c cs ih =>
    rw [fillsFragments, Bool.and_eq_true, ih, List.suffix_cons_iff, List.infix_cons_iff]
    cases cs <;> simp [startsFragment, List.cons_prefix_cons] <;> grind

namespace Reader

/-- What the reader demands of the rest of the text because of the piece it holds.  Where it holds
none, a fragment has to start outside of brackets, unless the text is empty. -/
def expects (r : Reader) (cs : List Char) : Bool :=
  match r.piece with
  | .closed _ => isBehindBracket cs
  | .text [] => !r.brackets.isEmpty || startsFragment cs || r.terms.isEmpty && cs.isEmpty
  | .text _ => true

/-- A character that fits can be read. -/
theorem admits_of_fits {r : Reader} {c : Char} {cs : List Char}
    (hscan : scan r.brackets.length (c :: cs) = true) (hexpects : r.expects (c :: cs) = true) :
    r.admits c = true := by
  obtain ⟨terms, brackets, (_ | ⟨d, chars⟩) | term⟩ := r <;>
    grind [admits, scan, expects, startsFragment, isBehindBracket, Piece.isBlank, Piece.isClosed]

/-- The rest of a text is read just if it fits the number of open brackets and the piece. -/
theorem isOk_run (r : Reader) (position : Nat) (cs : List Char) :
    (r.run position cs).isOk =
      (scan r.brackets.length cs && fillsFragments cs && r.expects cs) := by
  induction cs generalizing r position with
  | nil =>
    obtain ⟨terms, _ | ⟨b, outer⟩, (_ | ⟨c, chars⟩) | term⟩ := r
    · cases terms <;> rfl
    all_goals rfl
  | cons c cs ih =>
    rw [run]
    have hreads := reads_step r c
    generalize r.step c = result at hreads
    cases hreads with
    | opens terms brackets chars =>
      simp only [ih]
      cases chars <;> simp [scan, fillsFragments, expects, opened, startsFragment]
    | lengthens terms brackets chars hc =>
      simp only [ih]
      simp only [isStructural, Bool.or_eq_false_iff, beq_eq_false_iff_ne] at hc
      obtain ⟨⟨⟨hopen, hclose⟩, hcomma⟩, hend⟩ := hc
      have hstarts : (c != '&') = true := by simpa using hend
      cases chars <;>
        simp [scan, fillsFragments, expects, startsFragment, hopen, hclose, hcomma, hend, hstarts]
    | parts terms b outer piece =>
      simp only [ih]
      obtain (_ | _) | _ := piece <;> simp [scan, fillsFragments, expects, isBehindBracket]
    | closes terms b outer last =>
      simp only [ih]
      obtain (_ | _) | _ := last <;>
        simp [scan, fillsFragments, expects, isBehindBracket] <;> grind
    | @ends terms last hlast =>
      simp only [ih]
      obtain (_ | _) | _ := last
      · contradiction
      all_goals
        simp [scan, fillsFragments, expects, isBehindBracket]
        grind
    | refuses hc =>
      have hmisfit : (scan r.brackets.length (c :: cs) && fillsFragments (c :: cs) &&
          r.expects (c :: cs)) = false := by
        rw [← Bool.not_eq_true, Bool.and_eq_true, Bool.and_eq_true]
        rintro ⟨⟨hscan, -⟩, hexpects⟩
        rw [admits_of_fits hscan hexpects] at hc
        contradiction
      rw [hmisfit]
      rfl

end Reader

/-- A text is a query just if reading it from the left and counting the open brackets finds that
they match, that commas stand inside of them, ampersands outside and only the end or a separator
behind them, and if it neither starts nor ends with an ampersand nor has two in a row. -/
theorem isOk_parseQuery_iff (s : String) :
    (parseQuery s).isOk = true ↔ scan 0 s.toList = true ∧
      (s ≠ "" → ¬ ['&'] <+: s.toList ∧ ¬ ['&'] <:+ s.toList ∧ ¬ ['&', '&'] <:+: s.toList) := by
  have hstart : Reader.start.expects s.toList = true ↔ (s ≠ "" → ¬ ['&'] <+: s.toList) := by
    rw [Ne, ← String.toList_eq_nil_iff]
    cases s.toList with
    | nil => simp [Reader.start, Reader.expects]
    | cons c cs => simpa [Reader.start, Reader.expects, startsFragment] using ne_comm
  rw [parseQuery, Reader.isOk_run, Bool.and_eq_true, Bool.and_eq_true, fillsFragments_iff, hstart,
    and_assoc]
  refine and_congr Iff.rfl ⟨fun ⟨⟨hlast, hrow⟩, hfirst⟩ hs => ⟨hfirst hs, hlast, hrow⟩, fun h => ?_⟩
  by_cases hs : s = ""
  · subst hs
    simp
  · exact ⟨(h hs).2, fun _ => (h hs).1⟩

end PagedQuery.Term
