import PagedQuery.Proofs.Term.RoundTrip
import PagedQuery.Proofs.Term.Written
import PagedQuery.Term.Descent

/-!
# PagedQuery.Proofs.Term.Descent

The reader that goes through a text once does what recursive descent does.  Where a parser begins
with a term, the reader that reads on from there comes to what it comes to behind the term, with the
term as its piece; and if the parser fails, the reader fails with the same message at the same
position (`readOn_parseTerm`).  So both agree on every text (`parseQuery_eq_descend`).
-/

namespace PagedQuery.Term

/-- What is done with a result has to agree only if there is one. -/
theorem bind_congr_of_eq_ok {ε α β : Type} {x : Except ε α} {f g : α → Except ε β}
    (h : ∀ a, x = .ok a → f a = g a) : x >>= f = x >>= g := by
  cases x with
  | error e => rfl
  | ok a => exact h a rfl

/-! ## Where a term ends -/

/-- The reader takes the next character as a separator: its piece is closed, or what follows cannot
go on with it. -/
def Piece.IsOver (piece : Piece) (p : Parser) : Prop :=
  piece.isClosed = true ∨ ∀ c, p.peek = some c → isStructural c = true ∧ c ≠ '('

namespace Parser

variable {p : Parser}

theorem isStructural_of_peek_readAtom {c : Char} (h : p.readAtom.parser.peek = some c) :
    isStructural c = true := by
  have hhead := List.head?_dropWhile_not (fun c => !isStructural c) p.rest
  have hpeek : (p.rest.dropWhile fun c => !isStructural c).head? = some c := h
  rw [hpeek] at hhead
  simpa using hhead

/-- Without plain text the parser stays where it is. -/
theorem readAtom_of_empty (h : p.readAtom.value = "") : p.readAtom.parser = p := by
  have hnone : p.rest.takeWhile (fun c => !isStructural c) = [] := by
    simpa [readAtom] using h
  have hall := List.takeWhile_append_dropWhile (p := fun c => !isStructural c) (l := p.rest)
  rw [hnone, List.nil_append] at hall
  simp only [readAtom, hnone, hall]
  rfl

/-- Behind a term that is plain text there is no bracket that opens, and if the text is empty
nothing has been read. -/
theorem isOver_of_parseTerm {t : Parsed Term p} (h : p.parseTerm = .ok t) :
    t.value.piece.IsOver t.parser ∧ (t.value.piece.isBlank = true → t.parser = p) := by
  rw [parseTerm] at h
  split at h
  · cases hargs : p.advance.parseArgs with
    | error e => rw [hargs] at h; contradiction
    | ok items => rw [hargs] at h; cases h; exact ⟨.inl rfl, nofun⟩
  · dsimp only at h
    split at h
    · split at h
      · contradiction
      · cases hargs : p.readAtom.parser.advance.parseArgs with
        | error e => rw [hargs] at h; contradiction
        | ok args => rw [hargs] at h; cases h; exact ⟨.inl rfl, nofun⟩
    · next hopen =>
      cases h
      refine ⟨.inr fun c hc => ⟨isStructural_of_peek_readAtom hc, ?_⟩, fun hblank => ?_⟩
      · rintro rfl
        exact hopen hc
      · refine readAtom_of_empty ?_
        by_contra hsome
        rw [isBlank_piece (by simpa using hsome)] at hblank
        contradiction

end Parser

/-! ## One character -/

namespace Reader

/-- What the reader comes to that reads on where the parser stands. -/
def readOn (r : Reader) (p : Parser) : Except Parser.Failure (List Term) :=
  (r.run p.position p.rest).mapError fun e => (e.1, e.2.message)

variable {r r' : Reader} {p : Parser} {c : Char}

theorem readOn_of_step (hpeek : p.peek = some c) (hstep : r.step c = .ok r') :
    r.readOn p = r'.readOn p.advance := by
  obtain ⟨_ | ⟨d, rest⟩, position⟩ := p
  · contradiction
  · obtain rfl : d = c := Option.some.inj hpeek
    simp only [readOn, run, hstep]
    rfl

theorem readOn_of_refused {problem : ParseProblem} (hpeek : p.peek = some c)
    (hstep : r.step c = .error problem) : r.readOn p = .error (p.position, problem.message) := by
  obtain ⟨_ | ⟨d, rest⟩, position⟩ := p
  · contradiction
  · obtain rfl : d = c := Option.some.inj hpeek
    simp only [readOn, run, hstep]
    rfl

theorem readOn_of_end (hpeek : p.peek = none) :
    r.readOn p = r.finish.mapError fun problem => (p.position, problem.message) := by
  obtain ⟨_ | ⟨d, rest⟩, position⟩ := p
  · simp only [readOn, run]
    cases r.finish <;> rfl
  · contradiction

/-- What cannot go on with the piece is a separator. -/
theorem step_of_isOver (h : r.piece.IsOver p) (hpeek : p.peek = some c) :
    r.step c = r.separate c := by
  obtain ⟨terms, brackets, chars | term⟩ := r
  · obtain hclosed | hnext := h
    · contradiction
    · obtain ⟨hstructural, hopen⟩ := hnext c hpeek
      simp only [step, hopen, hstructural, if_false, if_true]
  · rfl

/-- Plain text becomes the piece of the reader. -/
theorem readOn_readAtom (terms : List Term) (brackets : List Bracket) (p : Parser) :
    readOn ⟨terms, brackets, .text []⟩ p =
      readOn ⟨terms, brackets, (Term.atom p.readAtom.value).piece⟩ p.readAtom.parser := by
  have hplain : ∀ c ∈ p.rest.takeWhile (fun c => !isStructural c), isStructural c = false :=
    fun c hc => by simpa using List.all_eq_true.mp List.all_takeWhile c hc
  have hrun := (reaches_plain terms brackets hplain []).run_append p.position
    (p.rest.dropWhile fun c => !isStructural c)
  rw [List.takeWhile_append_dropWhile, List.append_nil] at hrun
  rw [readOn, hrun, readOn, Term.piece, Parser.readAtom, String.toList_ofList]

end Reader

/-! ## Terms and brackets -/

open Reader (readOn)

section Brackets

variable (terms : List Term) (name : Option String) (outer : List Bracket)

/-- Where the terms in a bracket end, the reader goes on behind the bracket that closes it. -/
theorem readOn_expect {before : List Term} {t : Term} {p : Parser} (hover : t.piece.IsOver p)
    (hcomma : p.peek ≠ some ',')
    (hfilled : p.peek = some ')' → before ≠ [] ∨ t.piece.isBlank = false) :
    readOn ⟨terms, ⟨name, before⟩ :: outer, t.piece⟩ p =
      p.expect ')' >>= fun closed =>
        readOn ⟨terms, outer, .closed (bracketed name (t :: before).reverse)⟩ closed.parser := by
  rw [Parser.expect]
  cases hpeek : p.peek with
  | none =>
    rw [Reader.readOn_of_end hpeek]
    rfl
  | some c =>
    by_cases hclose : c = ')'
    · subst hclose
      have hitems := close_of_items (b := ⟨name, before⟩) (hfilled hpeek)
      rw [term_piece] at hitems
      rw [Reader.readOn_of_step hpeek (Reader.step_close ..), hitems]
      rfl
    · have hrefused : Reader.step ⟨terms, ⟨name, before⟩ :: outer, t.piece⟩ c =
          .error (.unclosed (some c)) := by
        rw [Reader.step_of_isOver hover hpeek]
        have hother : c ≠ ',' := by
          rintro rfl
          exact hcomma hpeek
        simp only [Reader.separate, hother, hclose, if_false]
        rfl
      rw [Reader.readOn_of_refused hpeek hrefused]
      simp only [hclose, if_false]
      rfl

end Brackets

mutual

/-- Where a term can begin the reader reads what the parser reads. -/
theorem readOn_parseTerm (terms : List Term) (brackets : List Bracket) (p : Parser) :
    readOn ⟨terms, brackets, .text []⟩ p =
      p.parseTerm >>= fun t => readOn ⟨terms, brackets, t.value.piece⟩ t.parser := by
  rw [Parser.parseTerm]
  split
  · next hopen =>
    have := Parser.length_advance_lt hopen
    have hstep : Reader.step ⟨terms, brackets, .text []⟩ '(' =
        .ok ⟨terms, ⟨none, []⟩ :: brackets, .text []⟩ := rfl
    rw [Reader.readOn_of_step hopen hstep, readOn_parseArgs, bind_assoc]
    simp only [pure_bind]
    rfl
  · next hfirst =>
    rw [Reader.readOn_readAtom]
    dsimp only
    split
    · next hopen =>
      have := Nat.lt_of_lt_of_le (Parser.length_advance_lt hopen) p.readAtom.le
      split
      · next hempty =>
        -- the parser would have been at the bracket at once
        rw [Parser.readAtom_of_empty hempty] at hopen
        contradiction
      · next hname =>
        have hstep : Reader.step ⟨terms, brackets, (Term.atom p.readAtom.value).piece⟩ '(' =
            .ok ⟨terms, ⟨some p.readAtom.value, []⟩ :: brackets, .text []⟩ := by
          simp [Term.piece, Reader.step, Reader.opened, hname]
        rw [Reader.readOn_of_step hopen hstep, readOn_parseArgs, bind_assoc]
        simp only [pure_bind]
        rfl
    · rfl
termination_by 3 * p.rest.length

/-- Behind an opening bracket the reader reads what the parser reads up to the closing one. -/
theorem readOn_parseArgs (terms : List Term) (name : Option String) (outer : List Bracket)
    (p : Parser) :
    readOn ⟨terms, ⟨name, []⟩ :: outer, .text []⟩ p =
      p.parseArgs >>= fun items =>
        readOn ⟨terms, outer, .closed (bracketed name items.value)⟩ items.parser := by
  rw [Parser.parseArgs]
  split
  · next hclose =>
    rw [Reader.readOn_of_step hclose (Reader.step_close ..), close_of_blank rfl rfl]
    rfl
  · next hclose =>
    rw [readOn_parseItems terms name [] outer p (.inr hclose)]
    simp only [bind_assoc, pure_bind, List.reverse_nil, List.nil_append]
termination_by 3 * p.rest.length + 2

/-- The same behind the terms before a comma, if there are any. -/
theorem readOn_parseItems (terms : List Term) (name : Option String) (before : List Term)
    (outer : List Bracket) (p : Parser) (h : before ≠ [] ∨ p.peek ≠ some ')') :
    readOn ⟨terms, ⟨name, before⟩ :: outer, .text []⟩ p =
      p.parseItems >>= fun items => items.parser.expect ')' >>= fun closed =>
        readOn ⟨terms, outer, .closed (bracketed name (before.reverse ++ items.value))⟩
          closed.parser := by
  rw [readOn_parseTerm, Parser.parseItems, bind_assoc]
  refine bind_congr_of_eq_ok fun t hterm => ?_
  obtain ⟨hover, hblank⟩ := Parser.isOver_of_parseTerm hterm
  split
  · next hcomma =>
    have := Nat.lt_of_lt_of_le (Parser.length_advance_lt hcomma) t.le
    rw [Reader.readOn_of_step hcomma (Reader.step_comma ..), term_piece,
      readOn_parseItems terms name (t.value :: before) outer t.parser.advance (.inl (by simp))]
    simp only [bind_assoc, pure_bind, List.reverse_cons, List.append_assoc, List.singleton_append]
  · next hcomma =>
    rw [pure_bind, ← List.reverse_cons]
    refine readOn_expect terms name outer hover hcomma fun hclose => h.imp_right fun hfirst => ?_
    rw [← Bool.not_eq_true]
    intro hempty
    rw [hblank hempty] at hclose
    contradiction
termination_by 3 * p.rest.length + 1

end

/-! ## Queries -/

theorem isBlank_eq (t : Term) : t.isBlank = t.piece.isBlank := by
  by_cases hblank : t = .atom ""
  · rw [hblank]
    rfl
  · rw [isBlank_piece hblank]
    cases t with
    | atom text => simpa [isBlank] using hblank
    | call name args => rfl
    | group items => rfl

/-- Outside of brackets a term without a character is an error at the place where it would be. -/
theorem readOn_blank {terms : List Term} {t : Term} {p : Parser} (hover : t.piece.IsOver p)
    (hblank : t.piece.isBlank = true) (h : terms ≠ [] ∨ p.peek ≠ none) :
    readOn ⟨terms, [], t.piece⟩ p = .error (p.position, "empty query fragment") := by
  cases hpeek : p.peek with
  | none =>
    have hfinish : Reader.finish ⟨terms, [], t.piece⟩ = .error .emptyFragment := by
      have hterms := List.isEmpty_eq_false_iff.mpr (h.resolve_right (absurd hpeek))
      simp only [Reader.finish, hblank, hterms]
      rfl
    rw [Reader.readOn_of_end hpeek, hfinish]
    rfl
  | some c =>
    have hrefused : Reader.step ⟨terms, [], t.piece⟩ c = .error .emptyFragment := by
      rw [Reader.step_of_isOver hover hpeek]
      simp only [Reader.separate, Reader.refuse, hblank]
      simp
    rw [Reader.readOn_of_refused hpeek hrefused]
    rfl

/-- Terms up to the end of the text are read behind others, or as the first ones. -/
theorem readOn_parseTerms (terms : List Term) (p : Parser) (h : terms ≠ [] ∨ p.peek ≠ none) :
    readOn ⟨terms, [], .text []⟩ p = (terms.reverse ++ ·) <$> p.parseTerms := by
  rw [readOn_parseTerm, Parser.parseTerms, map_bind]
  refine bind_congr_of_eq_ok fun t hterm => ?_
  obtain ⟨hover, hstay⟩ := Parser.isOver_of_parseTerm hterm
  cases hblank : t.value.isBlank with
  | true =>
    rw [isBlank_eq] at hblank
    rw [readOn_blank hover hblank (by rwa [hstay hblank])]
    rfl
  | false =>
    rw [isBlank_eq] at hblank
    simp only [Bool.false_eq_true, if_false]
    split
    · next hnext =>
      have := Nat.lt_of_lt_of_le (Parser.length_advance_lt hnext) t.le
      rw [Reader.readOn_of_step hnext (Reader.step_ampersand terms hblank), term_piece,
        readOn_parseTerms (t.value :: terms) t.parser.advance (.inl (by simp))]
      simp
    · next hnext =>
      cases hpeek : t.parser.peek with
      | none =>
        have hfinish : Reader.finish ⟨terms, [], t.value.piece⟩ = .ok (t.value :: terms).reverse :=
          Reader.finish_eq_ok_iff.mpr ⟨rfl, .inl ⟨hblank, by rw [term_piece]⟩⟩
        rw [Reader.readOn_of_end hpeek, hfinish, List.reverse_cons]
        rfl
      | some c =>
        have hother : c ≠ '&' := by
          rintro rfl
          exact hnext hpeek
        have hrefused : Reader.step ⟨terms, [], t.value.piece⟩ c = .error (.unexpected c) := by
          rw [Reader.step_of_isOver hover hpeek]
          simp [Reader.separate, Reader.refuse, hblank, hother]
        rw [Reader.readOn_of_refused hpeek hrefused]
        rfl
termination_by p.rest.length

/-- Reading a text in one pass is reading it by recursive descent: the same terms are read, or the
same error is reported at the same position. -/
theorem parseQuery_eq_descend (text : String) :
    (parseQuery text).mapError (fun e => (e.1, e.2.message)) = descend text := by
  rw [descend]
  split
  · next hempty =>
    rw [parseQuery, List.isEmpty_iff.mp hempty]
    rfl
  · next hsome =>
    have hpeek : (⟨text.toList, 0⟩ : Parser).peek ≠ none := by
      simpa [Parser.peek] using hsome
    refine (readOn_parseTerms [] ⟨text.toList, 0⟩ (.inr hpeek)).trans ?_
    simp

end PagedQuery.Term
