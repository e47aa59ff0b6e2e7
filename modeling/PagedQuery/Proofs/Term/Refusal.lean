import PagedQuery.Proofs.Term.Reading

/-!
# PagedQuery.Proofs.Term.Refusal

Where the reading of a text that is no query stops.  Whatever a reader has read so far, it can
still be told a query (`Reader.exists_completion`); what it refuses it refuses however the text
goes on.  So the reported position is that of the first character that no query has in its place,
given what stands before it (`parseQuery_refuses_first`).
-/

namespace PagedQuery.Term

/-- Some query starts with these characters. -/
def BeginsQuery (cs : List Char) : Prop :=
  ∃ q ts, parseQuery q = .ok ts ∧ cs <+: q.toList

namespace Reader

/-- From wherever the reader stands some text leads to the end of a query: what is open is closed,
and a fragment that has not started is given a character. -/
theorem exists_completion (r : Reader) :
    ∃ cs r' ts, r.Reaches cs r' ∧ r'.finish = .ok ts := by
  obtain ⟨terms, brackets, piece⟩ := r
  induction brackets generalizing piece with
  | nil =>
    cases hpiece : piece.isBlank with
    | true =>
      obtain ⟨_ | _⟩ | _ := piece
      · exact ⟨['x'], _, _, .single (step_of_plain (by decide) terms [] []), rfl⟩
      all_goals contradiction
    | false =>
      exact ⟨[], _, _, .refl _, finish_eq_ok_iff.mpr ⟨rfl, .inl ⟨hpiece, rfl⟩⟩⟩
  | cons b outer ih =>
    obtain ⟨cs, r', ts, hreaches, hfinish⟩ := ih (.closed (b.close piece))
    exact ⟨')' :: cs, r', ts, .step (step_close terms b outer piece) hreaches, hfinish⟩

end Reader

variable {cs : List Char} {r : Reader}

theorem parseQuery_ofList (cs : List Char) :
    parseQuery (String.ofList cs) = Reader.start.run 0 cs := by
  rw [parseQuery, String.toList_ofList]

/-- What is read without refusal begins a query. -/
theorem beginsQuery_of_reaches (h : Reader.start.Reaches cs r) : BeginsQuery cs := by
  obtain ⟨rest, r', ts, hrest, hfinish⟩ := r.exists_completion
  refine ⟨String.ofList (cs ++ rest), ts, ?_, ?_⟩
  · rw [parseQuery_ofList]
    exact Reader.run_eq_ok_iff.mpr ⟨r', h.append hrest, hfinish⟩
  · rw [String.toList_ofList]
    exact List.prefix_append cs rest

/-- What ends in a refused character begins none. -/
theorem not_beginsQuery_of_refused {c : Char} {problem : ParseProblem}
    (h : Reader.start.Reaches cs r) (hrefused : r.step c = .error problem) :
    ¬ BeginsQuery (cs ++ [c]) := by
  rintro ⟨q, ts, hq, rest, hrest⟩
  rw [List.append_assoc, List.singleton_append] at hrest
  rw [parseQuery, ← hrest, h.run_append, Reader.run, hrefused] at hq
  contradiction

/-- The position reported for a text that is no query is the length of the longest beginning that
could become one: of the whole text, which then ends too early, or of what stands before the first
character that is out of place. -/
theorem parseQuery_refuses_first {s : String} {p : Nat} {problem : ParseProblem}
    (h : parseQuery s = .error (p, problem)) :
    p ≤ s.length ∧ BeginsQuery (s.toList.take p) ∧
      (p < s.length → ¬ BeginsQuery (s.toList.take (p + 1))) ∧
      (p = s.length → ∃ q ts, parseQuery q = .ok ts ∧ s.toList <+: q.toList ∧ q ≠ s) := by
  rw [← String.length_toList]
  obtain ⟨r, hreaches, -, hp⟩ | ⟨before, c, after, r, hcs, hreaches, hrefused, hp⟩ :=
    Reader.run_eq_error h
  · rw [Nat.zero_add] at hp
    have hbegins := beginsQuery_of_reaches hreaches
    refine ⟨Nat.le_of_eq hp, ?_, fun hlt => absurd hp (Nat.ne_of_lt hlt), fun _ => ?_⟩
    · rwa [hp, List.take_length]
    · obtain ⟨q, ts, hq, hprefix⟩ := hbegins
      refine ⟨q, ts, hq, hprefix, ?_⟩
      rintro rfl
      rw [h] at hq
      contradiction
  · rw [Nat.zero_add] at hp
    have hlt : p < s.toList.length := by
      rw [hcs, hp, List.length_append, List.length_cons]
      omega
    refine ⟨Nat.le_of_lt hlt, ?_, fun _ => ?_, fun heq => absurd heq (Nat.ne_of_lt hlt)⟩
    · rw [hcs, hp, List.take_left]
      exact beginsQuery_of_reaches hreaches
    · rw [hcs, ← List.singleton_append, ← List.append_assoc,
        List.take_left' (by rw [hp, List.length_append, List.length_singleton])]
      exact not_beginsQuery_of_refused hreaches hrefused

/-- In `eq(a,1))` the last bracket is out of place. -/
theorem parseQuery_refuses_first_bracket :
    parseQuery "eq(a,1))" = .error (7, .unexpected ')') ∧
      BeginsQuery "eq(a,1)".toList ∧ ¬ BeginsQuery "eq(a,1))".toList := by
  have hrefused : parseQuery "eq(a,1))" = .error (7, .unexpected ')') := by rfl
  obtain ⟨-, hbegins, hrefuses, -⟩ := parseQuery_refuses_first hrefused
  exact ⟨hrefused, hbegins, hrefuses (by decide)⟩

end PagedQuery.Term
