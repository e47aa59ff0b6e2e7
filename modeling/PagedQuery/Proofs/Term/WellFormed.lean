import PagedQuery.Proofs.Term.Written

/-!
# PagedQuery.Proofs.Term.WellFormed

Well-formed terms and queries: the ones that can be told apart by their written form.  Every
character leaves a reader with well-formed terms only (`Reader.IsSound.step`), so that only
well-formed queries are read (`isQuery_of_parseQuery`).
-/

namespace PagedQuery.Term

/-! ## Well-formed queries -/

/-- No character of the text structures a query. -/
def IsPlain (text : String) : Prop := ∀ c ∈ text.toList, isStructural c = false

instance (text : String) : Decidable (IsPlain text) :=
  List.decidableBAll (fun c => isStructural c = false) text.toList

/-- Texts and names are plain, a call has a name, and no brackets hold a single empty text: that
would be written like brackets that hold nothing. -/
inductive IsWellFormed : Term → Prop
  | call {name : String} {args : List Term} (hname : name ≠ "") (hplain : IsPlain name)
      (hargs : args ≠ [.atom ""]) (hall : ∀ t ∈ args, IsWellFormed t) :
    IsWellFormed (.call name args)
  | group {items : List Term} (hitems : items ≠ [.atom ""]) (hall : ∀ t ∈ items, IsWellFormed t) :
    IsWellFormed (.group items)
  | atom {text : String} (hplain : IsPlain text) : IsWellFormed (.atom text)

/-- The terms of a query are well-formed, and none of them is written as nothing. -/
structure IsQuery (ts : List Term) : Prop where
  wellFormed : ∀ t ∈ ts, t.IsWellFormed
  filled : .atom "" ∉ ts

/-! ## Only well-formed queries are read -/

/-- The name is one of a call, and what has been read behind it is well-formed. -/
structure Bracket.IsSound (b : Bracket) : Prop where
  name : ∀ name ∈ b.name, name ≠ "" ∧ IsPlain name
  before : ∀ t ∈ b.before, t.IsWellFormed

def Piece.IsSound : Piece → Prop
  | .text chars => ∀ c ∈ chars, isStructural c = false
  | .closed term => term.IsWellFormed ∧ term ≠ .atom ""

/-- All that the reader holds is well-formed. -/
structure Reader.IsSound (r : Reader) : Prop where
  terms : IsQuery r.terms
  brackets : ∀ b ∈ r.brackets, b.IsSound
  piece : r.piece.IsSound

theorem isPlain_ofList_reverse {chars : List Char} (h : ∀ c ∈ chars, isStructural c = false) :
    IsPlain (String.ofList chars.reverse) := by
  simpa [IsPlain] using h

theorem Piece.IsSound.term {piece : Piece} (h : piece.IsSound) : piece.term.IsWellFormed := by
  cases piece with
  | text chars => exact .atom (isPlain_ofList_reverse h)
  | closed term => exact h.1

theorem Piece.IsSound.term_ne {piece : Piece} (h : piece.IsSound) (hpiece : piece.isBlank = false) :
    piece.term ≠ .atom "" := by
  cases piece with
  | closed term => exact h.2
  | text chars =>
    cases chars with
    | nil => contradiction
    | cons c chars =>
      intro heq
      have htext := congrArg String.toList (Term.atom.inj heq)
      simp at htext

theorem isQuery_cons {t : Term} {ts : List Term} (ht : t.IsWellFormed) (hne : t ≠ .atom "")
    (h : IsQuery ts) : IsQuery (t :: ts) where
  wellFormed := List.forall_mem_cons.mpr ⟨ht, h.wellFormed⟩
  filled := List.not_mem_cons_of_ne_of_not_mem hne.symm h.filled

theorem isQuery_reverse {ts : List Term} (h : IsQuery ts) : IsQuery ts.reverse where
  wellFormed := by simpa using h.wellFormed
  filled := by simpa using h.filled

theorem isWellFormed_bracketed {name : Option String} {items : List Term}
    (hname : ∀ text ∈ name, text ≠ "" ∧ IsPlain text) (hitems : items ≠ [.atom ""])
    (hall : ∀ t ∈ items, t.IsWellFormed) : (bracketed name items).IsWellFormed := by
  cases name with
  | none => exact .group hitems hall
  | some text =>
    obtain ⟨htext, hplain⟩ := hname text rfl
    exact .call htext hplain hitems hall

theorem bracketed_ne_atom (name : Option String) (items : List Term) (text : String) :
    bracketed name items ≠ .atom text := by
  cases name <;> nofun

/-- A single item between brackets is not blank, since then there would be none. -/
theorem Bracket.IsSound.close {b : Bracket} {last : Piece} (h : b.IsSound) (hlast : last.IsSound) :
    (Piece.closed (b.close last)).IsSound := by
  by_cases hblank : b.before = [] ∧ last.isBlank = true
  · obtain ⟨hbefore, hlast⟩ := hblank
    rw [close_of_blank hbefore hlast]
    exact ⟨isWellFormed_bracketed h.name nofun nofun, bracketed_ne_atom _ _ _⟩
  · rw [not_and_or, Bool.not_eq_true] at hblank
    rw [close_of_items hblank]
    refine ⟨isWellFormed_bracketed h.name ?_ ?_, bracketed_ne_atom _ _ _⟩
    · obtain hbefore | hfilled := hblank
      · intro heq
        have hlength := congrArg List.length heq
        have hpos := List.length_pos_iff.mpr hbefore
        rw [List.length_reverse, List.length_cons, List.length_singleton] at hlength
        omega
      · intro heq
        rw [List.reverse_eq_iff, List.reverse_singleton, List.cons_eq_cons] at heq
        exact hlast.term_ne hfilled heq.1
    · intro t ht
      rw [List.mem_reverse, List.mem_cons] at ht
      obtain rfl | ht := ht
      · exact hlast.term
      · exact h.before t ht

namespace Reader

variable {r r' : Reader} {cs : List Char}

theorem isSound_start : start.IsSound where
  terms := ⟨nofun, nofun⟩
  brackets := nofun
  piece := nofun

theorem IsSound.step {c : Char} (h : r.IsSound) (hstep : r.step c = .ok r') : r'.IsSound := by
  have hreads := reads_step r c
  rw [hstep] at hreads
  cases hreads with
  | opens terms brackets chars =>
    refine ⟨h.terms, List.forall_mem_cons.mpr ⟨⟨?_, nofun⟩, h.brackets⟩, nofun⟩
    cases chars with
    | nil => nofun
    | cons c chars =>
      rintro _ ⟨⟩
      exact ⟨fun hempty => absurd (congrArg String.toList hempty) (by simp),
        isPlain_ofList_reverse h.piece⟩
  | lengthens terms brackets chars hc =>
    exact ⟨h.terms, h.brackets, List.forall_mem_cons.mpr ⟨hc, h.piece⟩⟩
  | parts terms b outer piece =>
    obtain ⟨hb, houter⟩ := List.forall_mem_cons.mp h.brackets
    have hbefore := List.forall_mem_cons.mpr ⟨h.piece.term, hb.before⟩
    exact ⟨h.terms, List.forall_mem_cons.mpr ⟨⟨hb.name, hbefore⟩, houter⟩, nofun⟩
  | closes terms b outer piece =>
    obtain ⟨hb, houter⟩ := List.forall_mem_cons.mp h.brackets
    exact ⟨h.terms, houter, hb.close h.piece⟩
  | ends terms hpiece =>
    exact ⟨isQuery_cons h.piece.term (h.piece.term_ne hpiece) h.terms, nofun, nofun⟩

theorem IsSound.finish {ts : List Term} (h : r.IsSound) (hfinish : r.finish = .ok ts) :
    IsQuery ts := by
  obtain ⟨_, ⟨hpiece, rfl⟩ | ⟨_, _, rfl⟩⟩ := finish_eq_ok_iff.mp hfinish
  · exact isQuery_reverse (isQuery_cons h.piece.term (h.piece.term_ne hpiece) h.terms)
  · exact ⟨nofun, nofun⟩

end Reader

/-- What is read is well-formed. -/
theorem isQuery_of_parseQuery {s : String} {ts : List Term} (h : parseQuery s = .ok ts) :
    IsQuery ts := by
  obtain ⟨r, hreaches, hfinish⟩ := Reader.run_eq_ok_iff.mp h
  have hsound : r.IsSound :=
    hreaches.preserves (fun _ _ _ hstep hr => hr.step hstep) Reader.isSound_start
  exact hsound.finish hfinish

end PagedQuery.Term
