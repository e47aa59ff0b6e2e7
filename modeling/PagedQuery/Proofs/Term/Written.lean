import Mathlib.Logic.Basic
import PagedQuery.Proofs.Term.Reading

/-!
# PagedQuery.Proofs.Term.Written

What a reader has read.  The terms, the open brackets and the piece that a reader holds have a
written form, and a character that is read is written behind it (`Reader.written_of_step`).  So
nothing of a text is lost: what is read of it is written the same way
(`renderQuery_of_parseQuery`).
-/

namespace PagedQuery.Term

/-! ## What a reader has read -/

/-- The written form of terms, the last one first, with a separator behind each of them. -/
def followed (sep : Char) : List Term → List Char
  | [] => []
  | t :: before => followed sep before ++ (t.render.toList ++ [sep])

/-- The text of an open bracket up to the current piece. -/
def Bracket.written (b : Bracket) : List Char :=
  (b.name.getD "").toList ++ '(' :: followed ',' b.before

/-- The text of open brackets, the innermost one first. -/
def bracketsWritten : List Bracket → List Char
  | [] => []
  | b :: outer => bracketsWritten outer ++ b.written

/-- All that a reader has read. -/
def Reader.written (r : Reader) : List Char :=
  followed '&' r.terms ++ bracketsWritten r.brackets ++ r.piece.term.render.toList

/-- A separator stands behind each term but the last. -/
theorem toList_join_render {sep : Char} {text : String} (hsep : text.toList = [sep]) (t : Term)
    (before : List Term) :
    (Text.join text (renderEach (t :: before).reverse)).toList =
      followed sep before ++ t.render.toList := by
  rw [renderEach_eq_map]
  induction before generalizing t with
  | nil => simp [Text.join, followed]
  | cons b before ih =>
    have hjoin : Text.join text ((b :: before).reverse.map render ++ [t.render]) =
        Text.join text ((b :: before).reverse.map render) ++ text ++ t.render := by
      rw [Text.join, String.intercalate_append_of_ne_nil (by simp) (by simp)]
      rfl
    rw [List.reverse_cons, List.map_append, List.map_singleton, hjoin]
    simp only [String.toList_append, ih, hsep, followed, List.append_assoc]

theorem toList_callText (name : String) (args : List String) :
    (callText name args).toList = name.toList ++ '(' :: ((Text.join "," args).toList ++ [')']) := by
  simp [callText]

/-- The term of a closed bracket with these items. -/
def bracketed : Option String → List Term → Term
  | some name, items => .call name items
  | none, items => .group items

theorem toList_render_bracketed (name : Option String) (items : List Term) :
    (bracketed name items).render.toList =
      (name.getD "").toList ++ '(' :: ((Text.join "," (renderEach items)).toList ++ [')']) := by
  cases name <;> exact toList_callText ..

/-- Brackets with nothing at all between them. -/
theorem close_of_blank {b : Bracket} (hbefore : b.before = []) {last : Piece}
    (hlast : last.isBlank = true) : b.close last = bracketed b.name [] := by
  simp only [Bracket.close, hbefore, hlast]
  cases b.name <;> rfl

theorem close_of_items {b : Bracket} {last : Piece}
    (h : b.before ≠ [] ∨ last.isBlank = false) :
    b.close last = bracketed b.name (last.term :: b.before).reverse := by
  have hitems : (last.isBlank && b.before.isEmpty) = false := by
    obtain hbefore | hlast := h
    · rw [List.isEmpty_eq_false_iff.mpr hbefore, Bool.and_false]
    · rw [hlast, Bool.false_and]
  simp only [Bracket.close, hitems]
  cases b.name <;> rfl

theorem term_of_isBlank {piece : Piece} (h : piece.isBlank = true) : piece.term = .atom "" := by
  obtain ⟨_ | _⟩ | _ := piece
  · rfl
  · contradiction
  · contradiction

/-- Closing a bracket writes the closing character behind what was read. -/
theorem toList_render_close (b : Bracket) (last : Piece) :
    (b.close last).render.toList = b.written ++ last.term.render.toList ++ [')'] := by
  by_cases h : b.before = [] ∧ last.isBlank = true
  · obtain ⟨hbefore, hlast⟩ := h
    rw [close_of_blank hbefore hlast, toList_render_bracketed, Bracket.written, hbefore,
      term_of_isBlank hlast]
    simp [followed, renderEach, render, Text.join]
  · rw [not_and_or, Bool.not_eq_true] at h
    have hcomma : ",".toList = [','] := rfl
    rw [close_of_items h, toList_render_bracketed, toList_join_render hcomma, Bracket.written]
    simp

namespace Reader

variable {r r' : Reader} {cs : List Char}

/-- A character that is read is written behind what was read before. -/
theorem written_of_step {c : Char} (h : r.step c = .ok r') : r'.written = r.written ++ [c] := by
  have hreads := reads_step r c
  rw [h] at hreads
  cases hreads with
  | opens terms brackets chars =>
    cases chars <;>
      simp [written, opened, bracketsWritten, Bracket.written, followed, Piece.term, render]
  | lengthens terms brackets chars => simp [written, Piece.term, render]
  | parts terms b outer piece =>
    simp [written, bracketsWritten, Bracket.written, followed, Piece.term, render]
  | closes terms b outer piece =>
    simp [written, bracketsWritten, Piece.term, toList_render_close]
  | ends terms hpiece => simp [written, bracketsWritten, followed, Piece.term, render]

theorem written_of_reaches (h : r.Reaches cs r') : r'.written = r.written ++ cs := by
  induction h with
  | refl r => rw [List.append_nil]
  | step hstep _ ih => rw [ih, written_of_step hstep, List.append_assoc, List.singleton_append]

theorem toList_renderQuery_of_finish {ts : List Term} (h : r.finish = .ok ts) :
    (renderQuery ts).toList = r.written := by
  obtain ⟨hbrackets, ⟨_, rfl⟩ | ⟨hpiece, hterms, rfl⟩⟩ := finish_eq_ok_iff.mp h
  · have hampersand : "&".toList = ['&'] := rfl
    rw [renderQuery, toList_join_render hampersand, written, hbrackets, bracketsWritten,
      List.append_nil]
  · rw [written, hbrackets, hterms, term_of_isBlank hpiece]
    rfl

end Reader

/-- A text that is read is the written form of what is read. -/
theorem renderQuery_of_parseQuery {s : String} {ts : List Term} (h : parseQuery s = .ok ts) :
    renderQuery ts = s := by
  obtain ⟨r, hreaches, hfinish⟩ := Reader.run_eq_ok_iff.mp h
  rw [← String.toList_inj, Reader.toList_renderQuery_of_finish hfinish,
    Reader.written_of_reaches hreaches]
  rfl

end PagedQuery.Term
