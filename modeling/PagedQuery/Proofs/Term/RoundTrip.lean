import Mathlib.Data.List.Basic
import PagedQuery.Proofs.Term.WellFormed

/-!
# PagedQuery.Proofs.Term.RoundTrip

Every well-formed query is read.  The written form of a well-formed term is read as just that term
wherever a term can begin, by induction on the term (`IsWellFormed.isReadable`).  With what is
known of texts that are read, reading and writing are inverse to each other
(`parseQuery_eq_ok_iff`).
-/

namespace PagedQuery.Term

/-- The piece that a reader holds when it has just read the term. -/
def piece : Term → Piece
  | .atom text => .text text.toList.reverse
  | term => .closed term

theorem term_piece (t : Term) : t.piece.term = t := by
  cases t with
  | atom text => simp [piece, Piece.term]
  | call name args => rfl
  | group items => rfl

theorem isBlank_piece {t : Term} (h : t ≠ .atom "") : t.piece.isBlank = false := by
  cases t with
  | call name args => rfl
  | group items => rfl
  | atom text =>
    cases htext : text.toList.reverse with
    | cons c chars => rw [piece, htext]; rfl
    | nil =>
      rw [List.reverse_eq_nil_iff, String.toList_eq_nil_iff] at htext
      rw [htext] at h
      contradiction

namespace Reader

theorem reaches_plain (terms : List Term) (brackets : List Bracket) {cs : List Char}
    (h : ∀ c ∈ cs, isStructural c = false) (chars : List Char) :
    Reaches ⟨terms, brackets, .text chars⟩ cs ⟨terms, brackets, .text (cs.reverse ++ chars)⟩ := by
  induction cs generalizing chars with
  | nil => exact .refl _
  | cons c cs ih =>
    obtain ⟨hc, hcs⟩ := List.forall_mem_cons.mp h
    rw [List.reverse_cons, List.append_assoc]
    exact .step (step_of_plain hc ..) (ih hcs _)

/-- Terms that are each read up to the separator behind them are read one after the other. -/
theorem reaches_followed {sep : Char} (place : List Term → Reader) {ts : List Term}
    (h : ∀ t ∈ ts, ∀ before,
      (place before).Reaches (t.render.toList ++ [sep]) (place (t :: before))) :
    (place []).Reaches (followed sep ts) (place ts) := by
  induction ts with
  | nil => exact .refl _
  | cons t before ih =>
    obtain ⟨ht, hbefore⟩ := List.forall_mem_cons.mp h
    exact (ih hbefore).append (ht before)

/-- The reader reads the term wherever one can begin. -/
def IsReadable (t : Term) : Prop :=
  ∀ terms brackets,
    Reaches ⟨terms, brackets, .text []⟩ t.render.toList ⟨terms, brackets, t.piece⟩

/-- The items between brackets are read one after the other, up to the bracket that closes them. -/
theorem reaches_brackets (terms : List Term) (name : Option String) (outer : List Bracket)
    {items : List Term} (hitems : items ≠ [.atom ""]) (hall : ∀ t ∈ items, IsReadable t) :
    Reaches ⟨terms, ⟨name, []⟩ :: outer, .text []⟩
      ((Text.join "," (renderEach items)).toList ++ [')'])
      ⟨terms, outer, .closed (bracketed name items)⟩ := by
  obtain ⟨_ | ⟨last, before⟩, rfl⟩ := List.reverse_surjective items
  · have hclose : Bracket.close ⟨name, []⟩ (.text []) = bracketed name [] := close_of_blank rfl rfl
    have hstep := step_close terms ⟨name, []⟩ outer (.text [])
    rw [hclose] at hstep
    exact .single hstep
  · have hcomma : ",".toList = [','] := rfl
    have hclose : Bracket.close ⟨name, before⟩ last.piece =
        bracketed name (last :: before).reverse := by
      rw [close_of_items, term_piece]
      by_cases hbefore : before = []
      · subst hbefore
        exact .inr (isBlank_piece fun heq => hitems (by rw [heq]; rfl))
      · exact .inl hbefore
    have hread : ∀ t ∈ before, ∀ before', Reaches ⟨terms, ⟨name, before'⟩ :: outer, .text []⟩
        (t.render.toList ++ [',']) ⟨terms, ⟨name, t :: before'⟩ :: outer, .text []⟩ := by
      intro t ht before'
      have hstep := step_comma terms ⟨name, before'⟩ outer t.piece
      rw [term_piece] at hstep
      exact (hall t (by simp [ht]) _ _).append (.single hstep)
    have hlast := (hall last (by simp) terms (⟨name, before⟩ :: outer)).append
      (.single (step_close terms ⟨name, before⟩ outer last.piece))
    rw [hclose] at hlast
    rw [toList_join_render hcomma, List.append_assoc]
    exact (reaches_followed (fun before => ⟨terms, ⟨name, before⟩ :: outer, .text []⟩) hread).append
      hlast

end Reader

open Reader in
/-- The written form of a well-formed term is read as just that term. -/
theorem IsWellFormed.isReadable {t : Term} (h : t.IsWellFormed) : IsReadable t := by
  induction h with
  | @atom text hplain =>
    intro terms brackets
    have hreaches := reaches_plain terms brackets hplain []
    rwa [List.append_nil] at hreaches
  | @group items hitems _ ih =>
    intro terms brackets
    rw [render, toList_callText]
    exact .step (c := '(') rfl (reaches_brackets terms none brackets hitems ih)
  | @call name args hname hplain hargs _ ih =>
    intro terms brackets
    have hopened : opened ⟨terms, brackets, .text name.toList.reverse⟩ name.toList.reverse =
        ⟨terms, ⟨some name, []⟩ :: brackets, .text []⟩ := by
      have hfilled : name.toList.reverse.isEmpty = false := by simpa using hname
      simp [opened, hfilled]
    have hreaches := reaches_plain terms brackets hplain []
    rw [List.append_nil] at hreaches
    rw [render, toList_callText]
    refine hreaches.append (.step (c := '(') rfl ?_)
    rw [hopened]
    exact reaches_brackets terms (some name) brackets hargs ih

/-- The written form of a well-formed query is read as just that query. -/
theorem parseQuery_renderQuery {ts : List Term} (h : IsQuery ts) :
    parseQuery (renderQuery ts) = .ok ts := by
  rw [parseQuery, Reader.run_eq_ok_iff]
  obtain ⟨_ | ⟨last, before⟩, rfl⟩ := List.reverse_surjective ts
  · exact ⟨_, .refl _, rfl⟩
  · have hampersand : "&".toList = ['&'] := rfl
    have hfilled : ∀ t ∈ last :: before, t.piece.isBlank = false := fun t ht =>
      isBlank_piece fun heq => h.filled (by rw [← heq, List.mem_reverse]; exact ht)
    have hread : ∀ t ∈ before, ∀ terms, Reader.Reaches ⟨terms, [], .text []⟩
        (t.render.toList ++ ['&']) ⟨t :: terms, [], .text []⟩ := by
      intro t ht terms
      have hstep := Reader.step_ampersand terms (hfilled t (List.mem_cons_of_mem last ht))
      rw [term_piece] at hstep
      exact ((h.wellFormed t (by simp [ht])).isReadable _ _).append (.single hstep)
    have hlast := (h.wellFormed last (by simp)).isReadable before []
    rw [renderQuery, toList_join_render hampersand]
    refine ⟨_, (Reader.reaches_followed (fun terms => ⟨terms, [], .text []⟩) hread).append hlast,
      Reader.finish_eq_ok_iff.mpr ⟨rfl, .inl ⟨hfilled last (by simp), ?_⟩⟩⟩
    rw [term_piece]

/-- Reading and writing are inverse to each other: a text is read as some terms just if these are
a well-formed query and the text is its written form. -/
theorem parseQuery_eq_ok_iff (s : String) (ts : List Term) :
    parseQuery s = .ok ts ↔ IsQuery ts ∧ renderQuery ts = s := by
  constructor
  · intro h
    exact ⟨isQuery_of_parseQuery h, renderQuery_of_parseQuery h⟩
  · rintro ⟨h, rfl⟩
    exact parseQuery_renderQuery h

end PagedQuery.Term
