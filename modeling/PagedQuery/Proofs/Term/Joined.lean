import PagedQuery.Proofs.Term.Depth
import PagedQuery.Proofs.Term.RoundTrip

/-!
# PagedQuery.Proofs.Term.Joined

Queries joined by an ampersand.  No ampersand stands inside of brackets, so that wherever there is
one a query can be parted: what stands before it is a query, and what stands behind it, unless this
is empty (`parseQuery_append_eq_ok_iff`).
-/

namespace PagedQuery

theorem exists_eq_ok_of_isOk {ε α : Type} {x : Except ε α} (h : x.isOk = true) :
    ∃ a, x = .ok a := by
  cases x with
  | ok a => exact ⟨a, rfl⟩
  | error e => contradiction

namespace Term

namespace Reader

variable {r r' : Reader} {cs ds : List Char}

/-- A text leads somewhere by way of where its beginning leads. -/
theorem Reaches.part (h : r.Reaches (cs ++ ds) r') : ∃ m, r.Reaches cs m ∧ m.Reaches ds r' := by
  induction cs generalizing r with
  | nil => exact ⟨r, .refl r, h⟩
  | cons c cs ih =>
    cases h with
    | step hstep hrest =>
      obtain ⟨m, hbefore, hbehind⟩ := ih hrest
      exact ⟨m, .step hstep hbefore, hbehind⟩

/-- An ampersand ends a query, and another fragment has to start. -/
theorem finish_of_step_ampersand (h : r.step '&' = .ok r') :
    (∃ ts, r.finish = .ok ts) ∧ ∃ t ts, r' = ⟨t :: ts, [], .text []⟩ := by
  have hreads := reads_step r '&'
  rw [h] at hreads
  cases hreads with
  | lengthens terms brackets chars hc => contradiction
  | ends terms hpiece =>
    exact ⟨⟨_, finish_eq_ok_iff.mpr ⟨rfl, .inl ⟨hpiece, rfl⟩⟩⟩, _, _, rfl⟩

/-- Behind an ampersand a text is read if it is a query on its own. -/
theorem isOk_run_fragment (t : Term) (ts : List Term) (position : Nat) (hcs : cs ≠ []) :
    (run ⟨t :: ts, [], .text []⟩ position cs).isOk = (start.run 0 cs).isOk := by
  obtain ⟨c, cs, rfl⟩ := List.exists_cons_of_ne_nil hcs
  rw [isOk_run, isOk_run]
  simp [start, expects]

end Reader

variable {a b : String} {us vs : List Term}

theorem ne_nil_of_parseQuery (h : parseQuery a = .ok us) (ha : a ≠ "") : us ≠ [] := by
  rintro rfl
  exact ha (renderQuery_of_parseQuery h).symm

theorem isQuery_append (hus : IsQuery us) (hvs : IsQuery vs) : IsQuery (us ++ vs) where
  wellFormed t ht := (List.mem_append.mp ht).elim (hus.wellFormed t) (hvs.wellFormed t)
  filled ht := (List.mem_append.mp ht).elim hus.filled hvs.filled

theorem renderQuery_append (hus : us ≠ []) (hvs : vs ≠ []) :
    renderQuery (us ++ vs) = renderQuery us ++ "&" ++ renderQuery vs := by
  rw [renderQuery, renderEach_eq_map, List.map_append, Text.join,
    String.intercalate_append_of_ne_nil (by simpa using hus) (by simpa using hvs),
    ← renderEach_eq_map, ← renderEach_eq_map]
  rfl

theorem parseQuery_append (hus : parseQuery a = .ok us) (hvs : parseQuery b = .ok vs) (ha : a ≠ "")
    (hb : b ≠ "") : parseQuery (a ++ "&" ++ b) = .ok (us ++ vs) := by
  have hrender := renderQuery_append (ne_nil_of_parseQuery hus ha) (ne_nil_of_parseQuery hvs hb)
  rw [renderQuery_of_parseQuery hus, renderQuery_of_parseQuery hvs] at hrender
  rw [← hrender]
  exact parseQuery_renderQuery
    (isQuery_append (isQuery_of_parseQuery hus) (isQuery_of_parseQuery hvs))

/-- Where two texts are joined by an ampersand, each is a query if the whole is one. -/
theorem exists_of_parseQuery_append {ts : List Term} (h : parseQuery (a ++ "&" ++ b) = .ok ts)
    (hb : b ≠ "") : (∃ us, parseQuery a = .ok us) ∧ ∃ vs, parseQuery b = .ok vs := by
  obtain ⟨r, hreaches, hfinish⟩ := Reader.run_eq_ok_iff.mp h
  have hchars : (a ++ "&" ++ b).toList = a.toList ++ '&' :: b.toList := by simp
  rw [hchars] at hreaches
  obtain ⟨m, hbefore, hbehind⟩ := hreaches.part
  cases hbehind with
  | step hstep hrest =>
    obtain ⟨⟨us, hus⟩, t, ts', rfl⟩ := Reader.finish_of_step_ampersand hstep
    refine ⟨⟨us, Reader.run_eq_ok_iff.mpr ⟨m, hbefore, hus⟩⟩, ?_⟩
    have hread : Reader.run _ 0 b.toList = .ok ts := Reader.run_eq_ok_iff.mpr ⟨r, hrest, hfinish⟩
    have hisOk := Reader.isOk_run_fragment t ts' 0 (String.toList_eq_nil_iff.not.mpr hb)
    rw [hread, ← parseQuery] at hisOk
    exact exists_eq_ok_of_isOk hisOk.symm

theorem parseQuery_append_eq_ok_iff (ha : a ≠ "") (hb : b ≠ "") {ts : List Term} :
    parseQuery (a ++ "&" ++ b) = .ok ts ↔
      ∃ us vs, parseQuery a = .ok us ∧ parseQuery b = .ok vs ∧ ts = us ++ vs := by
  constructor
  · intro h
    obtain ⟨⟨us, hus⟩, vs, hvs⟩ := exists_of_parseQuery_append h hb
    rw [parseQuery_append hus hvs ha hb] at h
    exact ⟨us, vs, hus, hvs, (Except.ok.inj h).symm⟩
  · rintro ⟨us, vs, hus, hvs, rfl⟩
    exact parseQuery_append hus hvs ha hb

end Term

end PagedQuery
