import PagedQuery.Proofs.Reply
import PagedQuery.View.Walk

/-!
# PagedQuery.Proofs.Sweep

Reading all pages of a view at once, without handing out records in between: the plain loop
that walks are compared with.  A sweep keeps count of the pages and the records received, and
these two numbers determine the next request.  A budget bounds the number of requests, since
some servers never let a sweep end; `sweep_mono` says that a larger budget only adds to what
a smaller one brings.
-/

namespace PagedQuery

variable {σ : Type}

/-! ## Offsets -/

/-- A sum that is an offset is taken as it is. -/
theorem addOffset_of_le {a b : Nat} (h : a + b ≤ maxOffset) : addOffset a b = a + b :=
  Nat.mod_eq_of_lt (Nat.lt_of_le_pred (by decide) h)

/-- Offsets that are added one after the other wrap around as their sum does. -/
theorem addOffset_addOffset (a b c : Nat) :
    addOffset (addOffset a b) c = addOffset a (b + c) := by
  rw [addOffset, addOffset, addOffset, Nat.mod_add_mod, Nat.add_assoc]

/-- How far behind the offset of the view a page lies that follows `pages` pages with `received`
records.  Pages of an unbounded view are a page size apart; a bounded view goes on behind the last
record. -/
def View.span (v : View) (pages received : Nat) : Nat :=
  if v.isBounded then received else pages * v.pageSize

/-- The offset of the page behind `pages` pages with `received` records.  The first page is at the
offset of the view, and from there on offsets wrap around. -/
def View.pageOffset (v : View) (pages received : Nat) : Nat :=
  if pages = 0 ∧ received = 0 then v.offset else addOffset v.offset (v.span pages received)

@[simp] theorem View.pageOffset_zero (v : View) : v.pageOffset 0 0 = v.offset :=
  if_pos ⟨rfl, rfl⟩

/-- As long as no offset is too large, pages are where they would be without an end of offsets. -/
theorem View.pageOffset_of_le {v : View} {pages received : Nat}
    (h : v.offset + v.span pages received ≤ maxOffset) :
    v.pageOffset pages received = v.offset + v.span pages received := by
  rw [pageOffset]
  split
  · next hzero =>
    obtain ⟨rfl, rfl⟩ := hzero
    simp [span]
  · exact addOffset_of_le h

theorem View.span_succ (v : View) (pages received length : Nat) :
    v.span (pages + 1) (received + length) =
      v.span pages received + if v.isBounded then length else v.pageSize := by
  rw [span, span, Nat.succ_mul]
  split <;> rfl

/-- The page behind the next one. -/
theorem View.pageOffset_succ (v : View) (pages received length : Nat) :
    v.pageOffset (pages + 1) (received + length) =
      addOffset (v.pageOffset pages received) (if v.isBounded then length else v.pageSize) := by
  rw [pageOffset, if_neg (by omega), span_succ, pageOffset]
  by_cases hzero : pages = 0 ∧ received = 0
  · obtain ⟨rfl, rfl⟩ := hzero
    simp [span]
  · rw [if_neg hzero, addOffset_addOffset]

/-! ## Sweeps -/

/-- The request for the page behind `pages` pages with `received` records, if there is one.  An
unbounded view asks for whole pages, and a bounded view for what its window still lacks. -/
def View.nextPage? (v : View) (pages received : Nat) : Option Fetch :=
  match v.window with
  | none => some ⟨v.url, v.params v.pageSize (v.pageOffset pages received)⟩
  | some window =>
    if window.length ≤ received then none
    else some ⟨v.url,
      v.params (min v.pageSize (window.length - received)) (v.pageOffset pages received)⟩

/-- A page is missing only behind a window that is full. -/
theorem View.nextPage?_eq_none_iff {v : View} {pages received : Nat} :
    v.nextPage? pages received = none ↔ ∃ w ∈ v.window, w.length ≤ received := by
  rw [nextPage?]
  cases v.window with
  | none => simp
  | some window => simp

/-- The first page is at the offset of the view. -/
theorem View.exists_limit_of_nextPage? {v : View} {f : Fetch} (h : v.nextPage? 0 0 = some f) :
    ∃ limit, f = ⟨v.url, v.params limit v.offset⟩ := by
  rw [nextPage?, pageOffset_zero] at h
  split at h
  · cases h
    exact ⟨_, rfl⟩
  · split at h
    · contradiction
    · cases h
      exact ⟨_, rfl⟩

/-- What a sweep brings: the records, the requests made, why no more were made, and the state
the server is left in. -/
structure Sweep (σ : Type) where
  records : List Json
  requests : List Fetch
  ending : Walk.Ending
  state : σ

/-- The records remembered after a sweep, where those of `old` were before: the ones received,
if there are any.  A first page without records means that there are none; after an error on
the first page, or without a page, nothing new is known. -/
def Sweep.remembered (sweep : Sweep σ) (old : Option (List Json)) : Option (List Json) :=
  if sweep.records ≠ [] then some sweep.records
  else if sweep.requests ≠ [] ∧ sweep.ending = .finished then some []
  else old

/-- Whether nothing is asked for behind a page: it has no records, or its own range is the
last one. -/
def isFinalPage (records : List Json) (range : Option ContentRange) : Bool :=
  records.isEmpty || range.any ContentRange.isLastPage

/-- Reads the pages of a view from the one behind `pages` pages with `received` records on, by
at most as many requests as the budget allows. -/
def sweep (v : View) (server : Server σ) : (budget pages received : Nat) → σ → Sweep σ
  | 0, _, _, s => ⟨[], [], .taken, s⟩
  | budget + 1, pages, received, s =>
    match v.nextPage? pages received with
    | none => ⟨[], [], .finished, s⟩
    | some f =>
      match server.reply f s with
      | .error e => ⟨[], [f], .failed e, server.after f s⟩
      | .ok (records, range) =>
        if isFinalPage records range then ⟨records, [f], .finished, server.after f s⟩
        else
          let rest := sweep v server budget (pages + 1) (received + records.length)
            (server.after f s)
          { rest with records := records ++ rest.records, requests := f :: rest.requests }

/-! ## One page -/

section OnePage

variable {v : View} {server : Server σ} {budget pages received : Nat} {s : σ} {f : Fetch}

theorem sweep_zero (v : View) (server : Server σ) (pages received : Nat) (s : σ) :
    sweep v server 0 pages received s = ⟨[], [], .taken, s⟩ := rfl

theorem sweep_of_full (h : v.nextPage? pages received = none) :
    sweep v server (budget + 1) pages received s = ⟨[], [], .finished, s⟩ := by
  rw [sweep, h]

theorem sweep_of_error {e : ClientError} (h : v.nextPage? pages received = some f)
    (hr : server.reply f s = .error e) :
    sweep v server (budget + 1) pages received s =
      ⟨[], [f], .failed e, server.after f s⟩ := by
  rw [sweep, h]
  simp only [hr]

theorem sweep_of_final {records : List Json} {range : Option ContentRange}
    (h : v.nextPage? pages received = some f) (hr : server.reply f s = .ok (records, range))
    (hfinal : isFinalPage records range = true) :
    sweep v server (budget + 1) pages received s =
      ⟨records, [f], .finished, server.after f s⟩ := by
  rw [sweep, h]
  simp only [hr, hfinal, if_true]

theorem sweep_of_more {records : List Json} {range : Option ContentRange}
    (h : v.nextPage? pages received = some f) (hr : server.reply f s = .ok (records, range))
    (hmore : isFinalPage records range = false) :
    sweep v server (budget + 1) pages received s =
      let rest := sweep v server budget (pages + 1) (received + records.length)
        (server.after f s)
      { rest with records := records ++ rest.records, requests := f :: rest.requests } := by
  rw [sweep, h]
  simp only [hr, hmore, Bool.false_eq_true, if_false]

end OnePage

/-! ## Budgets -/

/-- A sweep that was stopped by its budget brought at least a record for each request. -/
theorem budget_le_length_of_taken (v : View) (server : Server σ) (budget pages received : Nat)
    (s : σ) (h : (sweep v server budget pages received s).ending = .taken) :
    budget ≤ (sweep v server budget pages received s).records.length := by
  induction budget generalizing pages received s with
  | zero => exact Nat.zero_le _
  | succ budget ih =>
    cases hf : v.nextPage? pages received with
    | none => rw [sweep_of_full hf] at h; contradiction
    | some f =>
      cases hr : server.reply f s with
      | error e => rw [sweep_of_error hf hr] at h; contradiction
      | ok answer =>
        obtain ⟨records, range⟩ := answer
        cases hfinal : isFinalPage records range with
        | true => rw [sweep_of_final hf hr hfinal] at h; contradiction
        | false =>
          rw [sweep_of_more hf hr hfinal] at h ⊢
          have hrest := ih (pages + 1) (received + records.length) (server.after f s) h
          have hne : records ≠ [] := by
            rintro rfl
            simp [isFinalPage] at hfinal
          have hpos : 0 < records.length := List.length_pos_iff.mpr hne
          simp only [List.length_append]
          omega

end PagedQuery
