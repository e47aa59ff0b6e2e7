import PagedQuery.Proofs.Sweep

/-!
# PagedQuery.Proofs.Walk.Next

One call of a walk.  A walk is in one of three situations: it has records at hand (`pending`),
it has nothing more to give (`isClosed`), or it has to ask for a page.  Each has one lemma that
says what the next call does, so that no other proof opens `Walk.next`.
-/

namespace PagedQuery.Walk

variable {σ : Type} {v : View} {server : Server σ}

/-- The records a walk can hand out without asking. -/
def pending (w : Walk) : List Json :=
  match w.phase with
  | .reading page _ => page
  | .replaying rest => rest
  | .fresh | .done => []

/-- Whether the records at hand are the last ones, by what is known without asking. -/
def isClosed (w : Walk) : Bool :=
  match w.phase with
  | .fresh => false
  | .reading _ range => range.any ContentRange.isLastPage
  | .replaying _ | .done => true

/-- The walk with other records at hand, of the same origin. -/
def withPending (w : Walk) (rest : List Json) : Walk :=
  match w.phase with
  | .reading _ range => { w with phase := .reading rest range }
  | .replaying _ => { w with phase := .replaying rest }
  | .fresh | .done => w

@[simp] theorem isClosed_withPending (w : Walk) (rest : List Json) :
    (w.withPending rest).isClosed = w.isClosed := by
  obtain ⟨url, phase, nextOffset, received⟩ := w
  cases phase <;> rfl

theorem pending_withPending {w : Walk} (h : w.pending ≠ []) (rest : List Json) :
    (w.withPending rest).pending = rest := by
  obtain ⟨url, phase, nextOffset, received⟩ := w
  cases phase with
  | fresh => contradiction
  | done => contradiction
  | reading page range => rfl
  | replaying page => rfl

theorem isAtLastPage_eq (w : Walk) :
    w.isAtLastPage = (w.isClosed && match w.phase with | .reading .. => true | _ => false) := by
  obtain ⟨_, _ | ⟨_, _ | _⟩ | _ | _, _, _⟩ := w <;> simp [isAtLastPage, isClosed]

/-! ## Position -/

/-- The walk has received `received` records on `pages` pages of the view, and will go on from
there. -/
structure At (w : Walk) (v : View) (pages received : Nat) : Prop where
  url : w.url = v.url
  nextOffset : w.nextOffset = v.pageOffset pages received
  received : w.received = received

theorem at_start (v : View) (memo : Memo) : (start v memo).At v 0 0 where
  url := rfl
  nextOffset := by simp [start]
  received := rfl

theorem At.withPending {w : Walk} {pages received : Nat} (h : w.At v pages received)
    (rest : List Json) : (w.withPending rest).At v pages received := by
  obtain ⟨url, phase, nextOffset, count⟩ := w
  cases phase <;> exact ⟨h.url, h.nextOffset, h.received⟩

theorem At.receive {w : Walk} {pages received : Nat} (h : w.At v pages received)
    (record : Json) (rest : List Json) (range : Option ContentRange) (ch : Channel σ) :
    (w.receive v record rest range ch).1.At v (pages + 1)
      (received + (record :: rest).length) where
  url := h.url
  nextOffset := by rw [Walk.receive, h.nextOffset, v.pageOffset_succ]
  received := by simp only [Walk.receive, h.received]

/-- A walk asks for the page a sweep would ask for at the same position. -/
theorem At.nextPage? {w : Walk} {pages received : Nat} (h : w.At v pages received)
    (hopen : w.isClosed = false) :
    (w.nextLimit? v).map (fun limit => (⟨w.url, v.params limit w.nextOffset⟩ : Fetch)) =
      v.nextPage? pages received := by
  have hlast : w.isAtLastPage = false := by rw [isAtLastPage_eq, hopen, Bool.false_and]
  unfold nextLimit? View.nextPage?
  rw [hlast, h.url, h.nextOffset, h.received]
  cases hwindow : v.window with
  | none => simp
  | some window =>
    by_cases hfull : window.length ≤ received
    · have hzero : window.length - received = 0 := by omega
      simp [hfull, hzero]
    · have hpos : window.length - received ≠ 0 := by omega
      simp [hfull, hpos, Nat.min_comm]

/-! ## The next call -/

/-- A record at hand is handed out, and nothing else happens. -/
theorem next_of_pending {w : Walk} {record : Json} {rest : List Json}
    (h : w.pending = record :: rest) (ch : Channel σ) :
    w.next v server ch = (.ok (some (v.shape record)), w.withPending rest, ch) := by
  obtain ⟨url, phase, nextOffset, received⟩ := w
  cases phase with
  | fresh => contradiction
  | done => contradiction
  | reading page range => cases h; rfl
  | replaying page => cases h; rfl

/-- Without records at hand a closed walk ends.  Of the channel only the mark that all records
are known may change. -/
theorem next_of_closed (v : View) (server : Server σ) {w : Walk} (hclosed : w.isClosed = true)
    (hpending : w.pending = []) (ch : Channel σ) :
    ∃ complete, w.next v server ch = (.ok none, { w with phase := .done },
      { ch with memo := { ch.memo with complete := complete } }) := by
  obtain ⟨url, phase, nextOffset, received⟩ := w
  cases phase with
  | fresh => contradiction
  | done => exact ⟨ch.memo.complete, rfl⟩
  | replaying page => cases hpending; exact ⟨ch.memo.complete, rfl⟩
  | reading page range =>
    cases hpending
    have hlast : (⟨url, .reading [] range, nextOffset, received⟩ : Walk).isAtLastPage = true := by
      rw [isAtLastPage_eq, hclosed, Bool.true_and]
    refine ⟨true, ?_⟩
    have hnone : (⟨url, .reading [] range, nextOffset, received⟩ : Walk).nextLimit? v = none := by
      unfold nextLimit?
      rw [hlast]
      cases v.window <;> simp
    simp only [next, hnone, finish]

/-- The channel in which a walk asks: before the first page the records remembered stop being
all there are. -/
def opening (w : Walk) (ch : Channel σ) : Channel σ :=
  if w.phase = .fresh then { ch with memo := { ch.memo with complete := false } } else ch

@[simp] theorem session_opening (w : Walk) (ch : Channel σ) :
    (w.opening ch).session = ch.session := by
  unfold opening
  split <;> rfl

@[simp] theorem records_opening (w : Walk) (ch : Channel σ) :
    (w.opening ch).memo.records = ch.memo.records := by
  unfold opening
  split <;> rfl

@[simp] theorem range_opening (w : Walk) (ch : Channel σ) :
    (w.opening ch).memo.range = ch.memo.range := by
  unfold opening
  split <;> rfl

theorem complete_opening (w : Walk) (ch : Channel σ) :
    (w.opening ch).memo.complete = if w.phase = .fresh then false else ch.memo.complete := by
  unfold opening
  split <;> rfl

@[simp] theorem session_receive (w : Walk) (record : Json) (rest : List Json)
    (range : Option ContentRange) (ch : Channel σ) :
    (w.receive v record rest range ch).2.session = ch.session := rfl

section ReceiveNone

variable (w : Walk) (range : Option ContentRange) (ch : Channel σ)

@[simp] theorem fetches_receiveNone :
    (w.receiveNone range ch).2.session.fetches = ch.session.fetches := by
  unfold receiveNone
  split <;> rfl

@[simp] theorem state_receiveNone :
    (w.receiveNone range ch).2.session.state = ch.session.state := by
  unfold receiveNone
  split <;> rfl

@[simp] theorem records_receiveNone :
    (w.receiveNone range ch).2.memo.records =
      if w.phase = .fresh then some [] else ch.memo.records := by
  unfold receiveNone
  split <;> rfl

@[simp] theorem range_receiveNone :
    (w.receiveNone range ch).2.memo.range = ch.memo.range := by
  unfold receiveNone
  split <;> rfl

@[simp] theorem complete_receiveNone : (w.receiveNone range ch).2.memo.complete = true := by
  unfold receiveNone
  split <;> rfl

@[simp] theorem phase_receiveNone : (w.receiveNone range ch).1.phase = .done := by
  unfold receiveNone
  split <;> rfl

end ReceiveNone

/-- What a walk makes of the answer to its request. -/
def takeIn (w : Walk) (v : View) (reading : Reading) (ch : Channel σ) :
    Except ClientError (Option Json) × Walk × Channel σ :=
  match reading with
  | .error e => (.error e, { w with phase := .done }, ch)
  | .ok ([], range) => (.ok none, w.receiveNone range ch)
  | .ok (record :: rest, range) =>
    (.ok (some (v.shape record)), w.receive v record rest range ch)

theorem fetches_takeIn (w : Walk) (v : View) (reading : Reading) (ch : Channel σ) :
    (w.takeIn v reading ch).2.2.session.fetches = ch.session.fetches := by
  obtain e | ⟨_ | ⟨record, rest⟩, range⟩ := reading
  · rfl
  · exact fetches_receiveNone ..
  · rfl

theorem load_eq (w : Walk) (limit : Nat) (ch : Channel σ) :
    w.load v server limit ch =
      w.takeIn v (server.reply ⟨w.url, v.params limit w.nextOffset⟩ ch.session.state)
        ((w.opening ch).asking server ⟨w.url, v.params limit w.nextOffset⟩) := by
  have hload := View.fetchPage_eq v server w.url limit w.nextOffset (w.opening ch)
  rw [session_opening] at hload
  unfold opening at hload
  unfold load takeIn opening
  simp only [hload]
  obtain e | ⟨_ | ⟨record, rest⟩, range⟩ :=
    server.reply ⟨w.url, v.params limit w.nextOffset⟩ ch.session.state <;> rfl

/-- An open walk without records at hand asks for a page unless its limit says otherwise. -/
theorem next_eq_load {w : Walk} (hopen : w.isClosed = false) (hpending : w.pending = [])
    (ch : Channel σ) :
    w.next v server ch =
      match w.nextLimit? v with
      | some limit => w.load v server limit ch
      | none => (.ok none, w.finish ch) := by
  obtain ⟨url, phase, nextOffset, count⟩ := w
  cases phase with
  | fresh => rfl
  | reading page range => cases hpending; rfl
  | replaying page => contradiction
  | done => contradiction

/-- An open walk without records at hand asks for the page a sweep would ask for. -/
theorem next_of_open (server : Server σ) {w : Walk} {pages received : Nat}
    (hat : w.At v pages received)
    (hopen : w.isClosed = false) (hpending : w.pending = []) (ch : Channel σ) :
    w.next v server ch =
      match v.nextPage? pages received with
      | none => (.ok none, w.finish ch)
      | some f =>
        w.takeIn v (server.reply f ch.session.state) ((w.opening ch).asking server f) := by
  rw [next_eq_load hopen hpending, ← hat.nextPage? hopen]
  cases w.nextLimit? v with
  | none => rfl
  | some limit => exact load_eq w limit ch

/-! ## Ended walks -/

/-- The answer of the call that ends a walk. -/
def Ending.answer : Ending → Except ClientError (Option Json)
  | .failed e => .error e
  | .taken | .finished => .ok none

/-- A walk that has ended gives nothing more and asks for nothing. -/
theorem next_of_done {w : Walk} (h : w.phase = .done) (ch : Channel σ) :
    w.next v server ch = (.ok none, w, ch) := by
  simp only [next, h]

theorem phase_takeIn (w : Walk) (reading : Reading) (ch : Channel σ)
    (h : ∀ record, (w.takeIn v reading ch).1 ≠ .ok (some record)) :
    (w.takeIn v reading ch).2.1.phase = .done := by
  obtain e | ⟨_ | ⟨record, rest⟩, range⟩ := reading
  · rfl
  · exact phase_receiveNone ..
  · exact absurd rfl (h (v.shape record))

/-- A call that gives no record ends the walk. -/
theorem phase_next (v : View) (server : Server σ) (w : Walk) (ch : Channel σ)
    (h : ∀ record, (w.next v server ch).1 ≠ .ok (some record)) :
    (w.next v server ch).2.1.phase = .done := by
  cases hpending : w.pending with
  | cons record rest =>
    rw [next_of_pending hpending] at h
    exact absurd rfl (h (v.shape record))
  | nil =>
    cases hclosed : w.isClosed with
    | true =>
      obtain ⟨complete, hnext⟩ := next_of_closed v server hclosed hpending ch
      rw [hnext]
    | false =>
      rw [next_eq_load hclosed hpending] at h ⊢
      cases hlimit : w.nextLimit? v with
      | none => rfl
      | some limit =>
        simp only [hlimit, load_eq] at h ⊢
        exact phase_takeIn w _ _ h

end PagedQuery.Walk
