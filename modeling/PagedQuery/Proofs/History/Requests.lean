import PagedQuery.Proofs.View.Positions
import PagedQuery.Proofs.View.Operation
import PagedQuery.Proofs.Walk.Move
import PagedQuery.Server.Script

/-!
# PagedQuery.Proofs.History.Requests

What bounded views ask for.  A walk of a window may still make as many requests as there are
positions it has received nothing for (`Walk.left`).  Each request uses up one of them, whatever
the server answers, and asks for records of the window only (`Move.within`).  So walks of a window
come to an end, and no operation asks for anything outside of it (`requests_stay_in_window`).
-/

namespace PagedQuery

variable {σ : Type}

/-- A request of the view that asks for no record outside of the window. -/
def Fetch.IsWithin (f : Fetch) (v : View) (window : Window) : Prop :=
  ∃ limit offset, f = ⟨v.url, v.params limit offset⟩ ∧
    (0 < limit → window.start ≤ offset ∧ offset + limit ≤ window.stop)

/-- A request for a page of the window, with a record at least. -/
def Fetch.IsPageWithin (f : Fetch) (v : View) (window : Window) : Prop :=
  ∃ limit offset, f = ⟨v.url, v.params limit offset⟩ ∧ 1 ≤ limit ∧ limit ≤ v.pageSize ∧
    window.start ≤ offset ∧ offset + limit ≤ window.stop

theorem Fetch.IsPageWithin.isWithin {f : Fetch} {v : View} {window : Window}
    (h : f.IsPageWithin v window) : f.IsWithin v window := by
  obtain ⟨limit, offset, hf, _, _, hwindow⟩ := h
  exact ⟨limit, offset, hf, fun _ => hwindow⟩

namespace Walk

/-- A walk of the view that has made some requests.  Between its calls the view may be read in
other ways: each call finds the channel as it is by then. -/
inductive HasAsked (v : View) (server : Server σ) : Walk → List Fetch → Prop
  | start (memo : Memo) : HasAsked v server (start v memo) []
  | call {w : Walk} {requests more : List Fetch} (h : HasAsked v server w requests)
      (ch : Channel σ)
      (hmore : (w.next v server ch).2.2.session.fetches = ch.session.fetches ++ more) :
      HasAsked v server (w.next v server ch).2.1 (requests ++ more)

/-- A new walk after so many calls, each in a channel of its own. -/
def amid (v : View) (server : Server σ) (memo : Memo) (channels : Nat → Channel σ) : Nat → Walk
  | 0 => start v memo
  | n + 1 => ((amid v server memo channels n).next v server (channels n)).2.1

/-- The number of requests that a walk of the window may still make. -/
def left (w : Walk) (window : Window) : Nat :=
  match w.phase with
  | .fresh | .reading _ _ => window.length - w.received
  | .replaying _ | .done => 0

section Left

variable {w : Walk} (window : Window)

theorem left_of_done (h : w.phase = .done) : w.left window = 0 := by
  rw [left, h]

theorem left_of_isWaiting (h : w.isWaiting = true) :
    w.left window = window.length - w.received := by
  obtain ⟨url, _ | ⟨_ | ⟨_, _⟩, _⟩ | _ | _, nextOffset, received⟩ := w <;>
    first | rfl | contradiction

@[simp] theorem left_withPending (rest : List Json) :
    (w.withPending rest).left window = w.left window := by
  obtain ⟨url, phase, nextOffset, received⟩ := w
  cases phase <;> rfl

theorem left_start_le (v : View) (memo : Memo) : (start v memo).left window ≤ window.length := by
  unfold left
  split <;> omega

end Left

/-! ## One call -/

section Moves

variable {v : View} {server : Server σ} {w : Walk} {ch : Channel σ}
  {result : Except ClientError (Option Json) × Walk × Channel σ}

variable {window : Window}

/-- The request of a walk lies in the window, which has a position left for it. -/
theorem request_within (hv : v.IsFramed) (hw : v.window = some window)
    (hat : ∃ pages received, w.At v pages received) {limit : Nat}
    (hlimit : w.nextLimit? v = some limit) :
    w.received < window.length ∧ (w.request v limit).IsPageWithin v window := by
  obtain ⟨pages, received, hat⟩ := hat
  have hasks := hat.mayAsk hv hlimit
  obtain ⟨hmissing, hwithin⟩ := hasks.within window hw
  exact ⟨hmissing, limit, w.nextOffset, by rw [request, hat.url], hasks.pos, hasks.le, hwithin⟩

/-- A call makes at most one request, and uses up one of those left for it. -/
theorem Move.within (hv : v.IsFramed) (hw : v.window = some window)
    (hat : ∃ pages received, w.At v pages received) (h : Move v server w ch result) :
    ∃ requests, result.2.2.session.fetches = ch.session.fetches ++ requests ∧
      (∀ f ∈ requests, f.IsPageWithin v window) ∧
      result.2.1.left window + requests.length ≤ w.left window := by
  cases h with
  | hand => exact ⟨[], by simp, by simp, by simp⟩
  | ended => exact ⟨[], by simp, by simp, Nat.zero_le _⟩
  | close => exact ⟨[], by simp [finish], by simp, Nat.zero_le _⟩
  | @fail limit e hwaiting hlimit _ =>
    obtain ⟨hmissing, hwithin⟩ := request_within hv hw hat hlimit
    refine ⟨[w.request v limit], by simp, by simpa using hwithin, ?_⟩
    rw [left_of_isWaiting window hwaiting, left_of_done window rfl, List.length_singleton]
    omega
  | @empty limit range hwaiting hlimit _ =>
    obtain ⟨hmissing, hwithin⟩ := request_within hv hw hat hlimit
    refine ⟨[w.request v limit], by simp, by simpa using hwithin, ?_⟩
    rw [left_of_isWaiting window hwaiting, left_of_done window (by simp), List.length_singleton]
    omega
  | @page limit record rest range hwaiting hlimit _ =>
    obtain ⟨hmissing, hwithin⟩ := request_within hv hw hat hlimit
    refine ⟨[w.request v limit], by simp, by simpa using hwithin, ?_⟩
    have hleft : (w.receive v record rest range
        ((w.opening ch).asking server (w.request v limit))).1.left window =
          window.length - (w.received + (record :: rest).length) := rfl
    rw [left_of_isWaiting window hwaiting, hleft, List.length_singleton, List.length_cons]
    omega

/-- A call ends the walk, or uses up a request or a record at hand. -/
theorem Move.progress (hv : v.IsFramed) (hw : v.window = some window)
    (hat : ∃ pages received, w.At v pages received) (h : Move v server w ch result) :
    result.2.1.phase = .done ∨ result.2.1.left window < w.left window ∨
      result.2.1.left window = w.left window ∧
        result.2.1.pending.length < w.pending.length := by
  cases h with
  | hand hpending =>
    refine .inr (.inr ⟨left_withPending window _, ?_⟩)
    rw [pending_withPending (by simp [hpending]), hpending, List.length_cons]
    exact Nat.lt_succ_self _
  | ended => exact .inl rfl
  | close => exact .inl rfl
  | fail => exact .inl rfl
  | empty => exact .inl (by simp)
  | @page limit record rest range hwaiting hlimit _ =>
    obtain ⟨hmissing, _⟩ := request_within hv hw hat hlimit
    have hleft : (w.receive v record rest range
        ((w.opening ch).asking server (w.request v limit))).1.left window =
          window.length - (w.received + (record :: rest).length) := rfl
    refine .inr (.inl ?_)
    rw [left_of_isWaiting window hwaiting, hleft, List.length_cons]
    omega

end Moves

/-! ## Some calls -/

section Calls

variable {v : View} {server : Server σ} {window : Window}

theorem HasAsked.exists_at {w : Walk} {requests : List Fetch} (h : HasAsked v server w requests) :
    ∃ pages received, w.At v pages received := by
  induction h with
  | start memo => exact ⟨0, 0, at_start v memo⟩
  | call _ ch _ ih => exact (move_next v server _ ch).exists_at ih

/-- The requests made and those left are never more than the positions of the window. -/
theorem HasAsked.within (hv : v.IsFramed) (hw : v.window = some window) {w : Walk}
    {requests : List Fetch} (h : HasAsked v server w requests) :
    w.left window + requests.length ≤ window.length ∧
      ∀ f ∈ requests, f.IsPageWithin v window := by
  induction h with
  | start memo =>
    rw [List.length_nil, Nat.add_zero]
    exact ⟨left_start_le window v memo, by simp⟩
  | @call w requests more h ch hmore ih =>
    obtain ⟨hleft, hwithin⟩ := ih
    obtain ⟨requests', hfetches, hwithin', hleft'⟩ :=
      (move_next v server w ch).within hv hw h.exists_at
    obtain rfl : requests' = more := List.append_cancel_left (hfetches.symm.trans hmore)
    refine ⟨?_, fun f hf => ?_⟩
    · rw [List.length_append]
      omega
    · exact (List.mem_append.mp hf).elim (hwithin f) (hwithin' f)

/-- The requests of calls in a row. -/
theorem exists_hasAsked (hv : v.IsFramed) (hw : v.window = some window) (server : Server σ)
    (n : Nat) (ch : Channel σ) :
    ∃ requests, (calls v server n (start v ch.memo) ch).channel.session.fetches =
        ch.session.fetches ++ requests ∧
      HasAsked v server (calls v server n (start v ch.memo) ch).walk requests := by
  induction n with
  | zero => exact ⟨[], (List.append_nil _).symm, .start ch.memo⟩
  | succ n ih =>
    obtain ⟨requests, hfetches, hasked⟩ := ih
    rw [calls_succ]
    generalize calls v server n (start v ch.memo) ch = called at hfetches hasked
    obtain ⟨more, hmore, _⟩ :=
      (move_next v server called.walk called.channel).within hv hw hasked.exists_at
    refine ⟨requests ++ more, ?_, hasked.call _ hmore⟩
    rw [hmore, hfetches, List.append_assoc]

theorem exists_at_amid (memo : Memo) (channels : Nat → Channel σ) (n : Nat) :
    ∃ pages received, (amid v server memo channels n).At v pages received := by
  induction n with
  | zero => exact ⟨0, 0, at_start v memo⟩
  | succ n ih => exact (move_next v server _ _).exists_at ih

/-- A walk of a window ends, whatever happens between its calls.  Each call brings it nearer to
the end: it lowers the number of requests left, or else the number of records at hand. -/
theorem exists_done (hv : v.IsFramed) (hw : v.window = some window) (server : Server σ)
    (memo : Memo) (channels : Nat → Channel σ) (k : Nat) :
    ∃ n, (amid v server memo channels n).phase = .done := by
  have hmove := move_next v server (amid v server memo channels k) (channels k)
  obtain hdone | hleft | ⟨hleft, hpending⟩ :=
    hmove.progress hv hw (exists_at_amid memo channels k)
  · exact ⟨k + 1, hdone⟩
  · exact exists_done hv hw server memo channels (k + 1)
  · exact exists_done hv hw server memo channels (k + 1)
termination_by
  ((amid v server memo channels k).left window, (amid v server memo channels k).pending.length)
decreasing_by
  · exact .left _ _ hleft
  · exact Prod.lex_def.mpr (.inr ⟨hleft, hpending⟩)

/-- Calls in a row find the channel as the call before has left it. -/
theorem amid_calls (v : View) (server : Server σ) (ch : Channel σ) (n : Nat) :
    amid v server ch.memo (fun i => (calls v server i (start v ch.memo) ch).channel) n =
      (calls v server n (start v ch.memo) ch).walk := by
  induction n with
  | zero => rfl
  | succ n ih => rw [amid, ih, calls_succ]

/-- Once a walk has ended, more calls are not answered by records alone. -/
theorem ending_take_of_done {n m : Nat} {w : Walk} {ch : Channel σ}
    (h : (calls v server n w ch).walk.phase = .done) (hm : n < m) :
    (take v server m w ch).ending ≠ .taken := by
  induction n generalizing m w ch with
  | zero =>
    obtain ⟨m, rfl⟩ : ∃ k, m = k + 1 := ⟨m - 1, by omega⟩
    rw [take, next_of_done (w := w) h]
    simp
  | succ n ih =>
    obtain ⟨m, rfl⟩ : ∃ k, m = k + 1 := ⟨m - 1, by omega⟩
    rw [calls] at h
    rw [take]
    generalize w.next v server ch = result at h
    obtain ⟨e | _ | record, w', ch'⟩ := result
    · simp
    · simp
    · exact ih h (by omega)

end Calls

end Walk

/-! ## Operations -/

/-- What an operation asks for on a view with this window. -/
structure Operation.AsksWithin (op : Operation) (v : View) (window : Window)
    (requests : List Fetch) : Prop where
  within : ∀ f ∈ requests, f.IsWithin v window
  /-- A walk asks for pages, and at most once for each position. -/
  walk : op.calls? ≠ none → requests.length ≤ window.stop - window.start ∧
    ∀ f ∈ requests, f.IsPageWithin v window
  /-- In an empty window only a count asks for anything. -/
  empty : window.stop ≤ window.start → op ≠ .count → requests = []

section Operations

variable {v : View} {window : Window}

theorem Operation.asksWithin (hv : v.IsFramed) (hw : v.window = some window) (server : Server σ)
    (op : Operation) (ch : Channel σ) :
    ∃ requests, (op.run v server ch).2.session.fetches = ch.session.fetches ++ requests ∧
      op.AsksWithin v window requests := by
  have hstart := hv.start_eq window hw
  have hlength : window.length = window.stop - window.start := rfl
  cases hcalls : op.calls? with
  | some n =>
    obtain ⟨requests, hfetches, hasked⟩ := Walk.exists_hasAsked hv hw server n ch
    obtain ⟨hleft, hwithin⟩ := hasked.within hv hw
    rw [Walk.calls_eq_take] at hfetches
    refine ⟨requests, ?_, fun f hf => (hwithin f hf).isWithin, fun _ => ⟨by omega, hwithin⟩,
      fun hempty _ => ?_⟩
    · rw [channel_of_walk hcalls]
      exact hfetches
    · exact List.length_eq_zero_iff.mp (by omega)
  | none =>
    have hlook := looksUp_run hcalls v server ch
    generalize op.run v server ch = result at hlook ⊢
    cases hlook with
    | known =>
      exact ⟨[], (List.append_nil _).symm, by simp, fun h => absurd hcalls h, fun _ _ => rfl⟩
    | @asked answer limit offset hasks _ =>
      refine ⟨[⟨v.url, v.params limit offset⟩], Channel.fetches_asking .., ?_,
        fun h => absurd hcalls h, fun hempty hcount => ?_⟩
      · rintro _ (_ | ⟨_, ⟨⟩⟩)
        refine ⟨limit, offset, rfl, fun hlimit => ?_⟩
        cases hasks with
        | count => contradiction
        | record _ hindex =>
          have hindex := hindex window hw
          have hstop := hv.stop_le window hw
          rw [addOffset_of_le (by omega)]
          omega
      · cases hasks with
        | count h => contradiction
        | record _ hindex =>
          have hindex := hindex window hw
          omega

theorem View.channelAfter_within (hv : v.IsFramed) (hw : v.window = some window)
    (server : Server σ) (ops : List Operation) (ch : Channel σ) :
    ∃ requests,
      (v.channelAfter server ops ch).session.fetches = ch.session.fetches ++ requests ∧
      ∀ f ∈ requests, f.IsWithin v window := by
  refine channelAfter_preserves
    (P := fun ch' => ∃ requests, ch'.session.fetches = ch.session.fetches ++ requests ∧
      ∀ f ∈ requests, f.IsWithin v window)
    (fun op _ ch' ⟨requests, hfetches, hwithin⟩ => ?_) ⟨[], by simp, by simp⟩
  obtain ⟨more, hmore, hasks⟩ := op.asksWithin hv hw server ch'
  refine ⟨requests ++ more, by rw [hmore, hfetches, List.append_assoc], fun f hf => ?_⟩
  exact (List.mem_append.mp hf).elim (hwithin f) (hasks.within f)

theorem View.exists_collect (hv : v.IsFramed) (hw : v.window = some window) (server : Server σ)
    (ch : Channel σ) : ∃ enough, ∀ budget ≥ enough, (v.collect server budget ch).1 ≠ none := by
  obtain ⟨n, hdone⟩ := Walk.exists_done hv hw server ch.memo
    (fun i => (Walk.calls v server i (Walk.start v ch.memo) ch).channel) 0
  rw [Walk.amid_calls] at hdone
  refine ⟨n, fun budget hbudget => ?_⟩
  have hending := Walk.ending_take_of_done hdone (by omega : n < budget + 1)
  simp only [collect]
  cases hcase : (Walk.take v server (budget + 1) (Walk.start v ch.memo) ch).ending with
  | taken => contradiction
  | finished => simp
  | failed e => simp

end Operations

/-- A bounded view asks for nothing outside of its window, whatever it has been built by and
whatever the server answers, in every state of memory and session.  This holds for each operation
and for any number of them in a row.  A walk asks for pages of one record to a page size, at most
once for each position of the window, also if the view is read in other ways between its calls;
after some calls it ends, and with a budget that suffices all records are collected or an error
is reported.  In an empty window nothing but a count makes a request. -/
theorem requests_stay_in_window (v : View) (hv : v.Built) (window : Window)
    (hw : v.window = some window) (server : Server σ) :
    (∀ (ops : List Operation) (ch : Channel σ), ∃ requests,
      (v.channelAfter server ops ch).session.fetches = ch.session.fetches ++ requests ∧
      ∀ f ∈ requests, f.IsWithin v window) ∧
    (∀ (op : Operation) (ch : Channel σ), ∃ requests,
      (op.run v server ch).2.session.fetches = ch.session.fetches ++ requests ∧
      op.AsksWithin v window requests) ∧
    (∀ w requests, Walk.HasAsked v server w requests →
      requests.length ≤ window.stop - window.start ∧ ∀ f ∈ requests, f.IsPageWithin v window) ∧
    (∀ (memo : Memo) (channels : Nat → Channel σ), ∃ n,
      (Walk.amid v server memo channels n).isDone = true) ∧
    ∀ ch : Channel σ, ∃ enough, ∀ budget ≥ enough, (v.collect server budget ch).1 ≠ none := by
  have hframed := hv.isFramed
  refine ⟨View.channelAfter_within hframed hw server, Operation.asksWithin hframed hw server,
    fun w requests hasked => ?_, fun memo channels => ?_, View.exists_collect hframed hw server⟩
  · obtain ⟨hleft, hwithin⟩ := hasked.within hframed hw
    have hlength : window.length = window.stop - window.start := rfl
    exact ⟨by omega, hwithin⟩
  · obtain ⟨n, hdone⟩ := Walk.exists_done hframed hw server memo channels 0
    exact ⟨n, by rw [Walk.isDone, hdone]; rfl⟩

/-- A slice of three records, from a server that sends fewer records than it is asked for, then
more, under headers that promise many. -/
theorem requests_stay_in_window_script :
    let v := { View.ofPath "items" with pageSize := 3, offset := 1, window := some ⟨1, 4⟩ }
    let script : Script :=
      [.ok ⟨[.int 7], some "items 0-0/99"⟩, .ok ⟨[.int 8, .int 9, .int 8], some "items 5-5/99"⟩]
    let ch : Channel Script := ⟨.blank, Session.start script⟩
    let requests : List Fetch :=
      [⟨"items", [("limit", "3"), ("offset", "1")]⟩, ⟨"items", [("limit", "2"), ("offset", "2")]⟩]
    (View.ofPath "items").slice (.included 1) (.excluded 4) = .ok v ∧
      ((Operation.walk 5).run v (Script.server none) ch).2.session.fetches = requests ∧
      requests.length ≤ 3 ∧ ∀ f ∈ requests, f.IsPageWithin v ⟨1, 4⟩ := by
  intro v script ch requests
  have hslice : (View.ofPath "items").slice (.included 1) (.excluded 4) = .ok v := rfl
  have hbuilt : v.Built := .step (.ofPath "items") (.slice hslice)
  obtain ⟨-, hop, -⟩ := requests_stay_in_window v hbuilt ⟨1, 4⟩ rfl (Script.server none)
  obtain ⟨asked, hfetches, hwithin⟩ := hop (.walk 5) ch
  have hparams : requests = [⟨v.url, v.params 3 1⟩, ⟨v.url, v.params 2 2⟩] := by decide
  have hasked : asked = requests := by
    rw [hparams]
    exact hfetches.symm
  rw [hasked] at hwithin hfetches
  exact ⟨hslice, hfetches, hwithin.walk (by decide)⟩

end PagedQuery
