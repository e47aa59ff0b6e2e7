import PagedQuery.Proofs.History.Replay
import PagedQuery.Proofs.Text.Decimal
import PagedQuery.Proofs.View.Positions

/-!
# PagedQuery.Proofs.History.Overrun

What bounded views hand out past their windows.  A walk asks for no more than is missing, but
takes a page as it comes; so it runs past its window just as far as a page runs past its limit
(`Walk.Filled`).  Records past the window are remembered and handed out like all others; only by
index they are never asked for.  The bound is in terms of how many records too long the server's
pages are (`past_window_by_excess`): if none is, nothing is handed out past the window.
-/

namespace PagedQuery

variable {σ : Type}

/-! ## Pages that are too long -/

/-- The parameters of a request tell how many records it asks for. -/
theorem View.limit_of_params {v : View} {limit limit' offset offset' : Nat}
    (h : v.params limit offset = v.params limit' offset') : limit = limit' := by
  have htext : toString limit = toString limit' := congrArg Prod.snd (List.cons.inj h).1
  have hdigits := congrArg (fun text => Text.digits? text.toList) htext
  simpa [Nat.toList_repr, Text.digits?_decimal] using hdigits

/-- In answer to these requests the server sends no page of the view with more than `excess`
records beyond those asked for. -/
def Server.SendsWithin (server : Server σ) (v : View) (excess : Nat) : List Fetch → σ → Prop
  | [], _ => True
  | f :: fs, s =>
    (∀ limit offset records range, f = ⟨v.url, v.params limit offset⟩ →
      server.reply f s = .ok (records, range) → records.length ≤ limit + excess) ∧
    server.SendsWithin v excess fs (server.after f s)

namespace Server

variable {server : Server σ} {v : View} {excess : Nat} {s : σ}

theorem sendsWithin_cons {limit offset : Nat} {fs : List Fetch} :
    server.SendsWithin v excess (⟨v.url, v.params limit offset⟩ :: fs) s ↔
      (∀ records range, server.reply ⟨v.url, v.params limit offset⟩ s = .ok (records, range) →
        records.length ≤ limit + excess) ∧
      server.SendsWithin v excess fs (server.after ⟨v.url, v.params limit offset⟩ s) := by
  refine and_congr ⟨fun h records range => h limit offset records range rfl, ?_⟩ Iff.rfl
  intro h limit' offset' records range hf
  rw [← View.limit_of_params (Fetch.mk.inj hf).2]
  exact h records range

theorem sendsWithin_append {fs gs : List Fetch} :
    server.SendsWithin v excess (fs ++ gs) s ↔
      server.SendsWithin v excess fs s ∧
        server.SendsWithin v excess gs (server.afterAll fs s) := by
  induction fs generalizing s with
  | nil => simp [SendsWithin, afterAll]
  | cons f fs ih =>
    rw [List.cons_append, SendsWithin, SendsWithin, ih, and_assoc]
    rfl

end Server

namespace Walk

/-! ## One call -/

@[simp] theorem received_withPending (w : Walk) (rest : List Json) :
    (w.withPending rest).received = w.received := by
  obtain ⟨url, phase, nextOffset, received⟩ := w
  cases phase <;> rfl

@[simp] theorem received_receiveNone (w : Walk) (range : Option ContentRange) (ch : Channel σ) :
    (w.receiveNone range ch).1.received = w.received := by
  unfold receiveNone
  split <;> rfl

/-- The walk has made some requests from the channel `before` on and has received what they have
brought: no more records than the window has positions, but for those that a page was too long
by. -/
structure Filled (v : View) (window : Window) (server : Server σ) (before : Channel σ)
    (requests : List Fetch) (w : Walk) (ch : Channel σ) : Prop where
  onPages : ∃ pages received, w.At v pages received
  follows : ch.Follows server before requests
  received : w.received =
    (receivedPages (server.replies requests before.session.state)).flatten.length
  within : ∀ excess, server.SendsWithin v excess requests before.session.state →
    w.received ≤ window.length + excess

namespace Filled

variable {v : View} {window : Window} {server : Server σ} {before ch : Channel σ}
  {requests : List Fetch} {w : Walk}

theorem start (v : View) (window : Window) (server : Server σ) (ch : Channel σ) :
    Filled v window server ch [] (Walk.start v ch.memo) ch where
  onPages := ⟨0, 0, at_start v ch.memo⟩
  follows := .refl server ch
  received := rfl
  within _ _ := Nat.zero_le _

/-- Only a page adds to what has been received, and it was asked for within the window. -/
theorem move {result : Except ClientError (Option Json) × Walk × Channel σ} (hv : v.IsFramed)
    (hw : v.window = some window) (h : Filled v window server before requests w ch)
    (hmove : Move v server w ch result) :
    ∃ requests', Filled v window server before requests' result.2.1 result.2.2 := by
  have honPages := hmove.exists_at h.onPages
  cases hmove with
  | hand =>
    exact ⟨requests, honPages, h.follows, by simpa using h.received, by simpa using h.within⟩
  | ended => exact ⟨requests, honPages, h.follows, h.received, h.within⟩
  | close => exact ⟨requests, honPages, h.follows.congr rfl rfl rfl, h.received, h.within⟩
  | @fail limit e _ _ hreply =>
    refine ⟨_, honPages, follows_opening h.follows w (w.request v limit), ?_,
      fun excess hsends => ?_⟩
    · rw [h.follows.replies_concat, hreply, receivedPages_concat_error]
      exact h.received
    · exact h.within excess (Server.sendsWithin_append.mp hsends).1
  | @empty limit range _ _ hreply =>
    have hfollows := follows_opening h.follows w (w.request v limit)
    refine ⟨_, honPages, hfollows.congr (by simp) (by simp) (by simp), ?_,
      fun excess hsends => ?_⟩
    · rw [h.follows.replies_concat, hreply, receivedPages_concat_ok, List.flatten_concat,
        List.append_nil]
      simpa using h.received
    · simpa using h.within excess (Server.sendsWithin_append.mp hsends).1
  | @page limit record rest range _ hlimit hreply =>
    have hfollows := follows_opening h.follows w (w.request v limit)
    refine ⟨_, honPages, hfollows.congr rfl rfl rfl, ?_, fun excess hsends => ?_⟩
    · rw [h.follows.replies_concat, hreply, receivedPages_concat_ok, List.flatten_concat,
        List.length_append, ← h.received]
      rfl
    · obtain ⟨pages, received, hat⟩ := h.onPages
      have hmissing := (hat.mayAsk hv hlimit).within window hw
      have hoffset := hat.nextOffset_of_window hv hw (Nat.le_of_lt hmissing.1)
      have hlast := (Server.sendsWithin_append.mp hsends).2
      rw [← h.follows.state, request, hat.url, Server.sendsWithin_cons] at hlast
      rw [request, hat.url] at hreply
      have hpage := hlast.1 _ _ hreply
      have hstart := hv.start_eq window hw
      have hlength : window.length = window.stop - window.start := rfl
      simp only [receive]
      omega

theorem take (hv : v.IsFramed) (hw : v.window = some window) (n : Nat)
    (h : Filled v window server before requests w ch) :
    ∃ requests', Filled v window server before requests' (Walk.take v server n w ch).walk
      (Walk.take v server n w ch).channel := by
  induction n generalizing requests w ch with
  | zero => exact ⟨requests, h⟩
  | succ n ih =>
    obtain ⟨requests', hnext⟩ := h.move hv hw (move_next v server w ch)
    rw [Walk.take]
    generalize w.next v server ch = result at hnext
    obtain ⟨e | _ | record, w', ch'⟩ := result
    · exact ⟨requests', hnext⟩
    · exact ⟨requests', hnext⟩
    · exact ih hnext

end Filled

end Walk

/-! ## Some operations -/

section Operations

variable {v : View} {window : Window} {server : Server σ} {before ch : Channel σ}
  {requests : List Fetch}

/-- There are no more than so many records remembered. -/
def Memo.HasAtMost (memo : Memo) (n : Nat) : Prop :=
  ∀ records ∈ memo.records, records.length ≤ n

/-- A walk hands out and remembers what it has received, or else what was remembered before. -/
theorem Walk.exists_follows (hv : v.IsFramed) (hw : v.window = some window) (server : Server σ)
    (n : Nat) (ch : Channel σ) :
    let taken := take v server n (start v ch.memo) ch
    ∃ requests, taken.channel.Follows server ch requests ∧
      ∀ excess, server.SendsWithin v excess requests ch.session.state →
        ch.memo.HasAtMost (window.length + excess) →
        taken.records.length ≤ window.length + excess ∧
          taken.channel.memo.HasAtMost (window.length + excess) := by
  intro taken
  cases hknown : ch.memo.materialized? with
  | some known =>
    have hphase : (start v ch.memo).phase = .replaying known := by rw [start, hknown]
    obtain ⟨hrecords, -, hchannel⟩ := take_of_replaying v server n hphase ch
    have hheld := (Memo.materialized?_eq_some_iff.mp hknown).2
    refine ⟨[], hchannel ▸ .refl server ch, fun excess _ hmost => ⟨?_, hchannel ▸ hmost⟩⟩
    calc taken.records.length
        = min n known.length := by rw [hrecords, List.length_take, List.length_map]
      _ ≤ known.length := Nat.min_le_right _ _
      _ ≤ window.length + excess := hmost known hheld
  | none =>
    obtain ⟨requests, handed, hhanded, htrace⟩ := exists_trace v server n hknown
    obtain ⟨asked, hfilled⟩ := (Filled.start v window server ch).take hv hw n
    have hasked : asked = requests :=
      List.append_cancel_left (hfilled.follows.fetches.symm.trans htrace.follows.fetches)
    rw [hasked] at hfilled
    refine ⟨requests, htrace.follows, fun excess hsends hmost => ?_⟩
    have hreceived := hfilled.within excess hsends
    rw [hfilled.received] at hreceived
    constructor
    · have hlength := congrArg List.length htrace.handed
      rw [List.length_append] at hlength
      rw [hhanded, List.length_map]
      omega
    · intro records hrecords
      rw [htrace.records, rememberedPages] at hrecords
      split at hrecords
      · exact hmost records hrecords
      · rw [← Option.some.inj hrecords]
        exact hreceived

/-- The channel has become of `before` by some requests, and remembers no more records than the
window has positions, but for those that a page was too long by. -/
structure Channel.FitsWindow (ch : Channel σ) (v : View) (window : Window) (server : Server σ)
    (before : Channel σ) (requests : List Fetch) : Prop where
  follows : ch.Follows server before requests
  within : ∀ excess, server.SendsWithin v excess requests before.session.state →
    ch.memo.HasAtMost (window.length + excess)

theorem Channel.FitsWindow.run (hv : v.IsFramed) (hw : v.window = some window)
    (h : ch.FitsWindow v window server before requests) (op : Operation) :
    ∃ requests', (op.run v server ch).2.FitsWindow v window server before requests' := by
  cases hcalls : op.calls? with
  | some n =>
    obtain ⟨more, hfollows, hmore⟩ := Walk.exists_follows hv hw server n ch
    refine ⟨requests ++ more, ?_⟩
    rw [Operation.channel_of_walk hcalls]
    refine ⟨h.follows.trans hfollows, fun excess hsends => ?_⟩
    obtain ⟨hbefore, hafter⟩ := Server.sendsWithin_append.mp hsends
    rw [← h.follows.state] at hafter
    exact (hmore excess hafter (h.within excess hbefore)).2
  | none =>
    have hlook := Operation.looksUp_run hcalls v server ch
    generalize op.run v server ch = result at hlook ⊢
    cases hlook with
    | known => exact ⟨requests, h⟩
    | @asked answer limit offset _ _ =>
      refine ⟨_, h.follows.asking ⟨v.url, v.params limit offset⟩, fun excess hsends => ?_⟩
      rw [Memo.HasAtMost, Channel.records_asking]
      exact h.within excess (Server.sendsWithin_append.mp hsends).1

theorem View.exists_fitsWindow (hv : v.IsFramed) (hw : v.window = some window)
    (server : Server σ) (session : Session σ) (ops : List Operation) :
    ∃ requests, (v.channelAfter server ops ⟨.blank, session⟩).FitsWindow v window server
      ⟨.blank, session⟩ requests := by
  refine channelAfter_preserves
    (P := fun ch => ∃ requests, ch.FitsWindow v window server ⟨.blank, session⟩ requests) ?_
    ⟨[], .refl server _, nofun⟩
  rintro op _ ch ⟨requests, h⟩
  exact h.run hv hw op

/-- Past a window only memory is looked at. -/
theorem View.get_past_window (hw : v.window = some window) {index : Nat}
    (hindex : window.length ≤ index) (server : Server σ) (ch : Channel σ) :
    v.get server index ch = (.ok ((ch.memo.records.bind (·[index]?)).map v.shape), ch) := by
  cases hrecord : ch.memo.records.bind (·[index]?) with
  | some record => exact get_of_some hrecord
  | none =>
    refine get_of_past hrecord ?_
    rw [isPast, hw, Option.any_some, decide_eq_true hindex, Bool.true_or]

theorem Memo.HasAtMost.bind_getElem? {memo : Memo} {n index : Nat} (h : memo.HasAtMost n)
    (hindex : n ≤ index) : memo.records.bind (·[index]?) = none := by
  cases hrecords : memo.records with
  | none => rfl
  | some records => exact List.getElem?_eq_none (Nat.le_trans (h records hrecords) hindex)

end Operations

/-- A bounded view hands out records past its window as far as the server sends pages longer than
asked for, and no further: a walk no more than the window has positions and the longest excess, a
get at an index past these nothing.  By a server that keeps to the limits nothing is handed out
past the window.  A get past the window makes no request in any case; what it finds there is what
a walk has left in memory. -/
theorem past_window_by_excess (v : View) (hv : v.Built) (window : Window)
    (hw : v.window = some window) (server : Server σ) (session : Session σ)
    (ops : List Operation) :
    let ch := v.channelAfter server ops ⟨.blank, session⟩
    (∀ index ≥ window.length,
      v.get server index ch = (.ok ((ch.memo.records.bind (·[index]?)).map v.shape), ch)) ∧
    ∀ n, ∃ requests,
      (Walk.take v server n (Walk.start v ch.memo) ch).channel.session.fetches =
        session.fetches ++ requests ∧
      ∀ excess, server.SendsWithin v excess requests session.state →
        (Walk.take v server n (Walk.start v ch.memo) ch).records.length ≤
          window.length + excess ∧
        ∀ index ≥ window.length + excess, v.get server index ch = (.ok none, ch) := by
  intro ch
  obtain ⟨asked, hfits⟩ := View.exists_fitsWindow hv.isFramed hw server session ops
  refine ⟨fun index hindex => View.get_past_window hw hindex server ch, fun n => ?_⟩
  obtain ⟨more, hfollows, hmore⟩ := Walk.exists_follows hv.isFramed hw server n ch
  refine ⟨asked ++ more, (hfits.follows.trans hfollows).fetches, fun excess hsends => ?_⟩
  obtain ⟨hbefore, hafter⟩ := Server.sendsWithin_append.mp hsends
  rw [← hfits.follows.state] at hafter
  have hmost := hfits.within excess hbefore
  refine ⟨(hmore excess hafter hmost).1, fun index hindex => ?_⟩
  rw [View.get_past_window hw (by omega), hmost.bind_getElem? hindex]
  rfl

/-- A window of two positions, from a server whose one page is a record too long: what is collected
is handed out by every later walk. -/
theorem past_window_by_excess_script :
    let v := { View.ofPath "items" with pageSize := 2, window := some ⟨0, 2⟩ }
    let script : Script := [.ok ⟨[.int 7, .int 8, .int 9], none⟩]
    let server := Script.server none
    let ch := v.channelAfter server [.collect 5] ⟨.blank, Session.start script⟩
    (View.ofPath "items").slice (.included 0) (.excluded 2) = .ok v ∧
      server.SendsWithin v 1 [⟨"items", v.params 2 0⟩] script ∧
      (Walk.take v server 9 (Walk.start v ch.memo) ch).records.length ≤ 3 ∧
      v.get server 3 ch = (.ok none, ch) := by
  intro v script server ch
  have hslice : (View.ofPath "items").slice (.included 0) (.excluded 2) = .ok v := rfl
  have hbuilt : v.Built := .step (.ofPath "items") (.slice hslice)
  have hsends : server.SendsWithin v 1 [⟨"items", v.params 2 0⟩] script := by
    refine Server.sendsWithin_cons.mpr ⟨?_, trivial⟩
    rintro records range ⟨⟩
    decide
  obtain ⟨-, hwalk⟩ :=
    past_window_by_excess v hbuilt ⟨0, 2⟩ rfl server (Session.start script) [.collect 5]
  obtain ⟨requests, hfetches, hexcess⟩ := hwalk 9
  have hrequests : requests = [⟨"items", v.params 2 0⟩] := hfetches.symm
  rw [hrequests] at hexcess
  obtain ⟨hrecords, hget⟩ := hexcess 1 hsends
  exact ⟨hslice, hsends, hrecords, hget 3 (by decide)⟩

/-- A window of two positions is no bound on what is handed out: all three records of the page are
collected, and the last of them is found at an index past the window. -/
theorem hands_out_past_window :
    let window : Window := ⟨0, 2⟩
    let v := { View.ofPath "items" with pageSize := 2, window := some window }
    let session := Session.start [.ok ⟨[.int 7, .int 8, .int 9], none⟩]
    let (collected, ch) := v.collect (Script.server none) 5 ⟨.blank, session⟩
    (View.ofPath "items").slice (.included 0) (.excluded 2) = .ok v ∧
      collected = some (.ok [.int 7, .int 8, .int 9]) ∧ window.length = 2 ∧
      v.get (Script.server none) 2 ch = (.ok (some (.int 9)), ch) :=
  ⟨rfl, rfl, rfl, rfl⟩

end PagedQuery
