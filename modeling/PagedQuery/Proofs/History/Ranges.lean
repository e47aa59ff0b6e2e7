import PagedQuery.Proofs.History.Replay

/-!
# PagedQuery.Proofs.History.Ranges

The range remembered of a view.  Whatever is read through the view, it does nothing to the range
but what its requests do (`Operation.exists_follows`), and of the answers to these only those count
that carry a range which can be read (`receivedRanges_replies`).  So the range is that of the
latest such answer, and a count is made from it (`range_is_latest`).
-/

namespace PagedQuery

variable {σ : Type} {v : View} {server : Server σ} {ch : Channel σ}

/-! ## Answers -/

/-- The range that an answer carries: it is a page, its header is there and can be read. -/
def carriedRange? : Except ClientError Page → Option ContentRange
  | .ok page => page.contentRange.bind ContentRange.ofText?
  | .error _ => none

namespace Server

/-- The answers to some requests, the first of them made when the server is in state `s`. -/
def answers (server : Server σ) : List Fetch → σ → List (Except ClientError Page)
  | [], _ => []
  | f :: fs, s => (server.fetch f s).1 :: server.answers fs (server.after f s)

/-- The ranges that the answers to some requests carry, in order. -/
def carriedRanges (server : Server σ) (fs : List Fetch) (s : σ) : List ContentRange :=
  (server.answers fs s).filterMap carriedRange?

theorem rangeOf_reply (server : Server σ) (f : Fetch) (s : σ) :
    rangeOf (server.reply f s) = carriedRange? (server.fetch f s).1 := by
  rw [reply]
  cases (server.fetch f s).1 with
  | error e => rfl
  | ok page =>
    obtain ⟨records, header⟩ := page
    cases header with
    | none => rfl
    | some header =>
      simp only [Except.bind, Page.read, carriedRange?, Option.bind_some]
      cases ContentRange.ofText? header <;> rfl

/-- Answers without a range that can be read bring no range. -/
theorem receivedRanges_replies (server : Server σ) (fs : List Fetch) (s : σ) :
    receivedRanges (server.replies fs s) = server.carriedRanges fs s := by
  induction fs generalizing s with
  | nil => rfl
  | cons f fs ih =>
    have hrest := ih (server.after f s)
    rw [receivedRanges, carriedRanges] at hrest ⊢
    rw [replies, answers, List.filterMap_cons, List.filterMap_cons, rangeOf_reply, hrest]

end Server

/-! ## Operations -/

/-- An operation changes session and range by requests only. -/
theorem Operation.exists_follows (op : Operation) (v : View) (server : Server σ)
    (ch : Channel σ) : ∃ requests, (op.run v server ch).2.Follows server ch requests := by
  cases hcalls : op.calls? with
  | some n =>
    rw [channel_of_walk hcalls]
    cases hknown : ch.memo.materialized? with
    | some known =>
      have hsettled : Settled v ch.memo (known.map v.shape) := .held hknown rfl
      obtain ⟨-, -, hchannel⟩ := hsettled.take server n
      rw [hchannel]
      exact ⟨[], .refl server ch⟩
    | none =>
      obtain ⟨requests, _, -, htrace⟩ := Walk.exists_trace v server n hknown
      exact ⟨requests, htrace.follows⟩
  | none =>
    have hlook := looksUp_run hcalls v server ch
    generalize op.run v server ch = result at hlook ⊢
    cases hlook with
    | known => exact ⟨[], .refl server ch⟩
    | asked => exact ⟨[_], Channel.Follows.asking (.refl server ch) _⟩

/-- So do some operations, one after the other. -/
theorem View.exists_follows (v : View) (server : Server σ) (ops : List Operation)
    (ch : Channel σ) : ∃ requests, (v.channelAfter server ops ch).Follows server ch requests := by
  refine channelAfter_preserves (P := fun after => ∃ requests, after.Follows server ch requests)
    (fun op _ before hbefore => ?_) ⟨[], .refl server ch⟩
  obtain ⟨requests, hfollows⟩ := hbefore
  obtain ⟨more, hmore⟩ := op.exists_follows v server before
  exact ⟨requests ++ more, hfollows.trans hmore⟩

/-! ## Counts -/

/-- A count does not touch the records remembered. -/
theorem View.records_count (v : View) (server : Server σ) (ch : Channel σ) :
    (v.count server ch).2.memo.records = ch.memo.records ∧
      (v.count server ch).2.memo.complete = ch.memo.complete := by
  cases hrange : ch.memo.range with
  | some range => rw [count_of_some hrange]; exact ⟨rfl, rfl⟩
  | none => rw [count_of_none hrange]; exact ⟨by simp, by simp⟩

/-- What a count tells is the count of the range that is remembered by then. -/
theorem View.count_eq_ok {answer : Option Nat} (h : (v.count server ch).1 = .ok answer) :
    answer = (v.count server ch).2.memo.range.map fun range => range.count.toNat := by
  cases hrange : ch.memo.range with
  | some range =>
    rw [count_of_some hrange] at h ⊢
    rw [hrange]
    exact (Except.ok.inj h).symm
  | none =>
    rw [count_of_none hrange] at h ⊢
    rw [Channel.asking, Memo.range_noting, hrange, Option.or_none]
    cases hreply : server.reply ⟨v.url, v.params 0 v.offset⟩ ch.session.state with
    | error e => rw [hreply] at h; contradiction
    | ok page =>
      rw [hreply] at h
      exact (Except.ok.inj h).symm

/-- The range remembered of a view, after any operations on it from the start, is the one that the
latest of all answers to it carried that carried one at all: answers without a header, with a
header that cannot be read, and errors leave it as it is.  The same holds of each further
operation, a walk being left after any number of calls.  If there is a range, a count is its count
and asks for nothing; else exactly one request is made, for no records at the offset of the view,
and the count is that of the range there is then.  A count does not change the records
remembered. -/
theorem range_is_latest (v : View) (server : Server σ) (session : Session σ)
    (ops : List Operation) :
    let ch := v.channelAfter server ops ⟨.blank, session⟩
    (∃ requests, ch.session.fetches = session.fetches ++ requests ∧
      ch.memo.range = (server.carriedRanges requests session.state).getLast?) ∧
    (∀ op : Operation, ∃ requests,
      (op.run v server ch).2.session.fetches = ch.session.fetches ++ requests ∧
      (op.run v server ch).2.memo.range =
        (server.carriedRanges requests ch.session.state).getLast?.or ch.memo.range) ∧
    (∀ range, ch.memo.range = some range →
      v.count server ch = (.ok (some range.count.toNat), ch)) ∧
    (ch.memo.range = none → (v.count server ch).2.session.fetches =
      ch.session.fetches ++ [⟨v.url, v.params 0 v.offset⟩]) ∧
    (∀ answer, (v.count server ch).1 = .ok answer →
      answer = (v.count server ch).2.memo.range.map fun range => range.count.toNat) ∧
    (v.count server ch).2.memo.records = ch.memo.records ∧
    (v.count server ch).2.memo.complete = ch.memo.complete := by
  intro ch
  refine ⟨?_, fun op => ?_, fun range => View.count_of_some, fun hnone => ?_,
    fun answer => View.count_eq_ok, View.records_count v server ch⟩
  · obtain ⟨requests, hfollows⟩ := v.exists_follows server ops ⟨.blank, session⟩
    refine ⟨requests, hfollows.fetches, ?_⟩
    rw [hfollows.range, Server.receivedRanges_replies]
    exact Option.or_none
  · obtain ⟨requests, hfollows⟩ := op.exists_follows v server ch
    refine ⟨requests, hfollows.fetches, ?_⟩
    rw [hfollows.range, Server.receivedRanges_replies]
    rfl
  · rw [View.count_of_none hnone, Channel.fetches_asking]

/-- A page with a range; then a page without one, a header that cannot be read, and an error. -/
theorem range_is_latest_script :
    let v := { View.ofPath "items" with pageSize := 1 }
    let script : Script :=
      [.ok ⟨[.int 1], some "items 0-0/9"⟩, .ok ⟨[.int 2], none⟩, .ok ⟨[.int 3], some "items 2-2"⟩,
        .error (.remote 503 "unavailable")]
    let server := Script.server none
    let fresh : Channel Script := ⟨.blank, Session.start script⟩
    let ch := v.channelAfter server [.walk 3, .get 5] fresh
    ch.session.state = [] ∧
      ch.memo = ⟨some [.int 1, .int 2], false, some ⟨0, 0, 9⟩⟩ ∧
      v.count server ch = (.ok (some 9), ch) ∧
      (v.count server fresh).2.session.fetches =
        [⟨"items", [("limit", "0"), ("offset", "0")]⟩] := by
  intro v script server fresh ch
  obtain ⟨-, -, hknown, -⟩ :=
    range_is_latest v server (Session.start script) [.walk 3, .get 5]
  obtain ⟨-, -, -, hunknown, -⟩ := range_is_latest v server (Session.start script) []
  have hmemo : ch.memo = ⟨some [.int 1, .int 2], false, some ⟨0, 0, 9⟩⟩ := rfl
  have hparams : v.params 0 v.offset = [("limit", "0"), ("offset", "0")] := by decide
  rw [hparams] at hunknown
  exact ⟨rfl, hmemo, hknown ⟨0, 0, 9⟩ (by rw [hmemo]), hunknown rfl⟩

end PagedQuery
