import PagedQuery.Proofs.Replies
import PagedQuery.Proofs.Walk.Calls
import PagedQuery.Proofs.Walk.Move

/-!
# PagedQuery.Proofs.Walk.Trace

What a walk over pages leaves behind.  A trace keeps the requests made and the records handed
out so far, and says what memory and session are then: the records remembered are those of the
pages received, and they count as all there are just if the walk has ended at the end of the
records.  One call adds to a trace (`Trace.next`), and so do any number of calls
(`exists_trace`).
-/

namespace PagedQuery.Walk

variable {σ : Type} {v : View} {server : Server σ}

/-- Where a walk over pages stands that has made some requests from the channel `before` on, and
whether the records remembered count as all there are. -/
inductive Stands (v : View) (server : Server σ) (before : Channel σ) (requests : List Fetch)
    (w : Walk) (ch : Channel σ) : Ending → Prop
  /-- Nothing has been asked yet. -/
  | fresh (hphase : w.phase = .fresh) (hwalk : w = start v before.memo) (hchannel : ch = before)
      (hrequests : requests = []) :
    Stands v server before requests w ch .taken
  | reading {page : List Json} {range : Option ContentRange}
      (hphase : w.phase = .reading page range)
      (hpages : receivedPages (server.replies requests before.session.state) ≠ [])
      (hcomplete : ch.memo.complete = false) :
    Stands v server before requests w ch .taken
  | finished (hphase : w.phase = .done) (hcomplete : ch.memo.complete = true)
      (hempty : receivedPages (server.replies requests before.session.state) = [] →
        v.nextPage? 0 0 = none) :
    Stands v server before requests w ch .finished
  | failed {e : ClientError} (hphase : w.phase = .done) (hcomplete : ch.memo.complete = false)
      (hlast : (server.replies requests before.session.state).getLast? = some (.error e)) :
    Stands v server before requests w ch (.failed e)

/-- The requests that a walk over pages has made from the channel `before` on, and the records
it has handed out, as they were received. -/
structure Trace (v : View) (server : Server σ) (before : Channel σ) (requests : List Fetch)
    (handed : List Json) (ending : Ending) (w : Walk) (ch : Channel σ) : Prop where
  follows : ch.Follows server before requests
  /-- The first request is for the first page. -/
  first : ∀ f ∈ requests.head?, v.nextPage? 0 0 = some f
  records : ch.memo.records = rememberedPages before.memo.records
    (receivedPages (server.replies requests before.session.state))
  handed : handed ++ w.pending =
    (receivedPages (server.replies requests before.session.state)).flatten
  stands : Stands v server before requests w ch ending

variable {before : Channel σ} {requests : List Fetch} {handed : List Json} {w : Walk}
  {ch : Channel σ}

/-- A walk that is not over known records starts without a request. -/
theorem trace_start (v : View) (server : Server σ) {ch : Channel σ}
    (hfresh : ch.memo.materialized? = none) :
    Trace v server ch [] [] .taken (start v ch.memo) ch where
  follows := .refl server ch
  first := by simp
  records := rfl
  handed := by rw [pending, phase_start hfresh]; rfl
  stands := .fresh (phase_start hfresh v) rfl rfl rfl

/-- A walk's request is one request more. -/
theorem follows_opening (h : ch.Follows server before requests) (w : Walk) (f : Fetch) :
    ((w.opening ch).asking server f).Follows server before (requests ++ [f]) :=
  (h.congr (by simp) (by simp) (by simp)).asking f

namespace Trace

/-! ## One request -/

section Asking

variable {limit : Nat} (h : Trace v server before requests handed .taken w ch)

include h

/-- A walk without records at hand has handed out all it has received. -/
theorem handed_eq (hpending : w.pending = []) :
    handed = (receivedPages (server.replies requests before.session.state)).flatten := by
  have hhanded := h.handed
  rwa [hpending, List.append_nil] at hhanded

theorem follows_asking (limit : Nat) :
    ((w.opening ch).asking server (w.request v limit)).Follows server before
      (requests ++ [w.request v limit]) :=
  follows_opening h.follows w _

/-- The answer to the request is the last reading. -/
theorem replies_asking (limit : Nat) :
    server.replies (requests ++ [w.request v limit]) before.session.state =
      server.replies requests before.session.state ++
        [server.reply (w.request v limit) ch.session.state] :=
  h.follows.replies_concat _

/-- From the first request on, the records remembered do not count as all there are. -/
theorem complete_asking (limit : Nat) :
    ((w.opening ch).asking server (w.request v limit)).memo.complete = false := by
  rw [Channel.complete_asking, complete_opening]
  cases h.stands with
  | fresh hphase => rw [if_pos hphase]
  | reading hphase _ hcomplete => rw [hcomplete, ite_self]

/-- The first request of a walk is the one a sweep begins with. -/
theorem nextPage?_of_nil (hnil : requests = []) :
    (w.nextLimit? v).map (w.request v) = v.nextPage? 0 0 := by
  cases h.stands with
  | fresh hphase hwalk =>
    rw [hwalk] at hphase ⊢
    exact (at_start v before.memo).nextPage? (by rw [isClosed, hphase])
  | reading _ hpages =>
    rw [hnil] at hpages
    exact absurd rfl hpages

theorem first_asking (hlimit : w.nextLimit? v = some limit) :
    ∀ f ∈ (requests ++ [w.request v limit]).head?, v.nextPage? 0 0 = some f := by
  cases hrequests : requests with
  | nil =>
    rintro f ⟨⟩
    rw [← h.nextPage?_of_nil hrequests, hlimit]
    rfl
  | cons g rest =>
    have hfirst := h.first
    rwa [hrequests] at hfirst

end Asking

/-! ## One call -/

section Moves

variable {limit : Nat} (h : Trace v server before requests handed .taken w ch)

include h

theorem hand {record : Json} {rest : List Json} (hpending : w.pending = record :: rest) :
    Trace v server before requests (handed ++ [record]) .taken (w.withPending rest) ch where
  follows := h.follows
  first := h.first
  records := h.records
  handed := by
    rw [pending_withPending (by simp [hpending]), ← h.handed, hpending, List.append_assoc]
    rfl
  stands := by
    cases h.stands with
    | fresh hphase => rw [pending, hphase] at hpending; contradiction
    | reading hphase hpages hcomplete =>
      exact .reading (by rw [withPending, hphase]) hpages hcomplete

theorem close (hpending : w.pending = []) (hlimit : w.nextLimit? v = none) :
    Trace v server before requests handed .finished (w.finish ch).1 (w.finish ch).2 where
  follows := h.follows.congr rfl rfl rfl
  first := h.first
  records := h.records
  handed := by rw [← h.handed_eq hpending]; exact List.append_nil _
  stands := by
    refine .finished rfl rfl fun hnil => ?_
    cases h.stands with
    | fresh _ _ _ hrequests => rw [← h.nextPage?_of_nil hrequests, hlimit]; rfl
    | reading _ hpages => exact absurd hnil hpages

variable (hpending : w.pending = []) (hlimit : w.nextLimit? v = some limit)

include hpending hlimit

theorem fail {e : ClientError}
    (hreply : server.reply (w.request v limit) ch.session.state = .error e) :
    Trace v server before (requests ++ [w.request v limit]) handed (.failed e)
      { w with phase := .done } ((w.opening ch).asking server (w.request v limit)) where
  follows := h.follows_asking limit
  first := h.first_asking hlimit
  records := by
    rw [h.replies_asking, hreply, receivedPages_concat_error, ← h.records]
    simp
  handed := by
    rw [h.replies_asking, hreply, receivedPages_concat_error, ← h.handed_eq hpending]
    exact List.append_nil _
  stands := .failed rfl (h.complete_asking limit) (by rw [h.replies_asking, hreply]; simp)

theorem empty {range : Option ContentRange}
    (hreply : server.reply (w.request v limit) ch.session.state = .ok ([], range)) :
    let p := w.receiveNone range ((w.opening ch).asking server (w.request v limit))
    Trace v server before (requests ++ [w.request v limit]) handed .finished p.1 p.2 where
  follows := (h.follows_asking limit).congr (by simp) (by simp) (by simp)
  first := h.first_asking hlimit
  records := by
    rw [h.replies_asking, hreply, receivedPages_concat_ok, rememberedPages_concat,
      ← h.handed_eq hpending, records_receiveNone, Channel.records_asking, records_opening,
      List.append_nil]
    cases h.stands with
    | fresh hphase _ _ hrequests =>
      have hhanded := h.handed_eq hpending
      rw [hrequests] at hhanded
      rw [if_pos hphase, hhanded]
      rfl
    | reading hphase hpages =>
      rw [if_neg (by simp [hphase]), h.records, rememberedPages, if_neg hpages,
        h.handed_eq hpending]
  handed := by
    rw [h.replies_asking, hreply, receivedPages_concat_ok, pending_of_done (by simp),
      h.handed_eq hpending, List.flatten_append]
    rfl
  stands := .finished (by simp) (by simp) fun hnil => by
    rw [h.replies_asking, hreply, receivedPages_concat_ok] at hnil
    simp at hnil

theorem page {record : Json} {rest : List Json} {range : Option ContentRange}
    (hreply : server.reply (w.request v limit) ch.session.state = .ok (record :: rest, range)) :
    let p := w.receive v record rest range ((w.opening ch).asking server (w.request v limit))
    Trace v server before (requests ++ [w.request v limit]) (handed ++ [record]) .taken p.1
      p.2 where
  follows := (h.follows_asking limit).congr rfl rfl rfl
  first := h.first_asking hlimit
  records := by
    have hknown : (if w.phase = .fresh then [] else ch.memo.records.getD []) = handed := by
      rw [h.handed_eq hpending]
      cases h.stands with
      | fresh hphase _ _ hrequests => rw [if_pos hphase, hrequests]; rfl
      | reading hphase hpages =>
        rw [if_neg (by simp [hphase]), h.records, rememberedPages, if_neg hpages]
        rfl
    rw [h.replies_asking, hreply, receivedPages_concat_ok, rememberedPages_concat,
      ← h.handed_eq hpending, ← hknown]
    simp [receive]
  handed := by
    rw [h.replies_asking, hreply, receivedPages_concat_ok, List.flatten_append,
      ← h.handed_eq hpending, List.flatten_singleton, List.append_assoc]
    rfl
  stands := .reading rfl (by rw [h.replies_asking, hreply, receivedPages_concat_ok]; simp)
    (h.complete_asking limit)

end Moves

/-- A call on a walk that is under way hands out a record, or ends the walk. -/
theorem next (h : Trace v server before requests handed .taken w ch) :
    (∃ requests' record, (w.next v server ch).1 = .ok (some (v.shape record)) ∧
      Trace v server before requests' (handed ++ [record]) .taken (w.next v server ch).2.1
        (w.next v server ch).2.2) ∨
    ∃ requests' ending, ending ≠ .taken ∧ (w.next v server ch).1 = ending.answer ∧
      Trace v server before requests' handed ending (w.next v server ch).2.1
        (w.next v server ch).2.2 := by
  have hmove := move_next v server w ch
  generalize w.next v server ch = result at hmove ⊢
  cases hmove with
  | hand hpending => exact .inl ⟨_, _, rfl, h.hand hpending⟩
  | ended hphase =>
    cases h.stands with
    | fresh hfresh => rw [hfresh] at hphase; simp at hphase
    | reading hreading => rw [hreading] at hphase; simp at hphase
  | close hwaiting hlimit =>
    exact .inr ⟨_, .finished, by simp, rfl, h.close (pending_of_isWaiting hwaiting) hlimit⟩
  | fail hwaiting hlimit hreply =>
    exact .inr ⟨_, .failed _, by simp, rfl, h.fail (pending_of_isWaiting hwaiting) hlimit hreply⟩
  | empty hwaiting hlimit hreply =>
    exact .inr ⟨_, .finished, by simp, rfl, h.empty (pending_of_isWaiting hwaiting) hlimit hreply⟩
  | page hwaiting hlimit hreply =>
    exact .inl ⟨_, _, rfl, h.page (pending_of_isWaiting hwaiting) hlimit hreply⟩

/-! ## Some calls -/

/-- Any number of calls add to the requests made and to the records handed out. -/
theorem take (n : Nat) (h : Trace v server before requests handed .taken w ch) :
    ∃ requests' more, (Walk.take v server n w ch).records = more.map v.shape ∧
      Trace v server before requests' (handed ++ more) (Walk.take v server n w ch).ending
        (Walk.take v server n w ch).walk (Walk.take v server n w ch).channel := by
  induction n generalizing requests handed w ch with
  | zero => exact ⟨requests, [], rfl, by rw [List.append_nil]; exact h⟩
  | succ n ih =>
    rw [Walk.take]
    obtain ⟨requests', record, hanswer, hnext⟩ | ⟨requests', ending, hending, hanswer, hnext⟩ :=
      h.next
    · generalize w.next v server ch = result at hanswer hnext ⊢
      obtain ⟨answer, w', ch'⟩ := result
      cases hanswer
      obtain ⟨requests'', more, hrecords, htrace⟩ := ih hnext
      refine ⟨requests'', record :: more, ?_, ?_⟩
      · simp only [hrecords, List.map_cons]
      · rw [List.append_cons]
        exact htrace
    · generalize w.next v server ch = result at hanswer hnext ⊢
      obtain ⟨answer, w', ch'⟩ := result
      refine ⟨requests', [], ?_⟩
      rw [List.append_nil]
      cases ending with
      | taken => contradiction
      | finished => cases hanswer; exact ⟨rfl, hnext⟩
      | failed e => cases hanswer; exact ⟨rfl, hnext⟩

end Trace

/-- Whatever is remembered first, the calls of a walk over pages have a trace. -/
theorem exists_trace (v : View) (server : Server σ) (n : Nat) {ch : Channel σ}
    (hfresh : ch.memo.materialized? = none) :
    ∃ requests handed, (take v server n (start v ch.memo) ch).records = handed.map v.shape ∧
      Trace v server ch requests handed (take v server n (start v ch.memo) ch).ending
        (take v server n (start v ch.memo) ch).walk
        (take v server n (start v ch.memo) ch).channel :=
  (trace_start v server hfresh).take n

end PagedQuery.Walk
