import PagedQuery.Proofs.View.Operation
import PagedQuery.Proofs.Walk.Trace
import PagedQuery.Server.Script

/-!
# PagedQuery.Proofs.History.Replay

Once all records of a view have been collected, its answers stand.  The memory is then settled:
it holds all records, or the window of the view is empty and there is nothing to hold.  No
operation unsettles it (`Settled.run`), and from a settled memory everything but a count is
answered without a request (`collected_answers_stand`).
-/

namespace PagedQuery

variable {σ : Type}

/-- The memory knows that the records of the view are `rs`: it holds them all, or the view has no
page to ask for. -/
inductive Settled (v : View) (memo : Memo) (rs : List Json) : Prop
  | held {known : List Json} (hknown : memo.materialized? = some known)
      (hshape : known.map v.shape = rs)
  | pageless (hpage : v.nextPage? 0 0 = none) (hrecords : memo.records = none)
      (hcomplete : memo.complete = true) (hnil : rs = [])

/-! ## Walks that ask for nothing -/

namespace Walk

/-- A walk over known records hands them out and changes nothing. -/
theorem take_of_replaying (v : View) (server : Server σ) (n : Nat) {w : Walk}
    {known : List Json} (h : w.phase = .replaying known) (ch : Channel σ) :
    (take v server n w ch).records = (known.map v.shape).take n ∧
      (take v server n w ch).ending = (if n ≤ known.length then .taken else .finished) ∧
      (take v server n w ch).channel = ch := by
  induction n generalizing w known with
  | zero => exact ⟨rfl, rfl, rfl⟩
  | succ n ih =>
    cases known with
    | nil =>
      have hnext : w.next v server ch = (.ok none, { w with phase := .done }, ch) := by
        simp only [next, h]
      rw [take, hnext]
      exact ⟨rfl, rfl, rfl⟩
    | cons record rest =>
      have hnext : w.next v server ch =
          (.ok (some (v.shape record)), { w with phase := .replaying rest }, ch) := by
        simp only [next, h]
      obtain ⟨hrecords, hending, hchannel⟩ := ih (w := { w with phase := .replaying rest }) rfl
      rw [take, hnext]
      refine ⟨?_, ?_, hchannel⟩
      · simp only [hrecords, List.map_cons, List.take_succ_cons]
      · simp only [hending, List.length_cons, Nat.add_le_add_iff_right]

/-- A walk of a view without a page to ask for ends with its first call. -/
theorem take_of_pageless (v : View) (server : Server σ) (n : Nat) {ch : Channel σ}
    (hpage : v.nextPage? 0 0 = none) (hrecords : ch.memo.records = none)
    (hcomplete : ch.memo.complete = true) :
    (take v server n (start v ch.memo) ch).records = [] ∧
      (take v server n (start v ch.memo) ch).ending = (if n ≤ 0 then .taken else .finished) ∧
      (take v server n (start v ch.memo) ch).channel = ch := by
  cases n with
  | zero => exact ⟨rfl, rfl, rfl⟩
  | succ n =>
    have hfresh : ch.memo.materialized? = none := by
      rw [Memo.materialized?, hrecords, ite_self]
    have hphase := phase_start hfresh v
    have hnext := next_of_open server (at_start v ch.memo) (by rw [isClosed, hphase])
      (by rw [pending, hphase]) ch
    rw [hpage] at hnext
    have hfinish : ((start v ch.memo).finish ch).2 = ch := by
      simp only [finish, ← hcomplete]
    rw [take, hnext]
    exact ⟨rfl, rfl, hfinish⟩

end Walk

namespace Settled

variable {v : View} {memo memo' : Memo} {ch : Channel σ} {rs : List Json}

/-- What is settled stays so as long as records are neither added nor doubted. -/
theorem congr (h : Settled v memo rs) (hrecords : memo'.records = memo.records)
    (hcomplete : memo'.complete = memo.complete) : Settled v memo' rs := by
  cases h with
  | held hknown hshape =>
    refine .held ?_ hshape
    rwa [Memo.materialized?, hrecords, hcomplete]
  | pageless hpage hnone hall hnil =>
    exact .pageless hpage (hrecords.trans hnone) (hcomplete.trans hall) hnil

theorem take (h : Settled v ch.memo rs) (server : Server σ) (n : Nat) :
    let taken := Walk.take v server n (Walk.start v ch.memo) ch
    taken.records = rs.take n ∧
      taken.ending = (if n ≤ rs.length then .taken else .finished) ∧ taken.channel = ch := by
  cases h with
  | @held known hknown hshape =>
    have hphase : (Walk.start v ch.memo).phase = .replaying known := by rw [Walk.start, hknown]
    rw [← hshape, List.length_map]
    exact Walk.take_of_replaying v server n hphase ch
  | pageless hpage hrecords hcomplete hnil =>
    rw [hnil, List.take_nil]
    exact Walk.take_of_pageless v server n hpage hrecords hcomplete

theorem get (h : Settled v ch.memo rs) (server : Server σ) (index : Nat) :
    v.get server index ch = (.ok rs[index]?, ch) := by
  cases h with
  | @held known hknown hshape =>
    have hrecords := (Memo.materialized?_eq_some_iff.mp hknown).2
    rw [← hshape, List.getElem?_map]
    cases hrecord : known[index]? with
    | some record => exact View.get_of_some (by rw [hrecords, Option.bind_some, hrecord])
    | none =>
      exact View.get_of_past (by rw [hrecords, Option.bind_some, hrecord])
        (by rw [View.isPast, hknown, Option.isSome_some, Bool.or_true])
  | pageless hpage hrecords hcomplete hnil =>
    obtain ⟨w, hw, hlength⟩ := View.nextPage?_eq_none_iff.mp hpage
    have hpast : v.isPast ch.memo index = true := by
      rw [View.isPast, hw, Option.any_some, decide_eq_true (by omega), Bool.true_or]
    rw [View.get_of_past (by rw [hrecords, Option.bind_none]) hpast, hnil]
    rfl

theorem exists? (h : Settled v ch.memo rs) (server : Server σ) :
    v.exists? server ch = (.ok !rs.isEmpty, ch) := by
  have hget := h.get server 0
  cases h with
  | @held known hknown hshape =>
    obtain ⟨hcomplete, hrecords⟩ := Memo.materialized?_eq_some_iff.mp hknown
    rw [← hshape, List.isEmpty_map]
    apply View.exists?_of_some
    simp [View.knownExistence?, hrecords, hcomplete]
  | pageless hpage hrecords hcomplete hnil =>
    rw [View.exists?_of_none (by rw [View.knownExistence?, hrecords]), hget, hnil]
    rfl

/-- Everything but a count is answered from what is settled, without a request. -/
theorem run_eq (h : Settled v ch.memo rs) (server : Server σ) {op : Operation}
    (hop : op ≠ .count) (number : Option Nat) :
    op.run v server ch = (op.answerOf rs number, ch) := by
  have hwalk : ∀ n, op.calls? = some n → op.run v server ch = (op.answerOf rs number, ch) := by
    intro n hn
    obtain ⟨hrecords, hending, hchannel⟩ := h.take server n
    rw [← Operation.answer_of_walk hn hrecords hending number]
    have heq := Operation.channel_of_walk hn v server ch
    rw [hchannel] at heq
    exact Prod.ext rfl heq
  cases op with
  | count => contradiction
  | existence => rw [Operation.run, h.exists?]; rfl
  | first => rw [Operation.run, View.first, h.get]; rfl
  | get index => rw [Operation.run, h.get]; rfl
  | collect budget => exact hwalk _ rfl
  | walk calls => exact hwalk _ rfl

/-- A count leaves settled what is settled, whether it is answered or not. -/
theorem run (h : Settled v ch.memo rs) (server : Server σ) (op : Operation) :
    Settled v (op.run v server ch).2.memo rs := by
  by_cases hop : op = .count
  · have hcalls : op.calls? = none := by rw [hop]; rfl
    have hlook := Operation.looksUp_run hcalls v server ch
    generalize op.run v server ch = result at hlook ⊢
    cases hlook with
    | known => exact h
    | asked => exact h.congr (by simp) (by simp)
  · rw [h.run_eq server hop none]
    exact h

theorem channelAfter (h : Settled v ch.memo rs) (server : Server σ) (ops : List Operation) :
    Settled v (v.channelAfter server ops ch).memo rs :=
  View.channelAfter_preserves (P := fun ch => Settled v ch.memo rs)
    (fun op _ _ h => h.run server op) h

end Settled

/-! ## How memory is settled -/

/-- A view without a page to ask for never has records in memory. -/
def Memo.FitsPages (memo : Memo) (v : View) : Prop :=
  v.nextPage? 0 0 = none → memo.records = none

section Settling

variable {v : View} {server : Server σ} {ch : Channel σ}

/-- Without a page to ask for, a walk makes no request. -/
theorem Walk.Trace.requests_eq_nil {before : Channel σ} {requests : List Fetch}
    {handed : List Json} {ending : Walk.Ending} {w : Walk}
    (h : Walk.Trace v server before requests handed ending w ch) (hpage : v.nextPage? 0 0 = none) :
    requests = [] := by
  have hfirst := h.first
  cases requests with
  | nil => rfl
  | cons f rest =>
    rw [hpage] at hfirst
    exact absurd (hfirst f rfl) (by simp)

theorem Memo.FitsPages.run (h : ch.memo.FitsPages v) (server : Server σ) (op : Operation) :
    (op.run v server ch).2.memo.FitsPages v := by
  intro hpage
  cases hcalls : op.calls? with
  | some n =>
    have hnone := h hpage
    have hfresh : ch.memo.materialized? = none := by rw [Memo.materialized?, hnone, ite_self]
    obtain ⟨requests, handed, _, htrace⟩ := Walk.exists_trace v server n hfresh
    rw [Operation.channel_of_walk hcalls, htrace.records, htrace.requests_eq_nil hpage, hnone]
    rfl
  | none =>
    have hlook := Operation.looksUp_run hcalls v server ch
    generalize op.run v server ch = result at hlook ⊢
    cases hlook with
    | known => exact h hpage
    | asked => rw [Channel.records_asking]; exact h hpage

theorem Memo.FitsPages.channelAfter (h : ch.memo.FitsPages v) (server : Server σ)
    (ops : List Operation) : (v.channelAfter server ops ch).memo.FitsPages v :=
  View.channelAfter_preserves (P := fun ch => ch.memo.FitsPages v)
    (fun op _ _ h => h.run server op) h

/-- Once all records have been collected, they are settled. -/
theorem settled_of_collect (hfits : ch.memo.FitsPages v) {budget : Nat} {rs : List Json}
    (h : (v.collect server budget ch).1 = some (.ok rs)) :
    Settled v (v.collect server budget ch).2.memo rs := by
  obtain ⟨hending, hrecords⟩ := View.collect_eq_ok h
  rw [View.channel_collect]
  cases hknown : ch.memo.materialized? with
  | some known =>
    have hsettled : Settled v ch.memo (known.map v.shape) := .held hknown rfl
    obtain ⟨hrecords', hending', hchannel⟩ := hsettled.take server (budget + 1)
    have hall : ¬ budget + 1 ≤ (known.map v.shape).length := by
      intro hle
      rw [hending, if_pos hle] at hending'
      contradiction
    rw [hrecords, List.take_of_length_le (by omega)] at hrecords'
    rw [hchannel, hrecords']
    exact hsettled
  | none =>
    obtain ⟨requests, handed, hhanded, htrace⟩ :=
      Walk.exists_trace v server (budget + 1) hknown
    rw [hending] at htrace
    rw [hrecords] at hhanded
    cases htrace.stands with
    | finished hphase hcomplete hempty =>
      have hall := htrace.handed
      rw [Walk.pending_of_done hphase, List.append_nil] at hall
      by_cases hpages : receivedPages (server.replies requests ch.session.state) = []
      · -- no page was received, since there was none to ask for
        have hpage := hempty hpages
        refine .pageless hpage ?_ hcomplete ?_
        · rw [htrace.records, rememberedPages, if_pos hpages, hfits hpage]
        · rw [hhanded, hall, hpages]
          rfl
      · refine .held (Memo.materialized?_eq_some_iff.mpr ⟨hcomplete, ?_⟩) hhanded.symm
        rw [htrace.records, rememberedPages, if_neg hpages, hall]

end Settling

/-- Once all records of a view have been collected, they stand: whatever is read through the
view then, in any order and whatever the server would answer by then, is answered from these
records and without a request, all but a count.  A count makes at most one request, for no records
and only while no range is known; whatever becomes of it, later answers stay the same. -/
theorem collected_answers_stand (v : View) (server : Server σ) (session : Session σ)
    (before later : List Operation) (budget : Nat) (rs : List Json)
    (hcollect :
      (v.collect server budget (v.channelAfter server before ⟨.blank, session⟩)).1 =
        some (.ok rs)) :
    let ch := v.channelAfter server later
      (v.collect server budget (v.channelAfter server before ⟨.blank, session⟩)).2
    (∀ (op : Operation) (number : Option Nat), op ≠ .count →
      op.run v server ch = (op.answerOf rs number, ch)) ∧
      (v.count server ch).2.session.fetches = ch.session.fetches ++
        if ch.memo.range = none then [⟨v.url, v.params 0 v.offset⟩] else [] := by
  intro ch
  have hblank : (⟨.blank, session⟩ : Channel σ).memo.FitsPages v := fun _ => rfl
  have hsettled : Settled v ch.memo rs :=
    (settled_of_collect (hblank.channelAfter server before) hcollect).channelAfter server later
  refine ⟨fun op number hop => hsettled.run_eq server hop number, ?_⟩
  cases hrange : ch.memo.range with
  | none =>
    rw [View.count_of_none hrange, if_pos rfl]
    rfl
  | some range =>
    rw [View.count_of_some hrange, if_neg (by simp), List.append_nil]

/-- A walk is left, all records are collected, a count fails, and the server has other records by
then. -/
theorem collected_answers_stand_script :
    let v := { View.ofPath "items" with pageSize := 2 }
    let script : Script :=
      [.ok ⟨[.null], none⟩, .ok ⟨[.int 1, .int 2], none⟩, .ok ⟨[], none⟩,
        .error (.remote 503 "unavailable"), .ok ⟨[.int 7, .int 8], some "items 0-1/9"⟩]
    let server := Script.server none
    let before := v.channelAfter server [.walk 1] ⟨.blank, Session.start script⟩
    let ch := v.channelAfter server [.count, .get 4, .walk 1] (v.collect server 5 before).2
    (v.collect server 5 before).1 = some (.ok [.int 1, .int 2]) ∧
      ch.session.state = [.ok ⟨[.int 7, .int 8], some "items 0-1/9"⟩] ∧
      (Operation.collect 5).run v server ch = (.records (some (.ok [.int 1, .int 2])), ch) ∧
      (Operation.get 1).run v server ch = (.record (.ok (some (.int 2))), ch) := by
  intro v script server before ch
  have hcollect : (v.collect server 5 before).1 = some (.ok [.int 1, .int 2]) := rfl
  obtain ⟨hstand, _⟩ := collected_answers_stand v server (Session.start script) [.walk 1]
    [.count, .get 4, .walk 1] 5 _ hcollect
  exact ⟨hcollect, rfl, hstand (.collect 5) none (by decide), hstand (.get 1) none (by decide)⟩

end PagedQuery
