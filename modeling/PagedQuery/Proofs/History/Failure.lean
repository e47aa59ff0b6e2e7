import PagedQuery.Proofs.History.Replay

/-!
# PagedQuery.Proofs.History.Failure

What failures leave behind.  A lookup that fails changes nothing in memory
(`Operation.memo_of_failure`).  A walk that fails has ended, and what it received before stays in
memory, but no longer as all there is; nor does it after a walk that is left before its end, so
that the next walk begins anew (`failures_keep_memory`).
-/

namespace PagedQuery

variable {σ : Type} {v : View} {server : Server σ} {ch : Channel σ}

/-! ## Lookups -/

/-- An operation that is no walk and fails leaves the memory as it was. -/
theorem Operation.memo_of_failure {op : Operation} (hop : op.calls? = none)
    (hfails : (op.run v server ch).1.isFailure = true) :
    (op.run v server ch).2.memo = ch.memo := by
  have hlook := Operation.looksUp_run hop v server ch
  generalize op.run v server ch = result at hlook hfails ⊢
  cases hlook with
  | known hok => exact absurd hfails (by rw [hok]; nofun)
  | asked _ hreply =>
    obtain ⟨e, he⟩ := hreply hfails
    rw [Channel.asking, he]
    rfl

/-- Lookups never make what is remembered count as all there is. -/
theorem View.materialized?_of_lookups {ops : List Operation}
    (hops : ∀ op ∈ ops, op.calls? = none) (hcomplete : ch.memo.complete = false) :
    (v.channelAfter server ops ch).memo.materialized? = none := by
  have hafter : (v.channelAfter server ops ch).memo.complete = false := by
    refine View.channelAfter_preserves (P := fun ch => ch.memo.complete = false)
      (fun op hop ch h => ?_) hcomplete
    have hlook := Operation.looksUp_run (hops op hop) v server ch
    generalize op.run v server ch = result at hlook ⊢
    cases hlook with
    | known => exact h
    | asked => rwa [Channel.complete_asking]
  rw [Memo.materialized?, hafter]
  rfl

/-! ## Walks -/

namespace Walk

/-- A walk that is not over known records makes the first request of a sweep with its first
call. -/
theorem fetches_calls_one {f : Fetch} (hfresh : ch.memo.materialized? = none)
    (hpage : v.nextPage? 0 0 = some f) :
    (calls v server 1 (start v ch.memo) ch).channel.session.fetches =
      ch.session.fetches ++ [f] := by
  have hphase := phase_start hfresh v
  have hnext := next_of_open server (at_start v ch.memo) (by rw [isClosed, hphase])
    (by rw [pending, hphase]) ch
  rw [hpage] at hnext
  simp only [calls, hnext, fetches_takeIn, Channel.fetches_asking, session_opening]

/-- A walk that makes requests was not over known records. -/
theorem materialized?_of_fetches {n : Nat}
    (h : (calls v server n (start v ch.memo) ch).channel.session.fetches ≠ ch.session.fetches) :
    ch.memo.materialized? = none := by
  cases hknown : ch.memo.materialized? with
  | none => rfl
  | some known =>
    have hop : Operation.walk n ≠ .count := by simp
    have hsettled : Settled v ch.memo (known.map v.shape) := .held hknown rfl
    have hrun := congrArg (fun result => result.2.session.fetches)
      (hsettled.run_eq server hop none)
    exact absurd hrun h

/-- A call that gives an error is the last one of a trace. -/
theorem exists_trace_of_error {n : Nat} {e : ClientError}
    (h : let called := calls v server n (start v ch.memo) ch
      (called.walk.next v server called.channel).1 = .error e) :
    let called := calls v server n (start v ch.memo) ch
    let failed := (called.walk.next v server called.channel).2
    ∃ requests handed, Trace v server ch requests handed (.failed e) failed.1 failed.2 := by
  cases hknown : ch.memo.materialized? with
  | some known =>
    -- a walk over known records gives no error
    have hop : Operation.walk (n + 1) ≠ .count := by simp
    have hsettled : Settled v ch.memo (known.map v.shape) := .held hknown rfl
    have hrun := congrArg (fun result => result.1.isFailure) (hsettled.run_eq server hop none)
    rw [Operation.isFailure_answerOf] at hrun
    simp [Operation.run, calls_succ, h, Answer.isFailure, Except.isOk, Except.toBool] at hrun
  | none =>
    obtain ⟨requests, handed, _, htrace⟩ := exists_trace v server n hknown
    simp only [calls_eq_take] at h ⊢
    generalize (take v server n (start v ch.memo) ch).ending = ending at htrace
    cases ending with
    | taken =>
      obtain ⟨_, _, hanswer, _⟩ | ⟨requests', ending, _, hanswer, hfailed⟩ := htrace.next
      · rw [h] at hanswer
        contradiction
      · rw [h] at hanswer
        cases ending with
        | failed e' =>
          cases hanswer
          exact ⟨requests', handed, hfailed⟩
        | taken => contradiction
        | finished => contradiction
    | finished =>
      cases htrace.stands with
      | finished hphase => rw [next_of_done hphase] at h; contradiction
    | failed e' =>
      cases htrace.stands with
      | failed hphase => rw [next_of_done hphase] at h; contradiction

/-- A walk that has made a request and has not come to the end of the records leaves them
incomplete. -/
theorem complete_of_unfinished {n : Nat}
    (hfetches :
      (calls v server n (start v ch.memo) ch).channel.session.fetches ≠ ch.session.fetches)
    (hunfinished : (∃ e, .error e ∈ (calls v server n (start v ch.memo) ch).answers) ∨
      .ok none ∉ (calls v server n (start v ch.memo) ch).answers) :
    (calls v server n (start v ch.memo) ch).channel.memo.complete = false ∧
      ∃ f, v.nextPage? 0 0 = some f := by
  obtain ⟨requests, handed, hhanded, htrace⟩ :=
    exists_trace v server n (materialized?_of_fetches hfetches)
  simp only [calls_eq_take] at hfetches hunfinished ⊢
  have hpage : ∃ f, v.nextPage? 0 0 = some f := by
    have hfirst := htrace.first
    cases requests with
    | nil =>
      rw [htrace.follows.fetches, List.append_nil] at hfetches
      exact absurd rfl hfetches
    | cons f rest => exact ⟨f, hfirst f rfl⟩
  refine ⟨?_, hpage⟩
  cases hending : (take v server n (start v ch.memo) ch).ending with
  | taken =>
    rw [hending] at htrace
    cases htrace.stands with
    | fresh _ _ hchannel => rw [hchannel] at hfetches; exact absurd rfl hfetches
    | reading _ _ hcomplete => exact hcomplete
  | finished =>
    rw [Taken.answers, hending] at hunfinished
    simp [Ending.answer] at hunfinished
  | failed e =>
    rw [hending] at htrace
    cases htrace.stands with
    | failed _ hcomplete => exact hcomplete

end Walk

/-- Failures leave a consistent memory, whatever it was and whatever the server does.  An operation
that is no walk and fails changes nothing in it.  When a call of a walk fails, later calls give
nothing and ask for nothing, whatever else is read in between; of the pages that the walk
received, if any, all records are remembered, and of their ranges the last; an answer whose range
cannot be read is no page.  After a walk that has asked for something and has failed or was left
before its end, what is remembered does not count as all there is, also not after some lookups:
the next walk begins anew, with a request at the offset of the view. -/
theorem failures_keep_memory (v : View) (server : Server σ) (ch : Channel σ) :
    (∀ op : Operation, op.calls? = none → (op.run v server ch).1.isFailure = true →
      (op.run v server ch).2.memo = ch.memo) ∧
    ∀ n,
      let called := Walk.calls v server n (Walk.start v ch.memo) ch
      (∀ e, (called.walk.next v server called.channel).1 = .error e →
        let failed := (called.walk.next v server called.channel).2
        (∀ (m : Nat) (later : Channel σ), Walk.calls v server m failed.1 later =
          ⟨List.replicate m (.ok none), failed.1, later⟩) ∧
        ∃ requests, failed.2.session.fetches = ch.session.fetches ++ requests ∧
          let readings := server.replies requests ch.session.state
          readings.getLast? = some (.error e) ∧
          failed.2.memo = {
            records := rememberedPages ch.memo.records (receivedPages readings)
            complete := false
            range := latestRange ch.memo.range (receivedRanges readings) }) ∧
      (called.channel.session.fetches ≠ ch.session.fetches →
        (∃ e, .error e ∈ called.answers) ∨ .ok none ∉ called.answers →
        ∀ lookups : List Operation, (∀ op ∈ lookups, op.calls? = none) →
          let after := v.channelAfter server lookups called.channel
          after.memo.materialized? = none ∧
          ∃ limit,
            (Walk.calls v server 1 (Walk.start v after.memo) after).channel.session.fetches =
              after.session.fetches ++ [⟨v.url, v.params limit v.offset⟩]) := by
  refine ⟨fun op hop hfails => Operation.memo_of_failure hop hfails, fun n => ⟨?_, ?_⟩⟩
  · intro e herror failed
    obtain ⟨requests, handed, htrace⟩ := Walk.exists_trace_of_error herror
    cases htrace.stands with
    | failed hphase hcomplete hlast =>
      refine ⟨Walk.calls_of_done hphase, requests, htrace.follows.fetches, hlast, ?_⟩
      rw [← htrace.records, ← htrace.follows.range, ← hcomplete]
  · intro hfetches hunfinished lookups hlookups after
    obtain ⟨hcomplete, f, hpage⟩ := Walk.complete_of_unfinished hfetches hunfinished
    have hfresh : after.memo.materialized? = none :=
      View.materialized?_of_lookups hlookups hcomplete
    obtain ⟨limit, rfl⟩ := View.exists_limit_of_nextPage? hpage
    exact ⟨hfresh, limit, Walk.fetches_calls_one hfresh hpage⟩

/-- A walk fails on its second page, whose range cannot be read; a lookup fails behind it. -/
theorem failures_keep_memory_script :
    let v := { View.ofPath "items" with pageSize := 2 }
    let e := ClientError.decode (.range "items 2-2")
    let script : Script :=
      [.ok ⟨[.int 1, .int 2], some "items 0-1/9"⟩, .ok ⟨[.int 3], some "items 2-2"⟩,
        .error (.remote 503 "unavailable"), .ok ⟨[.int 5], none⟩]
    let server := Script.server none
    let ch : Channel Script := ⟨⟨some [.null], false, none⟩, Session.start script⟩
    let called := Walk.calls v server 3 (Walk.start v ch.memo) ch
    let after := v.channelAfter server [.get 7] called.channel
    called.answers = [.ok (some (.int 1)), .ok (some (.int 2)), .error e] ∧
      called.channel.memo = ⟨some [.int 1, .int 2], false, some ⟨0, 1, 9⟩⟩ ∧
      ((Operation.get 7).run v server called.channel).1 =
        .record (.error (.remote 503 "unavailable")) ∧
      after.memo = called.channel.memo ∧
      ∃ limit,
        (Walk.calls v server 1 (Walk.start v after.memo) after).channel.session.fetches =
          after.session.fetches ++ [⟨"items", v.params limit 0⟩] := by
  intro v e script server ch called after
  obtain ⟨hlookup, -⟩ := failures_keep_memory v server called.channel
  obtain ⟨-, hwalk⟩ := failures_keep_memory v server ch
  obtain ⟨-, requests, hfetches, -, hmemo⟩ := (hwalk 2).1 e rfl
  have hrequests : requests = [⟨"items", v.params 2 0⟩, ⟨"items", v.params 2 2⟩] := hfetches.symm
  have hanswers : called.answers = [.ok (some (.int 1)), .ok (some (.int 2)), .error e] := rfl
  have herror : .error e ∈ called.answers := by
    rw [hanswers]
    simp
  obtain ⟨-, hnext⟩ := (hwalk 3).2 (by decide) (.inl ⟨e, herror⟩) [.get 7] (by decide)
  rw [hrequests] at hmemo
  exact ⟨hanswers, hmemo, rfl, hlookup (.get 7) rfl rfl, hnext⟩

end PagedQuery
