import PagedQuery.Proofs.View.Positions
import PagedQuery.Proofs.View.Operation
import PagedQuery.Proofs.Walk.Extent

/-!
# PagedQuery.Proofs.History.Independence

Answers do not depend on what has been read before.  As long as memory agrees with the collection
that the server holds, an operation answers what the list of records would answer, or fails because
a request has failed, and memory goes on agreeing (`Operation.agrees_run`).  So an operation that
succeeds answers as it would on a fresh memory, from a server that never fails
(`answers_forget_history`), unless what it would ask for then lies behind all signed words.
-/

namespace PagedQuery

variable {σ τ : Type} {v : View} {R : List Json} {claim : Option Nat}

/-! ## Memory -/

namespace Memo.Agrees

variable {memo : Memo} {index : Nat}

/-- A record in memory is the one that the view shows at its place. -/
theorem getElem?_extent (h : memo.Agrees v R [claim]) {record : Json}
    (hrecord : memo.records.bind (·[index]?) = some record) :
    (v.extent R)[index]? = some record := by
  obtain ⟨known, hrecords, hknown⟩ := Option.bind_eq_some_iff.mp hrecord
  obtain ⟨hlt, rfl⟩ := List.getElem?_eq_some_iff.mp hknown
  exact List.prefix_iff_getElem?.mp (h.known known hrecords) index hlt

/-- Where memory tells that there is no record, there is none. -/
theorem getElem?_extent_of_past (h : memo.Agrees v R [claim]) (hv : v.IsFramed)
    (hnone : memo.records.bind (·[index]?) = none) (hpast : v.isPast memo index = true) :
    (v.extent R)[index]? = none := by
  cases hall : memo.materialized? with
  | some known =>
    obtain ⟨hcomplete, hrecords⟩ := Memo.materialized?_eq_some_iff.mp hall
    have hknown := h.all hcomplete
    rw [hrecords] at hknown hnone
    rw [← hknown]
    exact hnone
  | none =>
    rw [View.isPast, hall, Option.isSome_none, Bool.or_false, Option.any_eq_true] at hpast
    obtain ⟨w, hw, hle⟩ := hpast
    exact View.getElem?_extent_of_length_le hv hw R (of_decide_eq_true hle)

/-- Memory that tells whether there is a record tells the truth. -/
theorem isEmpty_extent (h : memo.Agrees v R [claim]) {exist : Bool}
    (hknown : View.knownExistence? memo = some exist) : exist = !(v.extent R).isEmpty := by
  rw [View.knownExistence?] at hknown
  split at hknown
  · next records hrecords =>
    split at hknown
    · next htold =>
      obtain rfl := Option.some.inj hknown
      congr 1
      cases records with
      | nil =>
        have hall := h.all (by simpa using htold)
        rw [← hall, hrecords]
        rfl
      | cons record rest =>
        obtain ⟨behind, hbehind⟩ := h.known _ hrecords
        rw [← hbehind]
        rfl
    · contradiction
  · contradiction

end Memo.Agrees

/-! ## Lookups -/

/-- A lookup leaves memory in agreement with the collection and finds `a`, unless its request, for
records from `offset` on, has failed. -/
structure Finds {α : Type} (v : View) (R : List Json) (claim : Option Nat) (server : Server σ)
    (offset : Nat) (a : α) (result : Except ClientError α × Channel σ) : Prop where
  agrees : result.2.memo.Agrees v R [claim]
  outcome : result.1 = .ok a ∨ ∃ e, result.1 = .error e ∧ result.2.FailedAt v server offset e

section Lookups

variable {server : Server σ} {ch : Channel σ}

/-- A lookup that asks finds what the answer tells. -/
theorem finds_of_asking {α : Type} {a : α} (hserver : server.Tells v R [claim])
    (hagrees : ch.memo.Agrees v R [claim]) {limit offset : Nat} (hlimit : limit ≤ v.pageSize)
    (hoffset : offset ≤ maxOffset) {find : List Json × Option ContentRange → α}
    (hfind : ∀ records range, v.Tells R [claim] limit offset records range →
      find (records, range) = a) :
    Finds v R claim server offset a
      ((server.reply ⟨v.url, v.params limit offset⟩ ch.session.state).map find,
        ch.asking server ⟨v.url, v.params limit offset⟩) := by
  cases hreply : server.reply ⟨v.url, v.params limit offset⟩ ch.session.state with
  | error e =>
    exact ⟨hagrees.noting (by rw [hreply]; trivial),
      .inr ⟨e, rfl, ch.failedAt_asking hlimit hoffset hreply⟩⟩
  | ok page =>
    have htells := hserver _ _ _ _ _ hlimit hoffset hreply
    exact ⟨hagrees.noting (by rw [hreply]; exact htells.count),
      .inl (congrArg Except.ok (hfind _ _ htells))⟩

variable (hv : v.IsFramed) (hserver : server.Tells v R [claim])
  (hagrees : ch.memo.Agrees v R [claim])

include hserver hagrees

theorem finds_count (hoffset : v.offset ≤ maxOffset) :
    Finds v R claim server v.offset claim (v.count server ch) := by
  cases hrange : ch.memo.range with
  | some range =>
    rw [View.count_of_some hrange]
    exact ⟨hagrees, .inl (congrArg Except.ok (List.mem_singleton.mp (hagrees.range range hrange)))⟩
  | none =>
    rw [View.count_of_none hrange]
    exact finds_of_asking hserver hagrees (Nat.zero_le _) hoffset fun _ _ h =>
      List.mem_singleton.mp h.count

include hv

theorem finds_get (index : Nat)
    (hindex : (∀ w ∈ v.window, index < w.length) → v.offset + index ≤ maxOffset) :
    Finds v R claim server (v.offset + index) ((v.extent R).map v.shape)[index]?
      (v.get server index ch) := by
  rw [List.getElem?_map]
  cases hknown : ch.memo.records.bind (·[index]?) with
  | some record =>
    rw [View.get_of_some hknown, hagrees.getElem?_extent hknown]
    exact ⟨hagrees, .inl rfl⟩
  | none =>
    cases hpast : v.isPast ch.memo index with
    | true =>
      rw [View.get_of_past hknown hpast, hagrees.getElem?_extent_of_past hv hknown hpast]
      exact ⟨hagrees, .inl rfl⟩
    | false =>
      have hwindow := (View.isPast_eq_false_iff.mp hpast).1
      have hoffset := hindex hwindow
      rw [View.get_of_unknown hknown hpast, addOffset_of_le hoffset, View.getElem?_extent hv R hwindow]
      exact finds_of_asking hserver hagrees hv.pageSize_pos hoffset fun _ _ h =>
        congrArg (Option.map v.shape) h.head?

theorem finds_existence (hoffset : v.offset ≤ maxOffset) :
    Finds v R claim server v.offset (!((v.extent R).map v.shape).isEmpty)
      (v.exists? server ch) := by
  cases hknown : View.knownExistence? ch.memo with
  | some exist =>
    rw [View.exists?_of_some hknown, hagrees.isEmpty_extent hknown, List.isEmpty_map]
    exact ⟨hagrees, .inl rfl⟩
  | none =>
    rw [View.exists?_of_none hknown]
    obtain ⟨hafter, houtcome⟩ := finds_get hv hserver hagrees 0 fun _ => hoffset
    refine ⟨hafter, houtcome.imp (fun hget => ?_) fun ⟨e, hget, hfailed⟩ => ⟨e, ?_, hfailed⟩⟩
    · rw [hget]
      cases v.extent R <;> rfl
    · rw [hget]
      rfl

end Lookups

/-! ## Operations -/

/-- The place of the first request, unless the operation is answered without any. -/
def Operation.firstOffset (op : Operation) (v : View) : Nat :=
  v.offset + op.index?.getD 0

/-- If the operation looks at a single record of the view, this lies at an offset.  Behind a window
there is nothing to look at, so that for a bounded view this is no condition. -/
def Operation.StaysWithin (op : Operation) (v : View) : Prop :=
  ∀ index ∈ op.index?, (∀ w ∈ v.window, index < w.length) → v.offset + index ≤ maxOffset

/-- An operation leaves memory in agreement with the collection and answers what the records of the
view answer, unless a request has failed, at a place that it may reach. -/
structure Operation.Agrees (op : Operation) (v : View) (R : List Json) (claim : Option Nat)
    (server : Server σ) (result : Answer × Channel σ) : Prop where
  agrees : result.2.memo.Agrees v R [claim]
  answer : result.1 = op.answerOf ((v.extent R).map v.shape) claim ∨
    result.1.isFailure = true ∧ ∃ e offset, MayReach R [claim] (op.firstOffset v) offset ∧
      result.2.FailedAt v server offset e

/-- What is found is what is answered. -/
theorem Finds.tell {α : Type} {a : α} {server : Server σ} {op : Operation}
    {result : Except ClientError α × Channel σ}
    (h : Finds v R claim server (op.firstOffset v) a result) {tell : Except ClientError α → Answer}
    (htell : ∀ e, (tell (.error e)).isFailure = true)
    (ha : tell (.ok a) = op.answerOf ((v.extent R).map v.shape) claim) :
    op.Agrees v R claim server (result.map tell id) := by
  obtain ⟨hagrees, hok | ⟨e, herror, hfailed⟩⟩ := h
  · exact ⟨hagrees, .inl ((congrArg tell hok).trans ha)⟩
  · exact ⟨hagrees, .inr ⟨by rw [Prod.map_fst, herror]; exact htell e, e, _, .inl rfl, hfailed⟩⟩

namespace Operation

section Agrees

variable {server : Server σ} {ch : Channel σ} (hv : v.IsFramed)
  (hmax : v.reach R.length ≤ maxOffset) (hserver : server.Tells v R [claim])
  (hagrees : ch.memo.Agrees v R [claim])

include hv hmax hserver hagrees

/-- A walk hands out the records of the view, unless a request fails. -/
theorem agrees_walk {op : Operation} {n : Nat} (hcalls : op.calls? = some n) :
    op.Agrees v R claim server (op.run v server ch) := by
  have hstart := Walk.reads_start hv hagrees
  have hfirst : op.firstOffset v = v.offset := by
    rw [firstOffset]
    cases op <;> first | contradiction | rfl
  refine ⟨?_, ?_⟩
  · rw [channel_of_walk hcalls]
    exact Walk.Reads.agrees_take hv hmax hserver n hagrees hstart
  · obtain ⟨hrecords, hending⟩ | ⟨e, offset, hending, hreach, hfailed⟩ :=
      hstart.take hv hmax hserver n
    · rw [← List.length_map (f := v.shape)] at hending
      rw [List.map_take] at hrecords
      exact .inl (answer_of_walk hcalls hrecords hending claim)
    · refine .inr ⟨isFailure_of_walk hcalls hending, e, offset, ?_, ?_⟩
      · rwa [hfirst]
      · rwa [channel_of_walk hcalls]

/-- An operation on a memory that agrees with the collection leaves one that does, and answers
what the records of the view answer, unless a request fails. -/
theorem agrees_run (op : Operation) (hindex : op.StaysWithin v) :
    op.Agrees v R claim server (op.run v server ch) := by
  have hoffset : v.offset ≤ maxOffset := Nat.le_trans (View.offset_le_reach hv R.length) hmax
  cases op with
  | count => exact (finds_count hserver hagrees hoffset).tell (fun _ => rfl) rfl
  | existence => exact (finds_existence hv hserver hagrees hoffset).tell (fun _ => rfl) rfl
  | first => exact (finds_get hv hserver hagrees 0 fun _ => hoffset).tell (fun _ => rfl) rfl
  | get index =>
    exact (finds_get hv hserver hagrees index (hindex index rfl)).tell (fun _ => rfl) rfl
  | collect budget => exact agrees_walk hv hmax hserver hagrees rfl
  | walk calls => exact agrees_walk hv hmax hserver hagrees rfl

end Agrees

/-- From a server that answers every request an operation fails only if the first thing it asks for
lies behind all signed words, and pages have headers. -/
theorem firstOffset_of_failure {server : Server σ} {op : Operation} {result : Answer × Channel σ}
    (hclaims : AreTrueClaims R [claim])
    (hserver : server.Answers v maxOffset (v.IsAnswer R [claim]))
    (h : op.Agrees v R claim server result) (hfails : result.1.isFailure = true) :
    claim ≠ none ∧ ContentRange.maxCount < op.firstOffset v := by
  obtain ⟨-, hanswer | ⟨-, e, offset, hreach, limit, s, hlimit, hle, -, hreply⟩⟩ := h
  · rw [hanswer, isFailure_answerOf] at hfails
    contradiction
  · obtain ⟨hlarge, hclaim, -⟩ := hserver.of_reply_error hclaims hlimit hle hreply
    have hcount := (hclaims _ hclaim).2
    obtain rfl : claim = some R.length := (List.mem_singleton.mp hclaim).symm
    refine ⟨nofun, ?_⟩
    obtain rfl | hwithin | hbare := hreach
    · exact hlarge
    · omega
    · simp at hbare

end Operation

/-- Answers do not depend on the history of a view.  A server holds a collection and answers some
requests of the view, in full, or if the view is bounded in any part that is not empty, and fails
at others; another one of this kind never fails.  Headers always claim the number of records, or
there are none.  Offsets do not exceed the largest one.  Whatever was read through the view before
and whatever failed, an operation that succeeds answers as the list of the records that the view
stands for.  So does any operation with a fresh memory, on the server that never fails, with one
exception: a header at an offset that is no signed word cannot be read, and so the operation fails
if its first request would be for such an offset.  At every moment memory holds the first of these
records, and a record in memory is the one that a request for it alone brings. -/
theorem answers_forget_history (v : View) (hv : v.Built) (R : List Json) (claim : Option Nat)
    (hclaims : AreTrueClaims R [claim])
    (hmax : v.window = none → v.offset + v.pageCount R.length * v.pageSize ≤ maxOffset)
    (faulty : Server σ) (hfaulty : faulty.AnswersOrFails v maxOffset (v.IsAnswer R [claim]))
    (calm : Server τ) (hcalm : calm.Answers v maxOffset (v.IsAnswer R [claim]))
    (session : Session σ) (fresh : Session τ) (before : List Operation)
    (hbefore : ∀ op ∈ before, op.StaysWithin v) :
    let ch := v.channelAfter faulty before ⟨.blank, session⟩
    (∀ op : Operation, op.StaysWithin v →
      let answer := (op.run v calm ⟨.blank, fresh⟩).1
      ((op.run v faulty ch).1.isFailure = false →
        (op.run v faulty ch).1 = op.answerOf ((v.extent R).map v.shape) claim ∧
        (answer.isFailure = false → (op.run v faulty ch).1 = answer)) ∧
      (answer = op.answerOf ((v.extent R).map v.shape) claim ∨ answer.isFailure = true ∧
        claim ≠ none ∧ ContentRange.maxCount < op.firstOffset v)) ∧
    (∀ known ∈ ch.memo.records, known <+: v.extent R) ∧
    ∀ i record, ch.memo.records.bind (·[i]?) = some record →
      v.get faulty i ch = (.ok (some (v.shape record)), ch) ∧
      (v.get calm i ⟨.blank, fresh⟩).1 = .ok (some (v.shape record)) ∧
      (v.get calm i ⟨.blank, fresh⟩).2.session.fetches =
        fresh.fetches ++ [⟨v.url, v.params 1 (v.offset + i)⟩] := by
  intro ch
  have hframed := hv.isFramed
  have hreach := View.reach_le hframed hmax
  have htells := hfaulty.tells hclaims
  have htells' := hcalm.orFails.tells hclaims
  have hblank := Memo.Agrees.blank v R [claim]
  have hagrees : ch.memo.Agrees v R [claim] :=
    View.channelAfter_preserves (P := fun ch => ch.memo.Agrees v R [claim])
      (fun op hop _ h => (op.agrees_run hframed hreach htells h (hbefore op hop)).agrees) hblank
  refine ⟨fun op hindex => ?_, hagrees.known, fun i record hrecord => ?_⟩
  · intro answer
    have hanswer : (answer = op.answerOf ((v.extent R).map v.shape) claim ∨
        answer.isFailure = true ∧ claim ≠ none ∧ ContentRange.maxCount < op.firstOffset v) := by
      have hrun : op.Agrees v R claim calm (op.run v calm ⟨.blank, fresh⟩) :=
        op.agrees_run hframed hreach htells' hblank hindex
      refine hrun.answer.imp_right fun hfailed => ⟨hfailed.1, ?_⟩
      exact Operation.firstOffset_of_failure hclaims hcalm hrun hfailed.1
    refine ⟨fun hok => ?_, hanswer⟩
    obtain ⟨-, hlist | ⟨hfailure, -⟩⟩ := op.agrees_run hframed hreach htells hagrees hindex
    · refine ⟨hlist, fun hok' => hlist.trans ?_⟩
      obtain hlist' | ⟨hfailure, -⟩ := hanswer
      · exact hlist'.symm
      · rw [hok'] at hfailure
        contradiction
    · rw [hok] at hfailure
      contradiction
  · have hextent := hagrees.getElem?_extent hrecord
    obtain ⟨hwindow, hlast⟩ := View.le_reach_of_extent hframed hextent
    have hoffset := Nat.le_trans hlast hreach
    have hpast : v.isPast .blank i = false := View.isPast_eq_false_iff.mpr ⟨hwindow, rfl⟩
    have hget : v.get calm i ⟨.blank, fresh⟩ = _ := View.get_of_unknown rfl hpast
    have hfinds : Finds v R claim calm (v.offset + i) ((v.extent R).map v.shape)[i]?
        (v.get calm i ⟨.blank, fresh⟩) := finds_get hframed htells' hblank i fun _ => hoffset
    refine ⟨View.get_of_some hrecord, ?_, ?_⟩
    · obtain hfound | ⟨e, -, limit, s, hlimit, hle, -, hreply⟩ := hfinds.outcome
      · rw [hfound, List.getElem?_map, hextent]
        rfl
      · -- a record that is there is asked for at a signed word
        obtain ⟨hlarge, hclaim, -⟩ := hcalm.of_reply_error hclaims hlimit hle hreply
        rw [View.getElem?_extent hframed R hwindow] at hextent
        have hlt := (List.getElem?_eq_some_iff.mp hextent).1
        have hcount := (hclaims _ hclaim).2
        omega
    · rw [hget, addOffset_of_le hoffset]
      rfl

/-- Five records in pages of two from a server that fails behind the second page: all records are
asked for in vain, and a walk is left after a record.  Two lookups are then answered as ever, one
from memory and one by a request. -/
theorem answers_forget_history_dataset :
    let v := { View.ofPath "items" with pageSize := 2 }
    let calm : Dataset := ⟨[.int 0, .int 1, .int 2, .int 3, .int 4], none, true, none, none, none⟩
    let faulty : Dataset := { calm with failsAt := some 4 }
    let fresh : Channel Unit := ⟨.blank, Session.start ()⟩
    let ch := v.channelAfter faulty.server [.collect 9, .walk 1] fresh
    ((Operation.collect 9).run v faulty.server fresh).1.isFailure = true ∧
      v.get faulty.server 1 ch = (.ok (some (.int 1)), ch) ∧
      (v.get calm.server 1 fresh).1 = .ok (some (.int 1)) ∧
      ((Operation.get 3).run v faulty.server ch).1.isFailure = false ∧
      ((Operation.get 3).run v faulty.server ch).1 =
        ((Operation.get 3).run v calm.server fresh).1 := by
  intro v calm faulty fresh ch
  have hlimit : (View.ofPath "items").limit 2 = .ok v := rfl
  have hbuilt : v.Built := .step (.ofPath "items") (.limit hlimit)
  have hclaims : AreTrueClaims calm.records [some 5] := by
    intro count hcount
    obtain rfl : count = 5 := by simpa using hcount
    decide
  have hcalm : calm.server.Answers v maxOffset (v.IsAnswer calm.records [some 5]) :=
    (Dataset.answers_stated (d := calm) rfl v (by decide)).mono rfl rfl (Nat.le_refl _)
      (Nat.le_refl _) fun _ _ _ _ _ h => View.isAnswer_of_full h.1 h.2
  have hfaulty : faulty.server.AnswersOrFails v maxOffset (v.IsAnswer calm.records [some 5]) := by
    intro limit offset s page hlimit hoffset hfetch
    have h := faulty.answersOrFails_stated v (by decide) limit offset s page hlimit hoffset hfetch
    exact View.isAnswer_of_full h.1 h.2
  have hfails : ((Operation.collect 9).run v faulty.server fresh).1.isFailure = true := by decide
  have hfound : ((Operation.get 3).run v faulty.server ch).1.isFailure = false := by decide
  have hfound' : ((Operation.get 3).run v calm.server fresh).1.isFailure = false := by decide
  have hknown : ch.memo.records = some [.int 0, .int 1] := by decide
  obtain ⟨hanswers, -, hcached⟩ := answers_forget_history v hbuilt calm.records (some 5) hclaims
    (fun _ => by decide) faulty.server hfaulty calm.server hcalm (Session.start ())
    (Session.start ()) [.collect 9, .walk 1]
    (by simp [Operation.StaysWithin, Operation.index?])
  obtain ⟨hmemory, hrequest, -⟩ := hcached 1 (.int 1) (by rw [hknown]; rfl)
  obtain ⟨hsame, -⟩ := hanswers (.get 3) (by rintro i ⟨⟩ _; decide)
  exact ⟨hfails, hmemory, hrequest, hfound, (hsame hfound).2 hfound'⟩

/-- After all of three records have been collected, memory tells that there is none at `2 ^ 63`.
With a fresh memory it is asked for, and the header of the answer cannot be read. -/
theorem answers_forget_history_not_past_words :
    let v := View.ofPath "items"
    let d : Dataset := ⟨[.int 0, .int 1, .int 2], none, true, none, none, none⟩
    let fresh : Channel Unit := ⟨.blank, Session.start ()⟩
    let ch := v.channelAfter d.server [.collect 9] fresh
    (v.get d.server 9223372036854775808 ch).1 = .ok none ∧
      (v.get d.server 9223372036854775808 fresh).1 = .error (.decode
        (.range "items 9223372036854775808-9223372036854775807/3")) := by
  intro v d fresh ch
  have hmemory : ch.memo.records = some [.int 0, .int 1, .int 2] ∧ ch.memo.complete = true := by
    decide
  constructor
  · have hpast : v.isPast ch.memo 9223372036854775808 = true := by
      rw [View.isPast, Memo.materialized?, hmemory.1, hmemory.2]
      rfl
    rw [View.get_of_past (by rw [hmemory.1]; decide) hpast]
  · have htext : ContentRange.headerOfPage 9223372036854775808 0 3 =
        "items 9223372036854775808-9223372036854775807/3" := by decide +kernel
    obtain ⟨page, hfetch, hrecords, hstated⟩ := Dataset.answers_stated (d := d) rfl v (by decide)
      1 9223372036854775808 fresh.session.state (by decide) (by decide)
    have hnone : page.records = [] := hrecords.trans (by decide)
    have hstated' : page.Says 9223372036854775808 (some 3) := hstated
    have hread := hstated'.read_of_lt (by decide)
    rw [hnone, List.length_nil, htext] at hread
    have hreply := (Server.reply_of_fetch hfetch).trans hread
    have hoffset : addOffset v.offset 9223372036854775808 = 9223372036854775808 :=
      (addOffset_of_le (by decide)).trans (Nat.zero_add _)
    have hpast : v.isPast .blank 9223372036854775808 = false :=
      View.isPast_eq_false_iff.mpr ⟨by rintro _ ⟨⟩, rfl⟩
    have hget : v.get d.server 9223372036854775808 fresh = _ := View.get_of_unknown rfl hpast
    simp only [hget, hoffset, hreply, Except.map]

end PagedQuery
