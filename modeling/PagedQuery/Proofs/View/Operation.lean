import PagedQuery.Proofs.Replies
import PagedQuery.Proofs.Walk.Agreement

/-!
# PagedQuery.Proofs.View.Operation

The operations that read through a view, and sequences of them.  An operation is a walk of some
number of calls, or it looks something up: then it is answered from memory, or by one request
(`looksUp_run`).  What all operations preserve is preserved by every sequence of them
(`channelAfter_preserves`).
-/

namespace PagedQuery

variable {σ : Type}

/-! ## Single lookups -/

namespace View

variable (v : View) (server : Server σ) (index : Nat) (ch : Channel σ)

/-- Whether it is known without asking that there is no record at `index` behind those
remembered: the window ends before it, or all records are remembered. -/
def isPast (memo : Memo) (index : Nat) : Bool :=
  (v.window.any fun window => window.length ≤ index) || memo.materialized?.isSome

variable {v server index ch}

theorem isPast_eq_false_iff {memo : Memo} :
    v.isPast memo index = false ↔
      (∀ w ∈ v.window, index < w.length) ∧ memo.materialized? = none := by
  rw [isPast, Bool.or_eq_false_iff, Option.isSome_eq_false_iff, Option.isNone_iff_eq_none]
  cases v.window <;> simp

theorem get_of_some {record : Json} (h : ch.memo.records.bind (·[index]?) = some record) :
    v.get server index ch = (.ok (some (v.shape record)), ch) := by
  simp only [get, h]

theorem get_of_past (h : ch.memo.records.bind (·[index]?) = none)
    (hpast : v.isPast ch.memo index = true) : v.get server index ch = (.ok none, ch) := by
  unfold isPast at hpast
  simp only [get, h, hpast, if_true]

/-- A record about which nothing is known is asked for. -/
theorem get_of_unknown (h : ch.memo.records.bind (·[index]?) = none)
    (hpast : v.isPast ch.memo index = false) :
    v.get server index ch =
      ((server.reply ⟨v.url, v.params 1 (addOffset v.offset index)⟩ ch.session.state).map
          fun page => page.1.head?.map v.shape,
        ch.asking server ⟨v.url, v.params 1 (addOffset v.offset index)⟩) := by
  unfold isPast at hpast
  simp only [get, h, hpast, fetchPage_eq, Bool.false_eq_true, if_false]
  cases server.reply ⟨v.url, v.params 1 (addOffset v.offset index)⟩ ch.session.state <;> rfl

theorem count_of_some {range : ContentRange} (h : ch.memo.range = some range) :
    v.count server ch = (.ok (some range.count.toNat), ch) := by
  simp only [count, h]

/-- Without a range the server is asked for one. -/
theorem count_of_none (h : ch.memo.range = none) :
    v.count server ch =
      ((server.reply ⟨v.url, v.params 0 v.offset⟩ ch.session.state).map
          fun page => page.2.map fun range => range.count.toNat,
        ch.asking server ⟨v.url, v.params 0 v.offset⟩) := by
  have hrange := Memo.range_noting ch.memo
    (server.reply ⟨v.url, v.params 0 v.offset⟩ ch.session.state)
  rw [h, Option.or_none] at hrange
  simp only [count, h, fetchPage_eq, Channel.asking]
  cases hreply : server.reply ⟨v.url, v.params 0 v.offset⟩ ch.session.state with
  | error e => rfl
  | ok page =>
    rw [hreply] at hrange
    simp only [hrange]
    rfl

theorem exists?_of_some {known : Bool} (h : knownExistence? ch.memo = some known) :
    v.exists? server ch = (.ok known, ch) := by
  simp only [exists?, h]

theorem exists?_of_none (h : knownExistence? ch.memo = none) :
    v.exists? server ch = ((v.get server 0 ch).1.map Option.isSome, (v.get server 0 ch).2) := by
  simp only [exists?, h]
  obtain ⟨_ | _, _⟩ := v.get server 0 ch <;> rfl

/-! ## Collecting -/

variable {budget : Nat} (v server budget ch)

theorem channel_collect :
    (v.collect server budget ch).2 =
      (Walk.take v server (budget + 1) (Walk.start v ch.memo) ch).channel := by
  simp only [collect]
  cases (Walk.take v server (budget + 1) (Walk.start v ch.memo) ch).ending <;> rfl

variable {v server budget ch}

/-- What is collected was handed out by a walk that came to the end. -/
theorem collect_eq_ok {rs : List Json} (h : (v.collect server budget ch).1 = some (.ok rs)) :
    (Walk.take v server (budget + 1) (Walk.start v ch.memo) ch).ending = .finished ∧
      (Walk.take v server (budget + 1) (Walk.start v ch.memo) ch).records = rs := by
  simp only [collect] at h
  cases hending : (Walk.take v server (budget + 1) (Walk.start v ch.memo) ch).ending with
  | taken => simp only [hending] at h; contradiction
  | failed e => simp only [hending] at h; cases h
  | finished =>
    simp only [hending, Option.some.injEq, Except.ok.injEq] at h
    exact ⟨rfl, h⟩

end View

/-! ## Operations -/

/-- What can be read through a view. -/
inductive Operation where
  | count
  | existence
  | first
  | get (index : Nat)
  /-- All records, unless there are more than `budget`. -/
  | collect (budget : Nat)
  /-- So many calls of a walk, which is left where it stands then. -/
  | walk (calls : Nat)
deriving DecidableEq, Repr

/-- The outcome of an operation. -/
inductive Answer where
  | number (outcome : Except ClientError (Option Nat))
  | truth (outcome : Except ClientError Bool)
  | record (outcome : Except ClientError (Option Json))
  /-- None, if the records did not come to an end. -/
  | records (outcome : Option (Except ClientError (List Json)))
  | calls (outcomes : List (Except ClientError (Option Json)))

/-- Whether an error is reported. -/
def Answer.isFailure : Answer → Bool
  | .number outcome => !outcome.isOk
  | .truth outcome => !outcome.isOk
  | .record outcome => !outcome.isOk
  | .records outcome => outcome.any fun outcome => !outcome.isOk
  | .calls outcomes => outcomes.any fun outcome => !outcome.isOk

namespace Operation

/-- Carries out an operation. -/
def run (v : View) (server : Server σ) (op : Operation) (ch : Channel σ) : Answer × Channel σ :=
  match op with
  | .count => (v.count server ch).map .number id
  | .existence => (v.exists? server ch).map .truth id
  | .first => (v.first server ch).map .record id
  | .get index => (v.get server index ch).map .record id
  | .collect budget => (v.collect server budget ch).map .records id
  | .walk calls =>
    let called := Walk.calls v server calls (Walk.start v ch.memo) ch
    (.calls called.answers, called.channel)

/-- The number of calls, if the operation is a walk. -/
def calls? : Operation → Option Nat
  | .collect budget => some (budget + 1)
  | .walk calls => some calls
  | .count | .existence | .first | .get _ => none

/-- A walk leaves the channel as its calls do. -/
theorem channel_of_walk {op : Operation} {calls : Nat} (h : op.calls? = some calls) (v : View)
    (server : Server σ) (ch : Channel σ) :
    (op.run v server ch).2 = (Walk.take v server calls (Walk.start v ch.memo) ch).channel := by
  cases op with
  | collect budget =>
    cases h
    exact View.channel_collect v server ch budget
  | walk calls =>
    cases h
    simp only [run, Walk.calls_eq_take]
  | count => contradiction
  | existence => contradiction
  | first => contradiction
  | get index => contradiction

/-- The position of the record, if the operation looks at a single one. -/
def index? : Operation → Option Nat
  | .first | .existence => some 0
  | .get index => some index
  | .count | .collect _ | .walk _ => none

/-- The request, by limit and offset, with which an operation that is no walk asks for what it
does not know. -/
inductive Asks (op : Operation) (v : View) : (limit offset : Nat) → Prop
  | count (h : op = .count) : Asks op v 0 v.offset
  | record {index : Nat} (h : op.index? = some index) (hwindow : ∀ w ∈ v.window, index < w.length) :
    Asks op v 1 (addOffset v.offset index)

/-- What an operation that is no walk can come to. -/
inductive LooksUp (v : View) (server : Server σ) (op : Operation) (ch : Channel σ) :
    Answer × Channel σ → Prop
  /-- The answer is known. -/
  | known {answer : Answer} (hok : answer.isFailure = false) : LooksUp v server op ch (answer, ch)
  /-- One request is made, and the operation fails just if it is not answered. -/
  | asked {answer : Answer} {limit offset : Nat} (hasks : op.Asks v limit offset)
      (hfails : answer.isFailure = true →
        ∃ e, server.reply ⟨v.url, v.params limit offset⟩ ch.session.state = .error e) :
    LooksUp v server op ch (answer, ch.asking server ⟨v.url, v.params limit offset⟩)

/-- Operations that get a record differ in what they tell of it. -/
theorem looksUp_get {op : Operation} {index : Nat} (hindex : op.index? = some index)
    {tell : Except ClientError (Option Json) → Answer}
    (htell : ∀ outcome, (tell outcome).isFailure = !outcome.isOk) (v : View)
    (server : Server σ) (ch : Channel σ) :
    LooksUp v server op ch ((v.get server index ch).map tell id) := by
  cases hknown : ch.memo.records.bind (·[index]?) with
  | some record =>
    rw [View.get_of_some hknown]
    exact .known (htell _)
  | none =>
    cases hpast : v.isPast ch.memo index with
    | true =>
      rw [View.get_of_past hknown hpast]
      exact .known (htell _)
    | false =>
      rw [View.get_of_unknown hknown hpast]
      refine .asked (.record hindex (View.isPast_eq_false_iff.mp hpast).1) fun hfails => ?_
      rw [htell] at hfails
      cases hreply : server.reply ⟨v.url, v.params 1 (addOffset v.offset index)⟩ ch.session.state with
      | error e => exact ⟨e, rfl⟩
      | ok page =>
        rw [hreply] at hfails
        contradiction

/-- An operation that is no walk is answered from memory or by one request. -/
theorem looksUp_run {op : Operation} (h : op.calls? = none) (v : View) (server : Server σ)
    (ch : Channel σ) : LooksUp v server op ch (op.run v server ch) := by
  cases op with
  | count =>
    cases hrange : ch.memo.range with
    | some range =>
      rw [run, View.count_of_some hrange]
      exact .known rfl
    | none =>
      rw [run, View.count_of_none hrange]
      refine .asked (.count rfl) fun hfails => ?_
      cases hreply : server.reply ⟨v.url, v.params 0 v.offset⟩ ch.session.state with
      | error e => exact ⟨e, rfl⟩
      | ok page =>
        rw [hreply] at hfails
        contradiction
  | existence =>
    cases hknown : View.knownExistence? ch.memo with
    | some known =>
      rw [run, View.exists?_of_some hknown]
      exact .known rfl
    | none =>
      rw [run, View.exists?_of_none hknown]
      have htell : ∀ outcome : Except ClientError (Option Json),
          (Answer.truth (outcome.map Option.isSome)).isFailure = !outcome.isOk := by
        rintro (e | record) <;> rfl
      exact looksUp_get rfl htell v server ch
  | first => exact looksUp_get rfl (fun _ => rfl) v server ch
  | get index => exact looksUp_get rfl (fun _ => rfl) v server ch
  | collect budget => contradiction
  | walk calls => contradiction

/-! ## Operations on lists -/

/-- The answers to `n` calls that hand out the records of a list and then tell its end. -/
def callsOf (rs : List Json) (n : Nat) : List (Except ClientError (Option Json)) :=
  (rs.take n).map (fun record => .ok (some record)) ++ List.replicate (n - rs.length) (.ok none)

/-- What an operation on a list of records answers, where `number` is what is said of their
number. -/
def answerOf (rs : List Json) (number : Option Nat) : Operation → Answer
  | .count => .number (.ok number)
  | .existence => .truth (.ok !rs.isEmpty)
  | .first => .record (.ok rs[0]?)
  | .get index => .record (.ok rs[index]?)
  | .collect budget => .records (if rs.length ≤ budget then some (.ok rs) else none)
  | .walk calls => .calls (callsOf rs calls)

/-- A list answers everything. -/
theorem isFailure_answerOf (op : Operation) (rs : List Json) (number : Option Nat) :
    (op.answerOf rs number).isFailure = false := by
  cases op with
  | collect budget =>
    rw [answerOf]
    split <;> rfl
  | walk calls =>
    simp only [answerOf, Answer.isFailure, callsOf, List.any_append, List.any_map,
      List.any_replicate]
    simp [Except.isOk, Except.toBool]
  | count => rfl
  | existence => rfl
  | first => rfl
  | get index => rfl

theorem answers_eq_callsOf {taken : Walk.Taken σ} {rs : List Json} {n : Nat}
    (hrecords : taken.records = rs.take n)
    (hending : taken.ending = if n ≤ rs.length then .taken else .finished) :
    taken.answers n = callsOf rs n := by
  rw [Walk.Taken.answers, callsOf, hrecords, hending]
  by_cases hn : n ≤ rs.length
  · rw [if_pos hn, Nat.sub_eq_zero_of_le hn]
    rfl
  · have hlength : (rs.take n).length = rs.length := by
      rw [List.length_take]
      omega
    have hcalls : n - rs.length = n - rs.length - 1 + 1 := by omega
    rw [if_neg hn, hlength, hcalls, List.replicate_succ]
    rfl

/-- A walk that hands out the records of a list answers as the list does. -/
theorem answer_of_walk {op : Operation} {n : Nat} (h : op.calls? = some n) {v : View}
    {server : Server σ} {ch : Channel σ} {rs : List Json}
    (hrecords : (Walk.take v server n (Walk.start v ch.memo) ch).records = rs.take n)
    (hending : (Walk.take v server n (Walk.start v ch.memo) ch).ending =
      if n ≤ rs.length then .taken else .finished) (number : Option Nat) :
    (op.run v server ch).1 = op.answerOf rs number := by
  cases op with
  | collect budget =>
    cases h
    simp only [run, View.collect, answerOf, hending]
    by_cases hbudget : rs.length ≤ budget
    · rw [if_neg (by omega), if_pos hbudget]
      simp only [hrecords, List.take_of_length_le (by omega : rs.length ≤ budget + 1)]
      rfl
    · rw [if_pos (by omega), if_neg hbudget]
      rfl
  | walk calls =>
    cases h
    simp only [run, Walk.calls_eq_take, answerOf]
    rw [answers_eq_callsOf hrecords hending]
  | count => contradiction
  | existence => contradiction
  | first => contradiction
  | get index => contradiction

/-- A walk that fails is reported. -/
theorem isFailure_of_walk {op : Operation} {n : Nat} (h : op.calls? = some n) {v : View}
    {server : Server σ} {ch : Channel σ} {e : ClientError}
    (hending : (Walk.take v server n (Walk.start v ch.memo) ch).ending = .failed e) :
    (op.run v server ch).1.isFailure = true := by
  cases op with
  | collect budget =>
    cases h
    simp only [run, View.collect, hending]
    rfl
  | walk calls =>
    cases h
    have herror : .error e ∈ (Walk.calls v server n (Walk.start v ch.memo) ch).answers := by
      simp only [Walk.calls_eq_take, Walk.Taken.answers, hending]
      simp [Walk.Ending.answer]
    exact List.any_eq_true.mpr ⟨.error e, herror, rfl⟩
  | count => contradiction
  | existence => contradiction
  | first => contradiction
  | get index => contradiction

end Operation

/-! ## Sequences of operations -/

namespace View

/-- The channel after some operations, one after the other. -/
def channelAfter (v : View) (server : Server σ) (ops : List Operation) (ch : Channel σ) :
    Channel σ :=
  ops.foldl (fun ch op => (op.run v server ch).2) ch

/-- What each operation preserves is preserved by all of them. -/
theorem channelAfter_preserves {v : View} {server : Server σ} {P : Channel σ → Prop}
    {ops : List Operation} (hstep : ∀ op ∈ ops, ∀ ch, P ch → P (op.run v server ch).2)
    {ch : Channel σ} (h : P ch) : P (v.channelAfter server ops ch) := by
  induction ops generalizing ch with
  | nil => exact h
  | cons op ops ih =>
    exact ih (fun op' hop' => hstep op' (List.mem_cons_of_mem op hop'))
      (hstep op List.mem_cons_self ch h)

end View

end PagedQuery
