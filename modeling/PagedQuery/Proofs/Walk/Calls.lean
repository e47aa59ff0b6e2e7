import PagedQuery.Proofs.Walk.Next

/-!
# PagedQuery.Proofs.Walk.Calls

Walks compared with sweeps.  What a walk will still bring is a sweep as well (`rest`): the
records at hand and, while the walk is open, those of the sweep from its position on.  One call
takes one record off the rest, and `exists_brings` says by induction what any number of calls
takes.  The number of requests made up to then is itself the budget of a sweep, the one that
the walk has read so far.
-/

namespace PagedQuery

variable {σ : Type} {v : View} {server : Server σ}

namespace Walk

/-! ## The rest of a walk -/

/-- What a walk will still bring by at most as many requests as the budget allows. -/
def rest (w : Walk) (v : View) (server : Server σ) (budget pages received : Nat) (s : σ) :
    Sweep σ :=
  if w.isClosed then ⟨w.pending, [], .finished, s⟩
  else
    let more := sweep v server budget pages received s
    { more with records := w.pending ++ more.records }

section Rest

variable {w : Walk} {budget pages received : Nat} {s : σ}

theorem rest_of_closed (h : w.isClosed = true) :
    w.rest v server budget pages received s = ⟨w.pending, [], .finished, s⟩ := by
  rw [rest, if_pos h]

/-- An open walk without records at hand is a sweep that has not begun. -/
theorem rest_of_open (hopen : w.isClosed = false) (hpending : w.pending = []) :
    w.rest v server budget pages received s = sweep v server budget pages received s := by
  rw [rest, hopen, hpending]
  rfl

theorem phase_start {memo : Memo} (h : memo.materialized? = none) (v : View) :
    (start v memo).phase = .fresh := by
  rw [start, h]

/-- A walk that is not over known records starts as a sweep that has not begun. -/
theorem rest_start {memo : Memo} (h : memo.materialized? = none) :
    (start v memo).rest v server budget pages received s =
      sweep v server budget pages received s :=
  rest_of_open (by rw [isClosed, phase_start h]) (by rw [pending, phase_start h])

theorem pending_append_drop_rest (w : Walk) (v : View) (server : Server σ)
    (budget pages received : Nat) (s : σ) :
    w.pending ++ (w.rest v server budget pages received s).records.drop w.pending.length =
      (w.rest v server budget pages received s).records := by
  unfold rest
  split <;> simp

theorem requests_rest_zero : (w.rest v server 0 pages received s).requests = [] := by
  unfold rest
  split <;> rfl

theorem state_rest_zero : (w.rest v server 0 pages received s).state = s := by
  unfold rest
  split <;> rfl

theorem drop_rest_zero :
    (w.rest v server 0 pages received s).records.drop w.pending.length = [] := by
  unfold rest
  split <;> simp [sweep_zero]

theorem rest_of_pending {record : Json} {page : List Json} (h : w.pending = record :: page) :
    w.rest v server budget pages received s =
      let more := (w.withPending page).rest v server budget pages received s
      { more with records := record :: more.records } := by
  have hpage : (w.withPending page).pending = page := pending_withPending (by simp [h]) page
  unfold rest
  rw [isClosed_withPending, hpage, h]
  split <;> rfl

/-- A page that was asked for and received is the next page of the sweep. -/
theorem sweep_eq_rest_receive (w : Walk) {f : Fetch} {record : Json} {page : List Json}
    {range : Option ContentRange} (hf : v.nextPage? pages received = some f)
    (hr : server.reply f s = .ok (record :: page, range)) (ch : Channel σ) (budget : Nat) :
    sweep v server (budget + 1) pages received s =
      let more := (w.receive v record page range ch).1.rest v server budget (pages + 1)
        (received + (record :: page).length) (server.after f s)
      { more with records := record :: more.records, requests := f :: more.requests } := by
  have hclosed : (w.receive v record page range ch).1.isClosed =
      range.any ContentRange.isLastPage := rfl
  have hpending : (w.receive v record page range ch).1.pending = page := rfl
  rw [rest, hclosed, hpending]
  cases hlast : range.any ContentRange.isLastPage with
  | true =>
    have hfinal : isFinalPage (record :: page) range = true := by simp [isFinalPage, hlast]
    rw [sweep_of_final hf hr hfinal]
    rfl
  | false =>
    have hmore : isFinalPage (record :: page) range = false := by simp [isFinalPage, hlast]
    rw [sweep_of_more hf hr hmore]
    rfl

end Rest

/-! ## Some calls -/

/-- The records remembered when of the rest of a walk `asked` has been read.  The first page
takes the place of what was remembered before, each later one is put behind it. -/
def remembered (w : Walk) (old : Option (List Json)) (asked : Sweep σ) : Option (List Json) :=
  match w.phase with
  | .fresh => asked.remembered old
  | _ =>
    let new := asked.records.drop w.pending.length
    if new = [] then old else some (old.getD [] ++ new)

/-- If no records came, what is remembered changes only by a first page that had none. -/
theorem remembered_of_nil {w : Walk} {asked : Sweep σ} (hasked : asked.records = [])
    (old : Option (List Json)) :
    w.remembered old asked =
      if w.phase = .fresh ∧ asked.requests ≠ [] ∧ asked.ending = .finished then some []
      else old := by
  obtain ⟨url, phase, nextOffset, count⟩ := w
  cases phase <;> simp [remembered, Sweep.remembered, hasked]

/-- What `n` calls of the walk `w` bring if `whole` is the rest of the walk and `asked` the
part of it that they ask for. -/
structure Brings (w : Walk) (v : View) (n : Nat) (ch : Channel σ) (asked whole : Sweep σ)
    (taken : Taken σ) : Prop where
  /-- The first `n` records are handed out, in the shape of the view. -/
  records : taken.records = (whole.records.take n).map v.shape
  /-- With a call more than there are records the walk ends, as the sweep does. -/
  ending : taken.ending = if n ≤ whole.records.length then .taken else whole.ending
  fetches : taken.channel.session.fetches = ch.session.fetches ++ asked.requests
  state : taken.channel.session.state = asked.state
  remembered : taken.channel.memo.records = w.remembered ch.memo.records asked
  /-- A walk that has ended has asked for all there is. -/
  all : whole.records.length < n → asked = whole

theorem brings_zero (w : Walk) (ch : Channel σ) (pages received : Nat) (whole : Sweep σ) :
    w.Brings v 0 ch (w.rest v server 0 pages received ch.session.state) whole
      (take v server 0 w ch) where
  records := rfl
  ending := by simp [take]
  fetches := by simp [take, requests_rest_zero]
  state := by simp [take, state_rest_zero]
  remembered := by
    unfold Walk.remembered
    split
    · next h =>
      obtain ⟨url, phase, nextOffset, count⟩ := w
      cases h
      rfl
    · simp [take, drop_rest_zero]
  all := fun h => absurd h (Nat.not_lt_zero _)

/-- A call on a walk with records at hand takes the first of them. -/
theorem Brings.cons {w : Walk} {n : Nat} {ch : Channel σ} {record : Json} {page : List Json}
    {asked whole : Sweep σ} (hpending : w.pending = record :: page)
    (h : (w.withPending page).Brings v n ch asked whole
      (take v server n (w.withPending page) ch)) :
    w.Brings v (n + 1) ch { asked with records := record :: asked.records }
      { whole with records := record :: whole.records } (take v server (n + 1) w ch) := by
  have htake : take v server (n + 1) w ch =
      let more := take v server n (w.withPending page) ch
      { more with records := v.shape record :: more.records } := by
    rw [take, next_of_pending hpending]
  rw [htake]
  refine ⟨?_, ?_, h.fetches, h.state, ?_, ?_⟩
  · simp only [h.records, List.take_succ_cons, List.map_cons]
  · simp only [h.ending, List.length_cons, Nat.add_le_add_iff_right]
  · rw [h.remembered]
    obtain ⟨url, phase, nextOffset, count⟩ := w
    cases phase with
    | fresh => contradiction
    | done => contradiction
    | reading page range => cases hpending; rfl
    | replaying page => cases hpending; rfl
  · intro hlt
    rw [h.all (Nat.lt_of_succ_lt_succ hlt)]

/-- A call that ends the walk, where nothing is left. -/
theorem brings_of_end {w w' : Walk} {ch ch' : Channel σ} {whole : Sweep σ} (n : Nat)
    (hending : whole.ending ≠ .taken)
    (hnext : w.next v server ch = (whole.ending.answer, w', ch')) (hrecords : whole.records = [])
    (hfetches : ch'.session.fetches = ch.session.fetches ++ whole.requests)
    (hstate : ch'.session.state = whole.state)
    (hremembered : ch'.memo.records = w.remembered ch.memo.records whole) :
    w.Brings v (n + 1) ch whole whole (take v server (n + 1) w ch) := by
  have htake : take v server (n + 1) w ch = ⟨[], whole.ending, w', ch'⟩ := by
    rw [take, hnext]
    cases hcase : whole.ending with
    | taken => contradiction
    | finished => rfl
    | failed e => rfl
  rw [htake]
  refine ⟨?_, ?_, hfetches, hstate, hremembered, fun _ => rfl⟩
  · simp [hrecords]
  · simp [hrecords]

/-- A page received by a walk is remembered, together with what of the rest is asked for. -/
theorem remembered_receive (v : View) {w : Walk} (record : Json) {page : List Json}
    (range : Option ContentRange) {asked : Sweep σ} (hopen : w.isClosed = false)
    (hpending : w.pending = []) (hasked : page ++ asked.records.drop page.length = asked.records)
    (f : Fetch) (ch : Channel σ) :
    let p := w.receive v record page range ch
    p.1.remembered p.2.memo.records asked = w.remembered ch.memo.records
      { asked with records := record :: asked.records, requests := f :: asked.requests } := by
  have hbehind : ∀ known : List Json,
      (if asked.records.drop page.length = [] then some (known ++ record :: page)
        else some ((known ++ record :: page) ++ asked.records.drop page.length)) =
      some (known ++ record :: asked.records) := by
    intro known
    split
    · next hnone =>
      rw [hnone, List.append_nil] at hasked
      rw [hasked]
    · rw [List.append_assoc, List.cons_append, hasked]
  obtain ⟨url, phase, nextOffset, count⟩ := w
  cases phase with
  | done => contradiction
  | replaying rest => contradiction
  | fresh => exact hbehind []
  | reading rest range' =>
    cases hpending
    exact hbehind (ch.memo.records.getD [])

/-- A call that receives a page takes the first of its records. -/
theorem Brings.receive {w : Walk} {n pages received : Nat} {ch : Channel σ} {f : Fetch}
    {record : Json} {page : List Json} {range : Option ContentRange} {asked whole : Sweep σ}
    (hat : w.At v pages received) (hopen : w.isClosed = false) (hpending : w.pending = [])
    (hf : v.nextPage? pages received = some f)
    (hr : server.reply f ch.session.state = .ok (record :: page, range))
    (hasked : page ++ asked.records.drop page.length = asked.records)
    (h : let p := w.receive v record page range ((w.opening ch).asking server f)
      p.1.Brings v n p.2 asked whole (take v server n p.1 p.2)) :
    w.Brings v (n + 1) ch
      { asked with records := record :: asked.records, requests := f :: asked.requests }
      { whole with records := record :: whole.records, requests := f :: whole.requests }
      (take v server (n + 1) w ch) := by
  have htake : take v server (n + 1) w ch =
      let p := w.receive v record page range ((w.opening ch).asking server f)
      let more := take v server n p.1 p.2
      { more with records := v.shape record :: more.records } := by
    rw [take, next_of_open server hat hopen hpending, hf]
    simp only [hr]
    rfl
  have hmemory := remembered_receive v record range hopen hpending hasked f
    ((w.opening ch).asking server f)
  rw [htake]
  refine ⟨?_, ?_, ?_, h.state, ?_, ?_⟩
  · simp only [h.records, List.take_succ_cons, List.map_cons]
  · simp only [h.ending, List.length_cons, Nat.add_le_add_iff_right]
  · simp only [h.fetches, session_receive, Channel.fetches_asking, session_opening,
      List.append_assoc, List.singleton_append]
  · simp only [h.remembered, hmemory, Channel.records_asking, records_opening]
  · intro hlt
    rw [h.all (Nat.lt_of_succ_lt_succ hlt)]

section Ends

variable {w : Walk} {pages received : Nat} (n : Nat) (ch : Channel σ)

/-- A call on a closed walk without records at hand. -/
theorem brings_of_closed (hclosed : w.isClosed = true) (hpending : w.pending = []) :
    let nothing : Sweep σ := ⟨[], [], .finished, ch.session.state⟩
    w.Brings v (n + 1) ch nothing nothing (take v server (n + 1) w ch) := by
  obtain ⟨complete, hnext⟩ := next_of_closed v server hclosed hpending ch
  refine brings_of_end n (by simp) hnext rfl (by simp) rfl ?_
  simp [remembered_of_nil]

variable (hat : w.At v pages received) (hopen : w.isClosed = false) (hpending : w.pending = [])

include hat hopen hpending

/-- A call on a walk whose window is full. -/
theorem brings_of_full (hf : v.nextPage? pages received = none) :
    let nothing : Sweep σ := ⟨[], [], .finished, ch.session.state⟩
    w.Brings v (n + 1) ch nothing nothing (take v server (n + 1) w ch) := by
  have hnext := next_of_open server hat hopen hpending ch
  rw [hf] at hnext
  exact brings_of_end n (by simp) hnext rfl (by simp) rfl (by simp [remembered_of_nil])

variable {f : Fetch} (hf : v.nextPage? pages received = some f)

include hf

/-- A call whose request fails. -/
theorem brings_of_error {e : ClientError} (hr : server.reply f ch.session.state = .error e) :
    let failure : Sweep σ := ⟨[], [f], .failed e, server.after f ch.session.state⟩
    w.Brings v (n + 1) ch failure failure (take v server (n + 1) w ch) := by
  have hnext := next_of_open server hat hopen hpending ch
  rw [hf] at hnext
  simp only [hr, takeIn] at hnext
  exact brings_of_end n (by simp) hnext rfl (by simp) (by simp) (by simp [remembered_of_nil])

/-- A call that receives a page without records. -/
theorem brings_of_empty {range : Option ContentRange}
    (hr : server.reply f ch.session.state = .ok ([], range)) :
    let nothing : Sweep σ := ⟨[], [f], .finished, server.after f ch.session.state⟩
    w.Brings v (n + 1) ch nothing nothing (take v server (n + 1) w ch) := by
  have hnext := next_of_open server hat hopen hpending ch
  rw [hf] at hnext
  simp only [hr, takeIn] at hnext
  let ended := w.receiveNone range ((w.opening ch).asking server f)
  have hnext : w.next v server ch = (.ok none, ended.1, ended.2) := hnext
  exact brings_of_end n (by simp) hnext rfl (by simp [ended]) (by simp [ended])
    (by simp [remembered_of_nil, ended])

end Ends

/-- Any number of calls that the budget of the rest suffices for brings the beginning of the
rest, by as few requests as can be: what fewer requests bring is not enough for the calls. -/
theorem exists_brings (n : Nat) {w : Walk} {pages received : Nat} (hat : w.At v pages received)
    (ch : Channel σ) (budget : Nat)
    (henough : n ≤ (w.rest v server budget pages received ch.session.state).records.length ∨
      (w.rest v server budget pages received ch.session.state).ending ≠ .taken) :
    ∃ requests ≤ budget,
      w.Brings v n ch (w.rest v server requests pages received ch.session.state)
        (w.rest v server budget pages received ch.session.state) (take v server n w ch) ∧
      ∀ fewer < requests,
        (w.rest v server fewer pages received ch.session.state).records.length < n := by
  induction n generalizing w pages received ch budget with
  | zero =>
    exact ⟨0, Nat.zero_le _, brings_zero w ch pages received _,
      fun fewer h => absurd h (Nat.not_lt_zero _)⟩
  | succ n ih =>
    cases hpending : w.pending with
    | cons record page =>
      -- the walk goes on with one record less at hand
      simp only [rest_of_pending hpending, List.length_cons, Nat.add_le_add_iff_right]
        at henough ⊢
      obtain ⟨requests, hle, hbrings, hfew⟩ := ih (hat.withPending page) ch budget henough
      exact ⟨requests, hle, hbrings.cons hpending, fun fewer h => Nat.succ_lt_succ (hfew fewer h)⟩
    | nil =>
      cases hclosed : w.isClosed with
      | true =>
        simp only [rest_of_closed hclosed, hpending]
        exact ⟨0, Nat.zero_le _, brings_of_closed n ch hclosed hpending,
          fun fewer h => absurd h (Nat.not_lt_zero _)⟩
      | false =>
        simp only [rest_of_open hclosed hpending] at henough ⊢
        obtain _ | budget := budget
        · simp [sweep_zero] at henough
        -- unless a page with records comes, the walk ends with this call
        have hone : ∀ fewer < 1,
            (sweep v server fewer pages received ch.session.state).records.length < n + 1 := by
          intro fewer h
          obtain rfl : fewer = 0 := by omega
          simp [sweep_zero]
        cases hf : v.nextPage? pages received with
        | none =>
          refine ⟨1, by omega, ?_, hone⟩
          rw [sweep_of_full hf, sweep_of_full hf]
          exact brings_of_full n ch hat hclosed hpending hf
        | some f =>
          cases hr : server.reply f ch.session.state with
          | error e =>
            refine ⟨1, by omega, ?_, hone⟩
            rw [sweep_of_error hf hr, sweep_of_error hf hr]
            exact brings_of_error n ch hat hclosed hpending hf hr
          | ok answer =>
            obtain ⟨_ | ⟨record, page⟩, range⟩ := answer
            · refine ⟨1, by omega, ?_, hone⟩
              rw [sweep_of_final hf hr rfl, sweep_of_final hf hr rfl]
              exact brings_of_empty n ch hat hclosed hpending hf hr
            · -- the walk goes on behind the page, with one request less allowed
              obtain ⟨p, hp⟩ :
                ∃ p, w.receive v record page range ((w.opening ch).asking server f) = p :=
                ⟨_, rfl⟩
              have hstate : p.2.session.state = server.after f ch.session.state := by simp [← hp]
              have hpage : p.1.pending = page := by rw [← hp]; rfl
              have hat' : p.1.At v (pages + 1) (received + (record :: page).length) :=
                hp ▸ hat.receive record page range _
              have hsweep := sweep_eq_rest_receive w hf hr ((w.opening ch).asking server f)
              rw [hp, ← hstate] at hsweep
              simp only [hsweep, List.length_cons, Nat.add_le_add_iff_right] at henough ⊢
              obtain ⟨requests, hle, hbrings, hfew⟩ := ih hat' p.2 budget henough
              have hasked := pending_append_drop_rest p.1 v server requests (pages + 1)
                (received + (record :: page).length) p.2.session.state
              rw [hpage] at hasked
              refine ⟨requests + 1, by omega, ?_, ?_⟩
              · rw [hsweep]
                exact Brings.receive hat hclosed hpending hf hr hasked (hp ▸ hbrings)
              · intro fewer hfewer
                obtain _ | fewer := fewer
                · simp [sweep_zero]
                · rw [hsweep]
                  exact Nat.succ_lt_succ (hfew fewer (by omega))

end Walk

end PagedQuery
