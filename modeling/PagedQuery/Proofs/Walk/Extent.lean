import PagedQuery.Proofs.Replies
import PagedQuery.Proofs.Server.Telling
import PagedQuery.Proofs.Walk.Calls
import PagedQuery.Proofs.Walk.Move

/-!
# PagedQuery.Proofs.Walk.Extent

Walks of a view of a collection, from a server that may fail but tells the truth.  What a walk has
received and what lies behind it make up the records the view stands for (`Walk.Paging`); every
call keeps to this, or fails (`Reads.move`), and so does any number of calls (`Reads.take`).
Memory that agrees with the collection (`Memo.Agrees`) goes on agreeing with it
(`Reads.agrees_take`).  A header that cannot be read is a failure as well, and it is told at which
offset a request failed, and that only some offsets are asked for (`MayReach`).
-/

namespace PagedQuery

variable {σ : Type}

/-! ## Memory -/

/-- A reading that fails, or has a range with a count that is claimed. -/
def TellsCount (claims : List (Option Nat)) : Reading → Prop
  | .error _ => True
  | .ok (_, range) => range.map (fun r => r.count.toNat) ∈ claims

/-- What is remembered of a view is true of the collection: the records are the first ones that
the view stands for, and all of them if they count as such, and the range has a count that is
claimed. -/
structure Memo.Agrees (memo : Memo) (v : View) (R : List Json) (claims : List (Option Nat)) :
    Prop where
  known : ∀ known ∈ memo.records, known <+: v.extent R
  all : memo.complete = true → memo.records.getD [] = v.extent R
  range : ∀ r ∈ memo.range, some r.count.toNat ∈ claims

namespace Memo.Agrees

variable {v : View} {R : List Json} {claims : List (Option Nat)} {memo : Memo}

theorem blank (v : View) (R : List Json) (claims : List (Option Nat)) :
    Memo.blank.Agrees v R claims where
  known := nofun
  all := nofun
  range := nofun

/-- What a reading tells may be remembered of it. -/
theorem noting (h : memo.Agrees v R claims) {reading : Reading}
    (hcount : TellsCount claims reading) : (memo.noting reading).Agrees v R claims where
  known := by rw [Memo.records_noting]; exact h.known
  all := by rw [Memo.records_noting, Memo.complete_noting]; exact h.all
  range := by
    intro r hr
    rw [Memo.range_noting] at hr
    obtain e | ⟨records, _ | r'⟩ := reading
    · exact h.range r hr
    · exact h.range r hr
    · obtain rfl : r' = r := Option.some.inj hr
      exact hcount

end Memo.Agrees

/-! ## Failures -/

/-- The latest request of the channel was for records from `offset` on and failed with `e`. -/
def Channel.FailedAt (ch : Channel σ) (v : View) (server : Server σ) (offset : Nat)
    (e : ClientError) : Prop :=
  ∃ limit s, limit ≤ v.pageSize ∧ offset ≤ maxOffset ∧
    ch.session.fetches.getLast? = some ⟨v.url, v.params limit offset⟩ ∧
    server.reply ⟨v.url, v.params limit offset⟩ s = .error e

/-- A request has failed just now. -/
theorem Channel.failedAt_asking {v : View} {server : Server σ} {limit offset : Nat}
    {e : ClientError} (ch : Channel σ) (hlimit : limit ≤ v.pageSize) (hoffset : offset ≤ maxOffset)
    (hreply : server.reply ⟨v.url, v.params limit offset⟩ ch.session.state = .error e) :
    (ch.asking server ⟨v.url, v.params limit offset⟩).FailedAt v server offset e :=
  ⟨limit, ch.session.state, hlimit, hoffset, by simp, hreply⟩

/-- Where requests for the records of a collection can lead that begin at `first`: behind a page
with a range there are records, unless this is the last page; only without a range, the next request
may be for records behind the end. -/
def MayReach (R : List Json) (claims : List (Option Nat)) (first offset : Nat) : Prop :=
  offset = first ∨ offset < R.length ∨ none ∈ claims

/-! ## Walks -/

namespace Walk

/-- The records received by a walk over pages, as far as it goes by now. -/
def known (w : Walk) (memo : Memo) : List Json :=
  if w.phase = .fresh then [] else memo.records.getD []

/-- A walk over the pages of a view of a collection that has not ended: what it has received and
what lies behind it make up what the view stands for. -/
structure Paging (w : Walk) (v : View) (R : List Json) (claims : List (Option Nat)) (memo : Memo) :
    Prop where
  isPaging : w.phase = .fresh ∨ ∃ page range, w.phase = .reading page range
  /-- No offset on the way has wrapped around. -/
  exists_at : ∃ pages received, w.At v pages received ∧
    w.nextOffset = v.offset + v.span pages received
  reach : w.nextOffset ≤ v.reach R.length
  split : w.known memo ++ v.tail R w.nextOffset = v.extent R
  complete : w.phase ≠ .fresh → memo.complete = false
  last : w.isAtLastPage = true → v.tail R w.nextOffset = []
  asks : w.isAtLastPage = false → MayReach R claims v.offset w.nextOffset

/-- The records that a walk of a view of a collection has left to hand out. -/
inductive Reads (w : Walk) (v : View) (R : List Json) (claims : List (Option Nat)) (memo : Memo) :
    List Json → Prop
  | paging (h : w.Paging v R claims memo) :
    Reads w v R claims memo (w.pending ++ v.tail R w.nextOffset)
  | replaying {rest : List Json} (h : w.phase = .replaying rest) : Reads w v R claims memo rest
  | done (h : w.phase = .done) : Reads w v R claims memo []

section Paging

variable {v : View} {R : List Json} {claims : List (Option Nat)} {w : Walk} {memo : Memo}

theorem paging_start (hv : v.IsFramed) (hfresh : memo.materialized? = none) (R : List Json)
    (claims : List (Option Nat)) : (start v memo).Paging v R claims memo where
  isPaging := .inl (phase_start hfresh v)
  exists_at := ⟨0, 0, at_start v memo, by simp [start, View.span]⟩
  reach := View.offset_le_reach hv R.length
  split := by rw [known, if_pos (phase_start hfresh v)]; rfl
  complete := fun h => absurd (phase_start hfresh v) h
  last := fun h => by rw [isAtLastPage, phase_start hfresh] at h; contradiction
  asks := fun _ => .inl rfl

/-- A new walk has all records left that the view stands for. -/
theorem reads_start (hv : v.IsFramed) (h : memo.Agrees v R claims) :
    (start v memo).Reads v R claims memo (v.extent R) := by
  cases hknown : memo.materialized? with
  | some known =>
    obtain ⟨hcomplete, hrecords⟩ := Memo.materialized?_eq_some_iff.mp hknown
    have hall := h.all hcomplete
    rw [hrecords] at hall
    rw [← hall]
    exact .replaying (by rw [start, hknown]; rfl)
  | none =>
    have hreads := Reads.paging (paging_start hv hknown R claims)
    rwa [pending, phase_start hknown] at hreads

namespace Paging

variable (h : w.Paging v R claims memo)

include h

theorem withPending {record : Json} {rest : List Json} (hpending : w.pending = record :: rest) :
    (w.withPending rest).Paging v R claims memo ∧
      (w.withPending rest).pending = rest ∧ (w.withPending rest).nextOffset = w.nextOffset := by
  obtain ⟨isPaging, ⟨pages, received, hat, hoffset⟩, hreach, hsplit, hcomplete, hlast, hasks⟩ := h
  have hat' := hat.withPending rest
  obtain ⟨url, phase, nextOffset, count⟩ := w
  obtain hphase | ⟨page, range, hphase⟩ := isPaging
  · cases hphase
    contradiction
  · cases hphase
    exact ⟨⟨.inr ⟨rest, range, rfl⟩, ⟨pages, received, hat', hoffset⟩, hreach, hsplit,
      fun _ => hcomplete (by simp), by cases range <;> exact hlast, by cases range <;> exact hasks⟩,
      rfl, rfl⟩

/-- Where nothing lies behind, all records that the view stands for are remembered. -/
theorem known_eq (hagrees : memo.Agrees v R claims) (hend : v.tail R w.nextOffset = []) :
    w.known memo = v.extent R ∧ memo.records.getD [] = v.extent R := by
  have hall := h.split
  rw [hend, List.append_nil] at hall
  refine ⟨hall, ?_⟩
  rw [known] at hall
  split at hall
  · -- before the first page there is nothing that could be remembered
    have hknown := hagrees.known
    rw [← hall] at hknown ⊢
    cases hrecords : memo.records with
    | none => rfl
    | some records => exact List.prefix_nil.mp (hknown records hrecords)
  · exact hall

theorem tail_of_closed (hlimit : w.nextLimit? v = none) (hv : v.IsFramed) :
    v.tail R w.nextOffset = [] := by
  by_cases hlast : w.isAtLastPage = true
  · exact h.last hlast
  · obtain ⟨pages, received, hat, hoffset⟩ := h.exists_at
    cases hw : v.window with
    | none => simp [nextLimit?, hw, hlast] at hlimit
    | some window =>
      have hstart := hv.start_eq window hw
      have hstop := hv.start_le window hw
      have hlength : window.length = window.stop - window.start := rfl
      have hspan : v.span pages received = w.received := by
        rw [View.span, View.isBounded_of_window hw, if_pos rfl, hat.received]
      have hfull : window.length - w.received = 0 := by
        simp only [nextLimit?, hw] at hlimit
        split at hlimit
        · next hnone => simpa [hlast] using hnone
        · contradiction
      exact View.tail_of_stop_le hw (by omega)

section Asking

variable {server : Server σ} {limit : Nat} {s : σ} (hv : v.IsFramed)
  (hmax : v.reach R.length ≤ maxOffset) (hlimit : w.nextLimit? v = some limit)

include hv hmax hlimit

/-- What is read at the request of a walk is true. -/
theorem tells (hserver : server.Tells v R claims) {records : List Json}
    {range : Option ContentRange}
    (hreply : server.reply (w.request v limit) s = .ok (records, range)) :
    w.MayAsk v limit ∧ v.Tells R claims limit w.nextOffset records range := by
  obtain ⟨pages, received, hat, -⟩ := h.exists_at
  have hasks := hat.mayAsk hv hlimit
  rw [request, hat.url] at hreply
  exact ⟨hasks, hserver _ _ _ _ _ hasks.le (Nat.le_trans h.reach hmax) hreply⟩

/-- A request of a walk may fail where the walk may ask. -/
theorem failedAt {ch : Channel σ} {e : ClientError}
    (hreply : server.reply (w.request v limit) ch.session.state = .error e) :
    MayReach R claims v.offset w.nextOffset ∧
      ((w.opening ch).asking server (w.request v limit)).FailedAt v server w.nextOffset e := by
  obtain ⟨pages, received, hat, -⟩ := h.exists_at
  refine ⟨h.asks ?_, ?_⟩
  · rw [← Bool.not_eq_true]
    intro hlast
    simp only [nextLimit?, hlast] at hlimit
    cases hw : v.window <;> simp [hw] at hlimit
  · rw [request, hat.url] at hreply ⊢
    exact Channel.failedAt_asking _ (hat.mayAsk hv hlimit).le (Nat.le_trans h.reach hmax)
      (by rwa [session_opening])

end Asking

/-- A page leaves the walk not further than it can reach. -/
theorem reach_receive (hv : v.IsFramed) {limit : Nat} {records : List Json}
    {range : Option ContentRange} (hasks : w.MayAsk v limit)
    (htells : v.Tells R claims limit w.nextOffset records range) (hsome : records ≠ []) :
    w.nextOffset + (if v.isBounded then records.length else v.pageSize) ≤ v.reach R.length := by
  have hlength := htells.begins.length_le
  rw [List.length_take, List.length_drop] at hlength
  cases hw : v.window with
  | some window =>
    obtain ⟨_, _, hstop⟩ := hasks.within window hw
    rw [View.reach_of_window hw, View.isBounded_of_window hw, if_pos rfl]
    omega
  | none =>
    have hpos := List.length_pos_iff.mpr hsome
    obtain ⟨pages, received, hat, hoffset⟩ := h.exists_at
    have hunbounded : ¬ v.isBounded = true := by simp [View.isBounded_of_unbounded hw]
    rw [View.span, if_neg hunbounded] at hoffset
    rw [if_neg hunbounded]
    -- the page has records, so that it is one of those that are counted
    have hmore : ¬ v.pageCount R.length ≤ pages := by
      rw [View.pageCount_le_iff hv.pageSize_pos]
      omega
    have hpages := Nat.mul_le_mul_right v.pageSize (Nat.lt_of_not_le hmore)
    rw [View.reach_of_unbounded hw, hoffset, Nat.add_assoc, ← Nat.succ_mul]
    exact Nat.add_le_add_left hpages _

/-- A walk goes on behind a page with records. -/
theorem receive (hv : v.IsFramed) (hmax : v.reach R.length ≤ maxOffset) {limit : Nat}
    {record : Json} {rest : List Json} {range : Option ContentRange} (hasks : w.MayAsk v limit)
    (htells : v.Tells R claims limit w.nextOffset (record :: rest) range) {ch : Channel σ}
    (hrecords : ch.memo.records = memo.records) (hcomplete : ch.memo.complete = false) :
    let p := w.receive v record rest range ch
    p.1.Paging v R claims p.2.memo ∧ p.2.memo.records = some (w.known memo ++ record :: rest) ∧
      record :: (rest ++ v.tail R p.1.nextOffset) = v.tail R w.nextOffset := by
  intro p
  have hsplit := htells.append_tail hasks.whole fun window hw => (hasks.within window hw).2.2
  have hreach := h.reach_receive hv hasks htells (by simp)
  have hnext : p.1.nextOffset =
      w.nextOffset + if v.isBounded then (record :: rest).length else v.pageSize :=
    addOffset_of_le (Nat.le_trans hreach hmax)
  rw [← hnext] at hsplit hreach
  have hknown : p.2.memo.records = some (w.known memo ++ record :: rest) := by
    rw [known, ← hrecords]
    rfl
  refine ⟨⟨.inr ⟨rest, range, rfl⟩, ?_, hreach, ?_, fun _ => hcomplete, fun hlast => ?_,
    fun hmore => ?_⟩, hknown, hsplit⟩
  · obtain ⟨pages, received, hat, hoffset⟩ := h.exists_at
    exact ⟨_, _, hat.receive record rest range ch,
      by rw [hnext, hoffset, View.span_succ, Nat.add_assoc]⟩
  · have hpage : p.1.known p.2.memo = w.known memo ++ record :: rest := by
      rw [known, hknown, if_neg (by simp [p, Walk.receive])]
      rfl
    rw [hpage, List.append_assoc, ← h.split, ← hsplit]
  · cases range with
    | none => contradiction
    | some r =>
      rw [hnext]
      exact htells.tail_of_last hasks.le (by simp) rfl hlast
  · cases range with
    | none => exact .inr (.inr htells.count)
    | some r =>
      rw [hnext]
      exact .inr (.inl (htells.lt_length_of_not_last hasks.whole (by simp) rfl hmore))

end Paging

end Paging

/-! ## One call -/

section Calls

variable {v : View} {R : List Json} {claims : List (Option Nat)} {server : Server σ}

/-- What a call of a walk comes to that has the records `rs` left: the next of them, or the end if
there are none, unless a request fails. -/
inductive Gives (v : View) (R : List Json) (claims : List (Option Nat)) (server : Server σ) :
    List Json → Except ClientError (Option Json) × Walk × Channel σ → Prop
  | record {record : Json} {rest : List Json} {w : Walk} {ch : Channel σ}
      (h : w.Reads v R claims ch.memo rest) :
      Gives v R claims server (record :: rest) (.ok (some (v.shape record)), w, ch)
  | none {w : Walk} {ch : Channel σ} : Gives v R claims server [] (.ok none, w, ch)
  | error {rs : List Json} {e : ClientError} {w : Walk} {ch : Channel σ} {offset : Nat}
      (hreach : MayReach R claims v.offset offset) (hfailed : ch.FailedAt v server offset e) :
      Gives v R claims server rs (.error e, w, ch)

variable {w : Walk} {ch : Channel σ} {rs : List Json}

theorem Reads.paging_of_isWaiting (h : w.Reads v R claims ch.memo rs) (hwaiting : w.isWaiting = true) :
    w.Paging v R claims ch.memo ∧ rs = v.tail R w.nextOffset := by
  cases h with
  | paging h => exact ⟨h, by rw [pending_of_isWaiting hwaiting]; rfl⟩
  | replaying h => rw [isWaiting, h] at hwaiting; contradiction
  | done h => rw [isWaiting, h] at hwaiting; contradiction

/-- From its first request on, a walk remembers the records as incomplete. -/
theorem complete_asking_of_paging (hpaging : w.Paging v R claims ch.memo) (server : Server σ)
    (f : Fetch) : ((w.opening ch).asking server f).memo.complete = false := by
  rw [Channel.complete_asking, complete_opening]
  by_cases hfresh : w.phase = .fresh
  · rw [if_pos hfresh]
  · rw [if_neg hfresh, hpaging.complete hfresh]

section Move

variable (hv : v.IsFramed) (hmax : v.reach R.length ≤ maxOffset)
  (hserver : server.Tells v R claims) (h : w.Reads v R claims ch.memo rs)

include hv hmax hserver h

/-- A call of a walk gives the next record or the end, unless its request fails. -/
theorem Reads.move {result : Except ClientError (Option Json) × Walk × Channel σ}
    (hmove : Move v server w ch result) : Gives v R claims server rs result := by
  cases hmove with
  | @hand record rest hpending =>
    cases h with
    | paging h =>
      obtain ⟨hpaging, hrest, hoffset⟩ := h.withPending hpending
      have hreads := Reads.paging hpaging
      rw [hrest, hoffset] at hreads
      rw [hpending]
      exact .record hreads
    | replaying h =>
      rw [pending, h] at hpending
      obtain rfl := hpending
      exact .record (.replaying (by rw [withPending, h]))
    | done h =>
      rw [pending_of_done h] at hpending
      contradiction
  | ended hphase =>
    cases h with
    | paging h =>
      obtain hpaging | ⟨page, range, hpaging⟩ := h.isPaging <;>
        simp [hpaging] at hphase
    | replaying h =>
      obtain rfl : rs = [] := by simpa [h] using hphase
      exact .none
    | done h => exact .none
  | close hwaiting hlimit =>
    obtain ⟨hpaging, rfl⟩ := h.paging_of_isWaiting hwaiting
    rw [hpaging.tail_of_closed hlimit hv]
    exact .none
  | fail hwaiting hlimit hreply =>
    obtain ⟨hpaging, rfl⟩ := h.paging_of_isWaiting hwaiting
    obtain ⟨hreach, hfailed⟩ := hpaging.failedAt hv hmax hlimit hreply
    exact .error hreach hfailed
  | empty hwaiting hlimit hreply =>
    obtain ⟨hpaging, rfl⟩ := h.paging_of_isWaiting hwaiting
    obtain ⟨hasks, htells⟩ := hpaging.tells hv hmax hlimit hserver hreply
    rw [htells.tail_of_nil hasks.pos]
    exact .none
  | @page limit record rest range hwaiting hlimit hreply =>
    obtain ⟨hpaging, rfl⟩ := h.paging_of_isWaiting hwaiting
    obtain ⟨hasks, htells⟩ := hpaging.tells hv hmax hlimit hserver hreply
    have hcomplete := complete_asking_of_paging hpaging server (w.request v limit)
    obtain ⟨hpaging', -, hsplit⟩ := hpaging.receive hv hmax hasks htells (by simp) hcomplete
    rw [← hsplit]
    exact .record (.paging hpaging')

/-- Any number of calls give the records that are left, and then the end, unless a request
fails. -/
theorem Reads.take (n : Nat) :
    let taken := Walk.take v server n w ch
    taken.records = (rs.take n).map v.shape ∧
        taken.ending = (if n ≤ rs.length then .taken else .finished) ∨
      ∃ e offset, taken.ending = .failed e ∧ MayReach R claims v.offset offset ∧
        taken.channel.FailedAt v server offset e := by
  induction n generalizing w ch rs with
  | zero => exact .inl ⟨rfl, rfl⟩
  | succ n ih =>
    have hgives := h.move hv hmax hserver (move_next v server w ch)
    rw [Walk.take]
    generalize w.next v server ch = result at hgives
    cases hgives with
    | record hrest =>
      obtain ⟨hrecords, hending⟩ | hfailed := ih hrest
      · refine .inl ⟨?_, ?_⟩
        · simp only [hrecords, List.take_succ_cons, List.map_cons]
        · simp only [hending, List.length_cons, Nat.add_le_add_iff_right]
      · exact .inr hfailed
    | none => exact .inl ⟨rfl, rfl⟩
    | error hreach hfailed => exact .inr ⟨_, _, rfl, hreach, hfailed⟩

end Move

/-! ## Memory of a walk -/

/-- The memory of a walk that has asked for a page, if the answer has a count that is claimed. -/
theorem agrees_asking (hagrees : ch.memo.Agrees v R claims)
    (hpaging : w.Paging v R claims ch.memo)
    {f : Fetch} (hcount : TellsCount claims (server.reply f ch.session.state)) :
    ((w.opening ch).asking server f).memo.Agrees v R claims where
  known := by
    rw [Channel.records_asking, records_opening]
    exact hagrees.known
  all := fun h => by
    rw [complete_asking_of_paging hpaging] at h
    contradiction
  range := by
    have hnoting := hagrees.noting hcount
    intro r hr
    refine hnoting.range r ?_
    rw [Channel.asking, Memo.range_noting, range_opening, session_opening] at hr
    rwa [Memo.range_noting]

/-- The memory of a walk that has received a page without records where nothing is left. -/
theorem agrees_receiveNone {memo : Memo} (hagrees : ch.memo.Agrees v R claims)
    (hrecords : ch.memo.records = memo.records) (hknown : w.known memo = v.extent R)
    (hall : memo.records.getD [] = v.extent R) (range : Option ContentRange) :
    (w.receiveNone range ch).2.memo.Agrees v R claims where
  known := by
    rw [records_receiveNone]
    split
    · rintro _ ⟨⟩
      exact List.nil_prefix
    · exact hagrees.known
  all := fun _ => by
    rw [records_receiveNone]
    split
    · next hfresh => rwa [known, if_pos hfresh] at hknown
    · rwa [hrecords]
  range := by
    rw [range_receiveNone]
    exact hagrees.range

section MoveMemory

variable (hv : v.IsFramed) (hmax : v.reach R.length ≤ maxOffset)
  (hserver : server.Tells v R claims)

include hv hmax hserver

/-- A call of a walk keeps memory in agreement with the collection. -/
theorem Reads.agrees_move (hagrees : ch.memo.Agrees v R claims)
    (h : w.Reads v R claims ch.memo rs)
    {result : Except ClientError (Option Json) × Walk × Channel σ}
    (hmove : Move v server w ch result) : result.2.2.memo.Agrees v R claims := by
  cases hmove with
  | hand => exact hagrees
  | ended => exact hagrees
  | close hwaiting hlimit =>
    obtain ⟨hpaging, -⟩ := h.paging_of_isWaiting hwaiting
    obtain ⟨-, hall⟩ := hpaging.known_eq hagrees (hpaging.tail_of_closed hlimit hv)
    exact ⟨hagrees.known, fun _ => hall, hagrees.range⟩
  | fail hwaiting hlimit hreply =>
    obtain ⟨hpaging, -⟩ := h.paging_of_isWaiting hwaiting
    exact agrees_asking hagrees hpaging (by rw [hreply]; trivial)
  | @empty limit range hwaiting hlimit hreply =>
    obtain ⟨hpaging, -⟩ := h.paging_of_isWaiting hwaiting
    obtain ⟨hasks, htells⟩ := hpaging.tells hv hmax hlimit hserver hreply
    have hagrees' := agrees_asking hagrees hpaging (by rw [hreply]; exact htells.count)
    obtain ⟨hknown, hall⟩ := hpaging.known_eq hagrees (htells.tail_of_nil hasks.pos)
    exact agrees_receiveNone hagrees' (by simp) hknown hall range
  | @page limit record rest range hwaiting hlimit hreply =>
    obtain ⟨hpaging, -⟩ := h.paging_of_isWaiting hwaiting
    obtain ⟨hasks, htells⟩ := hpaging.tells hv hmax hlimit hserver hreply
    have hagrees' := agrees_asking hagrees hpaging (by rw [hreply]; exact htells.count)
    have hcomplete := complete_asking_of_paging hpaging server (w.request v limit)
    obtain ⟨-, hrecords, hsplit⟩ := hpaging.receive hv hmax hasks htells (by simp) hcomplete
    refine ⟨?_, fun h => absurd (h.symm.trans hcomplete) (by simp), hagrees'.range⟩
    rw [hrecords]
    rintro _ ⟨⟩
    rw [← hpaging.split, ← hsplit]
    exact ⟨_, List.append_assoc ..⟩

theorem Reads.agrees_take (n : Nat) (hagrees : ch.memo.Agrees v R claims)
    (h : w.Reads v R claims ch.memo rs) :
    (Walk.take v server n w ch).channel.memo.Agrees v R claims := by
  induction n generalizing w ch rs with
  | zero => exact hagrees
  | succ n ih =>
    have hmove := move_next v server w ch
    have hagrees' := h.agrees_move hv hmax hserver hagrees hmove
    have hgives := h.move hv hmax hserver hmove
    rw [Walk.take]
    generalize w.next v server ch = result at hgives hagrees'
    cases hgives with
    | record hrest => exact ih hagrees' hrest
    | none => exact hagrees'
    | error => exact hagrees'

end MoveMemory

end Calls

end Walk

end PagedQuery
