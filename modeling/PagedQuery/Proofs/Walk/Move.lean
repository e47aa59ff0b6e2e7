import PagedQuery.Proofs.View.Extent
import PagedQuery.Proofs.Walk.Next

/-!
# PagedQuery.Proofs.Walk.Move

All that one call of a walk can do.  There are six moves, told apart by what the walk has at
hand and by the answer to its request; `move_next` says that every call is one of them.  What
walks preserve is proved by cases on the move, and then by induction on the number of calls.
-/

namespace PagedQuery.Walk

variable {σ : Type}

/-- Whether the next call has to ask for a page, unless there is nothing more to ask for. -/
def isWaiting (w : Walk) : Bool :=
  match w.phase with
  | .fresh | .reading [] _ => true
  | _ => false

/-- The request of a walk for so many records. -/
def request (w : Walk) (v : View) (limit : Nat) : Fetch :=
  ⟨w.url, v.params limit w.nextOffset⟩

theorem pending_of_done {w : Walk} (h : w.phase = .done) : w.pending = [] := by
  rw [pending, h]

theorem pending_of_isWaiting {w : Walk} (h : w.isWaiting = true) : w.pending = [] := by
  obtain ⟨url, _ | ⟨_ | ⟨_, _⟩, _⟩ | _ | _, nextOffset, received⟩ := w <;>
    first | rfl | contradiction

/-- Between the pages of a window there are no gaps, and the window has an end. -/
theorem At.nextOffset_of_window {w : Walk} {v : View} {window : Window} {pages received : Nat}
    (hat : w.At v pages received) (hv : v.IsFramed) (hw : v.window = some window)
    (hwithin : w.received ≤ window.length) : w.nextOffset = v.offset + w.received := by
  have hstart := hv.start_eq window hw
  have hle := hv.start_le window hw
  have hmax := hv.stop_le window hw
  have hlength : window.length = window.stop - window.start := rfl
  have hspan : v.span pages received = w.received := by
    rw [View.span, View.isBounded_of_window hw, if_pos rfl, hat.received]
  rw [hat.nextOffset, View.pageOffset_of_le (by omega), hspan]

/-- The limits that a walk may ask for where it stands: a page size behind an unbounded view's
last page, and no record outside of a window. -/
structure MayAsk (w : Walk) (v : View) (limit : Nat) : Prop where
  pos : 1 ≤ limit
  le : limit ≤ v.pageSize
  whole : v.window = none → limit = v.pageSize
  within : ∀ window ∈ v.window, w.received < window.length ∧
    window.start ≤ w.nextOffset ∧ w.nextOffset + limit ≤ window.stop

theorem At.mayAsk {w : Walk} {v : View} {pages received limit : Nat} (hat : w.At v pages received)
    (hv : v.IsFramed) (h : w.nextLimit? v = some limit) : w.MayAsk v limit := by
  have hp := hv.pageSize_pos
  cases hw : v.window with
  | none =>
    simp only [nextLimit?, hw] at h
    split at h
    · contradiction
    · obtain rfl := Option.some.inj h
      exact ⟨hp, Nat.le_refl _, fun _ => rfl, by simp [hw]⟩
  | some window =>
    have hstart := hv.start_eq window hw
    have hlength : window.length = window.stop - window.start := rfl
    simp only [nextLimit?, hw] at h
    split at h
    · contradiction
    · next hmore =>
      have hmissing : window.length - w.received ≠ 0 := fun hzero => hmore (by simp [hzero])
      have hoffset := hat.nextOffset_of_window hv hw (by omega)
      obtain rfl := Option.some.inj h
      refine ⟨by omega, Nat.min_le_right _ _, by simp [hw], ?_⟩
      rintro _ hsame
      obtain rfl := Option.some.inj (hw.symm.trans hsame)
      omega

/-- One call of a walk, with the answer and with the walk and the channel it leads to. -/
inductive Move (v : View) (server : Server σ) (w : Walk) (ch : Channel σ) :
    Except ClientError (Option Json) × Walk × Channel σ → Prop
  /-- A record at hand is handed out. -/
  | hand {record : Json} {rest : List Json} (hpending : w.pending = record :: rest) :
    Move v server w ch (.ok (some (v.shape record)), w.withPending rest, ch)
  /-- The walk has ended before, or has handed out all records known from the start. -/
  | ended (hphase : w.phase = .done ∨ w.phase = .replaying []) :
    Move v server w ch (.ok none, { w with phase := .done }, ch)
  /-- There is nothing more to ask for. -/
  | close (hwaiting : w.isWaiting = true) (hlimit : w.nextLimit? v = none) :
    Move v server w ch (.ok none, w.finish ch)
  /-- The request fails, or the range of the answer cannot be read. -/
  | fail {limit : Nat} {e : ClientError} (hwaiting : w.isWaiting = true)
      (hlimit : w.nextLimit? v = some limit)
      (hreply : server.reply (w.request v limit) ch.session.state = .error e) :
    Move v server w ch
      (.error e, { w with phase := .done }, (w.opening ch).asking server (w.request v limit))
  /-- The page has no records. -/
  | empty {limit : Nat} {range : Option ContentRange} (hwaiting : w.isWaiting = true)
      (hlimit : w.nextLimit? v = some limit)
      (hreply : server.reply (w.request v limit) ch.session.state = .ok ([], range)) :
    Move v server w ch
      (.ok none, w.receiveNone range ((w.opening ch).asking server (w.request v limit)))
  /-- The first record of the page is handed out. -/
  | page {limit : Nat} {record : Json} {rest : List Json} {range : Option ContentRange}
      (hwaiting : w.isWaiting = true) (hlimit : w.nextLimit? v = some limit)
      (hreply : server.reply (w.request v limit) ch.session.state = .ok (record :: rest, range)) :
    Move v server w ch
      (.ok (some (v.shape record)),
        w.receive v record rest range ((w.opening ch).asking server (w.request v limit)))

theorem next_of_isWaiting {w : Walk} (h : w.isWaiting = true) (v : View) (server : Server σ)
    (ch : Channel σ) :
    w.next v server ch =
      match w.nextLimit? v with
      | some limit => w.load v server limit ch
      | none => (.ok none, w.finish ch) := by
  obtain ⟨url, _ | ⟨_ | ⟨_, _⟩, _⟩ | _ | _, nextOffset, received⟩ := w <;>
    first | rfl | contradiction

/-- A call of a waiting walk closes it or asks for a page. -/
theorem move_of_isWaiting {w : Walk} (h : w.isWaiting = true) (v : View) (server : Server σ)
    (ch : Channel σ) : Move v server w ch (w.next v server ch) := by
  rw [next_of_isWaiting h]
  cases hlimit : w.nextLimit? v with
  | none => exact .close h hlimit
  | some limit =>
    simp only [load_eq]
    cases hreply : server.reply (w.request v limit) ch.session.state with
    | error e =>
      have hmove := Move.fail (v := v) h hlimit hreply
      simp only [request] at hreply hmove
      rwa [hreply]
    | ok answer =>
      obtain ⟨_ | ⟨record, rest⟩, range⟩ := answer
      · have hmove := Move.empty (v := v) h hlimit hreply
        simp only [request] at hreply hmove
        rwa [hreply]
      · have hmove := Move.page (v := v) h hlimit hreply
        simp only [request] at hreply hmove
        rwa [hreply]

/-- Every call is a move. -/
theorem move_next (v : View) (server : Server σ) (w : Walk) (ch : Channel σ) :
    Move v server w ch (w.next v server ch) := by
  obtain ⟨url, phase, nextOffset, received⟩ := w
  cases phase with
  | fresh => exact move_of_isWaiting rfl v server ch
  | reading page range =>
    cases page with
    | nil => exact move_of_isWaiting rfl v server ch
    | cons record rest => exact .hand rfl
  | replaying known =>
    cases known with
    | nil => exact .ended (.inr rfl)
    | cons record rest => exact .hand rfl
  | done => exact .ended (.inl rfl)

/-- A call leaves a walk somewhere on the pages of its view. -/
theorem Move.exists_at {v : View} {server : Server σ} {w : Walk} {ch : Channel σ}
    {result : Except ClientError (Option Json) × Walk × Channel σ} (h : Move v server w ch result)
    (hat : ∃ pages received, w.At v pages received) :
    ∃ pages received, result.2.1.At v pages received := by
  obtain ⟨pages, received, hat⟩ := hat
  cases h with
  | hand => exact ⟨_, _, hat.withPending _⟩
  | page => exact ⟨_, _, hat.receive ..⟩
  | ended => exact ⟨_, _, hat.url, hat.nextOffset, hat.received⟩
  | close => exact ⟨_, _, hat.url, hat.nextOffset, hat.received⟩
  | fail => exact ⟨_, _, hat.url, hat.nextOffset, hat.received⟩
  | empty =>
    refine ⟨pages, received, ?_⟩
    simp only [receiveNone]
    split <;> exact ⟨hat.url, hat.nextOffset, hat.received⟩

end PagedQuery.Walk
