import Mathlib.Algebra.GroupWithZero.Nat
import PagedQuery.Server.Script
import PagedQuery.View.Stream

/-!
# PagedQuery.Proofs.Walk.Chunks

Streams compared with walks.  Records taken in several steps are those taken at once
(`Walk.take_add`), and what is taken of a stream is taken of the walk that it owns
(`Stream.take_eq`).  So a stream that is read in chunks gives what one walk gives, whatever the
sizes of the chunks are, and nothing from its end on (`Stream.chunks_follow_walk`).
-/

namespace PagedQuery

variable {σ : Type} {v : View} {server : Server σ}

namespace Walk

/-- Takes up to `n` records more, unless the walk has ended. -/
def Taken.thenTake (first : Taken σ) (v : View) (server : Server σ) (n : Nat) : Taken σ :=
  match first.ending with
  | .taken =>
    let more := take v server n first.walk first.channel
    { more with records := first.records ++ more.records }
  | _ => first

theorem Taken.thenTake_of_taken {first : Taken σ} (h : first.ending = .taken) (n : Nat) :
    first.thenTake v server n =
      let more := Walk.take v server n first.walk first.channel
      { more with records := first.records ++ more.records } := by
  rw [thenTake, h]

theorem Taken.thenTake_of_ended {first : Taken σ} (h : first.ending ≠ .taken) (n : Nat) :
    first.thenTake v server n = first := by
  rw [thenTake]
  split
  · contradiction
  · rfl

/-- Taking goes on where it was left. -/
theorem take_add (m n : Nat) (w : Walk) (ch : Channel σ) :
    take v server (m + n) w ch = (take v server m w ch).thenTake v server n := by
  induction m generalizing w ch with
  | zero => rw [Nat.zero_add]; rfl
  | succ m ih =>
    rw [Nat.succ_add, take, take]
    obtain ⟨e | _ | record, w', ch'⟩ := w.next v server ch
    · rfl
    · rfl
    · simp only [ih w' ch']
      by_cases hending : (take v server m w' ch').ending = .taken
      · rw [Taken.thenTake_of_taken hending, Taken.thenTake_of_taken (by exact hending)]
        rfl
      · rw [Taken.thenTake_of_ended hending, Taken.thenTake_of_ended (by exact hending)]

/-- Behind the end of a walk nothing is taken. -/
theorem take_of_ended {m n : Nat} {w : Walk} {ch : Channel σ}
    (hended : (take v server m w ch).ending ≠ .taken) (hle : m ≤ n) :
    take v server n w ch = take v server m w ch := by
  rw [← Nat.add_sub_of_le hle, take_add, Taken.thenTake_of_ended hended]

end Walk

namespace Stream

/-! ## What is taken at once -/

/-- The stream of a view of which records have been taken. -/
def afterTaken (v : View) (taken : Walk.Taken σ) : Stream :=
  ⟨v, if taken.ending = .taken then some (taken.channel.memo, taken.walk) else none⟩

/-- What is taken of a stream is taken of its walk. -/
theorem take_eq (n : Nat) (v : View) (server : Server σ) (memo : Memo) (w : Walk)
    (session : Session σ) :
    take server n ⟨v, some (memo, w)⟩ session =
      let taken := Walk.take v server n w ⟨memo, session⟩
      (taken.records, taken.ending, afterTaken v taken, taken.channel.session) := by
  induction n generalizing memo w session with
  | zero => rfl
  | succ n ih =>
    cases hnext : w.next v server ⟨memo, session⟩ with
    | mk answer result =>
      obtain ⟨w', ⟨memo', session'⟩⟩ := result
      obtain e | _ | record := answer
      · simp only [take, next, Walk.take, hnext]
        rfl
      · simp only [take, next, Walk.take, hnext]
        rfl
      · simp only [take, next, Walk.take, hnext, ih memo' w' session']
        rfl

/-- A stream that has let go of its view gives nothing and asks for nothing. -/
theorem next_of_ended {s : Stream} (h : s.source = none) (session : Session σ) :
    s.next server session = (none, s, session) := by
  rw [next, h]

theorem take_of_ended {s : Stream} (h : s.source = none) (n : Nat) (session : Session σ) :
    take server n s session = ([], if n = 0 then .taken else .finished, s, session) := by
  cases n with
  | zero => rfl
  | succ n =>
    rw [take, next_of_ended h]
    rfl

/-! ## Chunks -/

/-- What reading a stream in chunks gives: the chunks, why the last one brought no more, and where
stream and session stand then. -/
structure Chunked (σ : Type) where
  chunks : List (List Json)
  ending : Walk.Ending
  stream : Stream
  session : Session σ

/-- Reads chunks of these sizes one after the other, up to the one that is cut short by the end of
the stream. -/
def readChunks (server : Server σ) : List Nat → Stream → Session σ → Chunked σ
  | [], s, session => ⟨[], .taken, s, session⟩
  | n :: sizes, s, session =>
    match s.take server n session with
    | (records, .taken, s, session) =>
      let more := readChunks server sizes s session
      { more with chunks := records :: more.chunks }
    | (records, ending, s, session) => ⟨[records], ending, s, session⟩

/-- The chunks hold the records taken, and stream and session stand where these leave them. -/
structure Chunked.Holds (read : Chunked σ) (v : View) (taken : Walk.Taken σ) : Prop where
  records : read.chunks.flatten = taken.records
  ending : read.ending = taken.ending
  stream : read.stream = afterTaken v taken
  session : read.session = taken.channel.session

/-- Reading chunks is taking as many records as they have together. -/
theorem holds_readChunks (sizes : List Nat) (v : View) (server : Server σ) (memo : Memo)
    (w : Walk) (session : Session σ) :
    (readChunks server sizes ⟨v, some (memo, w)⟩ session).Holds v
      (Walk.take v server sizes.sum w ⟨memo, session⟩) := by
  induction sizes generalizing memo w session with
  | nil => exact ⟨rfl, rfl, rfl, rfl⟩
  | cons n sizes ih =>
    rw [List.sum_cons, Walk.take_add, readChunks, take_eq]
    obtain ⟨records, ending, w', ⟨memo', session'⟩⟩ := Walk.take v server n w ⟨memo, session⟩
    cases ending with
    | finished => exact ⟨List.append_nil _, rfl, rfl, rfl⟩
    | failed e => exact ⟨List.append_nil _, rfl, rfl, rfl⟩
    | taken =>
      obtain ⟨hrecords, hending, hstream, hsession⟩ := ih memo' w' session'
      rw [Walk.Taken.thenTake_of_taken rfl]
      exact ⟨congrArg (records ++ ·) hrecords, hending, hstream, hsession⟩

/-- An ended stream is read without a record and without a request. -/
theorem readChunks_of_ended {s : Stream} (h : s.source = none) (sizes : List Nat)
    (session : Session σ) :
    (readChunks server sizes s session).chunks.flatten = [] ∧
      (readChunks server sizes s session).session = session := by
  induction sizes with
  | nil => exact ⟨rfl, rfl⟩
  | cons n sizes ih =>
    rw [readChunks, take_of_ended h]
    cases n with
    | zero => exact ih
    | succ n => exact ⟨rfl, rfl⟩

/-- A view is read as a stream, in chunks of any sizes, and by one walk, in the same session and
with the same records remembered.  The chunks hold the records of the walk one after the other, and
end as it does, after the same requests, with the session left in the same state: as long as
records come, and so at the end, which is the same for all walks that are long enough and is reached
by all chunks that are.  From its end or its error on the stream gives nothing and asks for nothing,
in whatever session. -/
theorem chunks_follow_walk (v : View) (server : Server σ) (memo : Memo) (session : Session σ)
    (sizes : List Nat) :
    let read := readChunks server sizes (ofView v memo) session
    let walk n := Walk.take v server n (Walk.start v memo) ⟨memo, session⟩
    read.Holds v (walk sizes.sum) ∧
    (∀ n, (walk n).ending ≠ .taken →
      (read.ending ≠ .taken → read.Holds v (walk n)) ∧
      (n ≤ sizes.sum → read.ending ≠ .taken)) ∧
    (read.ending ≠ .taken → ∀ later : Session σ,
      read.stream.next server later = (none, read.stream, later) ∧
      ∀ more : List Nat,
        (readChunks server more read.stream later).chunks.flatten = [] ∧
          (readChunks server more read.stream later).session = later) := by
  intro read walk
  have hread : read.Holds v (walk sizes.sum) :=
    holds_readChunks sizes v server memo (Walk.start v memo) session
  refine ⟨hread, fun n hended => ⟨fun hread_ended => ?_, fun hle => ?_⟩, fun hended later => ?_⟩
  · -- two walks that have ended are the same, whichever has had more calls
    have hsame : walk sizes.sum = walk n := by
      rw [hread.ending] at hread_ended
      obtain hle | hle := Nat.le_total n sizes.sum
      · exact Walk.take_of_ended hended hle
      · exact (Walk.take_of_ended hread_ended hle).symm
    rwa [hsame] at hread
  · rw [hread.ending]
    have hsame : walk sizes.sum = walk n := Walk.take_of_ended hended hle
    rwa [hsame]
  · have hsource : read.stream.source = none := by
      rw [hread.stream, afterTaken, if_neg (by rwa [← hread.ending])]
    exact ⟨next_of_ended hsource later, fun more => readChunks_of_ended hsource more later⟩

/-- A view of which a record of an abandoned walk is remembered, read in chunks of two, of none and
of three.  The second page is short, and the third request fails. -/
theorem chunks_follow_walk_script :
    let v := { View.ofPath "items" with pageSize := 2 }
    let e := ClientError.remote 503 "unavailable"
    let script : Script :=
      [.ok ⟨[.int 1, .int 2], none⟩, .ok ⟨[.int 3], some "items 2-2/9"⟩, .error e,
        .ok ⟨[.int 4], none⟩]
    let memo : Memo := ⟨some [.int 1], false, none⟩
    let server := Script.server none
    let read := readChunks server [2, 0, 3] (ofView v memo) (Session.start script)
    let walk := Walk.take v server 9 (Walk.start v memo) ⟨memo, Session.start script⟩
    read.chunks = [[.int 1, .int 2], [], [.int 3]] ∧ read.ending = .failed e ∧
      walk.records = [.int 1, .int 2, .int 3] ∧ walk.ending = .failed e ∧
      read.session = walk.channel.session ∧
      read.stream.next server walk.channel.session =
        (none, read.stream, walk.channel.session) := by
  intro v e script memo server read walk
  have hread : read.ending = .failed e := by decide
  have hwalk : walk.ending = .failed e := by decide
  obtain ⟨-, hends, hsilent⟩ := chunks_follow_walk v server memo (Session.start script) [2, 0, 3]
  have hholds := (hends 9 (by rw [hwalk]; nofun)).1 (by rw [hread]; nofun)
  have hchunks : read.chunks = [[.int 1, .int 2], [], [.int 3]] := by decide
  refine ⟨hchunks, hread, ?_, hwalk, hholds.session, (hsilent (by rw [hread]; nofun) _).1⟩
  rw [← hholds.records, hchunks]
  rfl

end Stream

end PagedQuery
