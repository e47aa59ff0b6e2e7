import PagedQuery.Proofs.Walk.Calls
import PagedQuery.View.Read

/-!
# PagedQuery.Proofs.Walk.Collect

Collecting all records is a sweep, if the sweep comes to an end or to an error.
-/

namespace PagedQuery

variable {σ : Type}

/-- What a sweep collects, unless it was stopped by its budget. -/
def Sweep.collected (sweep : Sweep σ) (v : View) : Option (Except ClientError (List Json)) :=
  match sweep.ending with
  | .taken => none
  | .finished => some (.ok (sweep.records.map v.shape))
  | .failed e => some (.error e)

variable {v : View} {server : Server σ} (ch : Channel σ)
  (hfresh : ch.memo.materialized? = none) {budget : Nat}

include hfresh

/-- Calls enough for all records of a sweep that ends bring all of it. -/
theorem Walk.brings_of_ended
    (hended : (sweep v server budget 0 0 ch.session.state).ending ≠ .taken) {n : Nat}
    (hn : (sweep v server budget 0 0 ch.session.state).records.length < n) :
    (start v ch.memo).Brings v n ch (sweep v server budget 0 0 ch.session.state)
      (sweep v server budget 0 0 ch.session.state) (take v server n (start v ch.memo) ch) := by
  rw [← rest_start hfresh] at hended hn ⊢
  obtain ⟨requests, _, hbrings, _⟩ :=
    exists_brings n (at_start v ch.memo) ch budget (.inr hended)
  rwa [hbrings.all hn] at hbrings

/-- When a sweep ends, what it brings is collected, by its requests. -/
theorem View.collect_of_ended
    (hended : (sweep v server budget 0 0 ch.session.state).ending ≠ .taken) (n : Nat)
    (hn : (sweep v server budget 0 0 ch.session.state).records.length ≤ n) :
    ∃ ch', v.collect server n ch =
        ((sweep v server budget 0 0 ch.session.state).collected v, ch') ∧
      ch'.session.fetches =
        ch.session.fetches ++ (sweep v server budget 0 0 ch.session.state).requests := by
  have hbrings := Walk.brings_of_ended ch hfresh hended (Nat.lt_succ_of_le hn)
  have hending := hbrings.ending
  rw [if_neg (by omega)] at hending
  have hrecords := hbrings.records
  rw [List.take_of_length_le (by omega)] at hrecords
  refine ⟨(Walk.take v server (n + 1) (Walk.start v ch.memo) ch).channel, ?_, hbrings.fetches⟩
  rw [View.collect, Sweep.collected]
  cases hcase : (sweep v server budget 0 0 ch.session.state).ending with
  | taken => contradiction
  | finished => simp only [hending, hcase, hrecords]
  | failed e => simp only [hending, hcase]

/-- When a sweep comes to the end of the records, they are collected. -/
theorem View.collect_of_finished
    (hfinished : (sweep v server budget 0 0 ch.session.state).ending = .finished) (n : Nat)
    (hn : (sweep v server budget 0 0 ch.session.state).records.length ≤ n) :
    (v.collect server n ch).1 =
      some (.ok ((sweep v server budget 0 0 ch.session.state).records.map v.shape)) := by
  obtain ⟨ch', hcollect, -⟩ :=
    View.collect_of_ended ch hfresh (by rw [hfinished]; nofun) n hn
  rw [hcollect, Sweep.collected, hfinished]

end PagedQuery
