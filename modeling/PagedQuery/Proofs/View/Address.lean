import PagedQuery.Proofs.View.Operation
import PagedQuery.Proofs.Walk.Trace

/-!
# PagedQuery.Proofs.View.Address

Where a view is asked for.  A call of a walk asks at the address of the walk (`Walk.Move.asksAt`),
which is that of the view from the start; so does every other operation, and so do any number of
them (`View.asksAt_channelAfter`).
-/

namespace PagedQuery

variable {σ : Type} {v : View} {server : Server σ}

/-- The channel comes of the other one by requests for pages at one address. -/
def Channel.AsksAt (ch : Channel σ) (server : Server σ) (before : Channel σ) (url : String) : Prop :=
  ∃ requests, ch.Follows server before requests ∧ ∀ f ∈ requests, f.url = url

namespace Channel.AsksAt

variable {ch ch' before : Channel σ} {url : String}

theorem refl (server : Server σ) (ch : Channel σ) (url : String) : ch.AsksAt server ch url :=
  ⟨[], .refl server ch, nofun⟩

theorem trans (h : ch.AsksAt server before url) (h' : ch'.AsksAt server ch url) :
    ch'.AsksAt server before url := by
  obtain ⟨requests, hfollows, hurl⟩ := h
  obtain ⟨more, hmore, hurl'⟩ := h'
  refine ⟨requests ++ more, hfollows.trans hmore, fun f hf => ?_⟩
  obtain hf | hf := List.mem_append.mp hf
  · exact hurl f hf
  · exact hurl' f hf

end Channel.AsksAt

namespace Walk

@[simp] theorem url_withPending (w : Walk) (rest : List Json) : (w.withPending rest).url = w.url := by
  obtain ⟨url, phase, nextOffset, received⟩ := w
  cases phase <;> rfl

@[simp] theorem url_receiveNone (w : Walk) (range : Option ContentRange) (ch : Channel σ) :
    (w.receiveNone range ch).1.url = w.url := by
  unfold receiveNone
  split <;> rfl

/-- The request of a walk is made at its address. -/
theorem asksAt_opening (w : Walk) (v : View) (server : Server σ) (limit : Nat) (ch : Channel σ) :
    ((w.opening ch).asking server (w.request v limit)).AsksAt server ch w.url :=
  ⟨[w.request v limit], follows_opening (.refl server ch) w _, by simp [request]⟩

/-- A call asks at the address of the walk, and keeps to it. -/
theorem Move.asksAt {w : Walk} {ch : Channel σ}
    {result : Except ClientError (Option Json) × Walk × Channel σ} (h : Move v server w ch result) :
    result.2.1.url = w.url ∧ result.2.2.AsksAt server ch w.url := by
  cases h with
  | hand => exact ⟨url_withPending w _, .refl server ch w.url⟩
  | ended => exact ⟨rfl, .refl server ch w.url⟩
  | close =>
    exact ⟨rfl, [], Channel.Follows.congr (.refl server ch) rfl rfl rfl, nofun⟩
  | fail => exact ⟨rfl, asksAt_opening w v server _ ch⟩
  | @empty limit =>
    obtain ⟨requests, hfollows, hurl⟩ := asksAt_opening w v server limit ch
    exact ⟨url_receiveNone .., requests, hfollows.congr (by simp) (by simp) (by simp), hurl⟩
  | @page limit =>
    obtain ⟨requests, hfollows, hurl⟩ := asksAt_opening w v server limit ch
    exact ⟨rfl, requests, hfollows.congr rfl rfl rfl, hurl⟩

/-- So do any number of calls. -/
theorem asksAt_take (n : Nat) (w : Walk) (ch : Channel σ) :
    (take v server n w ch).channel.AsksAt server ch w.url := by
  induction n generalizing w ch with
  | zero => exact .refl server ch w.url
  | succ n ih =>
    obtain ⟨hurl, hasks⟩ := (move_next v server w ch).asksAt
    rw [take]
    generalize w.next v server ch = result at hurl hasks
    obtain ⟨e | _ | record, w', ch'⟩ := result
    · exact hasks
    · exact hasks
    · exact hasks.trans (hurl ▸ ih w' ch')

end Walk

/-- An operation asks at the address of the view. -/
theorem Operation.asksAt (op : Operation) (v : View) (server : Server σ) (ch : Channel σ) :
    (op.run v server ch).2.AsksAt server ch v.url := by
  cases hcalls : op.calls? with
  | some n =>
    rw [channel_of_walk hcalls]
    exact Walk.asksAt_take n (Walk.start v ch.memo) ch
  | none =>
    have hlook := looksUp_run hcalls v server ch
    generalize op.run v server ch = result at hlook ⊢
    cases hlook with
    | known => exact .refl server ch v.url
    | asked => exact ⟨[_], Channel.Follows.asking (.refl server ch) _, by simp⟩

/-- So do some operations, one after the other. -/
theorem View.asksAt_channelAfter (v : View) (server : Server σ) (ops : List Operation)
    (ch : Channel σ) : (v.channelAfter server ops ch).AsksAt server ch v.url :=
  channelAfter_preserves (P := fun after => after.AsksAt server ch v.url)
    (fun op _ before hbefore => hbefore.trans (op.asksAt v server before)) (.refl server ch v.url)

end PagedQuery
