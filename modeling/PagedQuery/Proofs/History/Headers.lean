import PagedQuery.Proofs.History.Ranges
import PagedQuery.Proofs.RangeText

/-!
# PagedQuery.Proofs.History.Headers

Which range headers let a walk go on.  A walk that is under way stands on the page of the latest
answer (`Walk.UnderWay`).  Once its records are handed out, the range that came with it decides
whether another page is asked for (`Walk.UnderWay.fetches_next`): the range says so by its count, as
far as counts are signed words (`header_decides_next_page`).  A count that is larger ends the walk
(`header_loses_records`).
-/

namespace PagedQuery

variable {σ : Type} {v : View} {server : Server σ}

namespace Server

/-- What requests bring is read out of the answers to them. -/
theorem replies_eq_map (server : Server σ) (fs : List Fetch) (s : σ) :
    server.replies fs s = (server.answers fs s).map fun answer => answer.bind Page.read := by
  induction fs generalizing s with
  | nil => rfl
  | cons f fs ih =>
    rw [replies, answers, List.map_cons, ih, reply]

/-- A latest answer with a range header brings its records with this range. -/
theorem getLast?_replies {fs : List Fetch} {s : σ} {page : Page} {header : String}
    {r : ContentRange} (hlast : (server.answers fs s).getLast? = some (.ok page))
    (hheader : page.contentRange = some header) (hrange : ContentRange.ofText? header = some r) :
    (server.replies fs s).getLast? = some (.ok (page.records, some r)) := by
  have hread : Page.read page = .ok (page.records, some r) := by
    simp only [Page.read, hheader, hrange]
  rw [replies_eq_map, List.getLast?_map, hlast]
  exact congrArg some hread

end Server

namespace Walk

/-! ## Walks under way -/

/-- The walk has made some requests from the channel `before` on, has handed out `handed` records
and has not ended: each request has brought a page, and it stands on the last one. -/
structure UnderWay (v : View) (server : Server σ) (before : Channel σ) (requests : List Fetch)
    (handed : Nat) (w : Walk) (ch : Channel σ) : Prop where
  follows : ch.Follows server before requests
  position : w.At v requests.length
    (receivedPages (server.replies requests before.session.state)).flatten.length
  handed : handed + w.pending.length =
    (receivedPages (server.replies requests before.session.state)).flatten.length
  stands : w.phase = .fresh ∧ requests = [] ∨
    ∃ records page range, w.phase = .reading page range ∧
      (server.replies requests before.session.state).getLast? = some (.ok (records, range))

theorem underWay_start (v : View) (server : Server σ) {ch : Channel σ}
    (hfresh : ch.memo.materialized? = none) : UnderWay v server ch [] 0 (start v ch.memo) ch where
  follows := .refl server ch
  position := at_start v ch.memo
  handed := by rw [pending, phase_start hfresh]; rfl
  stands := .inl ⟨phase_start hfresh v, rfl⟩

namespace UnderWay

variable {before ch : Channel σ} {requests : List Fetch} {handed : Nat} {w : Walk}

/-- A record of the page is handed out. -/
theorem hand (h : UnderWay v server before requests handed w ch) {record : Json}
    {rest : List Json} (hpending : w.pending = record :: rest) :
    UnderWay v server before requests (handed + 1) (w.withPending rest) ch where
  follows := h.follows
  position := h.position.withPending rest
  handed := by
    rw [pending_withPending (by simp [hpending]), ← h.handed, hpending, List.length_cons]
    omega
  stands := by
    obtain ⟨hphase, -⟩ | ⟨records, page, range, hphase, hlast⟩ := h.stands
    · rw [pending, hphase] at hpending
      contradiction
    · exact .inr ⟨records, rest, range, by rw [withPending, hphase], hlast⟩

/-- Another page is received, and its first record handed out. -/
theorem page (h : UnderWay v server before requests handed w ch) {limit : Nat} {record : Json}
    {rest : List Json} {range : Option ContentRange} (hpending : w.pending = [])
    (hreply : server.reply (w.request v limit) ch.session.state = .ok (record :: rest, range)) :
    let p := w.receive v record rest range ((w.opening ch).asking server (w.request v limit))
    UnderWay v server before (requests ++ [w.request v limit]) (handed + 1) p.1 p.2 := by
  intro p
  have hfollows := follows_opening h.follows w (w.request v limit)
  have hreplies := h.follows.replies_concat (w.request v limit)
  have hreceived : (receivedPages (server.replies (requests ++ [w.request v limit])
      before.session.state)).flatten.length =
        (receivedPages (server.replies requests before.session.state)).flatten.length +
          (record :: rest).length := by
    rw [hreplies, hreply, receivedPages_concat_ok, List.flatten_concat, List.length_append]
  have hhanded := h.handed
  rw [hpending, List.length_nil] at hhanded
  refine ⟨hfollows.congr rfl rfl rfl, ?_, ?_, .inr ⟨record :: rest, rest, range, rfl, ?_⟩⟩
  · rw [hreceived, List.length_append]
    exact h.position.receive record rest range _
  · have hrest : p.1.pending = rest := rfl
    rw [hreceived, hrest, ← hhanded, List.length_cons]
    omega
  · rw [hreplies, hreply, List.getLast?_concat]

/-- A call that hands out a record leaves the walk under way. -/
theorem move (h : UnderWay v server before requests handed w ch)
    {result : Except ClientError (Option Json) × Walk × Channel σ}
    (hmove : Move v server w ch result) {record : Json} (hrecord : result.1 = .ok (some record)) :
    ∃ requests', UnderWay v server before requests' (handed + 1) result.2.1 result.2.2 := by
  cases hmove with
  | hand hpending => exact ⟨requests, h.hand hpending⟩
  | page hwaiting _ hreply => exact ⟨_, h.page (pending_of_isWaiting hwaiting) hreply⟩
  | ended => cases hrecord
  | close => cases hrecord
  | fail => cases hrecord
  | empty => cases hrecord

/-- So do any number of calls that hand out as many records. -/
theorem take (n : Nat) (h : UnderWay v server before requests handed w ch)
    (htaken : (Walk.take v server n w ch).ending = .taken) :
    ∃ requests', UnderWay v server before requests' (handed + n) (Walk.take v server n w ch).walk
      (Walk.take v server n w ch).channel := by
  induction n generalizing requests handed w ch with
  | zero => exact ⟨requests, h⟩
  | succ n ih =>
    have hmove := move_next v server w ch
    rw [Walk.take] at htaken ⊢
    generalize w.next v server ch = result at hmove htaken ⊢
    obtain ⟨e | _ | record, w', ch'⟩ := result
    · contradiction
    · contradiction
    · obtain ⟨requests', hnext⟩ := h.move hmove rfl
      rw [Nat.add_comm n, ← Nat.add_assoc]
      exact ih hnext htaken

/-- Where all records received are handed out, the range of the latest answer decides on the next
call: it makes no request if this was the last page, and else the one for the page behind, unless
there is none within the window. -/
theorem fetches_next (h : UnderWay v server before requests handed w ch)
    {records : List Json} {r : ContentRange}
    (hlast : (server.replies requests before.session.state).getLast? =
      some (.ok (records, some r)))
    (hused : (receivedPages (server.replies requests before.session.state)).flatten.length =
      handed) :
    (w.next v server ch).2.2.session.fetches = ch.session.fetches ++
      if r.isLastPage then [] else (v.nextPage? requests.length handed).toList := by
  have hpending : w.pending = [] := by
    have hhanded := h.handed
    exact List.length_eq_zero_iff.mp (by omega)
  have hclosed : w.isClosed = r.isLastPage := by
    obtain ⟨-, hnil⟩ | ⟨records', page, range, hphase, hlast'⟩ := h.stands
    · rw [hnil] at hlast
      contradiction
    · obtain ⟨-, rfl⟩ := Prod.mk.inj (Except.ok.inj (Option.some.inj (hlast'.symm.trans hlast)))
      rw [isClosed, hphase]
      rfl
  cases hend : r.isLastPage with
  | true =>
    obtain ⟨complete, hnext⟩ := next_of_closed v server (hclosed.trans hend) hpending ch
    rw [hnext]
    exact (List.append_nil _).symm
  | false =>
    have hposition := h.position
    rw [hused] at hposition
    rw [next_of_open server hposition (hclosed.trans hend) hpending]
    cases v.nextPage? requests.length handed with
    | none => exact (List.append_nil _).symm
    | some f =>
      rw [fetches_takeIn, Channel.fetches_asking, session_opening]
      rfl

end UnderWay

end Walk

/-- A walk that has made a request was not over known records. -/
theorem materialized?_of_answer {ch : Channel σ} {n : Nat} {requests : List Fetch}
    {answer : Except ClientError Page}
    (hfetches : (Walk.take v server n (Walk.start v ch.memo) ch).channel.session.fetches =
      ch.session.fetches ++ requests)
    (hlast : (server.answers requests ch.session.state).getLast? = some answer) :
    ch.memo.materialized? = none := by
  cases hknown : ch.memo.materialized? with
  | none => rfl
  | some known =>
    have hphase : (Walk.start v ch.memo).phase = .replaying known := by rw [Walk.start, hknown]
    obtain ⟨-, -, hchannel⟩ := Walk.take_of_replaying v server n hphase ch
    rw [hchannel] at hfetches
    rw [List.append_right_eq_self.mp hfetches.symm] at hlast
    contradiction

/-- The range that is read from a header counts as the last one if it reaches the count; only a
count of `2 ^ 63` or more, which no position reaches, is taken for the negative number of the same
word.  And the header of the latest answer decides what a walk does that has handed out all records
received: it makes no request if the range counts as the last one, and else the one for the page
behind, as far as the window goes.  So as long as counts are signed words, a walk goes on wherever
more records are promised and the window is not full. -/
theorem header_decides_next_page (v : View) (server : Server σ) (ch : Channel σ) :
    (∀ header r, ContentRange.ofText? header = some r →
      r.last.toInt < ContentRange.maxCount →
      (r.isLastPage = true ↔ r.signedCount ≤ r.last.toInt + 1) ∧
      (r.count.toNat ≤ ContentRange.maxCount →
        (r.isLastPage = true ↔ (r.count.toNat : Int) ≤ r.last.toInt + 1)) ∧
      (ContentRange.maxCount < r.count.toNat →
        r.last.toInt + 1 < r.count.toNat ∧ r.signedCount = r.count.toNat - UInt64.size)) ∧
    ∀ (n : Nat) (requests : List Fetch) (page : Page) (header : String) (r : ContentRange),
      let taken := Walk.take v server n (Walk.start v ch.memo) ch
      let next := taken.walk.next v server taken.channel
      taken.ending = .taken →
      taken.channel.session.fetches = ch.session.fetches ++ requests →
      (server.answers requests ch.session.state).getLast? = some (.ok page) →
      page.contentRange = some header → ContentRange.ofText? header = some r →
      r.last.toInt < ContentRange.maxCount →
      (receivedPages (server.replies requests ch.session.state)).flatten.length = n →
      next.2.2.session.fetches = taken.channel.session.fetches ++
        (if r.signedCount ≤ r.last.toInt + 1 then []
          else (v.nextPage? requests.length n).toList) ∧
      (r.count.toNat ≤ ContentRange.maxCount → r.last.toInt + 1 < r.count.toNat →
        (∀ window ∈ v.window, n < window.length) →
        ∃ f, v.nextPage? requests.length n = some f ∧
          next.2.2.session.fetches = taken.channel.session.fetches ++ [f]) := by
  refine ⟨fun header r _ hmax => ⟨ContentRange.isLastPage_iff_signedCount hmax,
    ContentRange.isLastPage_iff hmax, ContentRange.signedCount_of_large hmax⟩, ?_⟩
  intro n requests page header r taken next htaken hfetches hlast hheader hrange hmax hused
  have hfresh := materialized?_of_answer hfetches hlast
  obtain ⟨asked, hunderWay⟩ := (Walk.underWay_start v server hfresh).take n htaken
  have hasked : asked = requests :=
    List.append_cancel_left (hunderWay.follows.fetches.symm.trans hfetches)
  rw [hasked, Nat.zero_add] at hunderWay
  have hnext := hunderWay.fetches_next (Server.getLast?_replies hlast hheader hrange) hused
  simp only [ContentRange.isLastPage_iff_signedCount hmax] at hnext
  refine ⟨hnext, fun hcount hmore hwindow => ?_⟩
  have hopen : ¬ r.signedCount ≤ r.last.toInt + 1 := by
    rw [ContentRange.signedCount, if_pos hcount]
    omega
  obtain ⟨f, hf⟩ : ∃ f, v.nextPage? requests.length n = some f := by
    refine Option.ne_none_iff_exists'.mp fun hnone => ?_
    obtain ⟨window, hmem, hfull⟩ := View.nextPage?_eq_none_iff.mp hnone
    exact Nat.not_lt_of_le hfull (hwindow window hmem)
  refine ⟨f, hf, ?_⟩
  rw [if_neg hopen, hf] at hnext
  exact hnext

/-- A page of two records out of nine, in a window of three. -/
theorem header_decides_next_page_script :
    let v := { View.ofPath "items" with pageSize := 2, window := some ⟨0, 3⟩ }
    let header := "items +0-1/0009"
    let r : ContentRange := ⟨0, 1, 9⟩
    let script : Script := [.ok ⟨[.int 1, .int 2], some header⟩, .ok ⟨[.int 3], none⟩]
    let server := Script.server none
    let ch : Channel Script := ⟨.blank, Session.start script⟩
    let taken := Walk.take v server 2 (Walk.start v ch.memo) ch
    ContentRange.ofText? header = some r ∧ (r.isLastPage = true ↔ (9 : Int) ≤ 1 + 1) ∧
      taken.channel.session.fetches = [⟨"items", v.params 2 0⟩] ∧
      (taken.walk.next v server taken.channel).2.2.session.fetches =
        [⟨"items", v.params 2 0⟩, ⟨"items", v.params 1 2⟩] := by
  intro v header r script server ch taken
  have hrange : ContentRange.ofText? header = some r := by decide
  have hfetches : taken.channel.session.fetches = [⟨"items", v.params 2 0⟩] := by decide
  obtain ⟨hlast, hnext⟩ := header_decides_next_page v server ch
  refine ⟨hrange, (hlast header r hrange (by decide)).2.1 (by decide), hfetches, ?_⟩
  have hwalk := hnext 2 [⟨"items", v.params 2 0⟩] ⟨[.int 1, .int 2], some header⟩ header r
    (by decide) hfetches rfl rfl hrange (by decide) (by decide)
  obtain ⟨f, hf, hmore⟩ := hwalk.2 (by decide) (by decide) (by decide)
  have hpage : v.nextPage? 1 2 = some ⟨"items", v.params 1 2⟩ := by decide
  rw [hmore, hfetches, Option.some.inj (hf.symm.trans hpage)]
  rfl

/-- A header that promises `2 ^ 63` records counts as the last one on the first page. -/
theorem header_loses_records :
    let header := "items 0-0/9223372036854775808"
    let r : ContentRange := ⟨0, 0, 9223372036854775808⟩
    let v := { View.ofPath "items" with pageSize := 1 }
    let script : Script := [.ok ⟨[.int 1], some header⟩, .ok ⟨[.int 2], none⟩]
    let ch : Channel Script := ⟨.blank, Session.start script⟩
    let collected := v.collect (Script.server none) 9 ch
    ContentRange.ofText? header = some r ∧ r.last.toInt < ContentRange.maxCount ∧
      r.last.toInt + 1 < r.count.toNat ∧ r.isLastPage = true ∧
      collected.1.bind Except.toOption = some [.int 1] ∧
      collected.2.session.fetches = [⟨"items", v.params 1 0⟩] := by
  intro header r v script ch collected
  exact ⟨by decide, by decide, by decide, by decide, by decide, by decide⟩

end PagedQuery
