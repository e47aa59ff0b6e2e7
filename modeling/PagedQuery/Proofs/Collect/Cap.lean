import PagedQuery.Proofs.Collect.Slices
import PagedQuery.Proofs.Collect.Unbounded

/-!
# PagedQuery.Proofs.Collect.Cap

A collection behind a server that sends at most `most` records at a time.  A bounded view asks
again for what it did not get, while the pages of an unbounded view are a page size apart
however short they are.  `collect_under_cap` says which records an unbounded view gets, and
when these are all.  A page that is cut may be followed by one whose offset is no signed word; its
header cannot be read.
-/

namespace PagedQuery

variable {σ : Type}

section Cap

variable {v : View} {R : List Json} {most : Nat} {server : Server σ} {ch : Channel σ}

/-- The slice of a whole collection is asked for until it is complete. -/
theorem collect_whole_slice (hp : 0 < v.pageSize) (hmost : 0 < most)
    (hcount : R.length ≤ ContentRange.maxCount)
    (hanswers : server.Answers v maxOffset fun limit offset page =>
      page.records = (R.drop offset).take (min limit most) ∧ page.Says offset (some R.length))
    (hfresh : ch.memo.materialized? = none) (budget : Nat) (hbudget : R.length ≤ budget) :
    let w : Window := ⟨0, R.length⟩
    let sliced := { v with
      offset := w.start, pageSize := max (min v.pageSize w.length) 1, window := some w }
    (sliced.collect server budget ch).1 = some (.ok (R.map v.shape)) := by
  intro w sliced
  have hwords : ContentRange.maxCount ≤ maxOffset := by decide
  have hstop : R.length ≤ maxOffset := Nat.le_trans hcount hwords
  have hframed : sliced.IsFramed := by
    constructor
    · exact Nat.le_max_right _ _
    · rintro _ ⟨⟩
      rfl
    · rintro _ ⟨⟩
      exact Nat.zero_le _
    · rintro _ ⟨⟩
      exact hstop
  have hextent : sliced.extent R = R := by
    show (R.take R.length).drop 0 = R
    rw [List.take_length, List.drop_zero]
  have hsize : sliced.pageSize ≤ v.pageSize := by
    show max (min v.pageSize w.length) 1 ≤ v.pageSize
    omega
  have hclaims : AreTrueClaims R [some R.length] := by
    intro count hclaim
    obtain rfl : count = R.length := by simpa using hclaim
    exact ⟨rfl, hcount⟩
  have hsliced : server.Answers sliced maxOffset (sliced.IsAnswer R [some R.length]) :=
    hanswers.mono rfl rfl hsize (Nat.le_refl _) fun _ _ _ _ _ h =>
      ⟨Page.begins_of_cut hmost h.1, nofun, _, List.mem_singleton_self _, h.2⟩
  have hcollect := collect_extent_of_claim hframed (View.reach_le hframed nofun) hclaims hsliced
    hfresh (by simp) (Nat.zero_le _) budget (by rwa [hextent])
  rwa [hextent] at hcollect

/-! ## Pages under a cap -/

/-- The last page that an unbounded view asks for, out of a collection of `count` records under a
cap: the last one with records, if these reach the end, or else the one behind it. -/
def View.lastPage (v : View) (most count : Nat) : Nat :=
  if count ≤ v.offset + (v.pageCount count - 1) * v.pageSize + most then v.pageCount count - 1
  else v.pageCount count

/-- Pages under a cap lie one behind the other up to the last one that is asked for: each of them
has records, and they do not reach the end. -/
theorem View.lt_of_lt_lastPage (hp : 0 < v.pageSize) {count i : Nat}
    (h : i < v.lastPage most count) :
    v.offset + i * v.pageSize < count ∧
      v.offset + i * v.pageSize + min v.pageSize most < count := by
  have hhere := v.pageCount_le_iff hp count i
  have hnext := v.pageCount_le_iff hp count (i + 1)
  rw [Nat.succ_mul] at hnext
  rw [lastPage] at h
  split at h
  · omega
  · next hcut =>
    refine ⟨by omega, ?_⟩
    by_cases hlast : i + 1 < v.pageCount count
    · omega
    · obtain rfl : i = v.pageCount count - 1 := by omega
      omega

/-- The last page that is asked for reaches the end, under the cap or because it has no records. -/
theorem View.le_of_lastPage (hp : 0 < v.pageSize) (most count : Nat) :
    count ≤ v.offset + v.lastPage most count * v.pageSize + min v.pageSize most ∨
      count ≤ v.offset + v.lastPage most count * v.pageSize := by
  have hall := v.pageCount_le_iff hp count (v.pageCount count)
  rw [lastPage]
  split
  · next hcut =>
    left
    cases hpages : v.pageCount count with
    | zero =>
      rw [hpages] at hall hcut
      omega
    | succ n =>
      rw [hpages, Nat.succ_mul] at hall
      rw [hpages, Nat.add_sub_cancel] at hcut
      rw [Nat.add_sub_cancel]
      omega
  · right
    omega

/-- Where the pages up to the last one end: less than a page behind the last record. -/
theorem View.lastPage_le (hp : 0 < v.pageSize) (hsize : v.pageSize ≤ maxOffset)
    (hoffset : v.offset = 0) {count : Nat} (hcount : count ≤ ContentRange.maxCount) :
    v.offset + v.lastPage most count * v.pageSize ≤ maxOffset := by
  have hpages : v.lastPage most count ≤ v.pageCount count := by
    rw [lastPage]
    split <;> omega
  have hwords : 2 * ContentRange.maxCount + 1 = maxOffset := by decide
  cases hlast : v.lastPage most count with
  | zero => omega
  | succ k =>
    have hbefore := v.pageCount_le_iff hp count k
    rw [Nat.succ_mul]
    cases k with
    | zero => omega
    | succ k =>
      rw [Nat.succ_mul] at hbefore ⊢
      omega

/-- The last page that is asked for starts behind the records only if the page before was cut. -/
theorem View.lt_of_lt_offset (hp : 0 < v.pageSize) {count : Nat} (hoffset : v.offset ≤ count)
    (h : count < v.offset + v.lastPage most count * v.pageSize) :
    most < v.pageSize ∧ most < count := by
  have hall := v.pageCount_le_iff hp count (v.pageCount count)
  rw [lastPage] at h
  cases hpages : v.pageCount count with
  | zero =>
    simp only [hpages, Nat.zero_sub, Nat.zero_mul, ite_self] at h
    omega
  | succ k =>
    have hbefore := v.pageCount_le_iff hp count k
    rw [hpages, Nat.succ_mul] at hall
    simp only [hpages, Nat.add_sub_cancel] at h
    split at h <;> omega

/-- How a page under a cap is read whose offset is a signed word. -/
theorem reply_capped_page (hp : 0 < v.pageSize) (hmost : 0 < most)
    (hcount : R.length ≤ ContentRange.maxCount)
    (hanswers : server.Answers v maxOffset fun limit offset page =>
      page.records = (R.drop offset).take (min limit most) ∧ page.Says offset (some R.length))
    {i : Nat} (hoffset : v.offset + i * v.pageSize ≤ ContentRange.maxCount) (s : σ) :
    ∃ range, server.reply (v.pageAt i) s = .ok (v.cutPage most R i, range) ∧
      (isFinalPage (v.cutPage most R i) range = true ↔
        R.length ≤ v.offset + i * v.pageSize + min v.pageSize most) := by
  have hwords : ContentRange.maxCount ≤ maxOffset := by decide
  have hsize : ContentRange.maxCount < UInt64.size := by decide
  obtain ⟨page, hfetch, hrecords, hstated⟩ :=
    hanswers v.pageSize (v.offset + i * v.pageSize) s (Nat.le_refl _) (by omega)
  have hcut : v.cutPage most R i = page.records := hrecords.symm
  have hlength := v.length_cutPage most R i
  rw [hcut] at hlength ⊢
  have hclaims := hstated.claims fun c hc => by
    cases hc
    omega
  obtain ⟨range, hread, hfinal⟩ := Page.read_of_claims hclaims fun c hc => by
    cases hc
    refine ⟨hcount, fun hne => ?_⟩
    have hpos := List.length_pos_iff.mpr hne
    omega
  refine ⟨range, (Server.reply_of_fetch hfetch).trans hread, hfinal.trans ?_⟩
  rw [← List.length_eq_zero_iff]
  simp only [Option.mem_def, Option.some.injEq, exists_eq_left']
  omega

/-- From a server that sends at most `most` records at a time, the first `most` of each page are
collected, unless the last page that is asked for lies behind all signed words. -/
theorem collect_capped (hv : v.window = none) (hp : 0 < v.pageSize) (hmost : 0 < most)
    (hcount : R.length ≤ ContentRange.maxCount)
    (hmax : v.offset + v.lastPage most R.length * v.pageSize ≤ maxOffset)
    (hanswers : server.Answers v maxOffset fun limit offset page =>
      page.records = (R.drop offset).take (min limit most) ∧ page.Says offset (some R.length))
    (hfresh : ch.memo.materialized? = none) (n : Nat) (hn : R.length ≤ n) :
    let last := v.offset + v.lastPage most R.length * v.pageSize
    (v.collect server n ch).1 =
      some (if last ≤ ContentRange.maxCount then
          .ok ((firstOfEach v.pageSize most (R.drop v.offset)).map v.shape)
        else .error (.decode (.range (ContentRange.headerOfPage last 0 R.length)))) := by
  intro last
  have hserves : v.Serves server (v.cutPage most R) (v.lastPage most R.length) := by
    intro i hi s
    obtain ⟨hsome, hmore⟩ := View.lt_of_lt_lastPage hp hi
    obtain ⟨range, hreply, hfinal⟩ :=
      reply_capped_page hp hmost hcount hanswers (i := i) (by omega) s
    refine ⟨range, hreply, ?_⟩
    rw [← Bool.not_eq_true, hfinal]
    omega
  have hend := View.le_of_lastPage hp most R.length
  have hfew : (firstOfEach v.pageSize most (R.drop v.offset)).length ≤ n := by
    have hlength := length_firstOfEach_le v.pageSize most (R.drop v.offset)
    rw [List.length_drop] at hlength
    omega
  -- behind the last page that is asked for there is nothing
  have hflat : (List.range (v.lastPage most R.length + 1)).flatMap (v.cutPage most R) =
      firstOfEach v.pageSize most (R.drop v.offset) := by
    refine flatMap_cutPage hp ?_ most
    rw [View.lastPage]
    split <;> omega
  by_cases hread : last ≤ ContentRange.maxCount
  · rw [if_pos hread, ← hflat]
    obtain ⟨ch', hcollect, -⟩ := collect_of_serves hv hmax hserves (fun s => by
      obtain ⟨range, hreply, hfinal⟩ := reply_capped_page hp hmost hcount hanswers hread s
      exact ⟨range, hreply, hfinal.mpr (by omega)⟩) hfresh n (by rwa [hflat])
    rw [hcollect]
  · rw [if_neg hread]
    have hnone : v.cutPage most R (v.lastPage most R.length) = [] := by
      rw [View.cutPage, List.drop_of_length_le (by omega), List.take_nil]
    rw [List.range_succ, List.flatMap_append, List.flatMap_singleton, hnone, List.append_nil]
      at hflat
    refine collect_of_refused hv hmax hserves (fun s => ?_) hfresh n (by rwa [hflat])
    obtain ⟨page, hfetch, hrecords, hstated⟩ := hanswers v.pageSize last s (Nat.le_refl _) hmax
    have hempty : page.records = [] := hrecords.trans hnone
    have hrefused := hstated.read_of_lt (by omega)
    rw [hempty] at hrefused
    exact (Server.reply_of_fetch hfetch).trans hrefused

/-- A view of a whole collection, and the slice of it from the first record to the last, read
from a server with a cap and honest headers.  The slice brings all records.  The view brings
the first `most` of each page, unless the page behind a last one that was cut lies behind all signed
words: then its header cannot be read.  So both bring the same just if pages are not larger than the
cap or all records fit under it. -/
theorem collect_under_cap (v : View) (hv : v.window = none) (hoffset : v.offset = 0)
    (hp : 0 < v.pageSize) (hsize : v.pageSize ≤ maxOffset) (most : Nat) (hmost : 0 < most)
    (R : List Json) (hcount : R.length ≤ ContentRange.maxCount) (server : Server σ)
    (hanswers : server.Answers v maxOffset fun limit offset page =>
      page.records = (R.drop offset).take (min limit most) ∧ page.Says offset (some R.length))
    (ch ch' : Channel σ) (hfresh : ch.memo.materialized? = none)
    (hfresh' : ch'.memo.materialized? = none) (budget : Nat) (hbudget : R.length ≤ budget) :
    let last := v.lastPage most R.length * v.pageSize
    ∃ sliced, v.slice (.included 0) (.excluded R.length) = .ok sliced ∧
      (sliced.collect server budget ch').1 = some (.ok (R.map v.shape)) ∧
      (v.collect server budget ch).1 =
        some (if last ≤ ContentRange.maxCount then
            .ok ((firstOfEach v.pageSize most R).map v.shape)
          else .error (.decode (.range (ContentRange.headerOfPage last 0 R.length)))) ∧
      ((v.collect server budget ch).1 = (sliced.collect server budget ch').1 ↔
        v.pageSize ≤ most ∨ R.length ≤ most) := by
  intro last
  have hwords : ContentRange.maxCount ≤ maxOffset := by decide
  have hslice := View.slice_of_unbounded hv (Nat.zero_le R.length) (by omega)
  rw [hoffset, Nat.zero_add, Nat.zero_add] at hslice
  have hbounded := collect_whole_slice hp hmost hcount hanswers hfresh' budget hbudget
  have hunbounded := collect_capped hv hp hmost hcount (View.lastPage_le hp hsize hoffset hcount)
    hanswers hfresh budget hbudget
  simp only [hoffset, Nat.zero_add, List.drop_zero] at hunbounded
  refine ⟨_, hslice, hbounded, hunbounded, ?_⟩
  rw [hunbounded, hbounded, Option.some_inj]
  by_cases hread : last ≤ ContentRange.maxCount
  · rw [if_pos hread, Except.ok.injEq, map_firstOfEach_eq_iff hp]
  · have hbehind : R.length < v.offset + v.lastPage most R.length * v.pageSize := by
      rw [hoffset, Nat.zero_add]
      omega
    obtain ⟨hpage, hcut⟩ := View.lt_of_lt_offset hp (by omega : v.offset ≤ R.length) hbehind
    rw [if_neg hread]
    refine iff_of_false nofun ?_
    omega

/-- Five records in pages of three, two at a time: what the view brings is not what the slice
brings.  In pages of `2 ^ 63` records, the second one cannot be read. -/
theorem collect_under_cap_dataset :
    let v := { View.ofPath "items" with pageSize := 3 }
    let large := { View.ofPath "items" with pageSize := 9223372036854775808 }
    let d : Dataset := ⟨[.int 0, .int 1, .int 2, .int 3, .int 4], some 2, true, none, none, none⟩
    let ch : Channel Unit := ⟨Memo.blank, Session.start ()⟩
    (∃ sliced, v.slice (.included 0) (.excluded 5) = .ok sliced ∧
      (sliced.collect d.server 5 ch).1 =
        some (.ok [.int 0, .int 1, .int 2, .int 3, .int 4]) ∧
      (v.collect d.server 5 ch).1 = some (.ok [.int 0, .int 1, .int 3, .int 4]) ∧
      (v.collect d.server 5 ch).1 ≠ (sliced.collect d.server 5 ch).1) ∧
    (large.collect d.server 5 ch).1 = some (.error (.decode
      (.range "items 9223372036854775808-9223372036854775807/5"))) := by
  intro v large d ch
  constructor
  · obtain ⟨sliced, hslice, hbounded, hunbounded, hsame⟩ := collect_under_cap v rfl rfl
      (by decide) (by decide) 2 (by decide) d.records (by decide) d.server
      (Dataset.answers_capped rfl rfl v (by decide)) ch ch rfl rfl 5 (by decide)
    have hlast : v.lastPage 2 d.records.length * v.pageSize = 3 := by decide
    have hleft : (firstOfEach v.pageSize 2 d.records).map v.shape =
        [.int 0, .int 1, .int 3, .int 4] := by decide
    rw [hlast, if_pos (by decide), hleft] at hunbounded
    refine ⟨sliced, hslice, hbounded, hunbounded, fun heq => ?_⟩
    exact absurd (hsame.mp heq) (by decide)
  · obtain ⟨-, -, -, hunbounded, -⟩ := collect_under_cap large rfl rfl
      (by decide) (by decide) 2 (by decide) d.records (by decide) d.server
      (Dataset.answers_capped rfl rfl large (by decide)) ch ch rfl rfl 5 (by decide)
    have hlast : large.lastPage 2 d.records.length * large.pageSize = 9223372036854775808 := by
      decide +kernel
    have htext : ContentRange.headerOfPage 9223372036854775808 0 d.records.length =
        "items 9223372036854775808-9223372036854775807/5" := by decide +kernel
    rw [hlast, if_neg (by decide), htext] at hunbounded
    exact hunbounded

/-- Three records one at a time: an unbounded view of pages of two never asks for the second
record, while a slice up to the last one brings all. -/
theorem collect_under_cap_loses :
    let v := { View.ofPath "items" with pageSize := 2 }
    let d : Dataset := ⟨[.int 0, .int 1, .int 2], some 1, true, none, none, none⟩
    let ch : Channel Unit := ⟨Memo.blank, Session.start ()⟩
    (d.server.Answers v maxOffset fun limit offset page =>
      page.records = (d.records.drop offset).take (min limit 1) ∧
        page.Says offset (some d.records.length)) ∧
    ∃ sliced, v.slice (.included 0) (.excluded 3) = .ok sliced ∧
      (sliced.collect d.server 3 ch).1 = some (.ok [.int 0, .int 1, .int 2]) ∧
      (v.collect d.server 3 ch).1 = some (.ok [.int 0, .int 2]) := by
  intro v d ch
  let sliced : View := { v with window := some ⟨0, 3⟩ }
  have hslice : v.slice (.included 0) (.excluded 3) = .ok sliced := rfl
  have hall : (sweep sliced d.server 4 0 0 ()).records = [.int 0, .int 1, .int 2] := by decide
  have hsome : (sweep v d.server 4 0 0 ()).records = [.int 0, .int 2] := by decide
  have hend : (sweep sliced d.server 4 0 0 ()).ending = .finished := by decide
  have hend' : (sweep v d.server 4 0 0 ()).ending = .finished := by decide
  refine ⟨Dataset.answers_capped rfl rfl v (by decide), sliced, hslice, ?_, ?_⟩
  · rw [View.collect_of_finished ch rfl hend 3 (by rw [hall]; decide), hall]
    rfl
  · rw [View.collect_of_finished ch rfl hend' 3 (by rw [hsome]; decide), hsome]
    rfl

end Cap

end PagedQuery
