import PagedQuery.Proofs.Walk.Extent
import PagedQuery.Proofs.Walk.Collect

/-!
# PagedQuery.Proofs.Collect.Slices

Collecting all records of a view that was made by slices, from a server that holds a collection.
Whatever the slices, the records collected are the same slices of the collection
(`collect_slices`).  A bounded view goes on behind the last record received, so that it does not
matter how many of the records asked for a server sends, as long as it sends one.
-/

namespace PagedQuery

variable {σ : Type}

section Extent

variable {v : View} {R : List Json} {claims : List (Option Nat)} {server : Server σ}
  {ch : Channel σ} (hv : v.IsFramed) (hmax : v.reach R.length ≤ maxOffset)
  (hclaims : AreTrueClaims R claims) (hanswers : server.Answers v maxOffset (v.IsAnswer R claims))
  (hfresh : ch.memo.materialized? = none)

include hv hmax hclaims hanswers hfresh

/-- What a view stands for is collected, or a request for records behind all signed words is
answered with a header.  Requests that far lie behind the collection: the first request is one of
them, or a page before came without a header. -/
theorem collect_extent (budget : Nat) (hbudget : (v.extent R).length ≤ budget) :
    ∃ outcome ch', v.collect server budget ch = (some outcome, ch') ∧
      (outcome = .ok ((v.extent R).map v.shape) ∨
        (∃ header, outcome = .error (.decode (.range header))) ∧ some R.length ∈ claims ∧
          ∃ limit offset, ch'.session.fetches.getLast? = some ⟨v.url, v.params limit offset⟩ ∧
            ContentRange.maxCount < offset ∧ (offset = v.offset ∨ none ∈ claims)) := by
  have hpaging := Walk.paging_start hv hfresh R claims
  have hreads := Walk.Reads.paging hpaging
  rw [Walk.pending, Walk.phase_start hfresh] at hreads
  obtain ⟨hrecords, hending⟩ | ⟨e, offset, hending, hreach, limit, s, hlimit, hle, hlast, hreply⟩ :=
    hreads.take hv hmax (hanswers.orFails.tells hclaims) (budget + 1)
  · have hall : v.tail R (Walk.start v ch.memo).nextOffset = v.extent R := rfl
    rw [List.nil_append, hall] at hrecords hending
    rw [if_neg (by omega)] at hending
    rw [List.take_of_length_le (by omega)] at hrecords
    exact ⟨_, _, by simp only [View.collect, hending]; rfl, .inl (congrArg Except.ok hrecords)⟩
  · obtain ⟨hlarge, hclaim, header, rfl⟩ :=
      hanswers.of_reply_error hclaims hlimit hle hreply
    refine ⟨_, _, by simp only [View.collect, hending],
      .inr ⟨⟨header, rfl⟩, hclaim, limit, offset, hlast, hlarge, ?_⟩⟩
    have hcount := (hclaims _ hclaim).2
    obtain hfirst | hwithin | hbare := hreach
    · exact .inl hfirst
    · omega
    · exact .inr hbare

/-- What a view stands for is collected if it starts at a signed word and each page tells its
range. -/
theorem collect_extent_of_claim (hbare : none ∉ claims)
    (hoffset : v.offset ≤ ContentRange.maxCount) (budget : Nat)
    (hbudget : (v.extent R).length ≤ budget) :
    (v.collect server budget ch).1 = some (.ok ((v.extent R).map v.shape)) := by
  obtain ⟨outcome, ch', hcollect, rfl | ⟨-, -, limit, offset, -, hlarge, hfirst⟩⟩ :=
    collect_extent hv hmax hclaims hanswers hfresh budget hbudget
  · rw [hcollect]
  · obtain rfl := hfirst.resolve_right hbare
    omega

end Extent

/-- Slicing views is slicing lists.  An unbounded view of a collection is sliced any number of
times; reading the view that results collects the records that the same slices leave of the
list of records from the offset of the first view on.  Headers claim the number of records there
are, or are missing.  If the last view is bounded, the server may send any part of the records
asked for, from the first on, unless there are none; if it is unbounded, the pages up to the first
one without records have to lie at offsets.  There is one other outcome: a header at an offset that
is no signed word cannot be read.  It takes a request that far, which is the first one, or follows
on a page without a header. -/
theorem collect_slices (v v' : View) (hv : v.window = none) (hp : 0 < v.pageSize)
    (bounds : List (View.Bound × View.Bound)) (hslices : v.slices bounds = .ok v')
    (R : List Json) (claims : List (Option Nat)) (hclaims : AreTrueClaims R claims)
    (hmax : v'.window = none → v'.offset + v'.pageCount R.length * v'.pageSize ≤ maxOffset)
    (server : Server σ) (hanswers : server.Answers v' maxOffset (v'.IsAnswer R claims))
    (ch : Channel σ) (hfresh : ch.memo.materialized? = none) (budget : Nat)
    (hbudget : (View.clips (R.drop v.offset) bounds).length ≤ budget) :
    ∃ outcome ch', v'.collect server budget ch = (some outcome, ch') ∧
      (outcome = .ok ((View.clips (R.drop v.offset) bounds).map v.shape) ∨
        (∃ header, outcome = .error (.decode (.range header))) ∧ some R.length ∈ claims ∧
          ∃ limit offset, ch'.session.fetches.getLast? = some ⟨v'.url, v'.params limit offset⟩ ∧
            ContentRange.maxCount < offset ∧ (offset = v'.offset ∨ none ∈ claims)) := by
  have hframed := View.isFramed_of_unbounded hv hp
  have hall : v.extent R = R.drop v.offset := by
    rw [View.extent, hv]
    rfl
  obtain ⟨hframed', hextent, hshape⟩ := View.extent_slices hframed hslices R
  rw [hall] at hextent
  rw [← hextent, ← hshape]
  exact collect_extent hframed' (View.reach_le hframed' hmax) hclaims hanswers hfresh budget
    (by rwa [hextent])

/-- Two slices of a view of pages of three, from a server that sends two records at a time. -/
theorem collect_slices_dataset :
    let v := { View.ofPath "items" with pageSize := 3, offset := 1 }
    let bounds : List (View.Bound × View.Bound) :=
      [(.excluded 0, .included 4), (.unbounded, .excluded 3)]
    let d : Dataset :=
      ⟨[.int 0, .int 1, .int 2, .int 3, .int 4, .int 5], some 2, true, none, none, none⟩
    let ch : Channel Unit := ⟨Memo.blank, Session.start ()⟩
    ∃ v', v.slices bounds = .ok v' ∧
      (v'.collect d.server 3 ch).1 = some (.ok [.int 2, .int 3, .int 4]) := by
  intro v bounds d ch
  let v' : View := { v with pageSize := 3, offset := 2, window := some ⟨2, 5⟩ }
  have hslices : v.slices bounds = .ok v' := rfl
  have hclaims : AreTrueClaims d.records [some 6] := by
    intro count hcount
    obtain rfl : count = 6 := by simpa using hcount
    decide
  have hanswers : d.server.Answers v' maxOffset (v'.IsAnswer d.records [some 6]) :=
    (Dataset.answers_capped (d := d) rfl rfl v' (by decide)).mono rfl rfl (Nat.le_refl _)
      (Nat.le_refl _) fun _ _ _ _ _ h =>
        ⟨Page.begins_of_cut (by decide) h.1, nofun, some 6, by simp, h.2⟩
  obtain ⟨outcome, ch', hcollect, rfl | ⟨-, -, limit, offset, -, hlarge, hfirst⟩⟩ :=
    collect_slices v v' rfl (by decide) bounds hslices d.records [some 6] hclaims nofun d.server
      hanswers ch rfl 3 (by decide)
  · exact ⟨v', hslices, by rw [hcollect]; rfl⟩
  · obtain rfl : offset = 2 := by simpa using hfirst
    exact absurd hlarge (by decide)

/-- Two slices that stand for nothing or for the rest of three records, and bring something else.
A slice from `2 ^ 63` on of pages with headers fails, since its offset is no position of a range; a
slice from the second record on of pages of the largest size wraps around without headers. -/
theorem collect_slices_past_words :
    let records : List Json := [.int 0, .int 1, .int 2]
    let ch : Channel Unit := ⟨Memo.blank, Session.start ()⟩
    (∃ v', (View.ofPath "items").slices [(.included 9223372036854775808, .unbounded)] = .ok v' ∧
      View.clips records [(.included 9223372036854775808, .unbounded)] = [] ∧
      (v'.collect (Dataset.server ⟨records, none, true, none, none, none⟩) 3 ch).1 =
        some (.error (.decode
          (.range "items 9223372036854775808-9223372036854775807/3")))) ∧
    ∃ v', { View.ofPath "items" with pageSize := maxOffset }.slices [(.included 1, .unbounded)] =
        .ok v' ∧
      View.clips records [(.included 1, .unbounded)] = [.int 1, .int 2] ∧
      (v'.collect (Dataset.server ⟨records, none, false, none, none, none⟩) 9 ch).1 =
        some (.ok [.int 1, .int 2, .int 0, .int 1, .int 2]) := by
  intro records ch
  let large := { View.ofPath "items" with offset := 9223372036854775808 }
  let whole := { View.ofPath "items" with pageSize := maxOffset, offset := 1 }
  let d : Dataset := ⟨records, none, true, none, none, none⟩
  let d' : Dataset := ⟨records, none, false, none, none, none⟩
  have hslice : (View.ofPath "items").slice (.included 9223372036854775808) .unbounded = .ok _ :=
    View.slice_of_canSlice ⟨by rintro _ ⟨⟩, by decide, by rintro _ ⟨⟩⟩
  have hlarge : (View.ofPath "items").slices [(.included 9223372036854775808, .unbounded)] =
      .ok large := by
    rw [View.slices, hslice]
    rfl
  have hrefused : (sweep large d.server 4 0 0 ()).ending = .failed (.decode
      (.range "items 9223372036854775808-9223372036854775807/3")) := by decide +kernel
  have hend : (sweep whole d'.server 4 0 0 ()).ending = .finished := by decide +kernel
  have hall : (sweep whole d'.server 4 0 0 ()).records =
      [.int 1, .int 2, .int 0, .int 1, .int 2] := by decide +kernel
  refine ⟨⟨large, hlarge, by decide +kernel, ?_⟩, whole, rfl, by decide, ?_⟩
  · obtain ⟨ch', hcollect, -⟩ := View.collect_of_ended ch rfl (by rw [hrefused]; simp) 3
      (Nat.le_trans (by decide +kernel) (Nat.zero_le 3))
    rw [hcollect, Sweep.collected, hrefused]
  · rw [View.collect_of_finished ch rfl hend 9 (by rw [hall]; decide), hall]
    rfl

end PagedQuery
