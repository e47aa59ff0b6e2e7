import PagedQuery.Proofs.Collect.Pages
import PagedQuery.Proofs.Server.Telling
import PagedQuery.Proofs.Walk.Collect

/-!
# PagedQuery.Proofs.Collect.Unbounded

Collecting all records of an unbounded view.  Its pages are a page size apart whatever they
bring, so the records collected are those of the pages one after the other, up to the first page
that is final or cannot be read (`sweep_of_serves`).  From a server that holds a collection and
answers in full this is every record from the offset of the view on, by as many requests as
there are pages (`collect_full_answers`).
-/

namespace PagedQuery

variable {σ : Type}

namespace View

/-- The request for page `i` of an unbounded view. -/
def pageAt (v : View) (i : Nat) : Fetch :=
  ⟨v.url, v.params v.pageSize (v.offset + i * v.pageSize)⟩

/-- The number of requests that reading a collection of `count` records takes.  The last page
is known as such if the headers claim just this number; otherwise a page without records must
be seen.  One request is made in any case. -/
def fetchCount (v : View) (count : Nat) (claim : Option Nat) : Nat :=
  if claim = some count then max 1 (v.pageCount count) else v.pageCount count + 1

/-- Page `i` out of a collection, cut to at most `most` records. -/
def cutPage (v : View) (most : Nat) (R : List Json) (i : Nat) : List Json :=
  (R.drop (v.offset + i * v.pageSize)).take (min v.pageSize most)

/-- In every state the server answers the requests for the pages before `last` by `pages`, none of
which is final. -/
def Serves (v : View) (server : Server σ) (pages : Nat → List Json) (last : Nat) : Prop :=
  ∀ i < last, ∀ s, ∃ range, server.reply (v.pageAt i) s = .ok (pages i, range) ∧
    isFinalPage (pages i) range = false

variable {v : View} {server : Server σ}

theorem nextPage?_of_unbounded (hv : v.window = none) {pages : Nat}
    (hmax : v.offset + pages * v.pageSize ≤ maxOffset) (received : Nat) :
    v.nextPage? pages received = some (v.pageAt pages) := by
  have hspan : v.span pages received = pages * v.pageSize := by
    rw [span, isBounded_of_unbounded hv, if_neg Bool.false_ne_true]
  rw [nextPage?, hv, pageAt, pageOffset_of_le (by rwa [hspan]), hspan]

theorem fetchCount_pos (v : View) (count : Nat) (claim : Option Nat) :
    0 < v.fetchCount count claim := by
  rw [fetchCount]
  split <;> omega

theorem pageCount_le_fetchCount (v : View) (count : Nat) (claim : Option Nat) :
    v.pageCount count ≤ v.fetchCount count claim := by
  rw [fetchCount]
  split <;> omega

theorem length_cutPage (most : Nat) (R : List Json) (i : Nat) :
    (v.cutPage most R i).length =
      min (min v.pageSize most) (R.length - (v.offset + i * v.pageSize)) := by
  rw [cutPage, List.length_take, List.length_drop]

end View

section Unbounded

variable {v : View} {server : Server σ}

/-- A sweep that has begun with these records and requests. -/
def Sweep.behind (rest : Sweep σ) (records : List Json) (requests : List Fetch) : Sweep σ :=
  { rest with records := records ++ rest.records, requests := requests ++ rest.requests }

/-- A sweep of an unbounded view brings the records of the pages that are not final, and goes on
behind them.  The induction is on the number of these pages. -/
theorem sweep_of_serves (hv : v.window = none) {pages : Nat → List Json} {last : Nat}
    (hmax : v.offset + last * v.pageSize ≤ maxOffset) (h : v.Serves server pages last)
    (budget : Nat) {k n : Nat} (hlast : k + n = last) (received : Nat) (s : σ) :
    ∃ received' s', sweep v server (n + budget) k received s =
      (sweep v server budget last received' s').behind ((List.range' k n).flatMap pages)
        ((List.range' k n).map v.pageAt) := by
  induction n generalizing k received s with
  | zero =>
    obtain rfl : k = last := hlast
    exact ⟨received, s, by rw [Nat.zero_add]; rfl⟩
  | succ n ih =>
    obtain ⟨range, hreply, hmore⟩ := h k (by omega) s
    have hstep : k * v.pageSize ≤ last * v.pageSize := Nat.mul_le_mul_right _ (by omega)
    have hpage := View.nextPage?_of_unbounded hv (by omega : v.offset + k * v.pageSize ≤ maxOffset)
      received
    obtain ⟨received', s', hrest⟩ :=
      ih (k := k + 1) (by omega) (received + (pages k).length) (server.after (v.pageAt k) s)
    refine ⟨received', s', ?_⟩
    rw [Nat.add_right_comm, sweep_of_more hpage hreply hmore, hrest]
    simp only [Sweep.behind, List.range'_succ, List.flatMap_cons, List.map_cons,
      List.append_assoc, List.cons_append]

/-- A page that is final ends the collection: it hands out the records of all pages. -/
theorem collect_of_serves (hv : v.window = none) {pages : Nat → List Json} {last : Nat}
    (hmax : v.offset + last * v.pageSize ≤ maxOffset) (h : v.Serves server pages last)
    (hend : ∀ s, ∃ range, server.reply (v.pageAt last) s = .ok (pages last, range) ∧
      isFinalPage (pages last) range = true)
    {ch : Channel σ} (hfresh : ch.memo.materialized? = none)
    (n : Nat) (hn : ((List.range (last + 1)).flatMap pages).length ≤ n) :
    ∃ ch', v.collect server n ch =
        (some (.ok (((List.range (last + 1)).flatMap pages).map v.shape)), ch') ∧
      ch'.session.fetches = ch.session.fetches ++ (List.range (last + 1)).map v.pageAt := by
  obtain ⟨received, s, hsweep⟩ :=
    sweep_of_serves hv hmax h 1 (Nat.zero_add last) 0 ch.session.state
  obtain ⟨range, hreply, hfinal⟩ := hend s
  rw [sweep_of_final (View.nextPage?_of_unbounded hv hmax received) hreply hfinal,
    ← List.range_eq_range'] at hsweep
  have hpages : (List.range (last + 1)).flatMap pages =
      (List.range last).flatMap pages ++ pages last := by
    rw [List.range_succ, List.flatMap_append, List.flatMap_singleton]
  have hrequests : (List.range (last + 1)).map v.pageAt =
      (List.range last).map v.pageAt ++ [v.pageAt last] := by
    rw [List.range_succ, List.map_append, List.map_singleton]
  rw [hpages] at hn ⊢
  rw [hrequests]
  obtain ⟨ch', hcollect, hfetches⟩ :=
    View.collect_of_ended ch hfresh (by rw [hsweep]; nofun) n (by rw [hsweep]; exact hn)
  rw [hsweep] at hcollect hfetches
  exact ⟨ch', hcollect, hfetches⟩

/-- A page that cannot be read fails the collection, whatever came before. -/
theorem collect_of_refused (hv : v.window = none) {pages : Nat → List Json} {last : Nat}
    (hmax : v.offset + last * v.pageSize ≤ maxOffset) (h : v.Serves server pages last)
    {e : ClientError} (hend : ∀ s, server.reply (v.pageAt last) s = .error e)
    {ch : Channel σ} (hfresh : ch.memo.materialized? = none)
    (n : Nat) (hn : ((List.range last).flatMap pages).length ≤ n) :
    (v.collect server n ch).1 = some (.error e) := by
  obtain ⟨received, s, hsweep⟩ :=
    sweep_of_serves hv hmax h 1 (Nat.zero_add last) 0 ch.session.state
  rw [sweep_of_error (View.nextPage?_of_unbounded hv hmax received) (hend s),
    ← List.range_eq_range'] at hsweep
  obtain ⟨ch', hcollect, -⟩ :=
    View.collect_of_ended ch hfresh (by rw [hsweep]; nofun) n
      (by rw [hsweep, Sweep.behind, List.append_nil]; exact hn)
  rw [hcollect, hsweep]
  rfl

/-! ## Servers that hold a collection -/

variable {R : List Json}

/-- The pages one after the other, as many as there are or more. -/
theorem flatMap_cutPage (hp : 0 < v.pageSize) {n : Nat} (hn : v.pageCount R.length ≤ n)
    (most : Nat) :
    (List.range n).flatMap (v.cutPage most R) =
      firstOfEach v.pageSize most (R.drop v.offset) := by
  have hlength : (R.drop v.offset).length ≤ n * v.pageSize := by
    rw [View.pageCount_le_iff hp] at hn
    rw [List.length_drop]
    omega
  rw [← flatMap_pages hlength]
  simp only [List.drop_drop]
  rfl

/-- The answer to the request for a page that lies within reach. -/
theorem Server.Answers.pageAt {P : (limit offset : Nat) → Page → Prop} {last i : Nat}
    (h : server.Answers v (v.offset + last * v.pageSize) P) (hi : i ≤ last) (s : σ) :
    ∃ page, (server.fetch (v.pageAt i) s).1 = .ok page ∧
      P v.pageSize (v.offset + i * v.pageSize) page :=
  h v.pageSize (v.offset + i * v.pageSize) s (Nat.le_refl _)
    (Nat.add_le_add_left (Nat.mul_le_mul_right _ hi) _)

/-- The number of records that a claim allows for decides which page is final: the last one
with records if it is right, the first one without records if it is too high or missing. -/
theorem cutPage_final_iff (hp : 0 < v.pageSize) {claim : Option Nat}
    (hclaim : ∀ c ∈ claim, R.length ≤ c) (i : Nat) :
    (v.cutPage v.pageSize R i = [] ∨
        ∃ c ∈ claim, c ≤ v.offset + i * v.pageSize + (v.cutPage v.pageSize R i).length) ↔
      v.fetchCount R.length claim ≤ i + 1 := by
  have hstep : (i + 1) * v.pageSize = i * v.pageSize + v.pageSize := Nat.succ_mul _ _
  have hlength := v.length_cutPage v.pageSize R i
  have hthis := View.pageCount_le_iff hp R.length i
  have hnext := View.pageCount_le_iff hp R.length (i + 1)
  rw [← List.length_eq_zero_iff, View.fetchCount]
  by_cases heq : claim = some R.length
  · rw [if_pos heq, heq]
    simp only [Option.mem_def, Option.some.injEq, exists_eq_left']
    omega
  · rw [if_neg heq]
    constructor
    · rintro (hempty | ⟨c, hc, hle⟩)
      · omega
      · have hne : c ≠ R.length := by
          rintro rfl
          exact heq hc
        have hmore := hclaim c hc
        omega
    · intro hcount
      left
      omega

/-- A server that answers in full and always claims the same number serves whole pages, and a
sweep ends behind the last one of `fetchCount`. -/
theorem reply_full_page (hp : 0 < v.pageSize) {claim : Option Nat}
    (hclaim : ∀ c ∈ claim, R.length ≤ c ∧ c ≤ ContentRange.maxCount)
    (hanswers : server.Answers v
      (v.offset + (v.fetchCount R.length claim - 1) * v.pageSize) fun limit offset page =>
        page.records = (R.drop offset).take limit ∧ page.Claims offset claim)
    {i : Nat} (hi : i < v.fetchCount R.length claim) (s : σ) :
    ∃ range, server.reply (v.pageAt i) s = .ok (v.cutPage v.pageSize R i, range) ∧
      (isFinalPage (v.cutPage v.pageSize R i) range = true ↔
        v.fetchCount R.length claim ≤ i + 1) := by
  have hle : ∀ c ∈ claim, R.length ≤ c := fun c hc => (hclaim c hc).1
  obtain ⟨page, hfetch, hrecords, hclaims⟩ :=
    hanswers.pageAt (by omega : i ≤ v.fetchCount R.length claim - 1) s
  have hcut : v.cutPage v.pageSize R i = page.records := by
    rw [View.cutPage, Nat.min_self, hrecords]
  have hlength := v.length_cutPage v.pageSize R i
  rw [← cutPage_final_iff hp hle i]
  rw [hcut] at hlength ⊢
  obtain ⟨range, hread, hfinal⟩ := Page.read_of_claims hclaims fun c hc => by
    refine ⟨(hclaim c hc).2, fun hne => ?_⟩
    have hsome := List.length_pos_iff.mpr hne
    have hmore := hle c hc
    omega
  exact ⟨range, (Server.reply_of_fetch hfetch).trans hread, hfinal⟩

/-- The last request is made at an offset, since the header of its page can be read. -/
theorem le_maxOffset_of_claims {claim : Option Nat}
    (hmax : claim = none → v.offset + v.pageCount R.length * v.pageSize ≤ maxOffset)
    (hanswers : server.Answers v
      (v.offset + (v.fetchCount R.length claim - 1) * v.pageSize) fun limit offset page =>
        page.records = (R.drop offset).take limit ∧ page.Claims offset claim) (s : σ) :
    v.offset + (v.fetchCount R.length claim - 1) * v.pageSize ≤ maxOffset := by
  cases claim with
  | none =>
    rw [View.fetchCount, if_neg (by simp), Nat.add_sub_cancel]
    exact hmax rfl
  | some c =>
    obtain ⟨page, -, -, r, -, hdescribes⟩ := hanswers 0 _ s (Nat.zero_le _) (Nat.le_refl _)
    have hfirst := hdescribes.first
    have hword := r.first.toInt_le
    have hvalue : Int64.maxValue.toInt ≤ maxOffset := by decide
    omega

/-- Collecting an unbounded view of a collection from a server that answers in full.  Every
header or none claims some number of records, not less than there are.  All records from the
offset of the view on are collected, in order and none twice, by exactly `fetchCount` requests:
as many as there are pages, at least one, if the number claimed is right, and one more to see
that there is nothing left if it is too high or missing.  Headers are readable at offsets only
that are far below the largest one; without headers the last request must be at an offset. -/
theorem collect_full_answers (v : View) (hv : v.window = none) (hp : 0 < v.pageSize)
    (R : List Json) (claim : Option Nat)
    (hclaim : ∀ c ∈ claim, R.length ≤ c ∧ c ≤ ContentRange.maxCount)
    (hmax : claim = none → v.offset + v.pageCount R.length * v.pageSize ≤ maxOffset)
    (server : Server σ)
    (hanswers : server.Answers v
      (v.offset + (v.fetchCount R.length claim - 1) * v.pageSize) fun limit offset page =>
        page.records = (R.drop offset).take limit ∧ page.Claims offset claim)
    (ch : Channel σ) (hfresh : ch.memo.materialized? = none) (budget : Nat)
    (hbudget : R.length - v.offset ≤ budget) :
    ∃ ch', v.collect server budget ch = (some (.ok ((R.drop v.offset).map v.shape)), ch') ∧
      ch'.session.fetches =
        ch.session.fetches ++ (List.range (v.fetchCount R.length claim)).map v.pageAt := by
  have hlarge := le_maxOffset_of_claims hmax hanswers ch.session.state
  obtain ⟨last, hlast⟩ := Nat.exists_eq_add_of_lt (v.fetchCount_pos R.length claim)
  rw [Nat.zero_add] at hlast
  have hread : ∀ i ≤ last, ∀ s, ∃ range,
      server.reply (v.pageAt i) s = .ok (v.cutPage v.pageSize R i, range) ∧
        (isFinalPage (v.cutPage v.pageSize R i) range = true ↔ i = last) := by
    intro i hi s
    obtain ⟨range, hreply, hfinal⟩ := reply_full_page hp hclaim hanswers
      (by omega : i < v.fetchCount R.length claim) s
    exact ⟨range, hreply, by rw [hfinal]; omega⟩
  have hserves : v.Serves server (v.cutPage v.pageSize R) last := by
    intro i hi s
    obtain ⟨range, hreply, hfinal⟩ := hread i (Nat.le_of_lt hi) s
    refine ⟨range, hreply, ?_⟩
    rw [← Bool.not_eq_true, hfinal]
    omega
  have hend : ∀ s, ∃ range, server.reply (v.pageAt last) s =
      .ok (v.cutPage v.pageSize R last, range) ∧
        isFinalPage (v.cutPage v.pageSize R last) range = true := by
    intro s
    obtain ⟨range, hreply, hfinal⟩ := hread last (Nat.le_refl _) s
    exact ⟨range, hreply, hfinal.mpr rfl⟩
  have hflat : (List.range (last + 1)).flatMap (v.cutPage v.pageSize R) = R.drop v.offset := by
    rw [← hlast, flatMap_cutPage hp (v.pageCount_le_fetchCount R.length claim),
      firstOfEach_of_le hp (Nat.le_refl _)]
  rw [hlast, Nat.add_sub_cancel] at hlarge
  obtain ⟨ch', hcollect, hfetches⟩ := collect_of_serves hv hlarge hserves hend hfresh budget
    (by rw [hflat, List.length_drop]; exact hbudget)
  rw [hflat] at hcollect
  exact ⟨ch', hcollect, by rw [hfetches, hlast]⟩

/-- Four records in pages of two: the second page is full, and known to be the last one. -/
theorem collect_full_answers_dataset :
    let v := { View.ofPath "items" with pageSize := 2 }
    let d : Dataset := ⟨[.int 1, .int 2, .int 3, .int 4], none, true, none, none, none⟩
    let ch : Channel Unit := ⟨Memo.blank, Session.start ()⟩
    (∀ c ∈ d.claim, d.records.length ≤ c ∧ c ≤ ContentRange.maxCount) ∧
      ∃ ch', v.collect d.server 4 ch = (some (.ok [.int 1, .int 2, .int 3, .int 4]), ch') ∧
        ch'.session.fetches =
          [⟨"items", [("limit", "2"), ("offset", "0")]⟩,
            ⟨"items", [("limit", "2"), ("offset", "2")]⟩] := by
  intro v d ch
  have hclaim : ∀ c ∈ d.claim, d.records.length ≤ c ∧ c ≤ ContentRange.maxCount := by
    rintro c ⟨⟩
    decide
  have hanswers := Dataset.answers_dataset (d := d) rfl v 2 (by decide) (by decide)
    (by rintro c ⟨⟩; decide)
  have hreach : v.offset + (v.fetchCount d.records.length d.claim - 1) * v.pageSize = 2 := by
    decide
  rw [← hreach] at hanswers
  obtain ⟨ch', hcollect, hfetches⟩ := collect_full_answers v rfl (by decide) d.records d.claim
    hclaim nofun d.server hanswers ch rfl 4 (by decide)
  have hrequests : (List.range (v.fetchCount d.records.length d.claim)).map v.pageAt =
      [⟨"items", [("limit", "2"), ("offset", "0")]⟩,
        ⟨"items", [("limit", "2"), ("offset", "2")]⟩] := by decide
  exact ⟨hclaim, ch', hcollect, by rw [hfetches, hrequests]; rfl⟩

end Unbounded

end PagedQuery
