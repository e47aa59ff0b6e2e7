import PagedQuery.Proofs.RangeText
import PagedQuery.Proofs.Sweep
import PagedQuery.Server.Dataset

/-!
# PagedQuery.Proofs.Server.Collection

Servers that hold a fixed collection.  What a server answers is a relation between a request
and a page, so servers with states of their own are covered, and servers that do not answer
the same request twice in the same way.  Only requests that can occur matter: `Answers` speaks
of limits up to the page size of a view and of offsets up to a given one, which may be the
largest there is.  What a header says (`Page.Says`) need not be readable, since its positions are
signed words; where they are, a page has the claims that it says (`Says.claims`).  Datasets are
such servers (`answers_dataset`).
-/

namespace PagedQuery

variable {σ : Type}

/-- In every state the server answers each request of the view, for offsets up to `reach`, by
a page that is an answer to it. -/
def Server.Answers (server : Server σ) (v : View) (reach : Nat)
    (IsAnswer : (limit offset : Nat) → Page → Prop) : Prop :=
  ∀ limit offset s, limit ≤ v.pageSize → offset ≤ reach →
    ∃ page, (server.fetch ⟨v.url, v.params limit offset⟩ s).1 = .ok page ∧
      IsAnswer limit offset page

/-- Answers to more requests are answers to fewer, and in a weaker sense. -/
theorem Server.Answers.mono {server : Server σ} {v v' : View} {reach reach' : Nat}
    {P Q : (limit offset : Nat) → Page → Prop} (h : server.Answers v reach P)
    (hurl : v'.url = v.url) (hparams : v'.params = v.params) (hsize : v'.pageSize ≤ v.pageSize)
    (hreach : reach' ≤ reach)
    (himp : ∀ limit offset page, limit ≤ v'.pageSize → offset ≤ reach' → P limit offset page →
      Q limit offset page) :
    server.Answers v' reach' Q := by
  intro limit offset s hlimit hoffset
  obtain ⟨page, hfetch, hpage⟩ :=
    h limit offset s (Nat.le_trans hlimit hsize) (Nat.le_trans hoffset hreach)
  refine ⟨page, ?_, himp limit offset page hlimit hoffset hpage⟩
  rw [hurl, hparams]
  exact hfetch

/-- Like `Answers`, from a server that may also fail, at any request and in any state. -/
def Server.AnswersOrFails (server : Server σ) (v : View) (reach : Nat)
    (IsAnswer : (limit offset : Nat) → Page → Prop) : Prop :=
  ∀ limit offset s page, limit ≤ v.pageSize → offset ≤ reach →
    (server.fetch ⟨v.url, v.params limit offset⟩ s).1 = .ok page → IsAnswer limit offset page

theorem Server.Answers.orFails {server : Server σ} {v : View} {reach : Nat}
    {P : (limit offset : Nat) → Page → Prop} (h : server.Answers v reach P) :
    server.AnswersOrFails v reach P := by
  intro limit offset s page hlimit hoffset hfetch
  obtain ⟨page', hfetch', hpage⟩ := h limit offset s hlimit hoffset
  obtain rfl : page' = page := Except.ok.inj (hfetch'.symm.trans hfetch)
  exact hpage

namespace Page

/-! ## Claims of a page -/

/-- The header of a page from `offset` on claims that there are so many records in all; it
tells the truth about the page itself.  Without a claim there is no header. -/
def Claims (page : Page) (offset : Nat) : Option Nat → Prop
  | none => page.contentRange = none
  | some count =>
    ∃ r : ContentRange, page.contentRange = some r.text ∧
      r.Describes offset page.records.length count

/-- The header of a page from `offset` on says where the page lies and that there are so many
records in all, whether this can be read or not.  Without a claim there is no header. -/
def Says (page : Page) (offset : Nat) (claim : Option Nat) : Prop :=
  page.contentRange = claim.map (ContentRange.headerOfPage offset page.records.length)

/-- What a header says with numbers that are words can be read. -/
theorem Says.claims {page : Page} {offset : Nat} {claim : Option Nat} (h : page.Says offset claim)
    (hwords : ∀ c ∈ claim, offset + page.records.length ≤ ContentRange.maxCount ∧
      c < UInt64.size) : page.Claims offset claim := by
  cases claim with
  | none => exact h
  | some c =>
    obtain ⟨hend, hcount⟩ := hwords c rfl
    obtain ⟨r, htext, hdescribes⟩ := ContentRange.exists_describes hend hcount
    exact ⟨r, h.trans (congrArg some htext), hdescribes⟩

/-- A page with a header cannot be read from an offset on that is no signed word. -/
theorem Says.read_of_lt {page : Page} {offset count : Nat} (h : page.Says offset (some count))
    (hoffset : ContentRange.maxCount < offset) :
    page.read = .error (.decode (.range
      (ContentRange.headerOfPage offset page.records.length count))) := by
  have htext : page.contentRange =
      some (ContentRange.headerOfPage offset page.records.length count) := h
  rw [read, htext]
  simp only [ContentRange.ofText?_headerOfPage_of_lt hoffset]

/-- A page brings some of the records asked for, from the first on, and none only if there are
none. -/
def Begins (page : Page) (asked : List Json) : Prop :=
  page.records <+: asked ∧ (page.records = [] → asked = [])

/-- A page that is cut to some records at most begins the records asked for. -/
theorem begins_of_cut {page : Page} {asked : List Json} {limit most : Nat} (hmost : 0 < most)
    (h : page.records = asked.take (min limit most)) : page.Begins (asked.take limit) := by
  refine ⟨?_, fun hnil => ?_⟩
  · rw [h]
    exact List.take_prefix_take_left (Nat.min_le_left _ _)
  · rw [h, List.take_eq_nil_iff] at hnil
    rw [List.take_eq_nil_iff]
    exact hnil.imp_left fun hzero => by omega

/-- A page with a claim that can be read has a range with this claim, which is the last one just
if the page reaches it. -/
theorem exists_read {page : Page} {offset : Nat} {claim : Option Nat}
    (h : page.Claims offset claim)
    (hwords : ∀ c ∈ claim, c ≤ ContentRange.maxCount ∧
      offset + page.records.length ≤ ContentRange.maxCount) :
    ∃ range, page.read = .ok (page.records, range) ∧
      range.map (fun r => r.count.toNat) = claim ∧
      ∀ r ∈ range, ∀ c ∈ claim, r.isLastPage = true ↔ c ≤ offset + page.records.length := by
  cases claim with
  | none =>
    have hnone : page.contentRange = none := h
    exact ⟨none, by rw [read, hnone], rfl, nofun⟩
  | some c =>
    obtain ⟨r, htext, hdescribes⟩ := h
    obtain ⟨hcount, hend⟩ := hwords c rfl
    refine ⟨some r, ?_, congrArg some hdescribes.count, ?_⟩
    · rw [read, htext]
      simp only [hdescribes.ofText?_text]
    · rintro _ ⟨⟩ _ ⟨⟩
      exact hdescribes.isLastPage_iff hend hcount

/-- A page with claims can be read, and nothing is asked for behind it if it has no records or
reaches the number it claims. -/
theorem read_of_claims {page : Page} {offset : Nat} {claim : Option Nat}
    (h : page.Claims offset claim)
    (hwithin : ∀ c ∈ claim, c ≤ ContentRange.maxCount ∧
      (page.records ≠ [] → offset + page.records.length ≤ c)) :
    ∃ range, page.read = .ok (page.records, range) ∧
      (isFinalPage page.records range = true ↔
        page.records = [] ∨ ∃ c ∈ claim, c ≤ offset + page.records.length) := by
  have hwords : ∀ c ∈ claim, c ≤ ContentRange.maxCount ∧
      offset + page.records.length ≤ ContentRange.maxCount := by
    rintro c rfl
    obtain ⟨hword, hend⟩ := hwithin c rfl
    by_cases hempty : page.records = []
    · -- the offset is the first position of a range
      obtain ⟨r, -, hdescribes⟩ := h
      have hfirst := hdescribes.first
      have hle := r.first.toInt_le
      have hmax : Int64.maxValue.toInt = ContentRange.maxCount := by decide
      rw [hempty, List.length_nil]
      omega
    · have hle := hend hempty
      omega
  obtain ⟨range, hread, rfl, hlast⟩ := exists_read h hwords
  refine ⟨range, hread, ?_⟩
  by_cases hempty : page.records = []
  · simp [isFinalPage, hempty]
  · cases range with
    | none => simp [isFinalPage]
    | some r => simp [isFinalPage, hempty, hlast r rfl _ rfl]

end Page

/-! ## Datasets -/

/-- A number is read back from the text of a parameter. -/
theorem Fetch.number_of_param? {f : Fetch} {name : String} {n : Nat}
    (h : f.param? name = some (toString n)) (hn : n < UInt64.size) : f.number name = n := by
  have hdigits : (toString n).toList = Nat.toDigits 10 n := Nat.toList_repr
  rw [number, h, Option.bind_some, hdigits, Text.uint64?_decimal hn, Option.map_some,
    Option.getD_some, UInt64.toNat_ofNat_of_lt' hn]

theorem View.param?_limit (v : View) (url : String) (limit offset : Nat) :
    Fetch.param? ⟨url, v.params limit offset⟩ "limit" = some (toString limit) := rfl

theorem View.param?_offset (v : View) (url : String) (limit offset : Nat) :
    Fetch.param? ⟨url, v.params limit offset⟩ "offset" = some (toString offset) := rfl

namespace Dataset

/-- The number of records that the pages of a dataset claim, if they carry a header. -/
def claim (d : Dataset) : Option Nat :=
  if d.sendsRange then some (d.claimedCount.getD d.records.length) else none

theorem length_page_le (d : Dataset) (limit offset : Nat) :
    (d.page limit offset).length ≤ limit := by
  unfold page
  cases d.maxPage <;> simp only [List.length_take] <;> omega

/-- A dataset that never fails answers every request from its records, and says in its headers
what it was told to claim. -/
theorem answers_stated {d : Dataset} (hfails : d.failsAt = none) (v : View)
    (hsize : v.pageSize ≤ maxOffset) :
    d.server.Answers v maxOffset fun limit offset page =>
      page.records = d.page limit offset ∧ page.Says offset d.claim := by
  intro limit offset s hlimit hoffset
  have hmax : maxOffset < UInt64.size := by decide
  have hanswer : (d.server.fetch ⟨v.url, v.params limit offset⟩ s).1 =
      .ok ⟨d.page limit offset, d.claim.map
        (ContentRange.headerOfPage offset (d.page limit offset).length)⟩ := by
    show d.answer _ = _
    rw [answer, Fetch.number_of_param? (v.param?_limit ..) (by omega),
      Fetch.number_of_param? (v.param?_offset ..) (by omega), hfails, claim]
    cases d.sendsRange <;> rfl
  exact ⟨_, hanswer, rfl, rfl⟩

/-- What a dataset says can be read as long as the numbers in its headers are words. -/
theorem answers_dataset {d : Dataset} (hfails : d.failsAt = none) (v : View) (reach : Nat)
    (hsize : v.pageSize ≤ maxOffset) (hreach : reach ≤ maxOffset)
    (hrange : ∀ c ∈ d.claim,
      reach + v.pageSize ≤ ContentRange.maxCount ∧ c < UInt64.size) :
    d.server.Answers v reach fun limit offset page =>
      page.records = d.page limit offset ∧ page.Claims offset d.claim := by
  refine (answers_stated hfails v hsize).mono rfl rfl (Nat.le_refl _) hreach ?_
  rintro limit offset page hlimit hoffset ⟨hrecords, hstated⟩
  refine ⟨hrecords, hstated.claims fun c hc => ?_⟩
  obtain ⟨hend, hcount⟩ := hrange c hc
  have hlength := d.length_page_le limit offset
  rw [hrecords]
  exact ⟨by omega, hcount⟩

/-- A dataset that fails at some offset answers all other requests as one that never fails. -/
theorem answersOrFails_stated (d : Dataset) (v : View) (hsize : v.pageSize ≤ maxOffset) :
    d.server.AnswersOrFails v maxOffset fun limit offset page =>
      page.records = d.page limit offset ∧ page.Says offset d.claim := by
  intro limit offset s page hlimit hoffset hfetch
  let calm : Dataset := { d with failsAt := none }
  have hanswers := answers_stated (d := calm) rfl v hsize
  refine hanswers.orFails limit offset s page hlimit hoffset ?_
  have hanswer : d.answer ⟨v.url, v.params limit offset⟩ = .ok page := hfetch
  rw [answer] at hanswer
  simp only at hanswer
  split at hanswer
  · contradiction
  · exact hanswer

/-- A dataset that sends at most `most` records at a time. -/
theorem answers_capped {d : Dataset} (hfails : d.failsAt = none) {most : Nat}
    (hmost : d.maxPage = some most) (v : View) (hsize : v.pageSize ≤ maxOffset) :
    d.server.Answers v maxOffset fun limit offset page =>
      page.records = (d.records.drop offset).take (min limit most) ∧ page.Says offset d.claim := by
  refine (answers_stated hfails v hsize).mono rfl rfl (Nat.le_refl _) (Nat.le_refl _) ?_
  rintro limit offset page _ _ ⟨hrecords, hstated⟩
  rw [Dataset.page, hmost] at hrecords
  exact ⟨hrecords, hstated⟩

end Dataset

end PagedQuery
