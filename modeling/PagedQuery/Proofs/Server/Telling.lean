import PagedQuery.Proofs.Server.Collection
import PagedQuery.Proofs.View.Extent

/-!
# PagedQuery.Proofs.Server.Telling

What the answers of a server tell of the collection it holds.  The server may fail at any request,
but what it answers is true (`Server.Tells`): a page brings the records from its offset on, and
together with what lies behind it makes up what lay behind the page before (`append_tail`).  An
answer that cannot be read tells nothing; this is so if it has a header and its offset is no
signed word (`read_of_isAnswer`).
-/

namespace PagedQuery

variable {σ : Type}

/-! ## Parts of a view -/

namespace View

/-- The records of a collection from an offset on, as far as the window of the view goes. -/
def tail (v : View) (R : List Json) (offset : Nat) : List Json :=
  clip R offset (v.window.map Window.stop)

variable {v : View} {w : Window} {R : List Json}

theorem tail_of_unbounded (hw : v.window = none) (R : List Json) (offset : Nat) :
    v.tail R offset = R.drop offset := by
  rw [tail, hw]
  rfl

theorem tail_of_window (hw : v.window = some w) (R : List Json) (offset : Nat) :
    v.tail R offset = (R.take w.stop).drop offset := by
  rw [tail, hw]
  rfl

theorem extent_eq_tail (v : View) (R : List Json) : v.extent R = v.tail R v.offset := rfl

theorem tail_of_length_le (v : View) {offset : Nat} (h : R.length ≤ offset) :
    v.tail R offset = [] := by
  cases hw : v.window with
  | none => rw [tail_of_unbounded hw, List.drop_of_length_le h]
  | some w =>
    rw [tail_of_window hw, List.drop_of_length_le]
    rw [List.length_take]
    omega

theorem tail_of_stop_le (hw : v.window = some w) {offset : Nat} (h : w.stop ≤ offset) :
    v.tail R offset = [] := by
  rw [tail_of_window hw, List.drop_of_length_le]
  rw [List.length_take]
  omega

/-- A view shows the records behind its offset, as far as its window goes. -/
theorem getElem?_extent (hv : v.IsFramed) (R : List Json) {index : Nat}
    (hindex : ∀ w ∈ v.window, index < w.length) : (v.extent R)[index]? = R[v.offset + index]? := by
  rw [extent_eq_tail]
  cases hw : v.window with
  | none => rw [tail_of_unbounded hw, List.getElem?_drop]
  | some w =>
    have hstart := hv.start_eq w hw
    have hlt : index < w.stop - w.start := hindex w hw
    rw [tail_of_window hw, List.getElem?_drop, List.getElem?_take, if_pos (by omega)]

/-- A view with a window shows no more records than the window has positions. -/
theorem getElem?_extent_of_length_le (hv : v.IsFramed) (hw : v.window = some w) (R : List Json)
    {index : Nat} (h : w.length ≤ index) : (v.extent R)[index]? = none := by
  have hstart := hv.start_eq w hw
  have hlength : w.length = w.stop - w.start := rfl
  rw [extent_eq_tail, tail_of_window hw, List.getElem?_eq_none]
  rw [List.length_drop, List.length_take]
  omega

/-- The number of pages with records, out of a collection of `count`. -/
def pageCount (v : View) (count : Nat) : Nat :=
  (count - v.offset + (v.pageSize - 1)) / v.pageSize

theorem pageCount_le_iff (hp : 0 < v.pageSize) (count i : Nat) :
    v.pageCount count ≤ i ↔ count ≤ v.offset + i * v.pageSize := by
  rw [pageCount, ← Nat.lt_succ_iff, Nat.div_lt_iff_lt_mul hp, Nat.succ_mul]
  omega

/-- Where a view of a collection of `count` records ends: where its window does, or else where
the page behind the last one with records would be. -/
def reach (v : View) (count : Nat) : Nat :=
  match v.window with
  | some w => w.stop
  | none => v.offset + v.pageCount count * v.pageSize

theorem reach_of_window (hw : v.window = some w) (count : Nat) : v.reach count = w.stop := by
  rw [reach, hw]

theorem reach_of_unbounded (hw : v.window = none) (count : Nat) :
    v.reach count = v.offset + v.pageCount count * v.pageSize := by
  rw [reach, hw]

/-- The end of a window is an offset. -/
theorem reach_le (hv : v.IsFramed) {count : Nat}
    (h : v.window = none → v.offset + v.pageCount count * v.pageSize ≤ maxOffset) :
    v.reach count ≤ maxOffset := by
  cases hw : v.window with
  | none =>
    rw [reach_of_unbounded hw]
    exact h hw
  | some w =>
    rw [reach_of_window hw]
    exact hv.stop_le w hw

theorem offset_le_reach (hv : v.IsFramed) (count : Nat) : v.offset ≤ v.reach count := by
  cases hw : v.window with
  | none =>
    rw [reach_of_unbounded hw]
    exact Nat.le_add_right _ _
  | some window =>
    rw [reach_of_window hw, ← hv.start_eq window hw]
    exact hv.start_le window hw

/-- The records of a view are within its reach. -/
theorem le_reach_of_extent (hv : v.IsFramed) {index : Nat} {record : Json}
    (h : (v.extent R)[index]? = some record) :
    (∀ w ∈ v.window, index < w.length) ∧ v.offset + index ≤ v.reach R.length := by
  have hwindow : ∀ w ∈ v.window, index < w.length := fun w hw => by
    refine Nat.lt_of_not_le fun hle => ?_
    rw [getElem?_extent_of_length_le hv hw R hle] at h
    contradiction
  refine ⟨hwindow, ?_⟩
  rw [getElem?_extent hv R hwindow] at h
  have hlt := (List.getElem?_eq_some_iff.mp h).1
  cases hw : v.window with
  | some w =>
    have hstart := hv.start_eq w hw
    have hindex : index < w.stop - w.start := hwindow w hw
    rw [reach_of_window hw]
    omega
  | none =>
    have hpages := (pageCount_le_iff hv.pageSize_pos R.length _).mp (Nat.le_refl _)
    rw [reach_of_unbounded hw]
    omega

/-! ## Answers -/

/-- A page of a collection under a header that makes one of the claims, or under none if this is
among them: all records asked for, or for a bounded view some of them, from the first on, and none
only if there are none. -/
def IsAnswer (v : View) (R : List Json) (claims : List (Option Nat)) (limit offset : Nat)
    (page : Page) : Prop :=
  page.Begins ((R.drop offset).take limit) ∧
    (v.isBounded = false → page.records = (R.drop offset).take limit) ∧
    ∃ claim ∈ claims, page.Says offset claim

theorem isAnswer_of_full {claim : Option Nat} {limit offset : Nat} {page : Page}
    (hrecords : page.records = (R.drop offset).take limit) (hstated : page.Says offset claim) :
    v.IsAnswer R [claim] limit offset page :=
  ⟨⟨⟨[], by rw [List.append_nil, hrecords]⟩, fun hnil => by rw [← hrecords, hnil]⟩,
    fun _ => hrecords, claim, List.mem_singleton_self claim, hstated⟩

/-- What such a page tells of the collection, once it is read. -/
structure Tells (v : View) (R : List Json) (claims : List (Option Nat)) (limit offset : Nat)
    (records : List Json) (range : Option ContentRange) : Prop where
  begins : records <+: (R.drop offset).take limit
  nonempty : records = [] → (R.drop offset).take limit = []
  whole : v.window = none → records = (R.drop offset).take limit
  count : range.map (fun r => r.count.toNat) ∈ claims
  last : records ≠ [] → ∀ r ∈ range,
    r.isLastPage = true ↔ R.length ≤ offset + records.length

end View

/-- The claims of servers with a collection: of the number of records, or none.  A number that is
no signed word is not claimed, since it would be read as a negative one. -/
def AreTrueClaims (R : List Json) (claims : List (Option Nat)) : Prop :=
  ∀ count, some count ∈ claims → count = R.length ∧ count ≤ ContentRange.maxCount

namespace Page

/-- What is read of an answer is true of the collection.  An answer with a header is not read from
an offset on that is no signed word. -/
theorem read_of_isAnswer {v : View} {R : List Json} {claims : List (Option Nat)}
    (hclaims : AreTrueClaims R claims) {limit offset : Nat} {page : Page}
    (h : v.IsAnswer R claims limit offset page) :
    (∃ range, page.read = .ok (page.records, range) ∧
        v.Tells R claims limit offset page.records range) ∨
      ContentRange.maxCount < offset ∧ some R.length ∈ claims ∧
        ∃ header, page.read = .error (.decode (.range header)) := by
  obtain ⟨⟨hbegins, hnonempty⟩, hwhole, claim, hclaim, hstated⟩ := h
  have hlength := hbegins.length_le
  rw [List.length_take, List.length_drop] at hlength
  by_cases hread : ∀ c ∈ claim, offset ≤ ContentRange.maxCount
  · have hwords : ∀ c ∈ claim, c ≤ ContentRange.maxCount ∧
        offset + page.records.length ≤ ContentRange.maxCount := by
      rintro c rfl
      have htrue := hclaims c hclaim
      have hoffset := hread c rfl
      omega
    have hsize : ContentRange.maxCount < UInt64.size := by decide
    have hclaimed : page.Claims offset claim := hstated.claims fun c hc => by
      have hword := hwords c hc
      omega
    obtain ⟨range, hpage, hcount, hlast⟩ := exists_read hclaimed hwords
    refine .inl ⟨range, hpage, hbegins, hnonempty,
      fun hw => hwhole (View.isBounded_of_unbounded hw), hcount ▸ hclaim, ?_⟩
    rintro - r rfl
    have hsame : claim = some r.count.toNat := hcount.symm
    rw [hsame] at hclaim
    rw [← (hclaims _ hclaim).1]
    exact hlast r rfl _ hsame
  · obtain ⟨c, hc, hoffset⟩ : ∃ c ∈ claim, ContentRange.maxCount < offset := by
      simpa using hread
    obtain rfl : claim = some c := hc
    obtain ⟨rfl, -⟩ := hclaims c hclaim
    exact .inr ⟨hoffset, hclaim, _, hstated.read_of_lt hoffset⟩

end Page

namespace View.Tells

variable {v : View} {w : Window} {R : List Json} {claims : List (Option Nat)} {limit offset : Nat}
  {records : List Json} {range : Option ContentRange}

/-- A page with the first records of a part of a window, and the records behind it. -/
theorem append_drop_take (h : v.Tells R claims limit offset records range) {stop : Nat}
    (hlimit : offset + limit ≤ stop) :
    records ++ (R.take stop).drop (offset + records.length) = (R.take stop).drop offset := by
  have hpre : records <+: (R.take stop).drop offset := by
    rw [List.drop_take]
    exact h.begins.trans (List.take_prefix_take_left (by omega))
  obtain ⟨rest, hrest⟩ := hpre
  rw [← List.drop_drop, ← hrest, List.drop_left]

/-- The offset behind a page: a page size further in an unbounded view, otherwise behind the
last record received. -/
theorem append_tail (h : v.Tells R claims limit offset records range)
    (hwhole : v.window = none → limit = v.pageSize)
    (hwithin : ∀ w ∈ v.window, offset + limit ≤ w.stop) :
    records ++ v.tail R (offset + if v.isBounded then records.length else v.pageSize) =
      v.tail R offset := by
  cases hw : v.window with
  | none =>
    rw [tail_of_unbounded hw, tail_of_unbounded hw, isBounded_of_unbounded hw, h.whole hw,
      hwhole hw, ← List.drop_drop]
    exact List.take_append_drop ..
  | some w =>
    rw [tail_of_window hw, tail_of_window hw, isBounded_of_window hw, if_pos rfl]
    exact h.append_drop_take (hwithin w hw)

/-- Where a page without records is told, nothing is left. -/
theorem tail_of_nil (h : v.Tells R claims limit offset [] range) (hpos : 1 ≤ limit) :
    v.tail R offset = [] := by
  have hnil := congrArg List.length (h.nonempty rfl)
  rw [List.length_take, List.length_drop, List.length_nil] at hnil
  exact v.tail_of_length_le (by omega)

/-- Nothing is left behind the last page. -/
theorem tail_of_last (h : v.Tells R claims limit offset records range) (hle : limit ≤ v.pageSize)
    (hsome : records ≠ []) {r : ContentRange} (hr : r ∈ range) (hlast : r.isLastPage = true) :
    v.tail R (offset + if v.isBounded then records.length else v.pageSize) = [] := by
  have hall := (h.last hsome r hr).mp hlast
  have hlength := h.begins.length_le
  rw [List.length_take] at hlength
  apply v.tail_of_length_le
  split <;> omega

/-- Behind a page with a range that is not the last one there are records. -/
theorem lt_length_of_not_last (h : v.Tells R claims limit offset records range)
    (hwhole : v.window = none → limit = v.pageSize) (hsome : records ≠ []) {r : ContentRange}
    (hr : r ∈ range) (hlast : r.isLastPage = false) :
    (offset + if v.isBounded then records.length else v.pageSize) < R.length := by
  have hmore : offset + records.length < R.length := by
    rw [← Nat.not_le, ← h.last hsome r hr, hlast]
    simp
  cases hw : v.window with
  | some w => rwa [isBounded_of_window hw, if_pos rfl]
  | none =>
    -- a page of an unbounded view that does not reach the end is a whole one
    have hlength := congrArg List.length (h.whole hw)
    rw [List.length_take, List.length_drop, hwhole hw] at hlength
    rw [isBounded_of_unbounded hw, if_neg Bool.false_ne_true]
    omega

/-- A page of one record tells which record is at the offset. -/
theorem head? (h : v.Tells R claims 1 offset records range) : records.head? = R[offset]? := by
  have hhead : ((R.drop offset).take 1).head? = R[offset]? := by
    rw [List.head?_take, if_neg Nat.one_ne_zero, List.head?_drop]
  rw [← hhead]
  cases records with
  | nil => rw [h.nonempty rfl]
  | cons record rest =>
    obtain ⟨behind, hbehind⟩ := h.begins
    rw [← hbehind]
    rfl

end View.Tells

/-! ## Servers -/

namespace Server

/-- Whatever is read of an answer to a request of the view is true of the collection. -/
def Tells (server : Server σ) (v : View) (R : List Json) (claims : List (Option Nat)) : Prop :=
  ∀ limit offset s records range, limit ≤ v.pageSize → offset ≤ maxOffset →
    server.reply ⟨v.url, v.params limit offset⟩ s = .ok (records, range) →
    v.Tells R claims limit offset records range

theorem AnswersOrFails.tells {server : Server σ} {v : View} {R : List Json}
    {claims : List (Option Nat)} (hclaims : AreTrueClaims R claims)
    (h : server.AnswersOrFails v maxOffset (v.IsAnswer R claims)) : server.Tells v R claims := by
  intro limit offset s records range hlimit hoffset hreply
  cases hfetch : (server.fetch ⟨v.url, v.params limit offset⟩ s).1 with
  | error e =>
    rw [reply, hfetch] at hreply
    contradiction
  | ok page =>
    rw [reply_of_fetch hfetch] at hreply
    obtain ⟨range', hread, htells⟩ | ⟨-, -, header, hread⟩ :=
      Page.read_of_isAnswer hclaims (h limit offset s page hlimit hoffset hfetch)
    · rw [hread] at hreply
      cases hreply
      exact htells
    · rw [hread] at hreply
      contradiction

/-- What a server that answers every request answers cannot be read only if it has a header at an
offset that is no signed word. -/
theorem Answers.of_reply_error {server : Server σ} {v : View} {R : List Json}
    {claims : List (Option Nat)} (hclaims : AreTrueClaims R claims)
    (h : server.Answers v maxOffset (v.IsAnswer R claims)) {limit offset : Nat} {s : σ}
    {e : ClientError} (hlimit : limit ≤ v.pageSize) (hoffset : offset ≤ maxOffset)
    (hreply : server.reply ⟨v.url, v.params limit offset⟩ s = .error e) :
    ContentRange.maxCount < offset ∧ some R.length ∈ claims ∧
      ∃ header, e = .decode (.range header) := by
  obtain ⟨page, hfetch, hanswer⟩ := h limit offset s hlimit hoffset
  rw [reply_of_fetch hfetch] at hreply
  obtain ⟨range, hread, -⟩ | ⟨hlarge, hclaim, header, hread⟩ :=
    Page.read_of_isAnswer hclaims hanswer
  · rw [hread] at hreply
    contradiction
  · rw [hread] at hreply
    cases hreply
    exact ⟨hlarge, hclaim, header, rfl⟩

end Server

end PagedQuery
