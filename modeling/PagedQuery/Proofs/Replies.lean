import PagedQuery.Proofs.Reply

/-!
# PagedQuery.Proofs.Replies

Requests made one after the other.  A server that is a function of its state determines what
they bring (`Server.replies`), and this in turn determines which records and which range are
remembered.  `Channel.Follows` says of a channel that some requests lead to it from another.
-/

namespace PagedQuery

variable {σ : Type}

namespace Server

/-- What some requests bring, the first of them made when the server is in state `s`. -/
def replies (server : Server σ) : List Fetch → σ → List Reading
  | [], _ => []
  | f :: fs, s => server.reply f s :: server.replies fs (server.after f s)

/-- The server's state after some requests. -/
def afterAll (server : Server σ) (fs : List Fetch) (s : σ) : σ :=
  fs.foldl (fun s f => server.after f s) s

theorem replies_append (server : Server σ) (fs gs : List Fetch) (s : σ) :
    server.replies (fs ++ gs) s =
      server.replies fs s ++ server.replies gs (server.afterAll fs s) := by
  induction fs generalizing s with
  | nil => rfl
  | cons f fs ih => exact congrArg (server.reply f s :: ·) (ih (server.after f s))

theorem replies_concat (server : Server σ) (fs : List Fetch) (f : Fetch) (s : σ) :
    server.replies (fs ++ [f]) s =
      server.replies fs s ++ [server.reply f (server.afterAll fs s)] :=
  server.replies_append fs [f] s

theorem afterAll_append (server : Server σ) (fs gs : List Fetch) (s : σ) :
    server.afterAll (fs ++ gs) s = server.afterAll gs (server.afterAll fs s) :=
  List.foldl_append

theorem afterAll_concat (server : Server σ) (fs : List Fetch) (f : Fetch) (s : σ) :
    server.afterAll (fs ++ [f]) s = server.after f (server.afterAll fs s) :=
  server.afterAll_append fs [f] s

end Server

/-! ## Pages and ranges -/

/-- The records of a reading, if it is a page. -/
def pageOf : Reading → Option (List Json)
  | .ok (records, _) => some records
  | .error _ => none

/-- The range of a reading, if it is a page that came with one. -/
def rangeOf : Reading → Option ContentRange
  | .ok (_, range) => range
  | .error _ => none

/-- The pages received, in order. -/
def receivedPages (readings : List Reading) : List (List Json) :=
  readings.filterMap pageOf

/-- The ranges received, in order. -/
def receivedRanges (readings : List Reading) : List ContentRange :=
  readings.filterMap rangeOf

/-- The records remembered of some pages, where those of `old` were before. -/
def rememberedPages (old : Option (List Json)) (pages : List (List Json)) : Option (List Json) :=
  if pages = [] then old else some pages.flatten

/-- The latest of some ranges, or `old` if there are none. -/
def latestRange (old : Option ContentRange) (ranges : List ContentRange) :
    Option ContentRange :=
  ranges.getLast?.or old

theorem receivedPages_concat_ok (readings : List Reading) (records : List Json)
    (range : Option ContentRange) :
    receivedPages (readings ++ [.ok (records, range)]) = receivedPages readings ++ [records] := by
  rw [receivedPages, List.filterMap_append]
  rfl

theorem receivedPages_concat_error (readings : List Reading) (e : ClientError) :
    receivedPages (readings ++ [.error e]) = receivedPages readings := by
  rw [receivedPages, List.filterMap_append]
  exact List.append_nil _

theorem rememberedPages_concat (old : Option (List Json)) (pages : List (List Json))
    (records : List Json) :
    rememberedPages old (pages ++ [records]) = some (pages.flatten ++ records) := by
  rw [rememberedPages, if_neg (by simp), List.flatten_append, List.flatten_singleton]

theorem latestRange_append (old : Option ContentRange) (ranges later : List ContentRange) :
    latestRange old (ranges ++ later) = latestRange (latestRange old ranges) later := by
  rw [latestRange, latestRange, latestRange, List.getLast?_append, Option.or_assoc]

/-- One reading more may bring a later range. -/
theorem latestRange_concat (old : Option ContentRange) (readings : List Reading)
    (reading : Reading) :
    latestRange old (receivedRanges (readings ++ [reading])) =
      (rangeOf reading).or (latestRange old (receivedRanges readings)) := by
  rw [latestRange, latestRange, receivedRanges, receivedRanges, List.filterMap_append,
    List.getLast?_append, List.filterMap_cons]
  cases rangeOf reading <;> rfl

theorem Memo.range_noting (m : Memo) (reading : Reading) :
    (m.noting reading).range = (rangeOf reading).or m.range := by
  obtain _ | ⟨_, _ | _⟩ := reading <;> rfl

@[simp] theorem Memo.complete_noting (m : Memo) (reading : Reading) :
    (m.noting reading).complete = m.complete := by
  obtain _ | ⟨_, _ | _⟩ := reading <;> rfl

theorem Memo.materialized?_eq_some_iff {memo : Memo} {known : List Json} :
    memo.materialized? = some known ↔ memo.complete = true ∧ memo.records = some known := by
  rw [materialized?]
  cases memo.complete <;> simp

/-! ## Channels -/

@[simp] theorem Channel.complete_asking (ch : Channel σ) (server : Server σ) (f : Fetch) :
    (ch.asking server f).memo.complete = ch.memo.complete :=
  Memo.complete_noting ..

/-- The channel is what `before` has become by some requests, as far as the session and the
range remembered go. -/
structure Channel.Follows (ch : Channel σ) (server : Server σ) (before : Channel σ)
    (requests : List Fetch) : Prop where
  fetches : ch.session.fetches = before.session.fetches ++ requests
  state : ch.session.state = server.afterAll requests before.session.state
  range : ch.memo.range = latestRange before.memo.range
    (receivedRanges (server.replies requests before.session.state))

namespace Channel.Follows

variable {server : Server σ} {ch ch' before : Channel σ} {requests : List Fetch}

theorem refl (server : Server σ) (ch : Channel σ) : ch.Follows server ch [] where
  fetches := (List.append_nil _).symm
  state := rfl
  range := rfl

/-- Requests show in the list of fetches and in the range remembered, and nowhere else. -/
theorem congr (h : ch.Follows server before requests) (hfetches : ch'.session.fetches =
    ch.session.fetches) (hstate : ch'.session.state = ch.session.state)
    (hrange : ch'.memo.range = ch.memo.range) : ch'.Follows server before requests where
  fetches := hfetches.trans h.fetches
  state := hstate.trans h.state
  range := hrange.trans h.range

/-- One request more brings what the server answers by then. -/
theorem replies_concat (h : ch.Follows server before requests) (f : Fetch) :
    server.replies (requests ++ [f]) before.session.state =
      server.replies requests before.session.state ++ [server.reply f ch.session.state] := by
  rw [Server.replies_concat, h.state]

/-- One request more. -/
theorem asking (h : ch.Follows server before requests) (f : Fetch) :
    (ch.asking server f).Follows server before (requests ++ [f]) where
  fetches := by rw [Channel.fetches_asking, h.fetches, List.append_assoc]
  state := by rw [Channel.state_asking, h.state, Server.afterAll_concat]
  range := by
    rw [h.replies_concat, latestRange_concat, ← h.range]
    exact Memo.range_noting ..

/-- Some requests more. -/
theorem trans {more : List Fetch} (h : ch.Follows server before requests)
    (h' : ch'.Follows server ch more) : ch'.Follows server before (requests ++ more) where
  fetches := by rw [h'.fetches, h.fetches, List.append_assoc]
  state := by rw [h'.state, h.state, Server.afterAll_append]
  range := by
    rw [h'.range, h.range, h.state, Server.replies_append, receivedRanges, receivedRanges,
      receivedRanges, List.filterMap_append, latestRange_append]

end Channel.Follows

end PagedQuery
