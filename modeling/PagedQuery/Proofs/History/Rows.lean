import PagedQuery.Proofs.History.Replay
import PagedQuery.Proofs.View.Steps
import PagedQuery.Server.Dataset

/-!
# PagedQuery.Proofs.History.Rows

Rows of values, at once or by another walk.  A server that always answers alike brings the same by
every sweep (`sweep_of_constant`), and all records that a view remembers come of a sweep to the end
(`Memo.IsSwept.run`).  So rows of what is remembered are the rows that the view with the projection
collects (`ready_rows_agree`).
-/

namespace PagedQuery

variable {σ : Type}

/-! ## Servers that always answer alike -/

/-- The answer depends on nothing but the request. -/
def Server.IsConstant (server : Server σ) : Prop :=
  ∀ f s s', (server.fetch f s).1 = (server.fetch f s').1

theorem Server.IsConstant.reply {server : Server σ} (h : server.IsConstant) (f : Fetch)
    (s s' : σ) : server.reply f s = server.reply f s' := by
  rw [Server.reply, Server.reply, h f s s']

/-- Views that ask for the same pages sweep alike, at any time. -/
theorem sweep_of_constant {server : Server σ} (hserver : server.IsConstant) {v v' : View}
    (hpages : v'.nextPage? = v.nextPage?) (budget pages received : Nat) (s s' : σ) :
    sweep v' server budget pages received s' =
      { sweep v server budget pages received s with
        state := (sweep v' server budget pages received s').state } := by
  induction budget generalizing pages received s s' with
  | zero => rfl
  | succ budget ih =>
    cases hf : v.nextPage? pages received with
    | none => rw [sweep_of_full hf, sweep_of_full (hpages ▸ hf)]
    | some f =>
      have hf' : v'.nextPage? pages received = some f := hpages ▸ hf
      have hreply := hserver.reply f s' s
      cases hr : server.reply f s with
      | error e => rw [sweep_of_error hf hr, sweep_of_error hf' (hreply.trans hr)]
      | ok answer =>
        obtain ⟨records, range⟩ := answer
        cases hfinal : isFinalPage records range with
        | true => rw [sweep_of_final hf hr hfinal, sweep_of_final hf' (hreply.trans hr) hfinal]
        | false =>
          rw [sweep_of_more hf hr hfinal, sweep_of_more hf' (hreply.trans hr) hfinal]
          simp only
          rw [ih (pages + 1) (received + records.length) (server.after f s) (server.after f s')]

/-! ## What is remembered of a sweep -/

section Swept

variable {v : View} {server : Server σ} {ch : Channel σ} {budget : Nat}

/-- A sweep to the end of a view with a page makes a request. -/
theorem requests_ne_nil_of_finished {s : σ} (hpage : v.nextPage? 0 0 ≠ none)
    (hfinished : (sweep v server budget 0 0 s).ending = .finished) :
    (sweep v server budget 0 0 s).requests ≠ [] := by
  obtain ⟨f, hf⟩ := Option.ne_none_iff_exists'.mp hpage
  cases budget with
  | zero => contradiction
  | succ budget =>
    cases hr : server.reply f s with
    | error e => simp [sweep_of_error hf hr]
    | ok answer =>
      obtain ⟨records, range⟩ := answer
      cases hfinal : isFinalPage records range with
      | true => simp [sweep_of_final hf hr hfinal]
      | false => simp [sweep_of_more hf hr hfinal]

/-- All records of a sweep to the end are remembered. -/
theorem remembered_of_finished {s : σ} (hpage : v.nextPage? 0 0 ≠ none)
    (hfinished : (sweep v server budget 0 0 s).ending = .finished) (old : Option (List Json)) :
    (sweep v server budget 0 0 s).remembered old = some (sweep v server budget 0 0 s).records := by
  have hrequests := requests_ne_nil_of_finished hpage hfinished
  rw [Sweep.remembered]
  split
  · rfl
  · next hnone => rw [if_pos ⟨hrequests, hfinished⟩, Decidable.not_not.mp hnone]

namespace Walk

variable {n : Nat}

/-- A walk that comes to the end of a sweep leaves all of its records behind. -/
theorem materialized?_of_finished (hfresh : ch.memo.materialized? = none)
    (hpage : v.nextPage? 0 0 ≠ none)
    (hfinished : (sweep v server budget 0 0 ch.session.state).ending = .finished)
    (hn : (sweep v server budget 0 0 ch.session.state).records.length < n) :
    (take v server n (start v ch.memo) ch).channel.memo.materialized? =
      some (sweep v server budget 0 0 ch.session.state).records := by
  have hbrings := brings_of_ended ch hfresh (by rw [hfinished]; nofun) hn
  have hending : (take v server n (start v ch.memo) ch).ending = .finished := by
    rw [hbrings.ending, if_neg (by omega), hfinished]
  refine Memo.materialized?_eq_some_iff.mpr ⟨?_, ?_⟩
  · obtain ⟨requests, handed, -, htrace⟩ := exists_trace v server n hfresh
    rw [hending] at htrace
    cases htrace.stands with
    | finished hphase hcomplete => exact hcomplete
  · have hremembered := hbrings.remembered
    rwa [remembered, phase_start hfresh, remembered_of_finished hpage hfinished] at hremembered

/-- A walk over pages after which all records are known has come to the end of a sweep. -/
theorem finished_of_materialized? (hfresh : ch.memo.materialized? = none) {known : List Json}
    (hknown : (take v server n (start v ch.memo) ch).channel.memo.materialized? = some known) :
    (sweep v server n 0 0 ch.session.state).ending = .finished ∧
      (sweep v server n 0 0 ch.session.state).records.length < n := by
  have hcomplete := (Memo.materialized?_eq_some_iff.mp hknown).1
  have hending : (take v server n (start v ch.memo) ch).ending = .finished := by
    obtain ⟨requests, handed, -, htrace⟩ := exists_trace v server n hfresh
    generalize (take v server n (start v ch.memo) ch).ending = ending at htrace ⊢
    cases htrace.stands with
    | fresh hphase hwalk hchannel => rw [hchannel, hfresh] at hknown; contradiction
    | reading hphase hpages hdoubted => rw [hdoubted] at hcomplete; contradiction
    | failed hphase hdoubted => rw [hdoubted] at hcomplete; contradiction
    | finished => rfl
  have henough : n ≤ (sweep v server n 0 0 ch.session.state).records.length ∨
      (sweep v server n 0 0 ch.session.state).ending ≠ .taken := by
    by_cases htaken : (sweep v server n 0 0 ch.session.state).ending = .taken
    · exact .inl (budget_le_length_of_taken v server n 0 0 _ htaken)
    · exact .inr htaken
  rw [← rest_start hfresh] at henough ⊢
  obtain ⟨requests, -, hbrings, -⟩ := exists_brings n (at_start v ch.memo) ch n henough
  have hsame := hbrings.ending
  rw [hending] at hsame
  split at hsame
  · contradiction
  · next hmore => exact ⟨hsame.symm, by omega⟩

end Walk

/-- If the records remembered are all there are, then they are those of a sweep to the end. -/
def Memo.IsSwept (memo : Memo) (v : View) (server : Server σ) (s : σ) : Prop :=
  ∀ known, memo.materialized? = some known → v.nextPage? 0 0 ≠ none ∧
    ∃ budget, (sweep v server budget 0 0 s).ending = .finished ∧
      (sweep v server budget 0 0 s).records = known

theorem Memo.IsSwept.take {s : σ} (hserver : server.IsConstant) {n : Nat}
    (hfits : (Walk.take v server n (Walk.start v ch.memo) ch).channel.memo.FitsPages v)
    (h : ch.memo.IsSwept v server s) :
    (Walk.take v server n (Walk.start v ch.memo) ch).channel.memo.IsSwept v server s := by
  cases hold : ch.memo.materialized? with
  | some known =>
    have hsettled : Settled v ch.memo (known.map v.shape) := .held hold rfl
    rw [(hsettled.take server n).2.2]
    exact h
  | none =>
    intro known hknown
    obtain ⟨hfinished, hlength⟩ := Walk.finished_of_materialized? hold hknown
    have hpage : v.nextPage? 0 0 ≠ none := by
      intro hnone
      rw [Memo.materialized?, hfits hnone, ite_self] at hknown
      contradiction
    rw [Walk.materialized?_of_finished hold hpage hfinished hlength] at hknown
    have hpages : v.nextPage? = v.nextPage? := rfl
    have hsame := sweep_of_constant hserver hpages n 0 0 ch.session.state s
    refine ⟨hpage, n, ?_, ?_⟩
    · rw [hsame]
      exact hfinished
    · rw [hsame]
      exact Option.some.inj hknown

theorem Memo.IsSwept.run {s : σ} (hserver : server.IsConstant) (hfits : ch.memo.FitsPages v)
    (h : ch.memo.IsSwept v server s) (op : Operation) :
    (op.run v server ch).2.memo.IsSwept v server s := by
  have hfits' := hfits.run server op
  cases hcalls : op.calls? with
  | none =>
    have hlook := Operation.looksUp_run hcalls v server ch
    generalize op.run v server ch = result at hlook ⊢
    cases hlook with
    | known => exact h
    | asked =>
      intro known hknown
      refine h known ?_
      rwa [Memo.materialized?, Channel.records_asking, Channel.complete_asking] at hknown
  | some n =>
    rw [Operation.channel_of_walk hcalls] at hfits' ⊢
    exact h.take hserver hfits'

theorem Memo.IsSwept.channelAfter {s : σ} (hserver : server.IsConstant)
    (hfits : ch.memo.FitsPages v) (h : ch.memo.IsSwept v server s) (ops : List Operation) :
    (v.channelAfter server ops ch).memo.IsSwept v server s :=
  (View.channelAfter_preserves
    (P := fun ch => ch.memo.FitsPages v ∧ ch.memo.IsSwept v server s)
    (fun op _ _ hch => ⟨hch.1.run server op, hch.2.run hserver hch.1 op⟩) ⟨hfits, h⟩).2

end Swept

/-! ## Rows -/

namespace View

variable {v v' : View} {memo : Memo} {fields : List String}

theorem values_eq_ready_iff {rows : List Members} : v.values memo fields = .ok (.ready rows) ↔
    ∃ known v', memo.materialized? = some known ∧ v.projected fields = .ok v' ∧
      rows = known.map fun record => Record.project record fields := by
  unfold values
  cases v.projected fields <;> cases memo.materialized? <;> simp [eq_comm]

/-- A projection changes the shape of the records, and not the pages that are asked for. -/
theorem projected_eq_ok (h : v.projected fields = .ok v') :
    v'.nextPage? = v.nextPage? ∧
      v'.shape = fun record => .object (Record.project record fields) := by
  obtain ⟨-, rfl⟩ := map_checkFields_eq_ok_iff.mp h
  exact ⟨rfl, rfl⟩

end View

/-- Rows at once and rows by another walk agree.  If a server always answers alike and the rows of
a view are ready, after whatever was read through it, then the view that has them for its
projection collects just these rows, at any time, and remembers the same records. -/
theorem ready_rows_agree (v : View) {server : Server σ} (hserver : server.IsConstant)
    (session : Session σ) (ops : List Operation) (fields : List String) (rows : List Members)
    (hready : v.values (v.channelAfter server ops ⟨.blank, session⟩).memo fields =
      .ok (.ready rows)) :
    ∃ deferred known,
      (∀ memo : Memo, memo.materialized? = none →
        v.values memo fields = .ok (.deferred deferred)) ∧
      (v.channelAfter server ops ⟨.blank, session⟩).memo.records = some known ∧
      ∀ (session' : Session σ) (budget : Nat), rows.length ≤ budget →
        let collected := deferred.collect server budget ⟨.blank, session'⟩
        collected.1 = some (.ok (rows.map .object)) ∧
          collected.2.memo.materialized? = some known := by
  obtain ⟨known, deferred, hknown, hprojected, rfl⟩ := View.values_eq_ready_iff.mp hready
  obtain ⟨hpages, hshape⟩ := View.projected_eq_ok hprojected
  have hblank : (⟨.blank, session⟩ : Channel σ).memo.FitsPages v := fun _ => rfl
  have hswept : (⟨.blank, session⟩ : Channel σ).memo.IsSwept v server session.state := nofun
  obtain ⟨hpage, budget, hfinished, hrecords⟩ :=
    hswept.channelAfter hserver hblank ops known hknown
  refine ⟨deferred, known, fun memo hmemo => View.values_eq_deferred_iff.mpr ⟨hmemo, hprojected⟩,
    (Memo.materialized?_eq_some_iff.mp hknown).2, fun session' n hn => ?_⟩
  -- another sweep, of the view with the projection, brings the same records
  have hsame := sweep_of_constant hserver hpages budget 0 0 session.state session'.state
  have hfinished' : (sweep deferred server budget 0 0 session'.state).ending = .finished := by
    rw [hsame]
    exact hfinished
  have hrecords' : (sweep deferred server budget 0 0 session'.state).records = known := by
    rw [hsame]
    exact hrecords
  have hlength : (sweep deferred server budget 0 0 session'.state).records.length ≤ n := by
    rwa [hrecords', ← List.length_map]
  constructor
  · rw [View.collect_of_finished ⟨.blank, session'⟩ rfl hfinished' n hlength, hrecords', hshape,
      List.map_map]
    rfl
  · rw [View.channel_collect, ← hrecords']
    exact Walk.materialized?_of_finished rfl (hpages ▸ hpage) hfinished' (Nat.lt_succ_of_le hlength)

/-- Three records in two pages.  The view has another projection and is left once before all of
its records are collected. -/
theorem ready_rows_agree_dataset :
    let record := fun n : Int => Json.object [("id", .int n), ("owner", .object [("name", .null)])]
    let d : Dataset := ⟨[record 0, record 1, record 2], some 2, true, none, none, none⟩
    let v := { View.ofPath "items" with pageSize := 2, projection := some ["owner"] }
    let ch := v.channelAfter d.server [.walk 1, .collect 5] ⟨.blank, Session.start ()⟩
    let rows := [0, 1, 2].map fun n : Int =>
      [("id", Json.int n), ("owner.name", .null), ("missing", .null)]
    let fields := ["id", "owner.name", "missing"]
    d.server.IsConstant ∧ v.values ch.memo fields = .ok (.ready rows) ∧
      ∃ deferred, v.values .blank fields = .ok (.deferred deferred) ∧
        (deferred.collect d.server 3 ⟨.blank, Session.start ()⟩).1 =
          some (.ok (rows.map .object)) := by
  intro record d v ch rows fields
  have hserver : d.server.IsConstant := fun _ _ _ => rfl
  have hready : v.values ch.memo fields = .ok (.ready rows) := by
    have hknown : ch.memo.materialized? = some [record 0, record 1, record 2] := by
      decide +kernel
    have hprojected : v.projected fields = .ok { v with projection := some fields } :=
      View.map_checkFields_eq_ok_iff.mpr ⟨by decide +kernel, rfl⟩
    exact View.values_eq_ready_iff.mpr ⟨_, _, hknown, hprojected, by decide +kernel⟩
  obtain ⟨deferred, known, hdeferred, -, hcollect⟩ :=
    ready_rows_agree v hserver (Session.start ()) [.walk 1, .collect 5] fields rows hready
  exact ⟨hserver, hready, deferred, hdeferred .blank rfl,
    (hcollect (Session.start ()) 3 (by decide)).1⟩

end PagedQuery
