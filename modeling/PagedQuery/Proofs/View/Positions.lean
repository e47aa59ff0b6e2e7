import Mathlib.Data.List.Basic
import PagedQuery.Proofs.View.Steps

/-!
# PagedQuery.Proofs.View.Positions

The positions of the views that can be built.  Only configurations and slices touch them
(`Step.apply_positions`), and both keep that pages can hold records and that a window starts at the
offset of the view, does not end before it and ends at an offset (`Reached.isFramed`).
`positions_hold` says besides exactly when the two fail, and where they lead otherwise.
-/

namespace PagedQuery.View

variable {v v' : View} {first last : Bound} {pageSize offset : Option Nat}

/-- The views are alike in page size, offset and window. -/
structure SamePositions (v v' : View) : Prop where
  pageSize : v'.pageSize = v.pageSize
  offset : v'.offset = v.offset
  window : v'.window = v.window

theorem exists_error_iff {ε α : Type} {x : Except ε α} :
    (∃ e, x = .error e) ↔ ¬ ∃ a, x = .ok a := by
  cases x <;> simp

/-! ## Configurations -/

theorem IsFramed.configure (hv : v.IsFramed) (h : v.configure pageSize offset = .ok v') :
    v'.IsFramed := by
  obtain ⟨hcan, rfl⟩ := configure_eq_ok_iff.mp h
  have hpos : 0 < pageSize.getD v.pageSize := by
    cases pageSize with
    | none => exact hv.pageSize_pos
    | some n => exact Nat.pos_of_ne_zero fun hzero => hcan.pageSize_ne (congrArg some hzero)
  cases offset with
  | none => exact ⟨hpos, hv.start_eq, hv.start_le, hv.stop_le⟩
  | some o =>
    -- the window that was moved is the old one up to its place
    have hmoved : ∀ w' ∈ (v.configured pageSize (some o)).window,
        ∃ w ∈ v.window, w' = ⟨o, o + w.length⟩ := by
      intro w' hw'
      obtain ⟨w, hw, rfl⟩ := Option.map_eq_some_iff.mp hw'
      exact ⟨w, hw, rfl⟩
    refine ⟨hpos, ?_, ?_, ?_⟩
    all_goals
      intro w' hw'
      obtain ⟨w, hw, rfl⟩ := hmoved w' hw'
    · rfl
    · exact Nat.le_add_right _ _
    · exact hcan.stop_le o rfl w hw

/-- A configuration fails just if pages could not hold a record, or if the window would end behind
the largest offset. -/
theorem configure_fails_iff : (∃ e, v.configure pageSize offset = .error e) ↔
    pageSize = some 0 ∨ ∃ o ∈ offset, ∃ w ∈ v.window, maxOffset < o + w.length := by
  have hcan : (∃ v', v.configure pageSize offset = .ok v') ↔ v.CanConfigure pageSize offset := by
    simp only [configure_eq_ok_iff, exists_and_left, exists_eq, and_true]
  rw [exists_error_iff, hcan]
  constructor
  · intro h
    refine Classical.byContradiction fun hnone => h ?_
    simp only [not_or, not_exists, not_and, Nat.not_lt] at hnone
    exact ⟨hnone.1, hnone.2⟩
  · rintro (hzero | ⟨o, ho, w, hw, hlt⟩) hcan
    · exact hcan.pageSize_ne hzero
    · exact Nat.not_le.mpr hlt (hcan.stop_le o ho w hw)

/-! ## Slices -/

theorem window_sliceAt (v : View) (start : Nat) (stop : Option Nat) :
    (v.sliceAt start stop).window = sliceWindow v.window start stop := by
  unfold sliceAt
  split
  · next w hw => exact hw.symm
  · next hnone => rw [hnone, unbounded_of_sliceWindow hnone]

/-- A slice fails just if its bounds are reversed or one of them, counted from the offset of the
view, would be no offset; a bound that is none itself is none behind the offset either. -/
theorem slice_fails_iff : (∃ e, v.slice first last = .error e) ↔
    (∃ stop ∈ last.stop, stop < first.start) ∨ maxOffset < first.start ∨
      (∃ stop ∈ last.stop, maxOffset < stop) ∨ maxOffset < v.offset + first.start ∨
        ∃ stop ∈ last.stop, maxOffset < v.offset + stop := by
  have hcan : (∃ v', v.slice first last = .ok v') ↔ v.CanSlice first last := by
    simp only [slice_eq_ok_iff, exists_and_left, exists_eq, and_true]
  rw [exists_error_iff, hcan]
  constructor
  · intro h
    refine Classical.byContradiction fun hnone => h ?_
    simp only [not_or, not_exists, not_and, Nat.not_lt] at hnone
    obtain ⟨hordered, -, -, hstart, hstop⟩ := hnone
    exact ⟨hordered, hstart, hstop⟩
  · rintro hfails ⟨hordered, hstart, hstop⟩
    obtain ⟨s, hs, hlt⟩ | hlt | ⟨s, hs, hlt⟩ | hlt | ⟨s, hs, hlt⟩ := hfails
    · exact Nat.not_le.mpr hlt (hordered s hs)
    · omega
    · have hle := hstop s hs
      omega
    · omega
    · exact Nat.not_le.mpr hlt (hstop s hs)

/-- Without a window a slice lies where its bounds say, counted from the offset of the view. -/
theorem positions_of_slice (h : v.slice first last = .ok v') (hw : v.window = none) :
    v'.offset = v.offset + first.start ∧
      v'.window = last.stop.map fun stop => ⟨v.offset + first.start, v.offset + stop⟩ := by
  obtain ⟨-, rfl⟩ := slice_eq_ok_iff.mp h
  cases hstop : last.stop <;> simp [sliceAt, sliceWindow, hw]

theorem offset_sliceAt_le (v : View) (start : Nat) (stop : Option Nat) :
    (v.sliceAt start stop).offset ≤ start := by
  unfold sliceAt
  split
  · next w hw =>
    unfold sliceWindow at hw
    split at hw
    · cases hw
      exact Nat.min_le_left _ _
    · cases hw
      exact Nat.min_le_left _ _
    · cases hw
      exact Nat.le_refl _
    · contradiction
  · exact Nat.le_refl _

/-- In a window a slice lies where its bounds say, as far as the window goes. -/
theorem window_of_slice (h : v.slice first last = .ok v') {w : Window} (hw : v.window = some w) :
    v'.window = some ⟨min (v.offset + first.start) w.stop,
      min ((last.stop.map (v.offset + ·)).getD w.stop) w.stop⟩ := by
  obtain ⟨-, rfl⟩ := slice_eq_ok_iff.mp h
  rw [window_sliceAt, hw]
  cases last.stop <;> simp [sliceWindow]

theorem within_of_slice (hv : v.IsFramed) (h : v.slice first last = .ok v') {w : Window}
    (hw : v.window = some w) :
    ∃ w', v'.window = some w' ∧ w.start ≤ w'.start ∧ w'.stop ≤ w.stop := by
  refine ⟨_, window_of_slice h hw, ?_, Nat.min_le_right _ _⟩
  have hstart := hv.start_eq w hw
  have hle := hv.start_le w hw
  show w.start ≤ min _ _
  omega

/-! ## Steps -/

/-- A step leaves the positions of a view as they are, unless it is a configuration or a slice. -/
theorem Step.apply_positions {step : Step} (h : step.apply v = .ok v') :
    v.SamePositions v' ∨
      (∃ pageSize offset, (offset = none ∨ step = .configure pageSize offset) ∧
        v.configure pageSize offset = .ok v') ∨
      ∃ first last, v.slice first last = .ok v' := by
  cases step with
  | filter expr =>
    cases h
    exact .inl ⟨rfl, rfl, rfl⟩
  | rawFilter text =>
    have hraw : v.withRawFilter text = .ok v' := h
    obtain ⟨-, terms, -, rfl⟩ := withRawFilter_eq_ok_iff.mp hraw
    exact .inl ⟨rfl, rfl, rfl⟩
  | lookups pairs =>
    obtain ⟨e, -, rfl⟩ := withLookups_eq_ok_iff.mp h
    exact .inl ⟨rfl, rfl, rfl⟩
  | select fields | order fields | project fields =>
    obtain ⟨-, rfl⟩ := map_checkFields_eq_ok_iff.mp h
    exact .inl ⟨rfl, rfl, rfl⟩
  | search term =>
    cases h
    left
    -- `rfl` would compare the search terms first
    constructor <;> simp only [searching]
  | limit n => exact .inr (.inl ⟨some n, none, .inl rfl, h⟩)
  | configure pageSize offset => exact .inr (.inl ⟨pageSize, offset, .inr rfl, h⟩)
  | slice first last => exact .inr (.inr ⟨first, last, h⟩)
  | copy =>
    cases h
    exact .inl ⟨rfl, rfl, rfl⟩

theorem IsFramed.congr (hv : v.IsFramed) (h : v.SamePositions v') : v'.IsFramed where
  pageSize_pos := by rw [h.pageSize]; exact hv.pageSize_pos
  start_eq := by rw [h.window, h.offset]; exact hv.start_eq
  start_le := by rw [h.window]; exact hv.start_le
  stop_le := by rw [h.window]; exact hv.stop_le

theorem IsFramed.apply {step : Step} (hv : v.IsFramed) (h : step.apply v = .ok v') :
    v'.IsFramed := by
  obtain hsame | ⟨_, _, -, hconfigure⟩ | ⟨_, _, hslice⟩ := Step.apply_positions h
  · exact hv.congr hsame
  · exact hv.configure hconfigure
  · exact hv.slice hslice

/-! ## Views that are built -/

/-- What views begin with and each of some steps preserves holds of the view that they lead to. -/
theorem Reached.preserves {P : View → Prop} {steps : List Step} (h : Reached steps v)
    (hpath : ∀ path, P (ofPath path)) (hcollection : ∀ c : Collection, P c.view)
    (hstep : ∀ step ∈ steps, ∀ w w', step.apply w = .ok w' → P w → P w') : P v := by
  obtain ⟨path, h⟩ | ⟨c, h⟩ := h
  · exact build_preserves hstep h (hpath path)
  · exact build_preserves hstep h (hcollection c)

theorem Reached.isFramed {steps : List Step} (h : Reached steps v) : v.IsFramed :=
  h.preserves (fun _ => isFramed_of_unbounded rfl (Nat.succ_pos _))
    (fun _ => isFramed_of_unbounded rfl (Nat.le_max_right _ _))
    fun _ _ _ _ happly hw => hw.apply happly

theorem Built.isFramed (h : v.Built) : v.IsFramed := by
  obtain ⟨steps, hreached⟩ := built_iff_reached.mp h
  exact hreached.isFramed

/-- The view starts at an offset if all that it was configured with are offsets. -/
theorem Reached.offset_le {steps : List Step} (h : Reached steps v)
    (hsteps : ∀ pageSize o, .configure pageSize (some o) ∈ steps → o ≤ maxOffset) :
    v.offset ≤ maxOffset := by
  refine h.preserves (P := fun w => w.offset ≤ maxOffset) (fun _ => Nat.zero_le _)
    (fun _ => Nat.zero_le _) ?_
  intro step hstep w w' happly hw
  obtain hsame | ⟨pageSize, offset, hgiven, hconfigure⟩ | ⟨first, last, hslice⟩ :=
    Step.apply_positions happly
  · rw [hsame.offset]
    exact hw
  · obtain ⟨-, rfl⟩ := configure_eq_ok_iff.mp hconfigure
    cases offset with
    | none => exact hw
    | some o =>
      obtain hnone | rfl := hgiven
      · contradiction
      · exact hsteps pageSize o hstep
  · obtain ⟨hcan, rfl⟩ := slice_eq_ok_iff.mp hslice
    exact Nat.le_trans (offset_sliceAt_le w _ _) hcan.start_le

/-- Every view that can be built has pages that can hold a record, and a window, if any, that
starts at its offset, does not end before it and ends at an offset; so does its offset lie, if all
that it was configured with are offsets.  A slice fails just if its bounds are reversed or one of
them is no offset, by itself or counted from the offset of the view; else it lies where they say,
within a window that is there already.  A configuration fails just if pages could hold nothing or
the window would end behind the largest offset; else it moves the window as it is.  The sums are
those of natural numbers, since none is taken that is no offset. -/
theorem positions_hold {steps : List Step} (h : Reached steps v) :
    0 < v.pageSize ∧
    (∀ w ∈ v.window, w.start = v.offset ∧ w.start ≤ w.stop ∧ w.stop ≤ maxOffset) ∧
    ((∀ pageSize o, .configure pageSize (some o) ∈ steps → o ≤ maxOffset) →
      v.offset ≤ maxOffset) ∧
    (∀ first last : Bound,
      ((∃ e, v.slice first last = .error e) ↔
        (∃ stop ∈ last.stop, stop < first.start) ∨ maxOffset < first.start ∨
          (∃ stop ∈ last.stop, maxOffset < stop) ∨ maxOffset < v.offset + first.start ∨
            ∃ stop ∈ last.stop, maxOffset < v.offset + stop) ∧
      ∀ v', v.slice first last = .ok v' →
        (v.window = none → v'.offset = v.offset + first.start ∧
          v'.window = last.stop.map fun stop => ⟨v.offset + first.start, v.offset + stop⟩) ∧
        ∀ w ∈ v.window,
          v'.window = some ⟨min (v.offset + first.start) w.stop,
            min ((last.stop.map (v.offset + ·)).getD w.stop) w.stop⟩ ∧
          ∃ w', v'.window = some w' ∧ w.start ≤ w'.start ∧ w'.stop ≤ w.stop) ∧
    ∀ pageSize offset : Option Nat,
      ((∃ e, v.configure pageSize offset = .error e) ↔
        pageSize = some 0 ∨ ∃ o ∈ offset, ∃ w ∈ v.window, maxOffset < o + w.length) ∧
      ∀ v', v.configure pageSize offset = .ok v' →
        v'.pageSize = pageSize.getD v.pageSize ∧ v'.offset = offset.getD v.offset ∧
        (offset = none → v'.window = v.window) ∧
        ∀ o ∈ offset, v'.window = v.window.map fun w => ⟨o, o + w.length⟩ := by
  have hv := h.isFramed
  refine ⟨hv.pageSize_pos, fun w hw => ⟨hv.start_eq w hw, hv.start_le w hw, hv.stop_le w hw⟩,
    h.offset_le, fun first last => ⟨slice_fails_iff, fun v' hslice => ?_⟩,
    fun pageSize offset => ⟨configure_fails_iff, fun v' hconfigure => ?_⟩⟩
  · exact ⟨positions_of_slice hslice, fun w hw =>
      ⟨window_of_slice hslice hw, within_of_slice hv hslice hw⟩⟩
  · obtain ⟨-, rfl⟩ := configure_eq_ok_iff.mp hconfigure
    refine ⟨rfl, rfl, ?_, ?_⟩
    · rintro rfl
      rfl
    · rintro o rfl
      rfl

/-- A window that is moved and cut, in a collection that is set up with empty pages.  It cannot be
cut or moved past the largest offset; cut past its own end it keeps to it. -/
theorem positions_hold_users :
    let c : Collection := ⟨"users", 0⟩
    let steps := [Step.limit 7, .slice (.included 10) (.excluded 30), .configure none (some 100),
      .slice (.excluded 3) .unbounded]
    let v := { c.view with pageSize := 7, offset := 104, window := some ⟨104, 120⟩ }
    Reached steps v ∧ v.offset ≤ maxOffset ∧
      (∃ e, v.slice .unbounded (.included (maxOffset - 104)) = .error e) ∧
      (∃ e, v.configure (some 5) (some (maxOffset - 15)) = .error e) ∧
      ∃ v', v.slice (.included 2) (.excluded 50) = .ok v' ∧ v'.window = some ⟨106, 120⟩ := by
  intro c steps v
  have hreached : Reached steps v := .inr ⟨c, by decide +kernel⟩
  obtain ⟨-, -, hoffset, hslice, hconfigure⟩ := positions_hold hreached
  refine ⟨hreached, hoffset ?_, ?_, ?_, ?_⟩
  · intro pageSize o ho
    obtain ⟨-, rfl⟩ : pageSize = none ∧ o = 100 := by simpa [steps] using ho
    decide
  · exact (hslice _ _).1.mpr (.inr (.inr (.inr (.inr ⟨_, rfl, by decide⟩))))
  · exact (hconfigure _ _).1.mpr (.inr ⟨_, rfl, _, rfl, by decide⟩)
  · obtain ⟨v', hok⟩ : ∃ v', v.slice (.included 2) (.excluded 50) = .ok v' :=
      ⟨_, slice_of_canSlice ⟨by decide, by decide, by decide⟩⟩
    exact ⟨v', hok, (((hslice _ _).2 v' hok).2 _ rfl).1⟩

end PagedQuery.View
