import PagedQuery.View.Build
import PagedQuery.View.Request

/-!
# PagedQuery.Proofs.View.Extent

Which records of a collection a view stands for.  `extent_slices` is the main statement: a
chain of slices of a view stands for the same chain of slices of a list, each bound counted
from the start of the slice before and clipped to its end.
-/

namespace PagedQuery.View

/-! ## Slices of lists -/

/-- The elements from `start` up to `stop`, or up to the end, as far as there are any. -/
def clip {α : Type} (l : List α) (start : Nat) : Option Nat → List α
  | some stop => (l.take stop).drop start
  | none => l.drop start

/-- Bounds behind the end of a list may be moved to its end. -/
theorem drop_min_of_length_le {α : Type} {l : List α} {n : Nat} (h : l.length ≤ n) (k : Nat) :
    l.drop (min k n) = l.drop k := by
  by_cases hk : k ≤ n
  · rw [Nat.min_eq_left hk]
  · rw [List.drop_of_length_le (by omega), List.drop_of_length_le (by omega)]

/-- The first position of a slice that starts at this bound. -/
def Bound.start : Bound → Nat
  | .unbounded => 0
  | .included n => n
  | .excluded n => n + 1

/-- The position at which a slice with this end stops, if it has one. -/
def Bound.stop : Bound → Option Nat
  | .unbounded => none
  | .included n => some (n + 1)
  | .excluded n => some n

theorem addOffset?_eq_some_iff {a b c : Nat} :
    addOffset? a b = some c ↔ a + b ≤ maxOffset ∧ c = a + b := by
  rw [addOffset?]
  split <;> simp [*, eq_comm]

theorem Bound.start?_eq_some {b : Bound} {n : Nat} (h : b.start? = some n) : n = b.start := by
  cases b with
  | unbounded => exact (Option.some.inj h).symm
  | included k => exact (Option.some.inj h).symm
  | excluded k => exact (addOffset?_eq_some_iff.mp h).2

theorem Bound.stop?_eq_some {b : Bound} {stop : Option Nat} (h : b.stop? = some stop) :
    stop = b.stop := by
  cases b with
  | unbounded => exact (Option.some.inj h).symm
  | included k =>
    obtain ⟨n, hn, rfl⟩ := Option.map_eq_some_iff.mp h
    rw [(addOffset?_eq_some_iff.mp hn).2]
    rfl
  | excluded k => exact (Option.some.inj h).symm

/-- A bound that is an offset is taken as it is. -/
theorem Bound.start?_of_le {b : Bound} (h : b.start ≤ maxOffset) : b.start? = some b.start := by
  cases b with
  | unbounded => rfl
  | included n => rfl
  | excluded n => exact addOffset?_eq_some_iff.mpr ⟨h, rfl⟩

theorem Bound.stop?_of_le {b : Bound} (h : ∀ stop ∈ b.stop, stop ≤ maxOffset) :
    b.stop? = some b.stop := by
  cases b with
  | unbounded => rfl
  | included n =>
    exact Option.map_eq_some_iff.mpr ⟨_, addOffset?_eq_some_iff.mpr ⟨h _ rfl, rfl⟩, rfl⟩
  | excluded n => rfl

/-! ## Slices of views -/

/-- The records of a collection that a view stands for. -/
def extent (v : View) (R : List Json) : List Json :=
  clip R v.offset (v.window.map Window.stop)

/-- What slices preserve: pages can hold records, and a window starts at the offset of the view,
does not end before it and ends at an offset. -/
structure IsFramed (v : View) : Prop where
  pageSize_pos : 0 < v.pageSize
  start_eq : ∀ w ∈ v.window, w.start = v.offset
  start_le : ∀ w ∈ v.window, w.start ≤ w.stop
  stop_le : ∀ w ∈ v.window, w.stop ≤ maxOffset

theorem isFramed_of_unbounded {v : View} (hv : v.window = none) (hp : 0 < v.pageSize) :
    v.IsFramed :=
  ⟨hp, by simp [hv], by simp [hv], by simp [hv]⟩

theorem isBounded_of_window {v : View} {w : Window} (hw : v.window = some w) :
    v.isBounded = true := by
  rw [isBounded, hw]
  rfl

theorem isBounded_of_unbounded {v : View} (hw : v.window = none) : v.isBounded = false := by
  rw [isBounded, hw]
  rfl

/-- The bounds of a slice are in order, and counted from the offset of the view they are offsets. -/
structure CanSlice (v : View) (first last : Bound) : Prop where
  ordered : ∀ stop ∈ last.stop, first.start ≤ stop
  start_le : v.offset + first.start ≤ maxOffset
  stop_le : ∀ stop ∈ last.stop, v.offset + stop ≤ maxOffset

section Slice

variable {v v' : View} {first last : Bound}

theorem slice_of_canSlice (h : v.CanSlice first last) :
    v.slice first last =
      .ok (v.sliceAt (v.offset + first.start) (last.stop.map (v.offset + ·))) := by
  obtain ⟨hordered, hstart, hstop⟩ := h
  have hfirst : first.start? = some first.start := Bound.start?_of_le (by omega)
  have hlast : last.stop? = some last.stop := Bound.stop?_of_le fun stop h => by
    have hle := hstop stop h
    omega
  have ha : addOffset? v.offset first.start = some (v.offset + first.start) :=
    addOffset?_eq_some_iff.mpr ⟨hstart, rfl⟩
  unfold slice
  rw [hfirst, hlast]
  cases hl : last.stop with
  | none => simp only [ha, Option.map_none]
  | some stop =>
    have hb : addOffset? v.offset stop = some (v.offset + stop) :=
      addOffset?_eq_some_iff.mpr ⟨hstop stop hl, rfl⟩
    have hle : ¬ stop < first.start := Nat.not_lt.mpr (hordered stop hl)
    simp only [ha, hb, hle, if_false, Option.map_some]

theorem canSlice_of_slice (h : v.slice first last = .ok v') : v.CanSlice first last := by
  unfold slice at h
  cases hstart : first.start? with
  | none => rw [hstart] at h; contradiction
  | some start =>
    cases hstop : last.stop? with
    | none => rw [hstart, hstop] at h; contradiction
    | some stop =>
      rw [hstart, hstop] at h
      obtain rfl := Bound.start?_eq_some hstart
      obtain rfl := Bound.stop?_eq_some hstop
      cases hl : last.stop with
      | none =>
        rw [hl] at h
        simp only at h
        split at h
        · next a ha => exact ⟨by simp [hl], (addOffset?_eq_some_iff.mp ha).1, by simp [hl]⟩
        · contradiction
      | some stop =>
        rw [hl] at h
        simp only at h
        split at h
        · contradiction
        · next hle =>
          split at h
          · next a b ha hb =>
            refine ⟨?_, (addOffset?_eq_some_iff.mp ha).1, ?_⟩
            · rw [hl]
              rintro _ ⟨⟩
              exact Nat.not_lt.mp hle
            · rw [hl]
              rintro _ ⟨⟩
              exact (addOffset?_eq_some_iff.mp hb).1
          · contradiction

/-- A slice succeeds just if its bounds allow it, and then it lies where they say. -/
theorem slice_eq_ok_iff : v.slice first last = .ok v' ↔ v.CanSlice first last ∧
    v' = v.sliceAt (v.offset + first.start) (last.stop.map (v.offset + ·)) := by
  constructor
  · intro h
    have hcan := canSlice_of_slice h
    rw [slice_of_canSlice hcan] at h
    exact ⟨hcan, (Except.ok.inj h).symm⟩
  · rintro ⟨hcan, rfl⟩
    exact slice_of_canSlice hcan

end Slice

/-- A slice of an unbounded view is its own window. -/
theorem slice_of_unbounded {v : View} (hv : v.window = none) {start stop : Nat}
    (hle : start ≤ stop) (hstop : v.offset + stop ≤ maxOffset) :
    let w : Window := ⟨v.offset + start, v.offset + stop⟩
    v.slice (.included start) (.excluded stop) =
      .ok { v with
        offset := w.start, pageSize := max (min v.pageSize w.length) 1, window := some w } := by
  intro w
  have hcan : v.CanSlice (.included start) (.excluded stop) := by
    refine ⟨?_, ?_, ?_⟩
    · rintro _ ⟨⟩
      exact hle
    · exact Nat.le_trans (Nat.add_le_add_left hle _) hstop
    · rintro _ ⟨⟩
      exact hstop
  rw [slice_of_canSlice hcan, sliceAt, hv]
  rfl

/-! ## Windows -/

section SliceAt

variable {v : View} {start : Nat} {stop : Option Nat}

/-- Slices show records as before. -/
theorem shape_sliceAt (v : View) (start : Nat) (stop : Option Nat) :
    (v.sliceAt start stop).shape = v.shape := by
  unfold sliceAt
  split <;> rfl

theorem start_le_of_sliceWindow {current : Option Window} {w : Window}
    (hw : sliceWindow current start stop = some w) (hle : ∀ s ∈ stop, start ≤ s) :
    w.start ≤ w.stop := by
  unfold sliceWindow at hw
  split at hw
  · cases hw
    have hstop := hle _ rfl
    show min start _ ≤ min _ _
    omega
  · cases hw
    exact Nat.min_le_right _ _
  · cases hw
    exact hle _ rfl
  · contradiction

/-- A slice without a window is one of a view without a window. -/
theorem unbounded_of_sliceWindow {current : Option Window}
    (h : sliceWindow current start stop = none) : current = none := by
  unfold sliceWindow at h
  split at h <;> first | contradiction | rfl

/-- A slice ends where it is told to, but not behind a window that is there already. -/
theorem stop_of_sliceWindow {current : Option Window} {w : Window}
    (h : sliceWindow current start stop = some w) :
    (∃ c ∈ current, w.stop ≤ c.stop) ∨ ∃ s ∈ stop, w.stop ≤ s := by
  unfold sliceWindow at h
  split at h
  · cases h
    exact .inl ⟨_, rfl, Nat.min_le_right _ _⟩
  · cases h
    exact .inl ⟨_, rfl, Nat.le_refl _⟩
  · cases h
    exact .inr ⟨_, rfl, Nat.le_refl _⟩
  · contradiction

theorem IsFramed.sliceAt (hv : v.IsFramed) (hle : ∀ s ∈ stop, start ≤ s)
    (hmax : ∀ s ∈ stop, s ≤ maxOffset) : (v.sliceAt start stop).IsFramed := by
  unfold View.sliceAt
  split
  · next w hw =>
    constructor
    · exact Nat.le_max_right _ _
    · rintro _ ⟨⟩
      rfl
    · rintro _ ⟨⟩
      exact start_le_of_sliceWindow hw hle
    · rintro _ ⟨⟩
      obtain ⟨c, hc, hstop⟩ | ⟨s, hs, hstop⟩ := stop_of_sliceWindow hw
      · exact Nat.le_trans hstop (hv.stop_le c hc)
      · exact Nat.le_trans hstop (hmax s hs)
  · next hnone => exact isFramed_of_unbounded (unbounded_of_sliceWindow hnone) hv.pageSize_pos

/-- Slices are framed as the views they are made of. -/
theorem IsFramed.slice {v' : View} (hv : v.IsFramed) {first last : Bound}
    (h : v.slice first last = .ok v') : v'.IsFramed := by
  obtain ⟨hcan, rfl⟩ := slice_eq_ok_iff.mp h
  apply hv.sliceAt
  · intro s hs
    obtain ⟨stop, hstop, rfl⟩ := Option.map_eq_some_iff.mp hs
    exact Nat.add_le_add_left (hcan.ordered stop hstop) _
  · intro s hs
    obtain ⟨stop, hstop, rfl⟩ := Option.map_eq_some_iff.mp hs
    exact hcan.stop_le stop hstop

/-- A slice of a view stands for a slice of what the view stands for.  In a window the bounds
are clipped to the end of the window, which a list does by itself. -/
theorem extent_sliceAt (v : View) (start : Nat) (stop : Option Nat) (R : List Json) :
    (v.sliceAt (v.offset + start) (stop.map (v.offset + ·))).extent R =
      clip (v.extent R) start stop := by
  cases hw : v.window with
  | none =>
    cases stop with
    | none => simp [View.sliceAt, hw, sliceWindow, extent, clip, List.drop_drop]
    | some stop =>
      simp [View.sliceAt, hw, sliceWindow, extent, clip, List.take_drop, List.drop_drop]
  | some w =>
    cases stop with
    | none =>
      have hlength : (R.take w.stop).length ≤ w.stop := List.length_take_le _ _
      simp [View.sliceAt, hw, sliceWindow, extent, clip, List.drop_drop,
        drop_min_of_length_le hlength]
    | some stop =>
      have hlength : (R.take (min (v.offset + stop) w.stop)).length ≤ w.stop := by
        rw [List.length_take]
        omega
      simp [View.sliceAt, hw, sliceWindow, extent, clip, List.take_drop, List.drop_drop,
        List.take_take, drop_min_of_length_le hlength]

end SliceAt

/-! ## Chains of slices -/

/-- A chain of slices, each of the one before. -/
def slices (v : View) : List (Bound × Bound) → Except ClientError View
  | [] => .ok v
  | (first, last) :: bounds => do (← v.slice first last).slices bounds

/-- A chain of slices of a list. -/
def clips {α : Type} (l : List α) : List (Bound × Bound) → List α
  | [] => l
  | (first, last) :: bounds => clips (clip l first.start last.stop) bounds

/-- A chain of slices of a view stands for the chain of slices of the list, and shows records
as before.  The induction carries that windows start at the offset. -/
theorem extent_slices {v v' : View} (hv : v.IsFramed) {bounds : List (Bound × Bound)}
    (h : v.slices bounds = .ok v') (R : List Json) :
    v'.IsFramed ∧ v'.extent R = clips (v.extent R) bounds ∧ v'.shape = v.shape := by
  induction bounds generalizing v with
  | nil =>
    cases h
    exact ⟨hv, rfl, rfl⟩
  | cons bound bounds ih =>
    obtain ⟨first, last⟩ := bound
    cases hslice : v.slice first last with
    | error e =>
      rw [slices, hslice] at h
      contradiction
    | ok sliced =>
      rw [slices, hslice] at h
      have hframed : sliced.IsFramed := hv.slice hslice
      obtain ⟨-, rfl⟩ := slice_eq_ok_iff.mp hslice
      obtain ⟨hframed', hextent, hshape⟩ := ih hframed h
      rw [extent_sliceAt] at hextent
      exact ⟨hframed', hextent, hshape.trans (shape_sliceAt ..)⟩

end PagedQuery.View
