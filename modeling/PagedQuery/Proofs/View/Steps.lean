import PagedQuery.Proofs.View.Built
import PagedQuery.View.Read

/-!
# PagedQuery.Proofs.View.Steps

Chains of steps that build a view.  A step is data here, so that it can be told of a chain what it
was given: the filter of a view is the conjunction of the filters given on the way
(`filter_of_build`), whatever other steps stand in between, and its fields are ones that can be
listed (`HasFieldNames.build`).  All views that can be built are reached so (`built_iff_reached`).
-/

namespace PagedQuery.View

variable {v v' : View}

/-! ## Builders -/

theorem withRawFilter_eq_ok_iff {text : String} :
    v.withRawFilter text = .ok v' ↔ Text.trim text ≠ "" ∧
      ∃ terms, Term.parseQuery (Text.trim text) = .ok terms ∧
        v' = v.withFilter (allTerms terms) := by
  unfold withRawFilter
  by_cases hblank : Text.trim text = ""
  · simp [hblank]
  · cases hparse : Term.parseQuery (Text.trim text) <;> simp [hblank, hparse, eq_comm]

theorem withLookups_eq_ok_iff {lookups : List (String × Filter.Value)} :
    v.withLookups lookups = .ok v' ↔
      ∃ e, Filter.Expr.ofLookups lookups = .ok e ∧ v' = v.withFilter e := by
  unfold withLookups
  cases Filter.Expr.ofLookups lookups <;> simp [eq_comm]

/-- Fields are taken as they are given, if all of them can be listed. -/
theorem map_checkFields_eq_ok_iff {use : FieldUse} {fields : List String}
    {change : List String → View} :
    (checkFields use fields).map change = .ok v' ↔
      (∀ f ∈ fields, isFieldName f = true) ∧ v' = change fields := by
  unfold checkFields
  cases hbad : fields.find? fun f => !isFieldName f with
  | some bad =>
    have hmem := List.mem_of_find?_eq_some hbad
    have hname : isFieldName bad = false := by simpa using List.find?_some hbad
    refine ⟨nofun, fun h => ?_⟩
    rw [h.1 bad hmem] at hname
    contradiction
  | none =>
    have hall : ∀ f ∈ fields, isFieldName f = true := by simpa using hbad
    simp only [Except.map, Except.ok.injEq]
    exact ⟨fun h => ⟨hall, h.symm⟩, fun h => h.2.symm⟩

/-- Rows that are not there yet come of the view that has them for its projection. -/
theorem values_eq_deferred_iff {memo : Memo} {fields : List String} :
    v.values memo fields = .ok (.deferred v') ↔
      memo.materialized? = none ∧ v.projected fields = .ok v' := by
  unfold values
  cases v.projected fields <;> cases memo.materialized? <;> simp

/-- A page size can hold records, and a window that is moved to an offset ends at one. -/
structure CanConfigure (v : View) (pageSize offset : Option Nat) : Prop where
  pageSize_ne : pageSize ≠ some 0
  stop_le : ∀ o ∈ offset, ∀ w ∈ v.window, o + w.length ≤ maxOffset

/-- The view with another page size or another offset, to which its window is moved as it is. -/
def configured (v : View) (pageSize offset : Option Nat) : View :=
  { v with
    pageSize := pageSize.getD v.pageSize
    offset := offset.getD v.offset
    window := match offset with
      | none => v.window
      | some o => v.window.map fun w => ⟨o, o + w.length⟩ }

/-- A configuration succeeds just if its numbers allow it. -/
theorem configure_eq_ok_iff {pageSize offset : Option Nat} :
    v.configure pageSize offset = .ok v' ↔
      v.CanConfigure pageSize offset ∧ v' = v.configured pageSize offset := by
  unfold configure
  by_cases hsize : pageSize = some 0
  · rw [if_pos hsize]
    exact ⟨nofun, fun h => absurd hsize h.1.pageSize_ne⟩
  · rw [if_neg hsize]
    simp only
    split
    · exact ⟨fun h => ⟨⟨hsize, nofun⟩, (Except.ok.inj h).symm⟩, fun h => congrArg _ h.2.symm⟩
    · next o hwindow =>
      have hfits : v.CanConfigure pageSize (some o) := ⟨hsize, by simp [hwindow]⟩
      rw [configured, hwindow]
      exact ⟨fun h => ⟨hfits, (Except.ok.inj h).symm⟩, fun h => congrArg _ h.2.symm⟩
    · next o w hwindow =>
      rw [configured, hwindow]
      split
      · next stop hstop =>
        obtain ⟨hle, rfl⟩ := addOffset?_eq_some_iff.mp hstop
        have hfits : v.CanConfigure pageSize (some o) := ⟨hsize, by simp [hwindow, hle]⟩
        exact ⟨fun h => ⟨hfits, (Except.ok.inj h).symm⟩, fun h => congrArg _ h.2.symm⟩
      · next hnone =>
        refine ⟨nofun, fun h => ?_⟩
        have hsome := addOffset?_eq_some_iff.mpr ⟨h.1.stop_le o rfl w hwindow, rfl⟩
        rw [hnone] at hsome
        contradiction

/-! ## Steps -/

/-- A step of building a view from another. -/
inductive Step where
  | filter (expr : Filter.Expr)
  | rawFilter (text : String)
  | lookups (pairs : List (String × Filter.Value))
  | select (fields : List String)
  | order (fields : List String)
  /-- Rows of values that are not there yet. -/
  | project (fields : List String)
  | search (term : String)
  | limit (n : Nat)
  | configure (pageSize offset : Option Nat)
  | slice (first last : Bound)
  /-- A copy, which describes the same records. -/
  | copy

namespace Step

def apply (v : View) : Step → Except ClientError View
  | .filter expr => .ok (v.withFilter expr)
  | .rawFilter text => v.withRawFilter text
  | .lookups pairs => v.withLookups pairs
  | .select fields => v.selecting fields
  | .order fields => v.orderedBy fields
  | .project fields => v.projected fields
  | .search term => .ok (v.searching term)
  | .limit n => v.limit n
  | .configure pageSize offset => v.configure pageSize offset
  | .slice first last => v.slice first last
  | .copy => .ok v

/-- The filter that a step gives, if it can be read. -/
def filter? : Step → Option Filter.Expr
  | .filter expr => some expr
  | .rawFilter text => (Term.parseQuery (Text.trim text)).toOption.map allTerms
  | .lookups pairs => (Filter.Expr.ofLookups pairs).toOption
  | _ => none

end Step

/-- The view that some steps build, one after the other. -/
def build (v : View) (steps : List Step) : Except ClientError View :=
  steps.foldlM Step.apply v

/-- The views ask for records that satisfy the same filter, with the same fields in the same
order. -/
structure SameQuery (v v' : View) : Prop where
  filter : v'.filter = v.filter
  select : v'.select = v.select
  order : v'.order = v.order

theorem sameQuery_configure {pageSize offset : Option Nat}
    (h : v.configure pageSize offset = .ok v') : v.SameQuery v' := by
  obtain ⟨-, rfl⟩ := configure_eq_ok_iff.mp h
  exact ⟨rfl, rfl, rfl⟩

theorem sameQuery_slice {first last : Bound} (h : v.slice first last = .ok v') :
    v.SameQuery v' := by
  obtain ⟨-, rfl⟩ := slice_eq_ok_iff.mp h
  unfold sliceAt
  split <;> exact ⟨rfl, rfl, rfl⟩

/-- What a step does to the query of a view: it adds a filter, lists fields that can be listed, or
leaves the query as it is. -/
theorem Step.apply_cases {step : Step} (h : step.apply v = .ok v') :
    (∃ e, step.filter? = some e ∧ v' = v.withFilter e) ∨
      (step.filter? = none ∧ ∃ fields, (∀ f ∈ fields, isFieldName f = true) ∧
        (v' = { v with select := fields } ∨ v' = { v with order := fields })) ∨
      (step.filter? = none ∧ v.SameQuery v') := by
  cases step with
  | filter expr =>
    cases h
    exact .inl ⟨expr, rfl, rfl⟩
  | rawFilter text =>
    have hraw : v.withRawFilter text = .ok v' := h
    obtain ⟨-, terms, hparse, rfl⟩ := withRawFilter_eq_ok_iff.mp hraw
    exact .inl ⟨allTerms terms, by rw [filter?, hparse]; rfl, rfl⟩
  | lookups pairs =>
    obtain ⟨e, hread, rfl⟩ := withLookups_eq_ok_iff.mp h
    exact .inl ⟨e, by rw [filter?, hread]; rfl, rfl⟩
  | select fields =>
    obtain ⟨hall, rfl⟩ := map_checkFields_eq_ok_iff.mp h
    exact .inr (.inl ⟨rfl, fields, hall, .inl rfl⟩)
  | order fields =>
    obtain ⟨hall, rfl⟩ := map_checkFields_eq_ok_iff.mp h
    exact .inr (.inl ⟨rfl, fields, hall, .inr rfl⟩)
  | project fields =>
    obtain ⟨-, rfl⟩ := map_checkFields_eq_ok_iff.mp h
    exact .inr (.inr ⟨rfl, rfl, rfl, rfl⟩)
  | search term =>
    cases h
    refine .inr (.inr ⟨rfl, ?_⟩)
    -- `rfl` would compare the search terms first
    constructor <;> simp only [searching]
  | limit n =>
    have hconfigure : v.configure (some n) none = .ok v' := h
    exact .inr (.inr ⟨rfl, sameQuery_configure hconfigure⟩)
  | configure pageSize offset => exact .inr (.inr ⟨rfl, sameQuery_configure h⟩)
  | slice first last => exact .inr (.inr ⟨rfl, sameQuery_slice h⟩)
  | copy =>
    cases h
    exact .inr (.inr ⟨rfl, rfl, rfl, rfl⟩)

/-! ## Chains -/

theorem bind_eq_ok_iff {ε α β : Type} {x : Except ε α} {f : α → Except ε β} {b : β} :
    x.bind f = .ok b ↔ ∃ a, x = .ok a ∧ f a = .ok b := by
  cases x <;> simp [Except.bind]

/-- A chain goes through the views of its steps. -/
theorem build_cons_eq_ok {step : Step} {steps : List Step} (h : v.build (step :: steps) = .ok v') :
    ∃ w, step.apply v = .ok w ∧ w.build steps = .ok v' :=
  bind_eq_ok_iff.mp h

/-- What each step preserves is preserved by a chain. -/
theorem build_preserves {P : View → Prop} {steps : List Step}
    (hstep : ∀ step ∈ steps, ∀ w w', step.apply w = .ok w' → P w → P w')
    (h : v.build steps = .ok v') (hv : P v) : P v' := by
  induction steps generalizing v with
  | nil => cases h; exact hv
  | cons step steps ih =>
    obtain ⟨w, happly, hrest⟩ := build_cons_eq_ok h
    exact ih (fun s hs => hstep s (List.mem_cons_of_mem step hs)) hrest
      (hstep step List.mem_cons_self v w happly hv)

/-- The filters that some steps give, in order. -/
def filtersOf (steps : List Step) : List Filter.Expr :=
  steps.filterMap Step.filter?

/-- The filter of a view that is built is what it was, and all the filters given. -/
theorem filter_of_build {steps : List Step} (h : v.build steps = .ok v') :
    v'.filter = (filtersOf steps).foldl Filter.Expr.and v.filter := by
  induction steps generalizing v with
  | nil => cases h; rfl
  | cons step steps ih =>
    obtain ⟨w, happly, hrest⟩ := build_cons_eq_ok h
    rw [ih hrest, filtersOf, filtersOf, List.filterMap_cons]
    obtain ⟨e, hgiven, rfl⟩ | ⟨hnone, fields, -, rfl | rfl⟩ | ⟨hnone, hsame⟩ :=
      Step.apply_cases happly
    · rw [hgiven]
      rfl
    · rw [hnone]
    · rw [hnone]
    · rw [hnone, hsame.filter]

/-- All fields that are selected or sorted by can be listed. -/
structure HasFieldNames (v : View) : Prop where
  select : ∀ f ∈ v.select, isFieldName f = true
  order : ∀ f ∈ v.order, isFieldName f = true

theorem HasFieldNames.apply {step : Step} (h : step.apply v = .ok v') (hv : v.HasFieldNames) :
    v'.HasFieldNames := by
  obtain ⟨e, -, rfl⟩ | ⟨-, fields, hall, rfl | rfl⟩ | ⟨-, hsame⟩ := Step.apply_cases h
  · exact ⟨hv.select, hv.order⟩
  · exact ⟨hall, hv.order⟩
  · exact ⟨hv.select, hall⟩
  · exact ⟨by rw [hsame.select]; exact hv.select, by rw [hsame.order]; exact hv.order⟩

theorem HasFieldNames.build {steps : List Step} (h : v.build steps = .ok v')
    (hv : v.HasFieldNames) : v'.HasFieldNames :=
  build_preserves (fun _ _ _ _ happly hw => hw.apply happly) h hv

/-- The view comes of all records of a path or of a collection by these steps. -/
def Reached (steps : List Step) (v : View) : Prop :=
  (∃ path, (ofPath path).build steps = .ok v) ∨ ∃ c : Collection, c.view.build steps = .ok v

theorem Reached.filter_eq {steps : List Step} (h : Reached steps v) :
    v.filter = (filtersOf steps).foldl Filter.Expr.and .empty := by
  obtain ⟨path, h⟩ | ⟨c, h⟩ := h <;> exact filter_of_build h

theorem Reached.hasFieldNames {steps : List Step} (h : Reached steps v) : v.HasFieldNames := by
  obtain ⟨path, h⟩ | ⟨c, h⟩ := h <;> exact HasFieldNames.build h ⟨nofun, nofun⟩

/-! ## The views that can be built -/

theorem Step.builds {step : Step} (h : step.apply v = .ok v') : v' = v ∨ v.Builds v' := by
  cases step with
  | filter expr =>
    cases h
    exact .inr (.withFilter expr)
  | rawFilter text =>
    have hraw : v.withRawFilter text = .ok v' := h
    exact .inr (.withRawFilter hraw)
  | lookups pairs => exact .inr (.withLookups h)
  | select fields => exact .inr (.selecting h)
  | order fields => exact .inr (.orderedBy h)
  | project fields => exact .inr (.projected h)
  | search term =>
    cases h
    exact .inr (.searching term)
  | limit n => exact .inr (.limit h)
  | configure pageSize offset => exact .inr (.configure h)
  | slice first last => exact .inr (.slice h)
  | copy =>
    cases h
    exact .inl rfl

theorem Builds.exists_step (h : v.Builds v') : ∃ step : Step, step.apply v = .ok v' := by
  cases h with
  | withFilter expr => exact ⟨.filter expr, rfl⟩
  | @withRawFilter text _ h => exact ⟨.rawFilter text, h⟩
  | withLookups h => exact ⟨.lookups _, h⟩
  | selecting h => exact ⟨.select _, h⟩
  | orderedBy h => exact ⟨.order _, h⟩
  | projected h => exact ⟨.project _, h⟩
  | searching term => exact ⟨.search term, rfl⟩
  | limit h => exact ⟨.limit _, h⟩
  | configure h => exact ⟨.configure _ _, h⟩
  | slice h => exact ⟨.slice _ _, h⟩

theorem build_concat {start : View} {steps : List Step} (h : start.build steps = .ok v)
    (step : Step) : start.build (steps ++ [step]) = step.apply v := by
  rw [build, List.foldlM_append, ← build, h]
  exact bind_pure (step.apply v)

/-- The views that can be built are those that steps lead to. -/
theorem built_iff_reached : v.Built ↔ ∃ steps, Reached steps v := by
  constructor
  · intro h
    induction h with
    | ofPath path => exact ⟨[], .inl ⟨path, rfl⟩⟩
    | ofCollection c => exact ⟨[], .inr ⟨c, rfl⟩⟩
    | step _ hstep ih =>
      obtain ⟨steps, hreached⟩ := ih
      obtain ⟨step, happly⟩ := hstep.exists_step
      refine ⟨steps ++ [step], ?_⟩
      obtain ⟨path, h⟩ | ⟨c, h⟩ := hreached
      · exact .inl ⟨path, by rw [build_concat h, happly]⟩
      · exact .inr ⟨c, by rw [build_concat h, happly]⟩
  · have hkeeps : ∀ {start : View} {steps : List Step}, start.Built → start.build steps = .ok v →
        v.Built := by
      intro start steps hstart h
      refine build_preserves (fun step _ w w' happly hw => ?_) h hstart
      obtain rfl | hbuilds := Step.builds happly
      · exact hw
      · exact hw.step hbuilds
    rintro ⟨steps, ⟨path, h⟩ | ⟨c, h⟩⟩
    · exact hkeeps (.ofPath path) h
    · exact hkeeps (.ofCollection c) h

end PagedQuery.View
