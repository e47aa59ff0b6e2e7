import PagedQuery.Proofs.Filter.Comparison
import PagedQuery.Proofs.Text.Splitting

/-!
# PagedQuery.Proofs.Filter.Lookups

Lookup names decode what they encode.  Segments joined by doubled underscores come back from the
name, with the operator behind them if there is one, unless a segment has a doubled underscore or
ends in an underscore itself (`lookups_decode`).  A single lookup is the comparison of the path
that is built segment by segment.
-/

namespace PagedQuery.Filter

open Text (IsPiece)

/-! ## Single lookups -/

/-- Segments that a path is continued by are cut at their dots. -/
theorem Field.foldl_child (f : Field) (segments : List String) :
    segments.foldl child f = ⟨f.segments ++ segments.flatMap (Text.split '.')⟩ := by
  induction segments generalizing f with
  | nil => simp
  | cons s segments ih =>
    rw [List.foldl_cons, ih]
    simp [child, List.flatMap_cons, List.append_assoc]

/-- It does not matter whether the segments are joined by dots before. -/
theorem Field.child_join {segments : List String} (hne : segments ≠ []) :
    root.child (Text.join "." segments) = segments.foldl child root := by
  rw [foldl_child, child]
  exact congrArg (fun pieces => Field.mk ([] ++ pieces)) (Text.split_join '.' hne)

/-- The only lookup is joined with nothing. -/
theorem Expr.ofLookups_singleton (name : String) (value : Value) :
    Expr.ofLookups [(name, value)] = Expr.ofLookup name value := by
  rw [ofLookups, ofLookups_go_cons]
  split
  · next comparison h =>
    obtain ⟨_, _, -, rfl⟩ := Field.exists_call_of_compare h
    rw [h]
    exact congrArg Except.ok (combine_of_isEmpty_left rfl .and _)
  · next e h => rw [h]

/-! ## Names -/

theorem Operator.isPiece_name (op : Operator) : IsPiece '_' op.name.toList where
  whole := by cases op <;> decide
  ended := by cases op <;> decide

namespace Lookup

theorem ofSegments_concat {segments : List String} (hne : segments ≠ []) (op : Operator) :
    ofSegments (segments ++ [op.name]) = ⟨Text.join "." segments, op⟩ := by
  simp [ofSegments, hne]

theorem ofSegments_of_path {segments : List String}
    (h : segments.length = 1 ∨ ∀ op : Operator, segments.getLast? ≠ some op.name) :
    ofSegments segments = ⟨Text.join "." segments, .eq⟩ := by
  unfold ofSegments
  split
  · next op hop =>
    obtain ⟨last, hlast, hread⟩ := Option.bind_eq_some_iff.mp hop
    rw [← Operator.name_of_ofName? hread] at hlast
    have hsingle := h.resolve_right fun hnone => hnone op hlast
    rw [if_neg (by omega)]
  · rfl

section Names

variable {segments : List String} (hne : segments ≠ [])
  (hpieces : ∀ s ∈ segments, IsPiece '_' s.toList)

include hne hpieces

theorem ofName_join_operator (op : Operator) :
    ofName (Text.join "__" segments ++ "__" ++ op.name) = ⟨Text.join "." segments, op⟩ := by
  have hname : Text.join "__" segments ++ "__" ++ op.name =
      Text.join "__" (segments ++ [op.name]) := by
    rw [Text.join, Text.join, String.intercalate_append_of_ne_nil hne (by simp),
      String.intercalate_singleton]
  have hall : ∀ s ∈ segments ++ [op.name], IsPiece '_' s.toList := by
    intro s hs
    obtain hs | hs := List.mem_append.mp hs
    · exact hpieces s hs
    · rw [List.mem_singleton.mp hs]
      exact op.isPiece_name
  rw [ofName, hname, Text.splitPair_join (by simp) hall, ofSegments_concat hne]

theorem ofName_join
    (h : segments.length = 1 ∨ ∀ op : Operator, segments.getLast? ≠ some op.name) :
    ofName (Text.join "__" segments) = ⟨Text.join "." segments, .eq⟩ := by
  rw [ofName, Text.splitPair_join hne hpieces, ofSegments_of_path h]

end Names

end Lookup

/-- Segments without doubled underscores, none of which ends in an underscore, are decoded from
the name that they are joined to, with the operator that is named behind them; without one this is
equality, unless the last of several segments is itself the name of an operator.  A lookup by such
a name is the comparison of the path that is continued by one segment after the other. -/
theorem lookups_decode {segments : List String} (hne : segments ≠ [])
    (hpieces : ∀ s ∈ segments, IsPiece '_' s.toList) :
    (∀ op : Operator,
      Lookup.ofName (Text.join "__" segments ++ "__" ++ op.name) =
          ⟨Text.join "." segments, op⟩ ∧
        ∀ value, Expr.ofLookups [(Text.join "__" segments ++ "__" ++ op.name, value)] =
          (segments.foldl Field.child .root).compare op value) ∧
      ((segments.length = 1 ∨ ∀ op : Operator, segments.getLast? ≠ some op.name) →
        Lookup.ofName (Text.join "__" segments) = ⟨Text.join "." segments, .eq⟩ ∧
          ∀ value, Expr.ofLookups [(Text.join "__" segments, value)] =
            (segments.foldl Field.child .root).compare .eq value) := by
  have hlookup {name : String} {op : Operator}
      (h : Lookup.ofName name = ⟨Text.join "." segments, op⟩) (value : Value) :
      Expr.ofLookups [(name, value)] = (segments.foldl Field.child .root).compare op value := by
    rw [Expr.ofLookups_singleton, Expr.ofLookup, h, Field.child_join hne]
  refine ⟨fun op => ?_, fun hlast => ?_⟩
  · have hname := Lookup.ofName_join_operator hne hpieces op
    exact ⟨hname, hlookup hname⟩
  · have hname := Lookup.ofName_join hne hpieces hlast
    exact ⟨hname, hlookup hname⟩

/-- A first segment that is the name of an operator, and a second one with a dot. -/
theorem lookups_decode_author :
    let segments := ["in", "author.first_name"]
    (∀ s ∈ segments, IsPiece '_' s.toList) ∧
      Lookup.ofName "in__author.first_name__ge" = ⟨"in.author.first_name", .ge⟩ ∧
      Expr.ofLookups [("in__author.first_name", .integer 1)] =
        ((Field.root.child "in").child "author.first_name").compare .eq (.integer 1) := by
  intro segments
  have hpieces : ∀ s ∈ segments, IsPiece '_' s.toList := by
    simp only [segments, List.forall_mem_cons]
    exact ⟨⟨by decide, by decide⟩, ⟨by decide +kernel, by decide⟩, nofun⟩
  have hlast : ∀ op : Operator, segments.getLast? ≠ some op.name := by
    intro op
    cases op <;> decide
  have hpath : Text.join "." segments = "in.author.first_name" := by decide +kernel
  have hname : Text.join "__" segments = "in__author.first_name" := by decide +kernel
  have hname' : "in__author.first_name" ++ "__" ++ Operator.ge.name =
      "in__author.first_name__ge" := by decide +kernel
  have hchain : segments.foldl Field.child .root =
      (Field.root.child "in").child "author.first_name" := rfl
  obtain ⟨hoperator, hequality⟩ := lookups_decode (List.cons_ne_nil _ _) hpieces
  obtain ⟨-, hlookup⟩ := hequality (.inr hlast)
  obtain ⟨hge, -⟩ := hoperator .ge
  rw [hname, hpath, hname'] at hge
  have hone := hlookup (.integer 1)
  rw [hname, hchain] at hone
  exact ⟨hpieces, hge, hone⟩

end PagedQuery.Filter
