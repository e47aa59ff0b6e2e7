import PagedQuery.Filter.Lookup
import PagedQuery.Proofs.Filter.Items
import PagedQuery.Proofs.Filter.Outcome

/-!
# PagedQuery.Proofs.Filter.Built

The expressions that can be built: from texts, comparisons and lookups, by combination and
negation.  All of them are empty or normal (`Built.isSettled`).  Told node by node, each leaf in
them has a text, and each composite several children, no two alike, none empty and none that should
have been taken apart (`Built.tidy_everywhere`).
-/

namespace PagedQuery.Filter.Expr

/-- The expressions that can be built. -/
inductive Built : Expr → Prop
  | empty : Built .empty
  | raw (text : String) : Built (.raw text)
  | compare {f : Field} {op : Operator} {value : Value} {e : Expr}
      (h : f.compare op value = .ok e) : Built e
  | ofLookups {lookups : List (String × Value)} {e : Expr}
      (h : Expr.ofLookups lookups = .ok e) : Built e
  | and {a b : Expr} (ha : Built a) (hb : Built b) : Built (a.and b)
  | or {a b : Expr} (ha : Built a) (hb : Built b) : Built (a.or b)
  | negate {e : Expr} (h : Built e) : Built e.negate

variable {e : Expr}

theorem isSettled_raw (text : String) : (raw text).IsSettled := by
  rw [raw]
  by_cases htext : text = ""
  · rw [if_pos htext]
    exact .inl rfl
  · rw [if_neg htext]
    exact .inr (.leaf false htext)

/-- A comparison is a leaf that has the text of a call. -/
theorem isSettled_of_compare {f : Field} {op : Operator} {value : Value}
    (h : f.compare op value = .ok e) : e.IsSettled := by
  obtain ⟨name, arg, -, rfl⟩ := Field.exists_call_of_compare h
  rw [Term.render, ← raw_callText]
  exact isSettled_raw _

theorem isSettled_go {acc : Expr} (hacc : acc.IsSettled) {lookups : List (String × Value)}
    (h : ofLookups.go acc lookups = .ok e) : e.IsSettled := by
  induction lookups generalizing acc with
  | nil =>
    cases h
    exact hacc
  | cons lookup rest ih =>
    obtain ⟨name, value⟩ := lookup
    rw [ofLookups_go_cons] at h
    split at h
    · next comparison hcomparison =>
      have hsettled : comparison.IsSettled := isSettled_of_compare hcomparison
      exact ih (hacc.combine hsettled .and) h
    · contradiction

theorem isEmpty_negate (e : Expr) : e.negate.isEmpty = e.isEmpty := by
  obtain _ | ⟨_, _, _ | _⟩ := e <;> rfl

theorem IsSettled.negate (h : e.IsSettled) : e.negate.IsSettled := by
  obtain hempty | hnormal := h
  · left
    rw [isEmpty_negate, hempty]
  · right
    cases hnormal with
    | leaf negated htext => exact .leaf _ htext
    | composite negated hmany hdistinct hapart hall =>
      exact .composite _ hmany hdistinct hapart hall

/-- Whatever is built is empty or normal. -/
theorem Built.isSettled (h : e.Built) : e.IsSettled := by
  induction h with
  | empty => exact .inl rfl
  | raw text => exact isSettled_raw text
  | compare h => exact isSettled_of_compare h
  | ofLookups h => exact isSettled_go (.inl rfl) h
  | and _ _ iha ihb => exact iha.combine ihb .and
  | or _ _ iha ihb => exact iha.combine ihb .or
  | negate _ ih => exact ih.negate

/-! ## Nodes -/

mutual

/-- The expression and all that it is made of. -/
def nodes : Expr → List Expr
  | .leaf negated text => [.leaf negated text]
  | .composite negated op children => .composite negated op children :: nodesEach children

def nodesEach : List Expr → List Expr
  | [] => []
  | e :: es => e.nodes ++ nodesEach es

end

theorem nodesEach_eq_flatMap (es : List Expr) : nodesEach es = es.flatMap nodes := by
  induction es with
  | nil => rfl
  | cons e es ih => rw [nodesEach, ih, List.flatMap_cons]

theorem mem_nodes_composite {n : Expr} {negated : Bool} {op : Combinator} {children : List Expr} :
    n ∈ (composite negated op children).nodes ↔
      n = .composite negated op children ∨ ∃ c ∈ children, n ∈ c.nodes := by
  rw [nodes, nodesEach_eq_flatMap, List.mem_cons, List.mem_flatMap]

/-- A leaf has a text.  A composite has at least two children, all different, none of them empty,
and none is a composite with the same combinator, unless it is negated. -/
def IsTidy : Expr → Prop
  | .leaf _ text => text ≠ ""
  | .composite _ op children =>
    2 ≤ children.length ∧ children.Nodup ∧ (∀ c ∈ children, c.isEmpty = false) ∧
      ∀ grandchildren, .composite false op grandchildren ∉ children

theorem IsNormal.tidy (h : e.IsNormal) : ∀ n ∈ e.nodes, n.IsTidy := by
  induction h with
  | leaf negated htext =>
    intro n hn
    rw [nodes, List.mem_singleton] at hn
    rw [hn]
    exact htext
  | @composite negated op children hmany hdistinct hapart hall ih =>
    intro n hn
    rw [mem_nodes_composite] at hn
    obtain rfl | ⟨c, hc, hn⟩ := hn
    · refine ⟨hmany, hdistinct, fun c hc => (hall c hc).isEmpty_eq, fun grandchildren hmem => ?_⟩
      have hjoins := hapart _ hmem
      simp [joins] at hjoins
    · exact ih c hc n hn

/-- What is built is empty, or tidy at every node. -/
theorem Built.tidy_everywhere (h : e.Built) : e.isEmpty = true ∨ ∀ n ∈ e.nodes, n.IsTidy :=
  h.isSettled.imp id fun hnormal => hnormal.tidy

/-- Combining two conjunctions, one with an empty part and one with a negated part, leaves three
nodes under one. -/
theorem tidy_everywhere_conjunction :
    let one := (raw "eq(a,1)").and (raw "lt(b,2)")
    let other := (empty.negate.or (raw "lt(b,2)")).and (raw "eq(a,1)").negate
    let both := Expr.composite false .and
      [.leaf false "eq(a,1)", .leaf false "lt(b,2)", .leaf true "eq(a,1)"]
    one.and other = both ∧ (one.and other).Built ∧ ∀ n ∈ both.nodes, n.IsTidy := by
  intro one other both
  have hone : one.Built := (Built.raw _).and (.raw _)
  have hother : other.Built := (Built.empty.negate.or (.raw _)).and (Built.raw _).negate
  have heq : one.and other = both := by decide
  have htidy := (hone.and hother).tidy_everywhere
  rw [heq] at htidy
  exact ⟨heq, hone.and hother, htidy.resolve_left nofun⟩

end PagedQuery.Filter.Expr
