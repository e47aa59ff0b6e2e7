import PagedQuery.Proofs.Filter.Built

/-!
# PagedQuery.Proofs.Filter.Meaning

What an expression says of a record, when it is known which texts hold of it.  A normal expression
holds just if its items do under the combinator (`holds_items`), and repetitions among these do not
matter.  So combining and negating are conjunction, disjunction and negation, however much they
take apart and leave out (`eval_operations`).
-/

namespace PagedQuery.Filter

/-- Whether all of the values are true, or any of them. -/
def Combinator.holds : Combinator → List Bool → Bool
  | .and, values => values.all id
  | .or, values => values.any id

theorem Combinator.holds_singleton (op : Combinator) (x : Bool) : op.holds [x] = x := by
  cases op <;> simp [holds]

theorem Combinator.holds_append (op : Combinator) (xs ys : List Bool) :
    op.holds (xs ++ ys) = op.holds [op.holds xs, op.holds ys] := by
  cases op <;> simp [holds]

/-- Repetitions make no difference. -/
theorem Combinator.holds_eraseDups (op : Combinator) (f : Expr → Bool) (es : List Expr) :
    op.holds (es.eraseDups.map f) = op.holds (es.map f) := by
  rw [Bool.eq_iff_iff]
  cases op <;> simp [holds]

namespace Expr

mutual

/-- Whether the expression holds where `ρ` says of each text whether it does.  An empty expression
holds, even negated. -/
def eval (ρ : String → Bool) : Expr → Bool
  | .leaf negated text => negated ^^ ρ text
  | .composite _ _ [] => true
  | .composite negated op (c :: cs) => negated ^^ op.holds (c.eval ρ :: evalEach ρ cs)

def evalEach (ρ : String → Bool) : List Expr → List Bool
  | [] => []
  | e :: es => e.eval ρ :: evalEach ρ es

end

variable {a b e : Expr} {op : Combinator}

theorem evalEach_eq_map (ρ : String → Bool) (es : List Expr) : evalEach ρ es = es.map (eval ρ) := by
  induction es with
  | nil => rfl
  | cons e es ih => rw [evalEach, ih, List.map_cons]

theorem eval_of_isEmpty (ρ : String → Bool) (h : e.isEmpty = true) : e.eval ρ = true := by
  obtain _ | ⟨_, _, _ | _⟩ := e
  · contradiction
  · rfl
  · contradiction

theorem eval_composite (ρ : String → Bool) (negated : Bool) (op : Combinator) {children : List Expr}
    (h : children ≠ []) : (composite negated op children).eval ρ =
      (negated ^^ op.holds (children.map (eval ρ))) := by
  obtain ⟨c, cs, rfl⟩ := List.exists_cons_of_ne_nil h
  rw [eval, evalEach_eq_map, List.map_cons]

theorem eval_negate (ρ : String → Bool) (h : e.isEmpty = false) : e.negate.eval ρ = !e.eval ρ := by
  obtain ⟨negated, text⟩ | ⟨negated, op, children⟩ := e
  · cases negated <;> simp [negate, eval]
  · have hfilled : children ≠ [] := by
      rintro rfl
      contradiction
    rw [negate, eval_composite ρ _ op hfilled, eval_composite ρ _ op hfilled]
    cases negated <;> simp

/-- A normal expression holds just if its items do. -/
theorem holds_items (ρ : String → Bool) (h : e.IsNormal) (op : Combinator) :
    op.holds ((items op e).map (eval ρ)) = e.eval ρ := by
  obtain ⟨-, hself⟩ | ⟨hcomposite, -, -⟩ := h.self_or_composite op
  · rw [hself, List.map_singleton, op.holds_singleton]
  · have heval := eval_composite ρ false op (h.items_ne_nil op)
    rw [← hcomposite, Bool.false_xor] at heval
    exact heval.symm

/-- A combination of normal expressions holds just if both do, or one of them. -/
theorem eval_combine (ρ : String → Bool) (ha : a.IsNormal) (hb : b.IsNormal) (op : Combinator) :
    (combine op a b).eval ρ = op.holds [a.eval ρ, b.eval ρ] := by
  have hsettled : a.IsSettled := .inr ha
  have hsettled' : b.IsSettled := .inr hb
  have hcombined : (combine op a b).IsNormal := by
    apply (hsettled.combine hsettled' op).normal
    rw [← Bool.not_eq_true, ← (hsettled.combine hsettled' op).items_eq_nil_iff,
      items_combine hsettled hsettled', eraseDups_eq_nil_iff, List.append_eq_nil_iff]
    exact fun hnone => ha.items_ne_nil op hnone.1
  calc (combine op a b).eval ρ
    _ = op.holds ((items op (combine op a b)).map (eval ρ)) := (holds_items ρ hcombined op).symm
    _ = op.holds ((items op a ++ items op b).map (eval ρ)) := by
      rw [items_combine hsettled hsettled', op.holds_eraseDups]
    _ = op.holds [a.eval ρ, b.eval ρ] := by
      rw [List.map_append, op.holds_append, holds_items ρ ha, holds_items ρ hb]

theorem eval_and (ρ : String → Bool) (ha : a.IsSettled) (hb : b.IsSettled) :
    (a.and b).eval ρ = (a.eval ρ && b.eval ρ) := by
  obtain hempty | hnormal := ha
  · rw [Expr.and, combine_of_isEmpty_left hempty, eval_of_isEmpty ρ hempty, Bool.true_and]
    split
    · next hempty' => rw [eval_of_isEmpty ρ hempty, eval_of_isEmpty ρ hempty']
    · rfl
  · obtain hempty | hnormal' := hb
    · rw [Expr.and, combine_of_isEmpty_right hempty, eval_of_isEmpty ρ hempty, Bool.and_true]
    · rw [Expr.and, eval_combine ρ hnormal hnormal']
      simp [Combinator.holds]

/-- Whatever texts hold, a conjunction holds just if both sides do, a disjunction of expressions
that are not empty if one side does, and a negation of such an expression if this does not.  A
disjunction whose right side is empty is the left side, and one of which only the left side is empty
is the right side. -/
theorem eval_operations (ρ : String → Bool) {a b : Expr} (ha : a.Built) (hb : b.Built) :
    (a.and b).eval ρ = (a.eval ρ && b.eval ρ) ∧
      (a.isEmpty = false → b.isEmpty = false → (a.or b).eval ρ = (a.eval ρ || b.eval ρ)) ∧
      (a.isEmpty = false → a.negate.eval ρ = !a.eval ρ) ∧
      (b.isEmpty = true → a.or b = a) ∧
      (a.isEmpty = true → b.isEmpty = false → a.or b = b) := by
  refine ⟨eval_and ρ ha.isSettled hb.isSettled, fun hfilled hfilled' => ?_, eval_negate ρ,
    fun hempty => ?_, fun hempty hfilled => ?_⟩
  · rw [Expr.or, eval_combine ρ (ha.isSettled.normal hfilled) (hb.isSettled.normal hfilled')]
    simp [Combinator.holds]
  · exact combine_of_isEmpty_right hempty .or a
  · rw [Expr.or, combine_of_isEmpty_left hempty, hfilled]
    rfl

/-- Two disjunctions that share a text, one of which holds. -/
theorem eval_operations_disjunctions :
    let ρ : String → Bool := fun text => text == "eq(a,1)"
    let a := (raw "eq(a,1)").or (raw "lt(b,2)")
    let b := (raw "lt(b,2)").or (raw "eq(a,1)").negate
    a.Built ∧ b.Built ∧ a.eval ρ = true ∧ b.eval ρ = false ∧ (a.and b).eval ρ = false ∧
      (a.or b).eval ρ = true ∧ a.negate.eval ρ = false ∧ a.or empty.negate = a ∧
      empty.negate.or a = a := by
  intro ρ a b
  have ha : a.Built := (Built.raw _).or (.raw _)
  have hb : b.Built := (Built.raw _).or (Built.raw _).negate
  have hempty : empty.negate.Built := Built.empty.negate
  obtain ⟨hand, hor, hnegate, -, -⟩ := eval_operations ρ ha hb
  obtain ⟨-, -, -, hright, -⟩ := eval_operations ρ ha hempty
  obtain ⟨-, -, -, -, hleft⟩ := eval_operations ρ hempty ha
  refine ⟨ha, hb, by decide, by decide, ?_, ?_, ?_, hright rfl, hleft rfl rfl⟩
  · rw [hand]
    decide
  · rw [hor rfl rfl]
    decide
  · rw [hnegate rfl]
    decide

/-- Of two empty sides the right one is lost, which may differ in its negation. -/
theorem empty_or_negate_empty :
    empty.Built ∧ empty.negate.Built ∧ empty.isEmpty = true ∧
      empty.or empty.negate ≠ empty.negate :=
  ⟨.empty, Built.empty.negate, rfl, by decide⟩

end Expr

end PagedQuery.Filter
