import PagedQuery.Proofs.Filter.Built

/-!
# PagedQuery.Proofs.Filter.Bracketing

Combining a list of expressions.  What comes of a list under a combinator can be told at once, from
the items of its expressions (`joined`), and joining lists end to end is combining what comes of
them (`combine_joined`).  So it does not matter how the combination of a list is bracketed
(`bracketing_irrelevant`).
-/

namespace PagedQuery.Filter.Expr

/-- A way to bracket the combination of a list of expressions. -/
inductive Bracketing where
  | single (e : Expr)
  | pair (left right : Bracketing)

namespace Bracketing

/-- The expressions that are combined, in order. -/
def operands : Bracketing → List Expr
  | .single e => [e]
  | .pair left right => left.operands ++ right.operands

def result (op : Combinator) : Bracketing → Expr
  | .single e => e
  | .pair left right => combine op (left.result op) (right.result op)

end Bracketing

/-- What comes of a list of expressions under `op`: where they have no items at all, the first of
them, which is empty; where they have a single one, that item; and otherwise a composite of their
items, each in its first place. -/
def joined (op : Combinator) (es : List Expr) : Expr :=
  ofItems op (es.headD .empty) (es.flatMap (items op)).eraseDups

variable {op : Combinator} {a b e : Expr} {as bs es : List Expr}

/-- Where there are no items the first expression is empty. -/
theorem isEmpty_headD (h : ∀ e ∈ es, e.IsSettled) (hnone : (es.flatMap (items op)).eraseDups = []) :
    (es.headD .empty).isEmpty = true := by
  rw [eraseDups_eq_nil_iff, List.flatMap_eq_nil_iff] at hnone
  cases es with
  | nil => rfl
  | cons e es => exact (h e (by simp)).items_eq_nil_iff.mp (hnone e (by simp))

theorem isSettled_joined (h : ∀ e ∈ es, e.IsSettled) (op : Combinator) :
    (joined op es).IsSettled := by
  apply isSettled_ofItems (areItems_flatMap h op)
  cases es with
  | nil => exact .inl rfl
  | cons e es => exact h e (by simp)

theorem items_joined (h : ∀ e ∈ es, e.IsSettled) (op : Combinator) :
    items op (joined op es) = (es.flatMap (items op)).eraseDups :=
  items_ofItems (areItems_flatMap h op) (isEmpty_headD h)

theorem joined_singleton (h : e.IsSettled) (op : Combinator) : joined op [e] = e := by
  have hself : (items op e).eraseDups = items op e := eraseDups_of_nodup (h.areItems op).distinct
  rw [joined, List.flatMap_singleton, hself]
  exact h.ofItems_items op

/-- Combining what comes of two lists is joining the lists. -/
theorem combine_joined (has : ∀ e ∈ as, e.IsSettled) (hbs : ∀ e ∈ bs, e.IsSettled)
    (hfilled : as ≠ []) : combine op (joined op as) (joined op bs) = joined op (as ++ bs) := by
  rw [combine_eq_ofItems (isSettled_joined has op) (isSettled_joined hbs op), items_joined has,
    items_joined hbs, eraseDups_append_eraseDups, ← List.flatMap_append]
  unfold joined
  apply ofItems_congr
  intro hnone
  rw [eraseDups_eq_nil_iff, List.flatMap_append, List.append_eq_nil_iff] at hnone
  obtain ⟨a, as, rfl⟩ := List.exists_cons_of_ne_nil hfilled
  rw [hnone.1]
  rfl

theorem Bracketing.operands_ne_nil (t : Bracketing) : t.operands ≠ [] := by
  induction t with
  | single e => exact List.cons_ne_nil e []
  | pair left right ihl _ => simp [operands, ihl]

theorem Bracketing.result_eq_joined (t : Bracketing) (h : ∀ e ∈ t.operands, e.IsSettled)
    (op : Combinator) : t.result op = joined op t.operands := by
  induction t with
  | single e => exact (joined_singleton (h e (by simp [operands])) op).symm
  | pair left right ihl ihr =>
    have hleft : ∀ e ∈ left.operands, e.IsSettled := fun e he => h e (by simp [operands, he])
    have hright : ∀ e ∈ right.operands, e.IsSettled := fun e he => h e (by simp [operands, he])
    rw [result, ihl hleft, ihr hright, operands, combine_joined hleft hright left.operands_ne_nil]

theorem combine_assoc {c : Expr} (ha : a.IsSettled) (hb : b.IsSettled) (hc : c.IsSettled)
    (op : Combinator) : combine op (combine op a b) c = combine op a (combine op b c) := by
  have hall : ∀ e ∈ [a, b, c], e.IsSettled := by simp [ha, hb, hc]
  let left : Bracketing := .pair (.pair (.single a) (.single b)) (.single c)
  let right : Bracketing := .pair (.single a) (.pair (.single b) (.single c))
  have hleft := left.result_eq_joined hall op
  have hright := right.result_eq_joined hall op
  exact hleft.trans hright.symm

/-- What has been combined already adds nothing. -/
theorem combine_combine_self (ha : a.IsSettled) (hb : b.IsSettled) (op : Combinator) :
    combine op (combine op a b) a = combine op a b := by
  have hboth := ha.combine hb op
  have hsub : ∀ c ∈ items op a, c ∈ items op (combine op a b) := by
    intro c hc
    rw [items_combine ha hb, List.mem_eraseDups]
    exact List.mem_append_left _ hc
  rw [combine_eq_ofItems hboth ha, eraseDups_append_of_subset hsub,
    eraseDups_of_nodup (hboth.areItems op).distinct, hboth.ofItems_items]

/-- However the combination of a list of expressions is bracketed, the same comes of it.  So
combination is associative and takes no expression twice; an empty expression changes nothing, and
of two empty expressions the left one is kept. -/
theorem bracketing_irrelevant (op : Combinator) :
    (∀ t : Bracketing, (∀ e ∈ t.operands, e.Built) → t.result op = joined op t.operands) ∧
      (∀ a b c : Expr, a.Built → b.Built → c.Built →
        combine op (combine op a b) c = combine op a (combine op b c)) ∧
      (∀ a b : Expr, a.Built → b.Built → combine op (combine op a b) a = combine op a b) ∧
      ∀ a e : Expr, e.isEmpty = true →
        combine op a e = a ∧ combine op e a = if a.isEmpty then e else a := by
  refine ⟨fun t h => ?_, fun a b c ha hb hc => ?_, fun a b ha hb => ?_, fun a e he => ⟨?_, ?_⟩⟩
  · exact t.result_eq_joined (fun e he => (h e he).isSettled) op
  · exact combine_assoc ha.isSettled hb.isSettled hc.isSettled op
  · exact combine_combine_self ha.isSettled hb.isSettled op
  · exact combine_of_isEmpty_right he op a
  · exact combine_of_isEmpty_left he op a

/-- Five expressions, two of them the same, one empty and one composed already. -/
theorem bracketing_irrelevant_five :
    let a := raw "eq(a,1)"
    let b := raw "lt(b,2)"
    let c := (raw "in(c,(x,y))").or b
    let t : Bracketing := .pair (.pair (.single c) (.single a))
      (.pair (.single empty.negate) (.pair (.single (b.and a)) (.single c)))
    (∀ e ∈ t.operands, e.Built) ∧ t.result .and = .composite false .and [c, a, b] ∧
      (a.and b).and c = a.and (b.and c) ∧ (a.and b).and a = a.and b ∧ empty.negate.and a = a := by
  intro a b c t
  have ha : a.Built := .raw _
  have hb : b.Built := .raw _
  have hc : c.Built := (Built.raw _).or hb
  have ht : ∀ e ∈ t.operands, e.Built := by
    simp only [t, Bracketing.operands, List.cons_append, List.nil_append, List.forall_mem_cons]
    exact ⟨hc, ha, Built.empty.negate, hb.and ha, hc, nofun⟩
  obtain ⟨hresult, hassoc, hself, hempty⟩ := bracketing_irrelevant .and
  refine ⟨ht, ?_, hassoc a b c ha hb hc, hself a b ha hb, ?_⟩
  · rw [hresult t ht]
    decide
  · exact (hempty a empty.negate rfl).2

/-- An empty expression is lost to the left of another. -/
theorem empty_and_negate_empty :
    empty.Built ∧ empty.negate.Built ∧ empty.isEmpty = true ∧
      empty.and empty.negate ≠ empty.negate := by
  exact ⟨.empty, Built.empty.negate, rfl, by decide⟩

end PagedQuery.Filter.Expr
