import PagedQuery.Proofs.Filter.Bracketing
import PagedQuery.Proofs.Filter.Rendering

/-!
# PagedQuery.Proofs.Filter.Conjunction

Conjunctions of lists of expressions, taken from the left.  A conjunction of what can be built is
the conjunction of its parts, however the list is parted (`conjunction_append`), and all its texts
are texts of the list (`hasText_conjunction`).  Lookups are such a conjunction: of their
comparisons, if the first problem among them is none (`ofLookups_append`).
-/

namespace PagedQuery.Filter.Expr

variable {a b : Expr} {es es' : List Expr}

/-- All of the expressions must hold. -/
def conjunction (es : List Expr) : Expr :=
  es.foldl and .empty

theorem Built.foldl_and (ha : a.Built) (hes : ∀ e ∈ es, e.Built) :
    (es.foldl Expr.and a).Built := by
  induction es generalizing a with
  | nil => exact ha
  | cons e es ih =>
    obtain ⟨he, hrest⟩ := List.forall_mem_cons.mp hes
    exact ih (ha.and he) hrest

theorem built_conjunction (hes : ∀ e ∈ es, e.Built) : (conjunction es).Built :=
  Built.empty.foldl_and hes

/-- Expressions that are added one after the other can be joined before. -/
theorem foldl_and (ha : a.Built) (hes : ∀ e ∈ es, e.Built) :
    es.foldl and a = a.and (conjunction es) := by
  induction es using List.reverseRecOn with
  | nil => exact (combine_of_isEmpty_right rfl .and a).symm
  | append_singleton es e ih =>
    have hinit : ∀ e ∈ es, e.Built := fun c hc => hes c (List.mem_append_left [e] hc)
    have hlast : e.Built := hes e (by simp)
    have hassoc := combine_assoc ha.isSettled (built_conjunction hinit).isSettled
      hlast.isSettled .and
    rw [conjunction, List.foldl_concat, List.foldl_concat, ih hinit]
    exact hassoc

theorem conjunction_append (hes : ∀ e ∈ es, e.Built) (hes' : ∀ e ∈ es', e.Built) :
    conjunction (es ++ es') = (conjunction es).and (conjunction es') := by
  rw [conjunction, List.foldl_append]
  exact foldl_and (built_conjunction hes) hes'

/-! ## Texts -/

theorem hasText_of_mem_items {op : Combinator} {c : Expr} {text : String} (hc : c ∈ items op a)
    (h : c.HasText text) : a.HasText text := by
  by_cases hempty : a.isEmpty = true
  · rw [items_of_isEmpty hempty] at hc
    contradiction
  · cases hjoins : a.joins op with
    | false =>
      rw [items_of_apart (by simpa using hempty) hjoins, List.mem_singleton] at hc
      exact hc ▸ h
    | true =>
      rw [items_of_joins hjoins] at hc
      rw [joins_eq_true_iff.mp hjoins]
      exact h.composite hc false op

/-- A combination has no other texts than its two sides. -/
theorem hasText_combine (ha : a.IsSettled) (hb : b.IsSettled) {op : Combinator} {text : String}
    (h : (combine op a b).HasText text) : a.HasText text ∨ b.HasText text := by
  rw [combine_eq_ofItems ha hb] at h
  have hitems : ∀ c ∈ (items op a ++ items op b).eraseDups, c.HasText text →
      a.HasText text ∨ b.HasText text := by
    intro c hc htext
    rw [List.mem_eraseDups, List.mem_append] at hc
    exact hc.imp (hasText_of_mem_items · htext) (hasText_of_mem_items · htext)
  generalize (items op a ++ items op b).eraseDups = joint at h hitems
  match joint with
  | [] => exact .inl h
  | [c] => exact hitems c (by simp) h
  | c :: c' :: cs =>
    obtain ⟨negated, hmem⟩ := h
    obtain heq | ⟨d, hd, hmem⟩ := mem_nodes_composite.mp hmem
    · contradiction
    · exact hitems d hd ⟨negated, hmem⟩

theorem hasText_conjunction (hes : ∀ e ∈ es, e.Built) {text : String}
    (h : (conjunction es).HasText text) : ∃ e ∈ es, e.HasText text := by
  induction es using List.reverseRecOn with
  | nil =>
    obtain ⟨negated, hmem⟩ := h
    simp [conjunction, empty, nodes, nodesEach] at hmem
  | append_singleton es e ih =>
    have hinit : ∀ e ∈ es, e.Built := fun c hc => hes c (List.mem_append_left [e] hc)
    have hlast : e.Built := hes e (by simp)
    rw [conjunction, List.foldl_concat] at h
    obtain hbefore | htext :=
      hasText_combine (built_conjunction hinit).isSettled hlast.isSettled h
    · obtain ⟨c, hc, htext⟩ := ih hinit hbefore
      exact ⟨c, List.mem_append_left [e] hc, htext⟩
    · exact ⟨e, by simp, htext⟩

/-! ## Lookups -/

/-- What the lookups compare, in order. -/
def comparisons (lookups : List (String × Value)) : Except Error (List Expr) :=
  lookups.mapM fun lookup => ofLookup lookup.1 lookup.2

/-- The problem of the first lookup that is no comparison. -/
def firstProblem? (lookups : List (String × Value)) : Option Error :=
  lookups.findSome? fun lookup =>
    match ofLookup lookup.1 lookup.2 with
    | .ok _ => none
    | .error e => some e

theorem ofLookups_go_eq (acc : Expr) (lookups : List (String × Value)) :
    ofLookups.go acc lookups = (comparisons lookups).map (·.foldl and acc) := by
  induction lookups generalizing acc with
  | nil => rfl
  | cons lookup rest ih =>
    obtain ⟨name, value⟩ := lookup
    rw [ofLookups_go_cons, comparisons, List.mapM_cons]
    cases hread : ofLookup name value with
    | error e => rfl
    | ok comparison =>
      simp only [ih]
      unfold comparisons
      cases rest.mapM fun lookup => ofLookup lookup.1 lookup.2 <;> rfl

theorem ofLookups_eq (lookups : List (String × Value)) :
    ofLookups lookups = (comparisons lookups).map conjunction :=
  ofLookups_go_eq .empty lookups

theorem built_of_comparisons {lookups : List (String × Value)}
    (h : comparisons lookups = .ok es) : ∀ e ∈ es, e.Built := by
  induction lookups generalizing es with
  | nil =>
    cases h
    nofun
  | cons lookup rest ih =>
    rw [comparisons, List.mapM_cons] at h
    cases hread : ofLookup lookup.1 lookup.2 with
    | error e =>
      rw [hread] at h
      contradiction
    | ok comparison =>
      rw [hread] at h
      cases hrest : comparisons rest with
      | error e =>
        rw [comparisons] at hrest
        rw [hrest] at h
        contradiction
      | ok others =>
        have hothers := ih hrest
        rw [comparisons] at hrest
        rw [hrest] at h
        cases h
        exact List.forall_mem_cons.mpr ⟨.compare hread, hothers⟩

/-- Lookups fail for the first of them that is no comparison. -/
theorem ofLookups_eq_error_iff {lookups : List (String × Value)} {e : Error} :
    ofLookups lookups = .error e ↔ firstProblem? lookups = some e := by
  rw [ofLookups]
  generalize Expr.empty = acc
  induction lookups generalizing acc with
  | nil => exact ⟨nofun, nofun⟩
  | cons lookup rest ih =>
    obtain ⟨name, value⟩ := lookup
    rw [ofLookups_go_cons, firstProblem?, List.findSome?_cons]
    cases ofLookup name value with
    | error e => simp
    | ok comparison => exact ih _

/-- Lookups can be parted anywhere. -/
theorem ofLookups_append (lookups lookups' : List (String × Value)) :
    ofLookups (lookups ++ lookups') =
      (ofLookups lookups).bind fun e => (ofLookups lookups').map e.and := by
  rw [ofLookups_eq, ofLookups_eq, ofLookups_eq, comparisons, List.mapM_append]
  cases hread : lookups.mapM fun lookup => ofLookup lookup.1 lookup.2 with
  | error e =>
    rw [comparisons, hread]
    rfl
  | ok es =>
    cases hread' : lookups'.mapM fun lookup => ofLookup lookup.1 lookup.2 with
    | error e =>
      rw [comparisons, comparisons, hread, hread']
      rfl
    | ok es' =>
      rw [comparisons, comparisons, hread, hread']
      exact congrArg Except.ok
        (conjunction_append (built_of_comparisons hread) (built_of_comparisons hread'))

end PagedQuery.Filter.Expr
