import PagedQuery.Proofs.Filter.Conjunction
import PagedQuery.Proofs.Term.Joined
import PagedQuery.Proofs.Text.Trimming
import PagedQuery.Proofs.View.Steps

/-!
# PagedQuery.Proofs.View.Filters

Filters given one after the other.  It makes no difference whether filters are joined first and
then given or given in turn, be they lookups, texts or expressions (`filters_regroup`).
-/

namespace PagedQuery.View

open PagedQuery.Filter (Expr Value)

variable {v v' : View}

theorem allTerms_eq (terms : List Term) :
    allTerms terms = Expr.conjunction (terms.map fun t => .raw t.render) := by
  rw [allTerms, Expr.conjunction, List.foldl_map]

theorem built_raw_terms (terms : List Term) :
    ∀ e ∈ terms.map fun t => Expr.raw t.render, e.Built := by
  intro e he
  obtain ⟨t, -, rfl⟩ := List.mem_map.mp he
  exact .raw _

theorem built_allTerms (terms : List Term) : (allTerms terms).Built := by
  rw [allTerms_eq]
  exact Expr.built_conjunction (built_raw_terms terms)

theorem allTerms_append (terms terms' : List Term) :
    allTerms (terms ++ terms') = (allTerms terms).and (allTerms terms') := by
  rw [allTerms_eq, allTerms_eq, allTerms_eq, List.map_append]
  exact Expr.conjunction_append (built_raw_terms terms) (built_raw_terms terms')

/-- Two filters can be joined before they are given. -/
theorem withFilter_and {e e' : Expr} (hv : v.filter.Built) (he : e.Built) (he' : e'.Built) :
    v.withFilter (e.and e') = (v.withFilter e).withFilter e' := by
  have hassoc := Expr.combine_assoc hv.isSettled he.isSettled he'.isSettled .and
  exact congrArg (fun joined => { v with filter := joined }) hassoc.symm

theorem withLookups_append (hv : v.filter.Built) (lookups lookups' : List (String × Value)) :
    v.withLookups (lookups ++ lookups') =
      (v.withLookups lookups).bind (·.withLookups lookups') := by
  unfold withLookups
  rw [Expr.ofLookups_append]
  cases hread : Expr.ofLookups lookups with
  | error e => rfl
  | ok e =>
    cases hread' : Expr.ofLookups lookups' with
    | error e' => simp only [Except.bind, Except.map]
    | ok e' =>
      simp only [Except.bind, Except.map]
      exact congrArg Except.ok (withFilter_and hv (.ofLookups hread) (.ofLookups hread'))

theorem withLookups_eq_error_iff {lookups : List (String × Value)} {e : ClientError} :
    v.withLookups lookups = .error e ↔
      ∃ problem, Expr.firstProblem? lookups = some problem ∧ e = .expression problem := by
  simp only [← Expr.ofLookups_eq_error_iff]
  unfold withLookups
  cases Expr.ofLookups lookups <;> simp [eq_comm]

theorem exists_withRawFilter_iff {text : String} : (∃ v', v.withRawFilter text = .ok v') ↔
    Text.trim text ≠ "" ∧ ∃ terms, Term.parseQuery (Text.trim text) = .ok terms := by
  simp only [withRawFilter_eq_ok_iff]
  exact ⟨fun ⟨_, hfilled, terms, hread, _⟩ => ⟨hfilled, terms, hread⟩,
    fun ⟨hfilled, terms, hread⟩ => ⟨_, hfilled, terms, hread, rfl⟩⟩

section Joined

variable {a b : String} (ha : Text.trim a = a) (hb : Text.trim b = b) (hfilled : a ≠ "")
  (hfilled' : b ≠ "")

include ha hb hfilled hfilled'

/-- A text that joins two others gives their filters in turn, and is a filter just if they are. -/
theorem withRawFilter_append (hv : v.filter.Built) :
    v.withRawFilter (a ++ "&" ++ b) = .ok v' ↔
      ∃ w, v.withRawFilter a = .ok w ∧ w.withRawFilter b = .ok v' := by
  have hjoined : a ++ "&" ++ b ≠ "" := by simp
  simp only [withRawFilter_eq_ok_iff, Text.trim_append ha hb hfilled hfilled', ha, hb,
    Term.parseQuery_append_eq_ok_iff hfilled hfilled', ne_eq, hfilled, hfilled', hjoined,
    not_false_eq_true, true_and]
  constructor
  · rintro ⟨_, ⟨us, vs, hus, hvs, rfl⟩, rfl⟩
    refine ⟨_, ⟨us, hus, rfl⟩, vs, hvs, ?_⟩
    rw [allTerms_append, withFilter_and hv (built_allTerms us) (built_allTerms vs)]
  · rintro ⟨_, ⟨us, hus, rfl⟩, vs, hvs, rfl⟩
    refine ⟨us ++ vs, ⟨us, vs, hus, hvs, rfl⟩, ?_⟩
    rw [allTerms_append, withFilter_and hv (built_allTerms us) (built_allTerms vs)]

/-- A text that joins two others is a filter just if they are. -/
theorem exists_withRawFilter_append (v : View) :
    (∃ v', v.withRawFilter (a ++ "&" ++ b) = .ok v') ↔
      (∃ v', v.withRawFilter a = .ok v') ∧ ∃ v', v.withRawFilter b = .ok v' := by
  have hjoined : a ++ "&" ++ b ≠ "" := by simp
  simp only [exists_withRawFilter_iff, Text.trim_append ha hb hfilled hfilled', ha, hb,
    Term.parseQuery_append_eq_ok_iff hfilled hfilled', ne_eq, hfilled, hfilled', hjoined,
    not_false_eq_true, true_and]
  constructor
  · rintro ⟨_, us, vs, hus, hvs, rfl⟩
    exact ⟨⟨us, hus⟩, vs, hvs⟩
  · rintro ⟨⟨us, hus⟩, vs, hvs⟩
    exact ⟨us ++ vs, us, vs, hus, hvs, rfl⟩

end Joined

/-- Filters can be regrouped.  Lookups that are given at once are given in turn, and the first of
them that is no comparison is the error; a text that joins two others is a filter just if they are,
and gives theirs in turn; and whatever stands between the filters of a chain, what they come to is
their conjunction, from the left. -/
theorem filters_regroup {start : View} (hstart : start.filter.Built) :
    (∀ lookups lookups' : List (String × Value),
      start.withLookups (lookups ++ lookups') =
        (start.withLookups lookups).bind (·.withLookups lookups')) ∧
    (∀ (lookups : List (String × Value)) (e : ClientError), start.withLookups lookups = .error e ↔
      ∃ problem, Expr.firstProblem? lookups = some problem ∧ e = .expression problem) ∧
    (∀ a b : String, Text.trim a = a → Text.trim b = b → a ≠ "" → b ≠ "" →
      ((∃ v, start.withRawFilter (a ++ "&" ++ b) = .ok v) ↔
        (∃ v, start.withRawFilter a = .ok v) ∧ ∃ v, start.withRawFilter b = .ok v) ∧
      ∀ v, start.withRawFilter (a ++ "&" ++ b) = .ok v ↔
        (start.withRawFilter a).bind (·.withRawFilter b) = .ok v) ∧
    ∀ (steps : List Step) (v : View), start.build steps = .ok v →
      v.filter = (filtersOf steps).foldl Expr.and start.filter := by
  refine ⟨withLookups_append hstart, fun lookups e => withLookups_eq_error_iff,
    fun a b ha hb hfilled hfilled' => ⟨?_, fun v => ?_⟩, fun steps v => filter_of_build⟩
  · exact exists_withRawFilter_append ha hb hfilled hfilled' start
  · rw [withRawFilter_append ha hb hfilled hfilled' hstart, bind_eq_ok_iff]

/-- A filter on users, lookups of which the last two are no comparisons, and a chain. -/
theorem filters_regroup_users :
    let start := (ofPath "users").withFilter (.raw "eq(active,true)")
    let lookups := [("age__ge", Value.integer 18)]
    let lookups' := [("name", Value.null), ("", Value.text "ann")]
    let steps := [Step.rawFilter "lt(age,65)&in(role,(a,b))", .select ["id"], .limit 5,
      .lookups lookups]
    start.filter.Built ∧
      (start.withLookups lookups).bind (·.withLookups lookups') =
        .error (.expression (.typeKind .eq .null)) ∧
      (∃ v, (start.withRawFilter "lt(age,65)").bind (·.withRawFilter "in(role,(a,b))") = .ok v) ∧
      ∃ v, start.build steps = .ok v ∧ v.filter = .composite false .and
        [.leaf false "eq(active,true)", .leaf false "lt(age,65)", .leaf false "in(role,(a,b))",
          .leaf false "ge(age,18)"] := by
  intro start lookups lookups' steps
  have hstart : start.filter.Built := by
    show (Expr.empty.and (.raw "eq(active,true)")).Built
    exact Expr.Built.empty.and (.raw _)
  obtain ⟨happend, herror, hjoined, hchain⟩ := filters_regroup hstart
  refine ⟨hstart, ?_, ?_, ?_⟩
  · rw [← happend, herror]
    exact ⟨.typeKind .eq .null, by decide +kernel, rfl⟩
  · obtain ⟨-, hturn⟩ := hjoined "lt(age,65)" "in(role,(a,b))" (by decide) (by decide) (by decide)
      (by decide)
    obtain ⟨v, hv⟩ : ∃ v, start.withRawFilter ("lt(age,65)" ++ "&" ++ "in(role,(a,b))") = .ok v :=
      exists_eq_ok_of_isOk (by decide +kernel)
    exact ⟨v, (hturn v).mp hv⟩
  · obtain ⟨v, hv⟩ : ∃ v, start.build steps = .ok v := exists_eq_ok_of_isOk (by decide +kernel)
    refine ⟨v, hv, ?_⟩
    rw [hchain steps v hv]
    decide +kernel

end PagedQuery.View
