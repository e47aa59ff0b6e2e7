import PagedQuery.Proofs.View.Filters
import PagedQuery.View.Request

/-!
# PagedQuery.Proofs.View.Query

The query text of a view, read back.  It joins up to three parts, and each is read as one term: the
fields to return, the filter and the fields to sort by (`query_keeps_parts`).  Field names are plain
texts, and a filter is a single term if its leaves are, as those of a filter text always are
(`Reached.hasSingleTerms`).
-/

namespace PagedQuery

namespace Filter.Expr

/-- The text of each leaf is a single term. -/
def HasSingleTerms (e : Expr) : Prop :=
  ∀ text, e.HasText text → ∃ t, Term.parseQuery text = .ok [t]

/-- The first term of a text. -/
def termOf (text : String) : Term :=
  ((Term.parseQuery text).toOption.bind List.head?).getD (.atom "")

/-- What is built of single terms is written as a single term, unless it is empty. -/
theorem parseQuery_render_of_built {e : Expr} (he : e.Built) (hterms : e.HasSingleTerms) :
    ∃ ts, Term.parseQuery e.render = .ok ts ∧ ts.length = if e.isEmpty then 0 else 1 := by
  obtain hempty | hnormal := he.isSettled
  · obtain _ | ⟨_, _, _ | _⟩ := e
    · contradiction
    · exact ⟨[], rfl, rfl⟩
    · contradiction
  · have hread : ∀ text, e.HasText text → Term.parseQuery text = .ok [termOf text] := by
      intro text htext
      obtain ⟨t, ht⟩ := hterms text htext
      rw [termOf, ht]
      rfl
    rw [hnormal.isEmpty_eq]
    exact ⟨_, parseQuery_render hnormal hread, rfl⟩

theorem hasSingleTerms_raw {text : String} {t : Term} (h : Term.parseQuery text = .ok [t]) :
    (raw text).HasSingleTerms := by
  rintro leaf ⟨negated, hmem⟩
  have hfilled : text ≠ "" := by
    rintro rfl
    cases h
  rw [raw, if_neg hfilled, nodes, List.mem_singleton] at hmem
  cases hmem
  exact ⟨t, h⟩

theorem hasSingleTerms_conjunction {es : List Expr} (hes : ∀ e ∈ es, e.Built)
    (hterms : ∀ e ∈ es, e.HasSingleTerms) : (conjunction es).HasSingleTerms := by
  intro text htext
  obtain ⟨e, he, htext⟩ := hasText_conjunction hes htext
  exact hterms e he text htext

end Filter.Expr

namespace View

open PagedQuery.Filter (Expr)

variable {v v' : View} {steps steps' : List Step}

/-! ## Filters that are single terms -/

/-- The leaves of a filter text are the terms that are read of it. -/
theorem hasSingleTerms_allTerms {text : String} {terms : List Term}
    (h : Term.parseQuery text = .ok terms) : (allTerms terms).HasSingleTerms := by
  rw [allTerms_eq]
  refine Expr.hasSingleTerms_conjunction (built_raw_terms terms) ?_
  intro e he
  obtain ⟨t, ht, rfl⟩ := List.mem_map.mp he
  have hquery := Term.isQuery_of_parseQuery h
  have hsingle : Term.IsQuery [t] := by
    refine ⟨fun u hu => ?_, fun hblank => ?_⟩
    · rw [List.mem_singleton.mp hu]
      exact hquery.wellFormed t ht
    · rw [← List.mem_singleton.mp hblank] at ht
      exact hquery.filled ht
  have hread := Term.parseQuery_renderQuery hsingle
  rw [Term.renderQuery_singleton] at hread
  exact Expr.hasSingleTerms_raw hread

/-- A step other than a filter text gives only filters that can be built of single terms. -/
def Step.IsReadable : Step → Prop
  | .rawFilter _ => True
  | step => ∀ e ∈ step.filter?, e.Built ∧ e.HasSingleTerms

theorem Step.IsReadable.filter {step : Step} (h : step.IsReadable) {e : Expr}
    (he : step.filter? = some e) : e.Built ∧ e.HasSingleTerms := by
  cases step with
  | rawFilter text =>
    rw [filter?] at he
    cases hparse : Term.parseQuery (Text.trim text) with
    | error problem =>
      rw [hparse] at he
      contradiction
    | ok terms =>
      rw [hparse] at he
      cases he
      exact ⟨built_allTerms terms, hasSingleTerms_allTerms hparse⟩
  | filter | lookups | select | order | project | search | limit | configure | slice | copy =>
    exact h e he

theorem Step.isReadable_of_none {step : Step} (h : step.filter? = none) : step.IsReadable := by
  cases step with
  | rawFilter text => trivial
  | filter | lookups | select | order | project | search | limit | configure | slice | copy =>
    intro e he
    rw [h] at he
    contradiction

theorem filter_of_readable (hsteps : ∀ step ∈ steps, step.IsReadable) :
    ∀ e ∈ filtersOf steps, e.Built ∧ e.HasSingleTerms := by
  intro e he
  obtain ⟨step, hstep, hgiven⟩ := List.mem_filterMap.mp he
  exact (hsteps step hstep).filter hgiven

theorem Reached.built_filter (h : Reached steps v) (hsteps : ∀ step ∈ steps, step.IsReadable) :
    v.filter.Built := by
  rw [h.filter_eq]
  exact Expr.built_conjunction fun e he => (filter_of_readable hsteps e he).1

theorem Reached.hasSingleTerms (h : Reached steps v) (hsteps : ∀ step ∈ steps, step.IsReadable) :
    v.filter.HasSingleTerms := by
  rw [h.filter_eq]
  exact Expr.hasSingleTerms_conjunction (fun e he => (filter_of_readable hsteps e he).1)
    fun e he => (filter_of_readable hsteps e he).2

/-! ## Lists of fields -/

/-- A field that can be listed is a plain text. -/
theorem isPlain_of_isFieldName {field : String} (h : isFieldName field = true) :
    Term.IsPlain field ∧ field ≠ "" := by
  have hchars : ∀ name : List Char,
      (!name.isEmpty && !name.any fun c => Text.isBlank c || Term.isStructural c) = true →
        name ≠ [] ∧ ∀ c ∈ name, Term.isStructural c = false := by
    intro name hname
    simp only [Bool.and_eq_true, Bool.not_eq_true', List.isEmpty_eq_false_iff, List.any_eq_false,
      Bool.or_eq_true, not_or, Bool.not_eq_true] at hname
    exact ⟨hname.1, fun c hc => (hname.2 c hc).2⟩
  rw [Ne, ← String.toList_eq_nil_iff, Term.IsPlain]
  unfold isFieldName at h
  cases hlist : field.toList with
  | nil =>
    rw [hlist] at h
    contradiction
  | cons d name =>
    rw [hlist] at h
    refine ⟨?_, List.cons_ne_nil d name⟩
    by_cases hdash : d = '-'
    · subst hdash
      exact List.forall_mem_cons.mpr ⟨rfl, (hchars name h).2⟩
    · refine (hchars (d :: name) ?_).2
      simpa [hdash] using h

/-- The part of a query that lists some fields, if there are any. -/
def fieldTerms (name : String) (fields : List String) : List Term :=
  if fields.isEmpty then [] else [.call name (fields.map .atom)]

variable {name : String} {fields fields' : List String}

theorem isQuery_fieldTerms (hname : name ≠ "") (hplain : Term.IsPlain name)
    (hfields : ∀ f ∈ fields, isFieldName f = true) : Term.IsQuery (fieldTerms name fields) := by
  rw [fieldTerms]
  split
  · exact ⟨nofun, nofun⟩
  · refine Term.isQuery_call hname hplain fun t ht => ?_
    obtain ⟨f, hf, rfl⟩ := List.mem_map.mp ht
    obtain ⟨hplain, hfilled⟩ := isPlain_of_isFieldName (hfields f hf)
    exact ⟨by simpa using Term.IsWellFormed.atom hplain, by simpa using hfilled.symm⟩

theorem renderEach_atoms (fields : List String) : Term.renderEach (fields.map .atom) = fields := by
  rw [Term.renderEach_eq_map, List.map_map]
  exact List.map_id fields

theorem renderEach_fieldTerms (name : String) (fields : List String) :
    Term.renderEach (fieldTerms name fields) =
      if fields.isEmpty then [] else [Term.callText name fields] := by
  rw [fieldTerms]
  split
  · rfl
  · rw [Term.renderEach, Term.renderEach, Term.render, renderEach_atoms]

theorem fieldTerms_injective (h : fieldTerms name fields = fieldTerms name fields') :
    fields = fields' := by
  cases fields <;> cases fields'
  · rfl
  · contradiction
  · contradiction
  · obtain ⟨-, hatoms⟩ := Term.call.inj (List.cons.inj h).1
    exact (List.map_injective_iff.mpr fun _ _ => Term.atom.inj) hatoms

theorem length_fieldTerms (name : String) (fields : List String) :
    (fieldTerms name fields).length = if fields = [] then 0 else 1 := by
  cases fields <;> rfl

/-- The fields that the terms of a query list under a name. -/
def listedFields (name : String) (ts : List Term) : List String :=
  ts.flatMap fun
    | .call name' args => if name' = name then Term.renderEach args else []
    | _ => []

theorem listedFields_append (name : String) (ts ts' : List Term) :
    listedFields name (ts ++ ts') = listedFields name ts ++ listedFields name ts' :=
  List.flatMap_append

theorem listedFields_of_other {ts : List Term} (h : ∀ t ∈ ts, t.name? ≠ some name) :
    listedFields name ts = [] := by
  refine List.flatMap_eq_nil_iff.mpr fun t ht => ?_
  cases t with
  | call name' args =>
    have hother : name' ≠ name := fun heq => h _ ht (congrArg some heq)
    exact if_neg hother
  | group items => rfl
  | atom text => rfl

theorem name?_of_mem_fieldTerms {t : Term} (h : t ∈ fieldTerms name fields) :
    t.name? = some name := by
  rw [fieldTerms] at h
  split at h
  · contradiction
  · rw [List.mem_singleton.mp h]
    rfl

theorem listedFields_fieldTerms (name : String) (fields : List String) :
    listedFields name (fieldTerms name fields) = fields := by
  cases fields with
  | nil => rfl
  | cons f fields =>
    have hatoms : Term.renderEach ((f :: fields).map .atom) = f :: fields := renderEach_atoms _
    simp [listedFields, fieldTerms, -List.map_cons, hatoms]

theorem listedFields_fieldTerms_of_ne {name' : String} (hne : name' ≠ name)
    (fields : List String) : listedFields name (fieldTerms name' fields) = [] := by
  refine listedFields_of_other fun t ht => ?_
  rw [name?_of_mem_fieldTerms ht]
  simpa using hne

/-! ## The parts of a query -/

/-- A text that is at most one term is written as that term. -/
theorem renderEach_of_parseQuery {text : String} {ts : List Term}
    (h : Term.parseQuery text = .ok ts) (hlength : ts.length ≤ 1) :
    Term.renderEach ts = if text = "" then [] else [text] := by
  have hwritten := Term.renderQuery_of_parseQuery h
  match ts with
  | [] =>
    rw [← hwritten]
    rfl
  | [t] =>
    have hfilled : text ≠ "" := by
      rintro rfl
      cases h
    rw [Term.renderQuery_singleton] at hwritten
    rw [if_neg hfilled, ← hwritten]
    rfl

/-- The query of a view is read as its parts. -/
theorem parseQuery_query (h : Reached steps v) (hsteps : ∀ step ∈ steps, step.IsReadable) :
    ∃ filterTerms, Term.parseQuery v.filter.render = .ok filterTerms ∧
      filterTerms.length = (if v.filter.isEmpty then 0 else 1) ∧
      Term.parseQuery v.query = .ok
        (fieldTerms "select" v.select ++ filterTerms ++ fieldTerms "ordering" v.order) := by
  obtain ⟨filterTerms, hread, hlength⟩ :=
    Expr.parseQuery_render_of_built (h.built_filter hsteps) (h.hasSingleTerms hsteps)
  refine ⟨filterTerms, hread, hlength, ?_⟩
  have hselect : Term.IsQuery (fieldTerms "select" v.select) :=
    isQuery_fieldTerms (by decide) (by decide) h.hasFieldNames.select
  have horder : Term.IsQuery (fieldTerms "ordering" v.order) :=
    isQuery_fieldTerms (by decide) (by decide) h.hasFieldNames.order
  have hquery := Term.isQuery_append
    (Term.isQuery_append hselect (Term.isQuery_of_parseQuery hread)) horder
  have hwritten : Term.renderQuery
      (fieldTerms "select" v.select ++ filterTerms ++ fieldTerms "ordering" v.order) = v.query := by
    have hfilter := renderEach_of_parseQuery hread (by rw [hlength]; split <;> omega)
    rw [Term.renderQuery, query, queryParts, ← hfilter, ← renderEach_fieldTerms,
      ← renderEach_fieldTerms]
    simp only [Term.renderEach_eq_map, List.map_append]
  rw [← hwritten]
  exact Term.parseQuery_renderQuery hquery

/-- The query of a view that comes of single terms is read as the fields to return, the term of the
filter and the fields to sort by, as far as there are any.  So the text tells the fields, if the
filter itself is not written like a list of fields, as `select(id)` is; and it tells all parts to
whoever knows which of them there are. -/
theorem query_keeps_parts (h : Reached steps v) (hsteps : ∀ step ∈ steps, step.IsReadable) :
    ∃ filterTerms, Term.parseQuery v.filter.render = .ok filterTerms ∧
      filterTerms.length = (if v.filter.isEmpty then 0 else 1) ∧
      ∃ ts, Term.parseQuery v.query = .ok ts ∧
        ts = fieldTerms "select" v.select ++ filterTerms ++ fieldTerms "ordering" v.order ∧
        ((∀ t ∈ filterTerms, t.name? ≠ some "select") → listedFields "select" ts = v.select) ∧
        ((∀ t ∈ filterTerms, t.name? ≠ some "ordering") → listedFields "ordering" ts = v.order) ∧
        ∀ {steps' : List Step} {v' : View}, Reached steps' v' →
          (∀ step ∈ steps', step.IsReadable) → v'.query = v.query →
          (v'.select = [] ↔ v.select = []) → (v'.order = [] ↔ v.order = []) →
          v'.select = v.select ∧ v'.filter.render = v.filter.render ∧ v'.order = v.order := by
  obtain ⟨filterTerms, hread, hlength, hparse⟩ := parseQuery_query h hsteps
  refine ⟨filterTerms, hread, hlength, _, hparse, rfl, fun hother => ?_, fun hother => ?_, ?_⟩
  · rw [listedFields_append, listedFields_append, listedFields_of_other hother,
      listedFields_fieldTerms, listedFields_fieldTerms_of_ne (by decide), List.append_nil,
      List.append_nil]
  · rw [listedFields_append, listedFields_append, listedFields_of_other hother,
      listedFields_fieldTerms, listedFields_fieldTerms_of_ne (by decide), List.append_nil,
      List.nil_append]
  intro steps' v' h' hsteps' hsame hselect horder
  obtain ⟨filterTerms', hread', -, hparse'⟩ := parseQuery_query h' hsteps'
  rw [hsame, hparse] at hparse'
  have hjoined := Except.ok.inj hparse'
  obtain ⟨hinit, hlast⟩ := List.append_inj' hjoined (by simp only [length_fieldTerms, horder])
  obtain ⟨hfirst, rfl⟩ := List.append_inj hinit (by simp only [length_fieldTerms, hselect])
  refine ⟨(fieldTerms_injective hfirst).symm, ?_, (fieldTerms_injective hlast).symm⟩
  rw [← Term.renderQuery_of_parseQuery hread, ← Term.renderQuery_of_parseQuery hread']

/-- Two filters, one of them a lookup, and fields to return and to sort by. -/
theorem query_keeps_parts_users :
    let steps := [Step.rawFilter " in(role,(a,b)) ", .select ["id", "-name"], .order ["-age"],
      .lookups [("age__ge", .integer 18)]]
    let v := { ofPath "users" with
      filter := .composite false .and [.leaf false "in(role,(a,b))", .leaf false "ge(age,18)"]
      select := ["id", "-name"]
      order := ["-age"] }
    let filterTerm := Term.call "and" [.call "in" [.atom "role", .group [.atom "a", .atom "b"]],
      .call "ge" [.atom "age", .atom "18"]]
    let ts := [Term.call "select" [.atom "id", .atom "-name"], filterTerm,
      .call "ordering" [.atom "-age"]]
    Reached steps v ∧ (∀ step ∈ steps, step.IsReadable) ∧ Term.parseQuery v.query = .ok ts ∧
      listedFields "select" ts = v.select ∧ listedFields "ordering" ts = v.order := by
  intro steps v filterTerm ts
  have hreached : Reached steps v := .inl ⟨"users", by decide +kernel⟩
  have hlookups : Step.IsReadable (.lookups [("age__ge", .integer 18)]) := by
    intro e he
    have hleaf : Step.filter? (.lookups [("age__ge", .integer 18)]) =
      some (.raw "ge(age,18)") := by decide +kernel
    have hread : Term.parseQuery "ge(age,18)" = .ok [.call "ge" [.atom "age", .atom "18"]] := rfl
    rw [hleaf] at he
    cases he
    exact ⟨.raw "ge(age,18)", Expr.hasSingleTerms_raw hread⟩
  have hsteps : ∀ step ∈ steps, step.IsReadable := by
    simp only [steps, List.forall_mem_cons]
    exact ⟨trivial, Step.isReadable_of_none rfl, Step.isReadable_of_none rfl, hlookups, by simp⟩
  obtain ⟨filterTerms, hread, -, ts', hparse, hparts, hselect, horder, -⟩ :=
    query_keeps_parts hreached hsteps
  have hfilter : Term.parseQuery v.filter.render = .ok [filterTerm] := by
    have hrender : v.filter.render = "and(in(role,(a,b)),ge(age,18))" := by decide +kernel
    rw [hrender]
    rfl
  rw [hfilter] at hread
  cases hread
  have hname : ∀ name, name ≠ "and" → ∀ t ∈ [filterTerm], t.name? ≠ some name := by
    intro name hne t ht heq
    rw [List.mem_singleton.mp ht] at heq
    exact hne (Option.some.inj heq).symm
  obtain rfl : ts' = ts := hparts
  exact ⟨hreached, hsteps, hparse, hselect (hname "select" (by decide)),
    horder (hname "ordering" (by decide))⟩

/-- A filter may be written like a list of fields: the texts of two queries are the same, one with
a filter and one with a field to return. -/
theorem query_of_filter_select :
    let steps := [Step.rawFilter "select(id)"]
    let steps' := [Step.select ["id"]]
    let v := { ofPath "users" with filter := .raw "select(id)" }
    let v' := { ofPath "users" with select := ["id"] }
    Reached steps v ∧ Reached steps' v' ∧ (∀ step ∈ steps ++ steps', step.IsReadable) ∧
      v.query = v'.query ∧ v.query = "select(id)" ∧ v.select = [] ∧ v'.select = ["id"] := by
  intro steps steps' v v'
  have hsteps : ∀ step ∈ steps ++ steps', step.IsReadable := by
    simp only [steps, steps', List.singleton_append, List.forall_mem_cons]
    exact ⟨trivial, Step.isReadable_of_none rfl, by simp⟩
  exact ⟨.inl ⟨"users", by decide +kernel⟩, .inl ⟨"users", by decide +kernel⟩, hsteps,
    by decide +kernel, by decide +kernel, rfl, rfl⟩

end View

end PagedQuery
