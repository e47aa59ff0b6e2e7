import PagedQuery.Proofs.Filter.Built
import PagedQuery.Proofs.Term.RoundTrip

/-!
# PagedQuery.Proofs.Filter.Rendering

Reading back what an expression is written as.  Where the text of each leaf is a single term, a
normal expression has a term of the same shape (`toTerm`).  This term is well-formed and is written
like the expression, so that it is what is read (`parseQuery_render`).  Unless a leaf looks like a
composite or a negation itself, the term tells the expression (`IsNormal.eq_of_toTerm_eq`), and so
does the written form (`Built.rendering_decodes`).
-/

namespace PagedQuery

namespace Term

theorem renderQuery_singleton (t : Term) : renderQuery [t] = t.render := by
  simp [renderQuery, renderEach, Text.join]

theorem isQuery_call {name : String} {args : List Term} (hname : name ≠ "") (hplain : IsPlain name)
    (hargs : ∀ t ∈ args, IsQuery [t]) : IsQuery [.call name args] := by
  have hfilled : args ≠ [.atom ""] := by
    rintro rfl
    have hquery := hargs (.atom "") (by simp)
    exact hquery.filled (by simp)
  refine isQuery_cons (.call hname hplain hfilled fun t ht => ?_) nofun ⟨nofun, nofun⟩
  exact (hargs t ht).wellFormed t (by simp)

/-- Whether the term is a call that joins terms or negates one. -/
def isConnective (t : Term) : Bool :=
  t.name? == some "and" || t.name? == some "or" || t.name? == some "not"

theorem name?_ne_not {t : Term} (h : t.isConnective = false) : t.name? ≠ some "not" := by
  simp only [isConnective, Bool.or_eq_false_iff, beq_eq_false_iff_ne] at h
  exact h.2

end Term

namespace Filter

theorem Combinator.isPlain_name (op : Combinator) : Term.IsPlain op.name := by
  cases op <;> decide

theorem Combinator.name_inj {op op' : Combinator} (h : op.name = op'.name) : op = op' := by
  cases op <;> cases op' <;> first | rfl | contradiction

theorem Combinator.isConnective_call (op : Combinator) (args : List Term) :
    (Term.call op.name args).isConnective = true := by
  cases op <;> rfl

theorem Combinator.call_ne_not (op : Combinator) (args : List Term) :
    (Term.call op.name args).name? ≠ some "not" := by
  cases op <;> simp [name, Term.name?]

namespace Expr

/-! ## The term of an expression -/

/-- `t`, or `not(t)` if negated. -/
def negatedTerm (negated : Bool) (t : Term) : Term :=
  if negated then .call "not" [t] else t

mutual

/-- The term that has the shape of the expression, where the text of each leaf is the term that
`read` tells. -/
def toTerm (read : String → Term) : Expr → Term
  | .leaf negated text => negatedTerm negated (read text)
  | .composite negated op children =>
    negatedTerm negated (.call op.name (toTermEach read children))

def toTermEach (read : String → Term) : List Expr → List Term
  | [] => []
  | e :: es => e.toTerm read :: toTermEach read es

end

/-- A leaf of the expression has this text. -/
def HasText (e : Expr) (text : String) : Prop :=
  ∃ negated, .leaf negated text ∈ e.nodes

variable {e : Expr} {read : String → Term}

theorem toTermEach_eq_map (read : String → Term) (es : List Expr) :
    toTermEach read es = es.map (toTerm read) := by
  induction es with
  | nil => rfl
  | cons e es ih => rw [toTermEach, ih, List.map_cons]

theorem hasText_leaf (negated : Bool) (text : String) : (leaf negated text).HasText text :=
  ⟨negated, by simp [nodes]⟩

theorem HasText.composite {c : Expr} {text : String} (h : c.HasText text) {children : List Expr}
    (hc : c ∈ children) (negated : Bool) (op : Combinator) :
    (composite negated op children).HasText text := by
  obtain ⟨n, hn⟩ := h
  exact ⟨n, mem_nodes_composite.mpr (.inr ⟨c, hc, hn⟩)⟩

theorem isQuery_negatedTerm {t : Term} (h : Term.IsQuery [t]) (negated : Bool) :
    Term.IsQuery [negatedTerm negated t] := by
  cases negated with
  | false => exact h
  | true => exact Term.isQuery_call (by decide) (by decide) (by simpa using h)

theorem render_negatedTerm (negated : Bool) (t : Term) :
    (negatedTerm negated t).render = negatedText negated t.render := by
  cases negated <;> rfl

/-- The term of a normal expression is well-formed. -/
theorem IsNormal.isQuery_toTerm (h : e.IsNormal)
    (hread : ∀ text, e.HasText text → Term.parseQuery text = .ok [read text]) :
    Term.IsQuery [e.toTerm read] := by
  induction h with
  | @leaf negated text htext =>
    exact isQuery_negatedTerm (Term.isQuery_of_parseQuery (hread text (hasText_leaf ..))) negated
  | @composite negated op children hmany hdistinct hapart hall ih =>
    rw [toTerm, toTermEach_eq_map]
    apply isQuery_negatedTerm
    apply Term.isQuery_call (by cases op <;> decide) op.isPlain_name
    intro t ht
    obtain ⟨c, hc, rfl⟩ := List.mem_map.mp ht
    exact ih c hc fun text htext => hread text (htext.composite hc negated op)

/-- It is written like the expression. -/
theorem IsNormal.render_toTerm (h : e.IsNormal)
    (hread : ∀ text, e.HasText text → Term.parseQuery text = .ok [read text]) :
    (e.toTerm read).render = e.render := by
  induction h with
  | @leaf negated text htext =>
    have hwritten := Term.renderQuery_of_parseQuery (hread text (hasText_leaf ..))
    rw [Term.renderQuery_singleton] at hwritten
    rw [toTerm, render_negatedTerm, hwritten, render]
  | @composite negated op children hmany hdistinct hapart hall ih =>
    have heach : Term.renderEach (toTermEach read children) = renderEach children := by
      rw [Term.renderEach_eq_map, toTermEach_eq_map, renderEach_eq_map, List.map_map]
      apply List.map_congr_left
      intro c hc
      exact ih c hc fun text htext => hread text (htext.composite hc negated op)
    rw [toTerm, render_negatedTerm, Term.render, heach]
    cases children with
    | nil => contradiction
    | cons c cs => rfl

theorem parseQuery_render (h : e.IsNormal)
    (hread : ∀ text, e.HasText text → Term.parseQuery text = .ok [read text]) :
    Term.parseQuery e.render = .ok [e.toTerm read] := by
  rw [← h.render_toTerm hread, ← Term.renderQuery_singleton]
  exact Term.parseQuery_renderQuery (h.isQuery_toTerm hread)

/-! ## Telling expressions by their terms -/

theorem negatedTerm_inj {negated negated' : Bool} {t t' : Term} (ht : t.name? ≠ some "not")
    (ht' : t'.name? ≠ some "not") (heq : negatedTerm negated t = negatedTerm negated' t') :
    negated = negated' ∧ t = t' := by
  cases negated <;> cases negated'
  · exact ⟨rfl, heq⟩
  · rw [show t = .call "not" [t'] from heq] at ht
    contradiction
  · rw [show t' = .call "not" [t] from heq.symm] at ht'
    contradiction
  · simpa [negatedTerm] using heq

theorem eq_of_map_eq {α β : Type} {f : α → β} {as bs : List α}
    (h : ∀ a ∈ as, ∀ b ∈ bs, f a = f b → a = b) (heq : as.map f = bs.map f) : as = bs := by
  have hlength : as.length = bs.length := by simpa using congrArg List.length heq
  refine List.ext_getElem hlength fun i hi hi' => ?_
  apply h _ (List.getElem_mem hi) _ (List.getElem_mem hi')
  have hat := List.getElem_of_eq heq (by simpa using hi)
  simpa using hat

/-- Each leaf's text is a single term, the one that `read` tells, and no composite or negation. -/
def IsLegible (read : String → Term) (e : Expr) : Prop :=
  ∀ text, e.HasText text →
    Term.parseQuery text = .ok [read text] ∧ (read text).isConnective = false

theorem IsLegible.of_mem {negated : Bool} {op : Combinator} {children : List Expr} {c : Expr}
    (h : (composite negated op children).IsLegible read) (hc : c ∈ children) : c.IsLegible read :=
  fun text htext => h text (htext.composite hc negated op)

/-- The term tells the expression. -/
theorem IsNormal.eq_of_toTerm_eq (h : e.IsNormal) (hread : e.IsLegible read) {e' : Expr}
    (h' : e'.IsNormal) (hread' : e'.IsLegible read) (heq : e.toTerm read = e'.toTerm read) :
    e = e' := by
  induction h generalizing e' with
  | @leaf negated text htext =>
    obtain ⟨hparse, hfree⟩ := hread text (hasText_leaf ..)
    cases h' with
    | @leaf negated' text' htext' =>
      obtain ⟨hparse', hfree'⟩ := hread' text' (hasText_leaf ..)
      obtain ⟨rfl, hterm⟩ :=
        negatedTerm_inj (Term.name?_ne_not hfree) (Term.name?_ne_not hfree') heq
      rw [← Term.renderQuery_of_parseQuery hparse, ← Term.renderQuery_of_parseQuery hparse', hterm]
    | @composite negated' op' children' =>
      obtain ⟨-, hterm⟩ := negatedTerm_inj (Term.name?_ne_not hfree) (op'.call_ne_not _) heq
      rw [hterm, op'.isConnective_call] at hfree
      contradiction
  | @composite negated op children hmany hdistinct hapart hall ih =>
    cases h' with
    | @leaf negated' text' htext' =>
      obtain ⟨hparse', hfree'⟩ := hread' text' (hasText_leaf ..)
      obtain ⟨-, hterm⟩ := negatedTerm_inj (op.call_ne_not _) (Term.name?_ne_not hfree') heq
      rw [← hterm, op.isConnective_call] at hfree'
      contradiction
    | @composite negated' op' children' hmany' hdistinct' hapart' hall' =>
      obtain ⟨rfl, hterm⟩ := negatedTerm_inj (op.call_ne_not _) (op'.call_ne_not _) heq
      obtain ⟨hname, hargs⟩ := Term.call.inj hterm
      obtain rfl := Combinator.name_inj hname
      rw [toTermEach_eq_map, toTermEach_eq_map] at hargs
      have hchildren : children = children' := by
        refine eq_of_map_eq (fun c hc c' hc' hterm => ?_) hargs
        exact ih c hc (hread.of_mem hc) (hall' c' hc') (hread'.of_mem hc') hterm
      rw [hchildren]

/-- What an expression is written as is read as a single term, of the same shape as the expression,
if the texts of its leaves are single terms.  If besides none of these looks like a composite or a
negation, then no other such expression is written the same. -/
theorem Built.rendering_decodes (read : String → Term) (he : e.Built) (hfilled : e.isEmpty = false)
    (hread : ∀ text, e.HasText text → Term.parseQuery text = .ok [read text]) :
    Term.parseQuery e.render = .ok [e.toTerm read] ∧
      (e.IsLegible read → ∀ e' : Expr, e'.Built → e'.isEmpty = false → e'.IsLegible read →
        e.render = e'.render → e = e') := by
  have hnormal := he.isSettled.normal hfilled
  refine ⟨parseQuery_render hnormal hread, fun hlegible e' he' hfilled' hlegible' heq => ?_⟩
  have hnormal' := he'.isSettled.normal hfilled'
  have hparse := parseQuery_render hnormal hread
  rw [heq, parseQuery_render hnormal' fun text htext => (hlegible' text htext).1] at hparse
  have hterm : e.toTerm read = e'.toTerm read := by
    simpa using hparse.symm
  exact hnormal.eq_of_toTerm_eq hlegible hnormal' hlegible' hterm

/-- A conjunction with a disjunction and a negation in it, and the same made with a repetition. -/
theorem rendering_decodes_conjunction :
    let read : String → Term := fun text =>
      if text = "in(s,(a,b))" then .call "in" [.atom "s", .group [.atom "a", .atom "b"]]
      else if text = "eq(o,null())" then .call "eq" [.atom "o", .call "null" []]
      else .atom text
    let either := (raw "in(s,(a,b))").or (raw "eq(o,null())")
    let e := either.and (raw "urgent").negate
    e.Built ∧ e.IsLegible read ∧
      e.render = "and(or(in(s,(a,b)),eq(o,null())),not(urgent))" ∧
      Term.parseQuery e.render = .ok [.call "and"
        [.call "or" [read "in(s,(a,b))", read "eq(o,null())"], .call "not" [.atom "urgent"]]] ∧
      e = e.and either := by
  intro read either e
  have heither : either.Built := (Built.raw _).or (.raw _)
  have he : e.Built := heither.and (Built.raw _).negate
  have hlegible : e.IsLegible read := by
    rintro text ⟨negated, hmem⟩
    have hleaves : ∀ n ∈ e.nodes, n.isLeaf = true → n ∈ [.leaf false "in(s,(a,b))",
      .leaf false "eq(o,null())", .leaf true "urgent"] := by decide
    have htext : text = "in(s,(a,b))" ∨ text = "eq(o,null())" ∨ text = "urgent" := by
      have hleaf := hleaves _ hmem rfl
      simp only [List.mem_cons, List.not_mem_nil, leaf.injEq] at hleaf
      grind
    obtain rfl | rfl | rfl := htext <;> exact ⟨rfl, rfl⟩
  obtain ⟨hparse, htells⟩ :=
    he.rendering_decodes read rfl fun text htext => (hlegible text htext).1
  refine ⟨he, hlegible, by decide, hparse, ?_⟩
  have hsame : (e.and either).nodes = e.nodes := by decide
  have hlegible' : (e.and either).IsLegible read := by
    rintro text ⟨negated, hmem⟩
    exact hlegible text ⟨negated, hsame ▸ hmem⟩
  exact htells hlegible (e.and either) (he.and heither) rfl hlegible' (by decide)

end Expr

end Filter

end PagedQuery
