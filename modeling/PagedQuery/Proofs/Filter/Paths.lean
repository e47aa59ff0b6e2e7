import PagedQuery.Proofs.Filter.Lookups

/-!
# PagedQuery.Proofs.Filter.Paths

Which paths a comparison may start from, and which of them are read back.  A path is refused for
its blanks and its empty segments only, not for the characters that structure a query; but just the
paths without these are the first argument of what is read (`path_read_back_iff`).
-/

namespace PagedQuery.Filter

open Term (parseQuery)

variable {f : Field} {op : Operator} {value : Value} {e : Expr}

/-- What is read as the argument of a call is plain. -/
theorem isPlain_of_parseQuery_call {s name text : String} {arg : Term}
    (h : parseQuery s = .ok [.call name [.atom text, arg]]) : Term.IsPlain text := by
  have hcall := (Term.isQuery_of_parseQuery h).wellFormed _ (List.mem_singleton_self _)
  cases hcall with
  | call _ _ _ hall =>
    have hfirst := hall (.atom text) List.mem_cons_self
    cases hfirst with
    | atom hplain => exact hplain

/-- The written form is read as a call of two arguments, and the first of them is the path. -/
def Expr.ReadsPath (e : Expr) (path : String) : Prop :=
  ∃ name arg, parseQuery e.render = .ok [.call name [.atom path, arg]]

theorem Field.readsPath_iff_of_compare (h : f.compare op value = .ok e) (hvalue : value.IsPlain) :
    e.ReadsPath f.path ↔ Term.IsPlain f.path := by
  constructor
  · rintro ⟨name, arg, hread⟩
    exact isPlain_of_parseQuery_call hread
  · intro hpath
    obtain ⟨name, arg, -, hread⟩ := parseQuery_render_of_compare h hpath hvalue
    exact ⟨name, arg, hread⟩

/-- Cutting a path at its dots does not change it. -/
theorem Field.path_child_root (path : String) : (root.child path).path = path := by
  rw [Field.path, child, root, List.nil_append]
  exact Text.join_split '.' path

/-- A path is refused just if it is broken, whatever the operator and the value are, and otherwise
it is enough that the operator admits the value.  A comparison with a plain value, such as a truth
value or an integer, is read as a call of two arguments, the first of which is the path, just if the
path is plain too; and so is a lookup with the path that its name stands for. -/
theorem path_read_back_iff (f : Field) (op : Operator) {value : Value} (hvalue : value.IsPlain) :
    (f.compare op value = .error (.invalidField f.path) ↔ f.IsBroken) ∧
      ((∃ e, f.compare op value = .ok e) ↔
        ¬ f.IsBroken ∧ op.family.admits value.kind = true) ∧
      (∀ e, f.compare op value = .ok e → (e.ReadsPath f.path ↔ Term.IsPlain f.path)) ∧
      ∀ name e, Expr.ofLookups [(name, value)] = .ok e →
        (e.ReadsPath (Lookup.ofName name).path ↔ Term.IsPlain (Lookup.ofName name).path) := by
  refine ⟨Field.compare_eq_invalidField_iff, Field.exists_compare_eq_ok_iff,
    fun e h => Field.readsPath_iff_of_compare h hvalue, fun name e h => ?_⟩
  rw [Expr.ofLookups_singleton, Expr.ofLookup] at h
  have hread := Field.readsPath_iff_of_compare h hvalue
  rwa [Field.path_child_root] at hread

/-- A dotted path, and a path with a bracket in a lookup. -/
theorem path_read_back_iff_author :
    let f := Field.root.child "author.name"
    (Value.integer 1).IsPlain ∧
      (∃ e, f.compare .eq (.integer 1) = .ok e ∧ e.ReadsPath f.path) ∧
      Expr.ofLookups [("author(name__ge", .integer 1)] = .ok (.leaf false "ge(author(name,1)") ∧
      ¬ (Expr.leaf false "ge(author(name,1)").ReadsPath "author(name" := by
  intro f
  have hvalue : (Value.integer 1).IsPlain := trivial
  have hbracket : (Lookup.ofName "author(name__ge").path = "author(name" := by decide +kernel
  obtain ⟨-, hok, hpath, hname⟩ := path_read_back_iff f .eq hvalue
  obtain ⟨e, he⟩ := hok.mpr (by decide)
  have hlookup : Expr.ofLookups [("author(name__ge", .integer 1)] =
      .ok (.leaf false "ge(author(name,1)") := by decide +kernel
  refine ⟨hvalue, ⟨e, he, (hpath e he).mpr (by decide)⟩, hlookup, ?_⟩
  rw [← hbracket, hname _ _ hlookup, hbracket]
  decide

/-- A path with a comma becomes two arguments. -/
theorem path_with_comma :
    let f := Field.root.child "a,b"
    f.compare .eq (.integer 1) = .ok (.leaf false "eq(a,b,1)") ∧
      Expr.ofLookups [("a,b", .integer 1)] = .ok (.leaf false "eq(a,b,1)") ∧
      parseQuery "eq(a,b,1)" = .ok [.call "eq" [.atom "a", .atom "b", .atom "1"]] ∧
      ¬ (Expr.leaf false "eq(a,b,1)").ReadsPath f.path := by
  intro f
  have hcompare : f.compare .eq (.integer 1) = .ok (.leaf false "eq(a,b,1)") := by decide +kernel
  refine ⟨hcompare, by decide +kernel, rfl, ?_⟩
  rw [Field.readsPath_iff_of_compare hcompare trivial]
  decide

end PagedQuery.Filter
