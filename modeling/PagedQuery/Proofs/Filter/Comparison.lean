import PagedQuery.Proofs.Filter.Rendering
import PagedQuery.Proofs.Filter.Wire

/-!
# PagedQuery.Proofs.Filter.Comparison

Comparisons are uniquely decodable.  The call that a comparison is tells what was compared
(`Compares.unique`), and it is read back where nothing in it structures a query, so that its written
form tells this as well (`Field.comparison_decodes`).
-/

namespace PagedQuery.Filter

open Term (parseQuery)

/-! ## What a call tells -/

theorem Operator.name_inj {op op' : Operator} (h : op.name = op'.name) : op = op' := by
  have hread := congrArg ofName? h
  simpa using hread

theorem Operator.name_ne (op : Operator) : op.name ≠ "" := by
  cases op <;> decide

theorem Operator.isPlain_name (op : Operator) : Term.IsPlain op.name := by
  cases op <;> decide

/-- What of a value is read back, besides the text of a scalar. -/
def Value.items : Value → List String
  | .list items => readItems items
  | _ => []

theorem Value.items_of_wire? {value : Value} {text : String} (h : value.wire? = some text) :
    value.items = [] := by
  cases value with
  | list items => contradiction
  | _ => rfl

theorem map_atom_inj {items items' : List String}
    (h : items.map Term.atom = items'.map Term.atom) : items = items' := by
  rw [← renderEach_map_atom items, h, renderEach_map_atom]

namespace Compares

variable {op op' : Operator} {value value' : Value} {name name' : String} {arg arg' : Term}

theorem name_ne (h : Compares op value name arg) : name ≠ "" := by
  cases h with
  | scalar => exact op.name_ne
  | list => exact op.name_ne
  | presence present => cases present <;> decide

theorem isPlain_name (h : Compares op value name arg) : Term.IsPlain name := by
  cases h with
  | scalar => exact op.isPlain_name
  | list => exact op.isPlain_name
  | presence present => cases present <;> decide

theorem isWellFormed (h : Compares op value name arg) (hplain : value.IsPlain) :
    arg.IsWellFormed := by
  cases h with
  | scalar _ hwire => exact .atom (hplain.wire hwire)
  | list items =>
    apply Term.IsWellFormed.group
    · exact fun heq => readItems_ne items (map_atom_inj heq)
    · intro t ht
      obtain ⟨s, hs, rfl⟩ := List.mem_map.mp ht
      exact .atom (hplain s (mem_of_mem_readItems hs))
  | presence => exact .call op.name_ne op.isPlain_name nofun nofun

/-- The call tells the operator and all of the value that is read back. -/
theorem unique (h : Compares op value name arg) (h' : Compares op' value' name' arg')
    (hname : name = name') (harg : arg = arg') :
    op = op' ∧ value.wire? = value'.wire? ∧ value.items = value'.items := by
  cases h with
  | scalar _ hwire =>
    cases h' with
    | scalar _ hwire' =>
      cases harg
      rw [hwire, hwire', value.items_of_wire? hwire, value'.items_of_wire? hwire']
      exact ⟨Operator.name_inj hname, rfl, rfl⟩
    | list => contradiction
    | presence => contradiction
  | list items =>
    cases h' with
    | scalar => contradiction
    | list items' => exact ⟨Operator.name_inj hname, rfl, map_atom_inj (Term.group.inj harg)⟩
    | presence => contradiction
  | presence present =>
    cases h' with
    | scalar => contradiction
    | list => contradiction
    | presence present' =>
      have hpresent : present = present' := by
        revert hname
        cases present <;> cases present' <;> decide
      exact ⟨Operator.name_inj (Term.call.inj harg).1, by rw [hpresent], rfl⟩

end Compares

/-! ## Reading comparisons back -/

namespace Field

variable {f f' : Field} {op op' : Operator} {value value' : Value} {e e' : Expr}

theorem isQuery_comparison {name : String} {arg : Term} (h : Compares op value name arg)
    (hpath : Term.IsPlain f.path) (hvalue : value.IsPlain) :
    Term.IsQuery [.call name [.atom f.path, arg]] := by
  refine Term.isQuery_cons (.call h.name_ne h.isPlain_name (by simp) ?_) nofun ⟨nofun, nofun⟩
  exact List.forall_mem_cons.mpr ⟨.atom hpath, by simpa using h.isWellFormed hvalue⟩

/-- A comparison of plain texts is read as the call that it is. -/
theorem parseQuery_render_of_compare (h : f.compare op value = .ok e)
    (hpath : Term.IsPlain f.path) (hvalue : value.IsPlain) :
    ∃ name arg, Compares op value name arg ∧
      parseQuery e.render = .ok [.call name [.atom f.path, arg]] := by
  obtain ⟨name, arg, hcompares, rfl⟩ := exists_call_of_compare h
  refine ⟨name, arg, hcompares, ?_⟩
  have hread := Term.parseQuery_renderQuery (isQuery_comparison hcompares hpath hvalue)
  rwa [Term.renderQuery_singleton] at hread

/-- Comparisons of plain texts that are written alike compare the same. -/
theorem compare_unique (h : f.compare op value = .ok e) (h' : f'.compare op' value' = .ok e')
    (hpath : Term.IsPlain f.path) (hpath' : Term.IsPlain f'.path) (hvalue : value.IsPlain)
    (hvalue' : value'.IsPlain) (hsame : e.render = e'.render) :
    f.path = f'.path ∧ op = op' ∧ value.wire? = value'.wire? ∧ value.items = value'.items := by
  obtain ⟨name, arg, hcompares, hread⟩ := parseQuery_render_of_compare h hpath hvalue
  obtain ⟨name', arg', hcompares', hread'⟩ := parseQuery_render_of_compare h' hpath' hvalue'
  rw [hsame, hread', Except.ok.injEq, List.cons.injEq, Term.call.injEq, List.cons.injEq,
    Term.atom.injEq, List.cons.injEq] at hread
  obtain ⟨⟨hname, hpaths, harg, -⟩, -⟩ := hread
  exact ⟨hpaths.symm, hcompares.unique hcompares' hname.symm harg.symm⟩

/-- A comparison fails with the path just if this is broken, whatever the value is, and otherwise
with the kind of the value just if the operator does not admit it.  Where it succeeds and neither
the path nor the value has a character that structures a query, it is a leaf that is read back as
one call, the one that `Compares` tells, and so it is written like another such comparison only if
both have the same path, operator and text or items. -/
theorem comparison_decodes (f : Field) (op : Operator) (value : Value) :
    (f.compare op value = .error (.invalidField f.path) ↔ f.IsBroken) ∧
      (f.compare op value = .error (.typeKind op value.kind) ↔
        ¬ f.IsBroken ∧ op.family.admits value.kind = false) ∧
      ((∃ e, f.compare op value = .ok e) ↔
        ¬ f.IsBroken ∧ op.family.admits value.kind = true) ∧
      ∀ e, f.compare op value = .ok e → Term.IsPlain f.path → value.IsPlain →
        (∃ text, e = .leaf false text) ∧
        (∃ name arg, Compares op value name arg ∧
          parseQuery e.render = .ok [.call name [.atom f.path, arg]]) ∧
        ∀ (f' : Field) (op' : Operator) (value' : Value) (e' : Expr),
          f'.compare op' value' = .ok e' → Term.IsPlain f'.path → value'.IsPlain →
          e.render = e'.render →
          f.path = f'.path ∧ op = op' ∧ value.wire? = value'.wire? ∧
            value.items = value'.items := by
  refine ⟨compare_eq_invalidField_iff, compare_eq_typeKind_iff, exists_compare_eq_ok_iff,
    fun e h hpath hvalue => ⟨?_, parseQuery_render_of_compare h hpath hvalue, ?_⟩⟩
  · obtain ⟨name, arg, -, rfl⟩ := exists_call_of_compare h
    exact ⟨_, rfl⟩
  · intro f' op' value' e' h' hpath' hvalue' hsame
    exact compare_unique h h' hpath hpath' hvalue hvalue' hsame

/-- An author's name compared with a list, and a path that ends in an empty segment. -/
theorem comparison_decodes_author :
    let f := Field.root.child "author.name"
    let value := Value.list ["ann", ""]
    Term.IsPlain f.path ∧ value.IsPlain ∧
      (∃ e, f.compare .isIn value = .ok e ∧ parseQuery e.render =
        .ok [.call "in" [.atom "author.name", .group [.atom "ann", .atom ""]]]) ∧
      f.compare .eq value = .error (.typeKind .eq .list) ∧
      (f.child "").compare .eq value = .error (.invalidField "author.name.") := by
  intro f value
  have hpath : Term.IsPlain f.path := by decide
  have hvalue : value.IsPlain := by
    show ∀ s ∈ ["ann", ""], Term.IsPlain s
    decide
  obtain ⟨-, -, hok, hread⟩ := comparison_decodes f .isIn value
  obtain ⟨-, hkind, -⟩ := comparison_decodes f .eq value
  obtain ⟨hbroken, -⟩ := comparison_decodes (f.child "") .eq value
  obtain ⟨e, he⟩ := hok.mpr (by decide)
  obtain ⟨-, ⟨name, arg, hcompares, hparse⟩, -⟩ := hread e he hpath hvalue
  refine ⟨hpath, hvalue, ⟨e, he, ?_⟩, hkind.mpr (by decide), hbroken.mpr (by decide)⟩
  rw [hparse]
  change Compares .isIn (.list ["ann", ""]) name arg at hcompares
  cases hcompares with
  | scalar => contradiction
  | list items => rfl

end Field

end PagedQuery.Filter
