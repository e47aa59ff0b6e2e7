import PagedQuery.Filter.Field
import PagedQuery.Proofs.Term.Written

/-!
# PagedQuery.Proofs.Filter.Outcome

What comes of a comparison.  A broken path is an error whatever the value is, and a value that the
operator does not admit is one otherwise; what remains is the call that `Compares` tells.  All of
this is said by `Field.compare_outcome`, so that nothing else has to look into comparisons.
-/

namespace PagedQuery.Filter

/-! ## Operators and values -/

/-- The kinds of values that operators of this family compare with. -/
def Operator.Family.admits : Family → Kind → Bool
  | .scalar, kind => kind != .list && kind != .null
  | .list, kind => kind == .list
  | .presence, kind => kind == .boolean

/-- The items that are read of a list: one empty text is written like no items at all. -/
def readItems (items : List String) : List String :=
  if items = [""] then [] else items

theorem readItems_ne (items : List String) : readItems items ≠ [""] := by
  unfold readItems
  split
  · exact (List.cons_ne_nil _ _).symm
  · next hitems => exact hitems

theorem mem_of_mem_readItems {items : List String} {s : String} (h : s ∈ readItems items) :
    s ∈ items := by
  unfold readItems at h
  split at h
  · contradiction
  · exact h

theorem Value.isSome_wire? (value : Value) :
    value.wire?.isSome = Operator.Family.scalar.admits value.kind := by
  cases value <;> rfl

theorem renderEach_map_atom (items : List String) :
    Term.renderEach (items.map .atom) = items := by
  rw [Term.renderEach_eq_map, List.map_map]
  exact List.map_id items

theorem render_group_readItems (items : List String) :
    (Term.group ((readItems items).map .atom)).render = Term.callText "" items := by
  rw [Term.render, renderEach_map_atom, readItems]
  split
  · next hblank =>
    rw [hblank]
    rfl
  · rfl

theorem render_call_pair (name path : String) (arg : Term) :
    (Term.call name [.atom path, arg]).render = Term.callText name [path, arg.render] := rfl

/-- A call is written as something, so that its text is a leaf. -/
theorem raw_callText (name : String) (args : List String) :
    Expr.raw (Term.callText name args) = .leaf false (Term.callText name args) := by
  refine if_neg fun hnone => ?_
  have hchars := congrArg String.toList hnone
  rw [Term.toList_callText] at hchars
  exact absurd hchars (by simp)

/-! ## The call that a comparison is -/

/-- The operator and the value are compared by a call with this name and this second argument.
Whether a field is null or empty is asked by comparing it with a call. -/
inductive Compares : Operator → Value → String → Term → Prop
  | scalar {op : Operator} {value : Value} {text : String} (hfamily : op.family = .scalar)
      (hwire : value.wire? = some text) : Compares op value op.name (.atom text)
  | list {op : Operator} (items : List String) (hfamily : op.family = .list) :
    Compares op (.list items) op.name (.group ((readItems items).map .atom))
  | presence {op : Operator} (present : Bool) (hfamily : op.family = .presence) :
    Compares op (.boolean present) (if present then "eq" else "ne") (.call op.name [])

theorem Compares.admits {op : Operator} {value : Value} {name : String} {arg : Term}
    (h : Compares op value name arg) : op.family.admits value.kind = true := by
  cases h with
  | scalar hfamily hwire =>
    rw [hfamily, ← value.isSome_wire?, hwire]
    rfl
  | list items hfamily =>
    rw [hfamily]
    rfl
  | presence present hfamily =>
    rw [hfamily]
    rfl

/-! ## Outcomes -/

namespace Field

/-- What no comparison starts from: a path without segments, or with one that is empty or has a
blank in it. -/
def IsBroken (f : Field) : Prop :=
  f.segments = [] ∨ ∃ s ∈ f.segments, s = "" ∨ ∃ c ∈ s.toList, Text.isBlank c = true

/-- What can come of a comparison. -/
inductive Outcome (f : Field) (op : Operator) (value : Value) : Except Error Expr → Prop
  | broken (hbroken : f.IsBroken) : Outcome f op value (.error (.invalidField f.path))
  | misfit (hvalid : ¬ f.IsBroken) (hkind : op.family.admits value.kind = false) :
    Outcome f op value (.error (.typeKind op value.kind))
  | call {name : String} {arg : Term} (hvalid : ¬ f.IsBroken)
      (hcompares : Compares op value name arg) :
    Outcome f op value (.ok (.leaf false (Term.call name [.atom f.path, arg]).render))

variable {f : Field} {op : Operator} {value : Value} {e : Expr}

theorem isValid_eq_false_iff : f.isValid = false ↔ f.IsBroken := by
  simp [isValid, IsBroken, Decidable.or_iff_not_imp_left]

instance (f : Field) : Decidable f.IsBroken :=
  decidable_of_iff _ isValid_eq_false_iff

/-- The path is checked first, then the value. -/
theorem compare_outcome (f : Field) (op : Operator) (value : Value) :
    Outcome f op value (f.compare op value) := by
  unfold compare
  split
  · next hinvalid =>
    exact .broken (isValid_eq_false_iff.mp (by simpa using hinvalid))
  · next hvalid =>
    have hvalid : ¬ f.IsBroken := by
      rw [← isValid_eq_false_iff]
      simpa using hvalid
    simp only [raw_callText]
    cases hfamily : op.family with
    | scalar =>
      cases hwire : value.wire? with
      | some text =>
        have hcall := Outcome.call hvalid (.scalar hfamily hwire)
        rw [render_call_pair, Term.render] at hcall
        simp only [hwire]
        exact hcall
      | none =>
        simp only [hwire]
        refine .misfit hvalid ?_
        rw [hfamily, ← value.isSome_wire?, hwire]
        rfl
    | list =>
      cases value with
      | list items =>
        have hcall := Outcome.call hvalid (.list items hfamily)
        rw [render_call_pair, render_group_readItems] at hcall
        exact hcall
      | _ => exact .misfit hvalid (by rw [hfamily]; rfl)
    | presence =>
      cases value with
      | boolean present =>
        have hcall := Outcome.call hvalid (.presence present hfamily)
        cases present <;> exact hcall
      | _ => exact .misfit hvalid (by rw [hfamily]; rfl)

theorem compare_eq_invalidField_iff :
    f.compare op value = .error (.invalidField f.path) ↔ f.IsBroken := by
  have houtcome := compare_outcome f op value
  generalize f.compare op value = result at houtcome ⊢
  cases houtcome with
  | broken hbroken => simp [hbroken]
  | misfit hvalid => simp [hvalid]
  | call hvalid => simp [hvalid]

theorem compare_eq_typeKind_iff :
    f.compare op value = .error (.typeKind op value.kind) ↔
      ¬ f.IsBroken ∧ op.family.admits value.kind = false := by
  have houtcome := compare_outcome f op value
  generalize f.compare op value = result at houtcome ⊢
  cases houtcome with
  | broken hbroken => simp [hbroken]
  | misfit hvalid hkind => simp [hvalid, hkind]
  | call hvalid hcompares => simp [hcompares.admits]

theorem exists_compare_eq_ok_iff :
    (∃ e, f.compare op value = .ok e) ↔ ¬ f.IsBroken ∧ op.family.admits value.kind = true := by
  have houtcome := compare_outcome f op value
  generalize f.compare op value = result at houtcome ⊢
  cases houtcome with
  | broken hbroken => simp [hbroken]
  | misfit hvalid hkind => simp [hkind]
  | call hvalid hcompares => simp [hvalid, hcompares.admits]

theorem exists_call_of_compare (h : f.compare op value = .ok e) :
    ∃ name arg, Compares op value name arg ∧
      e = .leaf false (Term.call name [.atom f.path, arg]).render := by
  have houtcome := compare_outcome f op value
  rw [h] at houtcome
  cases houtcome with
  | call hvalid hcompares => exact ⟨_, _, hcompares, rfl⟩

end Field

end PagedQuery.Filter
