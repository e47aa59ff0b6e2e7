import PagedQuery.Proofs.Record.Dotted

/-!
# PagedQuery.Proofs.Record.Resolution

What a dotted path leads to.  Cutting a path at its dots gives the only segments that it is joined
of, so that looking it up is a descent from member to member along these, which ends without a
value where a member is missing (`resolve?_eq_iff`).  A path in front of another is looked up first
(`resolve?_append`), and a projected record has each path that was asked for once
(`resolution_composes`).
-/

namespace PagedQuery.Record

variable {v record : Json} {path : String} {segments : List String} {found : Option Json}

/-! ## Segments -/

/-- The pieces of a path are its segments. -/
theorem isDottable_split (path : String) : IsDottable (Text.split '.' path) where
  filled := Text.split_ne_nil '.' path
  undotted := fun _ h => Text.not_mem_of_mem_split h

/-! ## Descending -/

/-- A descent from a value along some segments, with what is found at the end.  Of members
with the same key the first counts. -/
inductive Descent : Json → List String → Option Json → Prop
  | arrived (v : Json) : Descent v [] (some v)
  | member {members : Members} {key : String} {w : Json} {rest : List String}
      {found : Option Json} (hmember : members.lookup key = some w) (h : Descent w rest found) :
    Descent (.object members) (key :: rest) found
  | missing {members : Members} {key : String} (hkey : key ∉ members.map Prod.fst)
      (rest : List String) : Descent (.object members) (key :: rest) none
  | noObject {v : Json} (hv : ∀ members, v ≠ .object members) (key : String)
      (rest : List String) : Descent v (key :: rest) none

theorem member?_object (members : Members) (key : String) :
    (Json.object members).member? key = members.lookup key :=
  Members.get?_eq_lookup members key

theorem member?_of_noObject (hv : ∀ members, v ≠ .object members) (key : String) :
    v.member? key = none := by
  cases v with
  | object members => exact absurd rfl (hv members)
  | _ => rfl

theorem descent_follow? (v : Json) (segments : List String) :
    Descent v segments (follow? segments v) := by
  induction segments generalizing v with
  | nil => exact .arrived v
  | cons key rest ih =>
    by_cases hv : ∃ members, v = .object members
    · obtain ⟨members, rfl⟩ := hv
      rw [follow?, member?_object]
      cases hmember : members.lookup key with
      | none => exact .missing (Members.lookup_eq_none_iff.mp hmember) rest
      | some w => exact .member hmember (ih w)
    · rw [not_exists] at hv
      rw [follow?, member?_of_noObject hv, Option.bind_none]
      exact .noObject hv key rest

/-- There is one descent along some segments, and it ends with what following them gives. -/
theorem descent_iff : Descent v segments found ↔ follow? segments v = found := by
  constructor
  · intro h
    induction h with
    | arrived v => rfl
    | member hmember _ ih => rw [follow?, member?_object, hmember, Option.bind_some, ih]
    | missing hkey rest =>
      rw [follow?, member?_object, Members.lookup_eq_none_iff.mpr hkey, Option.bind_none]
    | noObject hv key rest => rw [follow?, member?_of_noObject hv, Option.bind_none]
  · rintro rfl
    exact descent_follow? v segments

/-! ## Dotted paths -/

theorem resolve?_eq_iff :
    resolve? path record = found ↔
      ∃ segments, IsDottable segments ∧ Text.join "." segments = path ∧
        Descent record segments found := by
  constructor
  · intro h
    exact ⟨Text.split '.' path, isDottable_split path, Text.join_split '.' path, descent_iff.mpr h⟩
  · rintro ⟨segments, hsegments, rfl, h⟩
    rw [hsegments.resolve?_join, descent_iff.mp h]

/-- A path in front of another leads to where the other sets out from. -/
theorem resolve?_append (p q : String) (record : Json) :
    resolve? (p ++ "." ++ q) record = (resolve? p record).bind (resolve? q) := by
  have hsegments : Text.split '.' (p ++ "." ++ q) = Text.split '.' p ++ Text.split '.' q :=
    Text.split_append '.' p q
  rw [resolve?, hsegments, follow?_append]
  rfl

/-- Looking up paths composes.  Two paths with a dot between them, whatever dots they have
themselves, lead from a record to what the second leads to from where the first leads, and nowhere
if the first leads nowhere.  A path leads to what is found when its segments, the texts without
dots that it is joined of, are followed from member to member, and nowhere as soon as a member is
missing or a value is no object.  So a projected record has each of the paths once, in the order of
their first occurrences, each with what it leads to or null. -/
theorem resolution_composes :
    (∀ p q record, resolve? (p ++ "." ++ q) record = (resolve? p record).bind (resolve? q)) ∧
    (∀ path record found, resolve? path record = found ↔
      ∃ segments, IsDottable segments ∧ Text.join "." segments = path ∧
        Descent record segments found) ∧
    ∀ record fields, project record fields =
      fields.eraseDups.map fun path => (path, (resolve? path record).getD .null) := by
  refine ⟨resolve?_append, fun path record found => resolve?_eq_iff, fun record fields => ?_⟩
  rw [project_eq]
  exact Members.setAll_graph (fun path => (resolve? path record).getD .null) fields

/-- Empty segments are keys like any other, and no path goes through an array. -/
example :
    project (.object [("", .object [("", .int 1)]), ("a", .array [.int 2]), ("b.c", .int 3)])
        [".", "a", "a.0", ".", "b.c", "", ".."] =
      [(".", .int 1), ("a", .array [.int 2]), ("a.0", .null), ("b.c", .null),
        ("", .object [("", .int 1)]), ("..", .null)] := by
  decide

end PagedQuery.Record
