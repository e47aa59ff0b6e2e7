import PagedQuery.Proofs.Record.Leaves
import PagedQuery.Proofs.Text.Splitting

/-!
# PagedQuery.Proofs.Record.Dotted

Flattening and looking up agree.  Where no key has a dot, a dotted path is cut into the segments
it was joined of, so that the leaves of a record have different dotted paths and each is found
again under its own (`flatten_agrees`).
-/

namespace PagedQuery

/-- No key has a dot. -/
def Json.HasUndottedKeys (v : Json) : Prop :=
  ∀ members ∈ v.objects, ∀ member ∈ members, '.' ∉ member.1.toList

instance (v : Json) : Decidable v.HasUndottedKeys :=
  inferInstanceAs (Decidable (∀ members ∈ v.objects, ∀ member ∈ members, '.' ∉ member.1.toList))

theorem Json.hasUndottedKeys_object_iff {members : Members} :
    (object members).HasUndottedKeys ↔
      (∀ member ∈ members, '.' ∉ member.1.toList) ∧
        ∀ member ∈ members, member.2.HasUndottedKeys :=
  forall_objects_object_iff

namespace Record

/-! ## Dotted paths -/

/-- Whether a path can be written with dots: it has segments, and none has a dot itself. -/
structure IsDottable (path : List String) : Prop where
  filled : path ≠ []
  undotted : ∀ s ∈ path, '.' ∉ s.toList

variable {path path' : List String} {v record : Json} {leaf : Leaf}

theorem IsDottable.split_join (h : IsDottable path) :
    Text.split '.' (Text.join "." path) = path :=
  Text.split_join_of_not_mem h.filled h.undotted

theorem IsDottable.join_inj (h : IsDottable path) (h' : IsDottable path')
    (heq : Text.join "." path = Text.join "." path') : path = path' := by
  rw [← h.split_join, heq, h'.split_join]

theorem IsDottable.resolve?_join (h : IsDottable path) (record : Json) :
    resolve? (Text.join "." path) record = follow? path record := by
  rw [resolve?, h.split_join]

/-- A path that leads somewhere is made of keys. -/
theorem undotted_of_follow? (h : v.HasUndottedKeys) (hfollow : (follow? path v).isSome = true) :
    ∀ s ∈ path, '.' ∉ s.toList := by
  induction path generalizing v with
  | nil => simp
  | cons s rest ih =>
    cases v with
    | object members =>
      obtain ⟨hkeys, hvalues⟩ := Json.hasUndottedKeys_object_iff.mp h
      obtain ⟨w, hw⟩ := Option.isSome_iff_exists.mp hfollow
      obtain ⟨value, hvalue, hrest⟩ := Option.bind_eq_some_iff.mp hw
      have hmember := Members.mem_of_get? hvalue
      rw [List.forall_mem_cons]
      exact ⟨hkeys _ hmember, ih (hvalues _ hmember) (by rw [hrest]; rfl)⟩
    | _ => contradiction

/-! ## Rows -/

section Rows

variable (hkeys : record.HasDistinctKeys) (hdots : record.HasUndottedKeys)

include hkeys hdots

theorem isDottable_of_mem_leaves (h : leaf ∈ leaves record) : IsDottable leaf.path := by
  obtain ⟨hfilled, hfollow, -⟩ := (mem_leaves_iff hkeys).mp h
  exact ⟨hfilled, undotted_of_follow? hdots (by rw [hfollow]; rfl)⟩

/-- A leaf is found under its dotted path. -/
theorem resolve?_row (h : leaf ∈ leaves record) :
    resolve? leaf.row.1 record = some leaf.row.2 := by
  have hpath := isDottable_of_mem_leaves hkeys hdots h
  exact (hpath.resolve?_join record).trans ((mem_leaves_iff hkeys).mp h).2.1

/-- Different leaves have different dotted paths. -/
theorem nodup_rows : (((leaves record).map Leaf.row).map Prod.fst).Nodup := by
  have hsame : ((leaves record).map Leaf.row).map Prod.fst =
      ((leaves record).map Leaf.path).map (Text.join ".") := by
    simp [Leaf.row]
  rw [hsame]
  refine (nodup_path_leaves hkeys).map_on fun path hpath path' hpath' heq => ?_
  obtain ⟨leaf, hleaf, rfl⟩ := List.mem_map.mp hpath
  obtain ⟨leaf', hleaf', rfl⟩ := List.mem_map.mp hpath'
  exact (isDottable_of_mem_leaves hkeys hdots hleaf).join_inj
    (isDottable_of_mem_leaves hkeys hdots hleaf') heq

/-- So no row of the flattened record takes the place of another. -/
theorem flatten_eq_rows : flatten record = (leaves record).map Leaf.row := by
  rw [flatten_eq]
  exact Members.setAll_of_nodup (nodup_rows hkeys hdots)

end Rows

theorem project_eq (record : Json) (fields : List String) :
    project record fields =
      Members.setAll [] (fields.map fun path => (path, (resolve? path record).getD .null)) := by
  rw [project, Members.setAll, List.foldl_map]

/-- Flattening, looking up and projecting agree on a record whose keys are distinct and have no
dots.  The flattened record has just the leaves of the record, which are what a path of keys leads
to and is no object with members, in document order, each under its dotted path and no two under
the same; the path leads back to the leaf; and projecting the record to these paths gives the same
rows. -/
theorem flatten_agrees (record : Json) (hkeys : record.HasDistinctKeys)
    (hdots : record.HasUndottedKeys) :
    flatten record = (leaves record).map Leaf.row ∧
      (∀ leaf, leaf ∈ leaves record ↔ leaf.path ≠ [] ∧
        follow? leaf.path record = some leaf.value ∧ isLeaf leaf.value = true) ∧
      (leaves record).Pairwise (fun a b => Precedes record a.path b.path) ∧
      ((flatten record).map Prod.fst).Nodup ∧
      (∀ row ∈ flatten record, resolve? row.1 record = some row.2) ∧
      project record ((flatten record).map Prod.fst) = flatten record := by
  have hrows := flatten_eq_rows hkeys hdots
  have hnodup : ((flatten record).map Prod.fst).Nodup := hrows ▸ nodup_rows hkeys hdots
  have hresolve : ∀ row ∈ flatten record, resolve? row.1 record = some row.2 := by
    rw [hrows, List.forall_mem_map]
    exact fun leaf hleaf => resolve?_row hkeys hdots hleaf
  refine ⟨hrows, fun leaf => mem_leaves_iff hkeys, pairwise_precedes_leaves record, hnodup,
    hresolve, ?_⟩
  have hvalues : ((flatten record).map Prod.fst).map
      (fun path => (path, (resolve? path record).getD .null)) = flatten record := by
    have hself : ∀ row ∈ flatten record, (row.1, (resolve? row.1 record).getD .null) = row := by
      intro row hrow
      rw [hresolve row hrow, Option.getD_some]
    rw [List.map_map]
    exact (List.map_congr_left hself).trans (List.map_id _)
  rw [project_eq, hvalues]
  exact Members.setAll_of_nodup hnodup

/-- Keys that are empty, an object without members, and a dot inside of an array. -/
theorem flatten_agrees_nested :
    let record : Json := .object
      [("", .object [("", .int 1), ("b", .object [])]),
        ("a", .array [.object [("x.y", .int 2)]]),
        ("m", .object [("n", .object [("", .null)])])]
    record.HasDistinctKeys ∧ record.HasUndottedKeys ∧
      flatten record =
        [(".", .int 1), (".b", .object []), ("a", .array [.object [("x.y", .int 2)]]),
          ("m.n.", .null)] ∧
      Precedes record ["", "b"] ["m", "n", ""] ∧
      resolve? "." record = some (.int 1) ∧
      project record [".", ".b", "a", "m.n."] = flatten record := by
  intro record
  have hkeys : record.HasDistinctKeys := by decide
  have hdots : record.HasUndottedKeys := by decide
  have hflat : flatten record =
      [(".", .int 1), (".b", .object []), ("a", .array [.object [("x.y", .int 2)]]),
        ("m.n.", .null)] := by decide
  obtain ⟨-, -, horder, -, hresolve, hproject⟩ := flatten_agrees record hkeys hdots
  rw [hflat] at hresolve hproject
  have hprecedes := List.pairwise_iff_getElem.mp horder 1 3 (by decide) (by decide) (by decide)
  exact ⟨hkeys, hdots, hflat, hprecedes, hresolve (".", .int 1) (by decide), hflat ▸ hproject⟩

end Record

end PagedQuery
