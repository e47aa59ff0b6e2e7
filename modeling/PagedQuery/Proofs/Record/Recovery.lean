import PagedQuery.Proofs.Record.Dotted

/-!
# PagedQuery.Proofs.Record.Recovery

Flattening loses nothing.  The leaves of a record are those of its members one after the other,
told apart by the first segments of their paths, so that a record is determined by its leaves
(`leavesOf_inj`), and these by the flattened record (`leaves_eq_map_flatten`).  A flattened record
has no values to be taken apart (`flatten_flatten`).
-/

namespace PagedQuery.Record

variable {v record : Json} {members : Members} {key : String}

/-! ## Records from leaves -/

theorem leavesAt_ne_nil (v : Json) : leavesAt v ≠ [] := by
  induction v using leafInduction with
  | leaf v hv => simp [leavesAt_of_isLeaf hv]
  | node members hne ih =>
    obtain ⟨m, ms, rfl⟩ := List.exists_cons_of_ne_nil hne
    rw [leavesAt_object hne, leavesOf]
    simp [ih m]

/-- Whether the path of a leaf starts with a key. -/
def isUnder (key : String) (leaf : Leaf) : Bool :=
  leaf.path.head? == some key

theorem filter_isUnder_of_not_mem (h : key ∉ members.map Prod.fst) :
    (leavesOf members).filter (isUnder key) = [] := by
  rw [List.filter_eq_nil_iff]
  rintro ⟨path, value⟩ hleaf hunder
  obtain ⟨rest, rfl⟩ := List.head?_eq_some_iff.mp (eq_of_beq hunder)
  obtain ⟨w, hmember, -⟩ := mem_leavesOf_cons_iff.mp hleaf
  exact h (List.mem_map_of_mem hmember)

/-- Of members with distinct keys, the leaves of the first are those under its key. -/
theorem filter_isUnder_cons (v : Json) (h : key ∉ members.map Prod.fst) :
    (leavesOf ((key, v) :: members)).filter (isUnder key) =
      (leavesAt v).map (Leaf.below [key]) := by
  rw [leavesOf, List.filter_append, filter_isUnder_of_not_mem h, List.append_nil,
    List.filter_eq_self, List.forall_mem_map]
  intro leaf _
  simp [isUnder, Leaf.below]

/-- The first leaf of some members is one of the first member. -/
theorem head?_leavesOf_cons (key : String) (v : Json) (rest : Members) :
    (leavesOf ((key, v) :: rest)).head?.bind (·.path.head?) = some key := by
  obtain ⟨leaf, more, hleaves⟩ := List.exists_cons_of_ne_nil (leavesAt_ne_nil v)
  rw [leavesOf, hleaves]
  rfl

/-- A value with distinct keys is the only one with its leaves. -/
def IsDetermined (v : Json) : Prop :=
  ∀ w : Json, w.HasDistinctKeys → leavesAt v = leavesAt w → v = w

theorem leavesOf_inj {members members' : Members}
    (hdetermined : ∀ member ∈ members, IsDetermined member.2)
    (hkeys : (members.map Prod.fst).Nodup) (hkeys' : (members'.map Prod.fst).Nodup)
    (hvalues' : ∀ member ∈ members', member.2.HasDistinctKeys)
    (h : leavesOf members = leavesOf members') : members = members' := by
  induction members generalizing members' with
  | nil =>
    cases members' with
    | nil => rfl
    | cons member' rest' =>
      have hfirst := head?_leavesOf_cons member'.1 member'.2 rest'
      rw [← h] at hfirst
      contradiction
  | cons member rest ih =>
    obtain ⟨key, v⟩ := member
    have hfirst := head?_leavesOf_cons key v rest
    cases members' with
    | nil =>
      rw [h] at hfirst
      contradiction
    | cons member' rest' =>
      obtain ⟨key', v'⟩ := member'
      rw [h, head?_leavesOf_cons] at hfirst
      obtain rfl := Option.some.inj hfirst
      rw [List.map_cons, List.nodup_cons] at hkeys hkeys'
      obtain ⟨hv, hrest⟩ := List.forall_mem_cons.mp hdetermined
      obtain ⟨hv', hrest'⟩ := List.forall_mem_cons.mp hvalues'
      -- the leaves under the common key are those of the two values
      have hleaves := congrArg (List.filter (isUnder key')) h
      rw [filter_isUnder_cons v hkeys.1, filter_isUnder_cons v' hkeys'.1] at hleaves
      obtain rfl := hv v' hv' ((Leaf.below_injective [key']).list_map hleaves)
      rw [leavesOf, leavesOf] at h
      rw [ih hrest hkeys.2 hkeys'.2 hrest' (List.append_cancel_left h)]

/-- A leaf does not have the leaves of an object with members. -/
theorem leavesAt_ne_leavesOf (hv : isLeaf v = true) (members : Members) :
    leavesAt v ≠ leavesOf members := by
  intro h
  have hmem : (⟨[], v⟩ : Leaf) ∈ leavesOf members := by
    rw [← h, leavesAt_of_isLeaf hv]
    exact List.mem_singleton_self _
  exact path_ne_nil_of_mem_leavesOf hmem rfl

theorem isDetermined (hkeys : v.HasDistinctKeys) : IsDetermined v := by
  induction v using leafInduction with
  | leaf v hv =>
    intro w _ h
    cases w using leafInduction with
    | leaf w hw =>
      rw [leavesAt_of_isLeaf hv, leavesAt_of_isLeaf hw] at h
      exact (Leaf.mk.inj (List.cons.inj h).1).2
    | node members hne _ =>
      rw [leavesAt_object hne] at h
      exact absurd h (leavesAt_ne_leavesOf hv members)
  | node members hne ih =>
    obtain ⟨hkeys, hvalues⟩ := Json.hasDistinctKeys_object_iff.mp hkeys
    intro w hw h
    rw [leavesAt_object hne] at h
    cases w using leafInduction with
    | leaf w hw => exact absurd h.symm (leavesAt_ne_leavesOf hw members)
    | node members' hne' _ =>
      obtain ⟨hkeys', hvalues'⟩ := Json.hasDistinctKeys_object_iff.mp hw
      rw [leavesAt_object hne'] at h
      have hdetermined : ∀ member ∈ members, IsDetermined member.2 := fun member hmember =>
        ih member hmember (hvalues member hmember)
      rw [leavesOf_inj hdetermined hkeys hkeys' hvalues' h]

/-! ## Leaves from rows -/

/-- The rows of a flattened record tell its leaves. -/
theorem leaves_eq_map_flatten (hkeys : record.HasDistinctKeys) (hdots : record.HasUndottedKeys) :
    leaves record = (flatten record).map fun row => ⟨Text.split '.' row.1, row.2⟩ := by
  have hself : ∀ leaf ∈ leaves record,
      (⟨Text.split '.' leaf.row.1, leaf.row.2⟩ : Leaf) = leaf := by
    intro leaf hleaf
    exact Leaf.ext (isDottable_of_mem_leaves hkeys hdots hleaf).split_join rfl
  rw [flatten_eq_rows hkeys hdots, List.map_map]
  exact ((List.map_congr_left hself).trans (List.map_id _)).symm

/-! ## Flattening twice -/

theorem leavesOf_of_isLeaf (h : ∀ member ∈ members, isLeaf member.2 = true) :
    leavesOf members = members.map fun member => ⟨[member.1], member.2⟩ := by
  induction members with
  | nil => rfl
  | cons member rest ih =>
    obtain ⟨hmember, hrest⟩ := List.forall_mem_cons.mp h
    rw [leavesOf, leavesAt_of_isLeaf hmember, ih hrest]
    rfl

/-- A flattened record has distinct keys, and only leaves under them. -/
theorem flatten_flatten (record : Json) : flatten (.object (flatten record)) = flatten record := by
  have hleaf : ∀ row ∈ flatten record, isLeaf row.2 = true := by
    intro row hrow
    rw [flatten_eq] at hrow
    obtain hnone | hrow := Members.mem_of_mem_setAll hrow
    · contradiction
    · obtain ⟨leaf, hleaf, rfl⟩ := List.mem_map.mp hrow
      exact isLeaf_of_mem_leaves hleaf
  have hnodup : ((flatten record).map Prod.fst).Nodup := by
    rw [flatten_eq]
    exact Members.nodup_keys_setAll (by simp) _
  have hrows : (leavesOf (flatten record)).map Leaf.row = flatten record := by
    rw [leavesOf_of_isLeaf hleaf, List.map_map]
    exact (List.map_congr_left fun row _ => by simp [Leaf.row, Text.join]).trans (List.map_id _)
  rw [flatten_eq, leaves, hrows]
  exact Members.setAll_of_nodup hnodup

/-- Flattening loses nothing.  Two objects whose keys are distinct and have no dots are the same,
with the order of their members at every level, if they are the same when they are flattened; and
any record, flattened to an object, stays as it is when this is flattened again. -/
theorem flatten_loses_nothing :
    (∀ members members' : Members,
      (Json.object members).HasDistinctKeys → (Json.object members).HasUndottedKeys →
      (Json.object members').HasDistinctKeys → (Json.object members').HasUndottedKeys →
      flatten (.object members) = flatten (.object members') → members = members') ∧
    ∀ record, flatten (.object (flatten record)) = flatten record := by
  refine ⟨fun members members' hkeys hdots hkeys' hdots' h => ?_, flatten_flatten⟩
  have hleaves : leavesOf members = leavesOf members' :=
    calc leaves (.object members)
        = (flatten (.object members)).map fun row => ⟨Text.split '.' row.1, row.2⟩ :=
          leaves_eq_map_flatten hkeys hdots
      _ = (flatten (.object members')).map fun row => ⟨Text.split '.' row.1, row.2⟩ := by rw [h]
      _ = leaves (.object members') := (leaves_eq_map_flatten hkeys' hdots').symm
  obtain ⟨hdistinct, hvalues⟩ := Json.hasDistinctKeys_object_iff.mp hkeys
  obtain ⟨hdistinct', hvalues'⟩ := Json.hasDistinctKeys_object_iff.mp hkeys'
  exact leavesOf_inj (fun member hmember => isDetermined (hvalues member hmember)) hdistinct
    hdistinct' hvalues' hleaves

/-- One object is written out, and one has a member that is set twice; then a record in which two
members have the same dotted path. -/
theorem flatten_loses_nothing_rewritten :
    let members : Members := [("a", .object [("", .object [])]), ("b", .array [.null])]
    let members' := Members.setAll []
      [("a", .int 1), ("b", .array [.null]), ("a", .object [("", .object [])])]
    let collided : Json := .object [("a.b", .int 1), ("c", .null), ("a", .object [("b", .int 2)])]
    flatten (.object members') = [("a.", .object []), ("b", .array [.null])] ∧
      members = members' ∧
      flatten collided = [("a.b", .int 2), ("c", .null)] ∧
      flatten (.object (flatten collided)) = flatten collided := by
  intro members members' collided
  obtain ⟨hrecover, hagain⟩ := flatten_loses_nothing
  have hsame := hrecover members members' (by decide) (by decide) (by decide) (by decide)
    (by decide)
  exact ⟨by decide, hsame, by decide, hagain collided⟩

end PagedQuery.Record
