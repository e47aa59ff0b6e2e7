import PagedQuery.Proofs.Json.Keys
import PagedQuery.Record

/-!
# PagedQuery.Proofs.Record.Leaves

The leaves of a record: the values that are no objects with members, each with the segments that
lead to it.  Flattening a record sets the leaves one after the other under their dotted paths
(`flatten_eq`).  If the keys of each object are distinct, the leaves are just what can be reached
from the record (`mem_leaves_iff`), and no two are reached alike (`nodup_path_leaves`).  They come
in document order (`pairwise_precedes_leaves`).
-/

namespace PagedQuery.Record

/-- Whether flattening keeps a value as it is: anything but an object with members. -/
def isLeaf : Json → Bool
  | .object (_ :: _) => false
  | _ => true

/-- A value is a leaf, or an object whose members have the property already. -/
@[elab_as_elim]
theorem leafInduction {motive : Json → Prop} (leaf : ∀ v, isLeaf v = true → motive v)
    (node : ∀ members, members ≠ [] → (∀ member ∈ members, motive member.2) →
      motive (.object members)) : ∀ v, motive v
  | .object [] => leaf _ rfl
  | .object (m :: ms) =>
    node _ (List.cons_ne_nil m ms) fun member _hmember => leafInduction leaf node member.2
  | .null | .bool _ | .int _ | .float _ | .text _ | .array _ => leaf _ rfl
termination_by v => sizeOf v
decreasing_by
  have hvalue : sizeOf member.2 < sizeOf member := by
    obtain ⟨key, v⟩ := member
    simp only [Prod.mk.sizeOf_spec]
    omega
  have hmember := List.sizeOf_lt_of_mem _hmember
  simp only [Json.object.sizeOf_spec]
  omega

/-! ## Leaves -/

/-- A value and the segments of the path to it. -/
@[ext]
structure Leaf where
  path : List String
  value : Json
deriving DecidableEq

namespace Leaf

/-- The same value, reached from further above. -/
def below (above : List String) (leaf : Leaf) : Leaf :=
  { leaf with path := above ++ leaf.path }

/-- The value under its dotted path. -/
def row (leaf : Leaf) : String × Json :=
  (Text.join "." leaf.path, leaf.value)

theorem below_below (above between : List String) (leaf : Leaf) :
    (leaf.below between).below above = leaf.below (above ++ between) := by
  simp [below]

theorem below_injective (above : List String) : Function.Injective (below above) := by
  intro a b h
  obtain ⟨hpath, hvalue⟩ := Leaf.mk.inj h
  exact Leaf.ext (List.append_cancel_left hpath) hvalue

end Leaf

mutual

/-- The leaves of a value in document order. -/
def leavesAt : Json → List Leaf
  | .object (m :: ms) => leavesOf (m :: ms)
  | v => [⟨[], v⟩]

/-- The leaves of some members, each behind its key. -/
def leavesOf : List (String × Json) → List Leaf
  | [] => []
  | (key, v) :: rest => (leavesAt v).map (Leaf.below [key]) ++ leavesOf rest

end

/-- The leaves of a record in document order; a record that is no object has none. -/
def leaves : Json → List Leaf
  | .object members => leavesOf members
  | _ => []

variable {v record : Json} {members : Members} {leaf : Leaf}

theorem leavesAt_of_isLeaf (h : isLeaf v = true) : leavesAt v = [⟨[], v⟩] := by
  unfold leavesAt
  split
  · contradiction
  · rfl

theorem leavesAt_object (h : members ≠ []) : leavesAt (.object members) = leavesOf members := by
  obtain ⟨m, ms, rfl⟩ := List.exists_cons_of_ne_nil h
  rw [leavesAt]

/-- A record without members has no leaves below it. -/
theorem leaves_of_isLeaf (h : isLeaf record = true) : leaves record = [] := by
  unfold leaves
  split
  · next members =>
    cases members with
    | nil => rfl
    | cons m ms => contradiction
  · rfl

theorem leavesOf_eq_flatMap (members : Members) :
    leavesOf members =
      members.flatMap fun member => (leavesAt member.2).map (Leaf.below [member.1]) := by
  induction members with
  | nil => rfl
  | cons member rest ih => rw [leavesOf, ih, List.flatMap_cons]

theorem mem_leavesOf_iff :
    leaf ∈ leavesOf members ↔
      ∃ member ∈ members, ∃ found ∈ leavesAt member.2, found.below [member.1] = leaf := by
  simp only [leavesOf_eq_flatMap, List.mem_flatMap, List.mem_map]

theorem isLeaf_of_mem_leavesAt (h : leaf ∈ leavesAt v) : isLeaf leaf.value = true := by
  induction v using leafInduction generalizing leaf with
  | leaf v hv =>
    rw [leavesAt_of_isLeaf hv, List.mem_singleton] at h
    rwa [h]
  | node members hne ih =>
    rw [leavesAt_object hne, mem_leavesOf_iff] at h
    obtain ⟨member, hmember, found, hfound, rfl⟩ := h
    have hvalue := ih member hmember hfound
    exact hvalue

theorem isLeaf_of_mem_leaves (h : leaf ∈ leaves record) : isLeaf leaf.value = true := by
  cases record with
  | object members =>
    obtain ⟨member, -, found, hfound, rfl⟩ := mem_leavesOf_iff.mp h
    have hvalue := isLeaf_of_mem_leavesAt hfound
    exact hvalue
  | _ => contradiction

/-! ## Flattening -/

/-- The dotted path of an object, from which the paths of its members go on. -/
def dotted? (path : List String) : Option String :=
  if path = [] then none else some (Text.join "." path)

theorem memberPath_dotted? (path : List String) (key : String) :
    memberPath (dotted? path) key = Text.join "." (path ++ [key]) := by
  rw [dotted?]
  split
  · next hpath => simp [memberPath, hpath, Text.join]
  · next hpath =>
    rw [memberPath, Text.join, Text.join, String.intercalate_append_of_ne_nil hpath (by simp),
      String.intercalate_singleton]

theorem flattenAt_of_isLeaf (h : isLeaf v = true) (row : Members) (path : String) :
    flattenAt row path v = Members.set row path v := by
  unfold flattenAt
  split
  · contradiction
  · rfl

theorem flattenAt_object (h : members ≠ []) (row : Members) (path : String) :
    flattenAt row path (.object members) = flattenMembers row (some path) members := by
  obtain ⟨m, ms, rfl⟩ := List.exists_cons_of_ne_nil h
  rw [flattenAt]

/-- Flattening sets the leaves of a value below the path it is found at. -/
def SetsLeaves (v : Json) : Prop :=
  ∀ (row : Members) (path : List String), path ≠ [] →
    flattenAt row (Text.join "." path) v =
      row.setAll ((leavesAt v).map fun leaf => (leaf.below path).row)

theorem flattenMembers_eq (h : ∀ member ∈ members, SetsLeaves member.2) (row : Members)
    (path : List String) :
    flattenMembers row (dotted? path) members =
      row.setAll ((leavesOf members).map fun leaf => (leaf.below path).row) := by
  induction members generalizing row with
  | nil => rfl
  | cons member rest ih =>
    obtain ⟨hmember, hrest⟩ := List.forall_mem_cons.mp h
    rw [flattenMembers, memberPath_dotted?, hmember row (path ++ [member.1]) (by simp),
      ih hrest, leavesOf, List.map_append, Members.setAll_append, List.map_map]
    simp only [Function.comp_def, Leaf.below_below]

theorem setsLeaves (v : Json) : SetsLeaves v := by
  induction v using leafInduction with
  | leaf v hv =>
    intro row path _
    rw [flattenAt_of_isLeaf hv, leavesAt_of_isLeaf hv]
    simp [Members.setAll, Leaf.row, Leaf.below]
  | node members hne ih =>
    intro row path hpath
    have hmembers := flattenMembers_eq ih row path
    rw [dotted?, if_neg hpath] at hmembers
    rw [flattenAt_object hne, leavesAt_object hne, hmembers]

/-- Flattening sets the leaves of a record under their dotted paths, whatever its keys are. -/
theorem flatten_eq (record : Json) :
    flatten record = Members.setAll [] ((leaves record).map Leaf.row) := by
  cases record with
  | object members => exact flattenMembers_eq (fun member _ => setsLeaves member.2) [] []
  | _ => rfl

/-! ## What leads to a leaf -/

theorem member?_of_isLeaf (h : isLeaf v = true) (key : String) : v.member? key = none := by
  cases v with
  | object members =>
    cases members with
    | nil => rfl
    | cons m ms => contradiction
  | _ => rfl

theorem path_ne_nil_of_mem_leavesOf (h : leaf ∈ leavesOf members) : leaf.path ≠ [] := by
  obtain ⟨member, -, found, -, rfl⟩ := mem_leavesOf_iff.mp h
  exact List.cons_ne_nil member.1 found.path

/-- The first segment of the path to a leaf is the key of the member it is a leaf of. -/
theorem mem_leavesOf_cons_iff {key : String} {path : List String} {value : Json} :
    ⟨key :: path, value⟩ ∈ leavesOf members ↔
      ∃ w, (key, w) ∈ members ∧ ⟨path, value⟩ ∈ leavesAt w := by
  rw [mem_leavesOf_iff]
  constructor
  · rintro ⟨⟨k, w⟩, hmember, found, hfound, heq⟩
    obtain ⟨hpath, rfl⟩ := Leaf.mk.inj heq
    obtain ⟨rfl, rfl⟩ := List.cons.inj hpath
    exact ⟨w, hmember, hfound⟩
  · rintro ⟨w, hmember, hleaf⟩
    exact ⟨(key, w), hmember, ⟨path, value⟩, hleaf, rfl⟩

/-- The leaves of a value are the leaves that can be reached from it. -/
theorem mem_leavesAt_iff (h : v.HasDistinctKeys) :
    leaf ∈ leavesAt v ↔ follow? leaf.path v = some leaf.value ∧ isLeaf leaf.value = true := by
  induction v using leafInduction generalizing leaf with
  | leaf v hv =>
    obtain ⟨path, value⟩ := leaf
    rw [leavesAt_of_isLeaf hv, List.mem_singleton, Leaf.mk.injEq]
    cases path with
    | nil =>
      simp only [follow?, true_and, Option.some.injEq]
      exact ⟨fun heq => ⟨heq.symm, heq ▸ hv⟩, fun heq => heq.1.symm⟩
    | cons s rest => simp [follow?, member?_of_isLeaf hv]
  | node members hne ih =>
    obtain ⟨hkeys, hvalues⟩ := Json.hasDistinctKeys_object_iff.mp h
    obtain ⟨path, value⟩ := leaf
    rw [leavesAt_object hne]
    cases path with
    | nil =>
      refine iff_of_false (fun hmem => path_ne_nil_of_mem_leavesOf hmem rfl) ?_
      rintro ⟨hfollow, hleaf⟩
      obtain ⟨m, ms, rfl⟩ := List.exists_cons_of_ne_nil hne
      obtain rfl := Option.some.inj hfollow
      contradiction
    | cons s rest =>
      rw [mem_leavesOf_cons_iff, follow?, Json.member?, Option.bind_eq_some_iff]
      simp only [Members.get?_eq_some_iff hkeys, ← exists_and_right, and_assoc]
      refine exists_congr fun w => and_congr_right fun hmember => ?_
      exact ih (s, w) hmember (hvalues _ hmember)

/-- The leaves of a record are the leaves that some path leads to. -/
theorem mem_leaves_iff (h : record.HasDistinctKeys) :
    leaf ∈ leaves record ↔ leaf.path ≠ [] ∧ follow? leaf.path record = some leaf.value ∧
      isLeaf leaf.value = true := by
  induction record using leafInduction with
  | leaf v hv =>
    obtain ⟨path, value⟩ := leaf
    rw [leaves_of_isLeaf hv]
    cases path with
    | nil => simp
    | cons s rest => simp [follow?, member?_of_isLeaf hv]
  | node members hne _ =>
    have hleaves : leaves (.object members) = leavesAt (.object members) :=
      (leavesAt_object hne).symm
    rw [hleaves, ← mem_leavesAt_iff h]
    refine (and_iff_right_of_imp fun hmem => ?_).symm
    rw [leavesAt_object hne] at hmem
    exact path_ne_nil_of_mem_leavesOf hmem

/-- No two leaves of a value are reached alike. -/
theorem nodup_path_leavesAt (h : v.HasDistinctKeys) : ((leavesAt v).map Leaf.path).Nodup := by
  induction v using leafInduction with
  | leaf v hv => simp [leavesAt_of_isLeaf hv]
  | node members hne ih =>
    obtain ⟨hkeys, hvalues⟩ := Json.hasDistinctKeys_object_iff.mp h
    rw [leavesAt_object hne, leavesOf_eq_flatMap, List.map_flatMap, List.nodup_flatMap]
    have hpaths (member : String × Json) :
        ((leavesAt member.2).map (Leaf.below [member.1])).map Leaf.path =
          ((leavesAt member.2).map Leaf.path).map (List.cons member.1) := by
      simp [Leaf.below]
    simp only [hpaths]
    constructor
    · intro member hmember
      exact (ih member hmember (hvalues member hmember)).map List.cons_injective
    · refine (List.pairwise_map.mp hkeys).imp fun hne path hpath hpath' => ?_
      obtain ⟨_, -, rfl⟩ := List.mem_map.mp hpath
      obtain ⟨_, -, heq⟩ := List.mem_map.mp hpath'
      exact hne (List.cons.inj heq).1.symm

/-- No two leaves of a record are reached alike. -/
theorem nodup_path_leaves (h : record.HasDistinctKeys) :
    ((leaves record).map Leaf.path).Nodup := by
  induction record using leafInduction with
  | leaf v hv => simp [leaves_of_isLeaf hv]
  | node members hne _ =>
    have hnodup := nodup_path_leavesAt h
    rwa [leavesAt_object hne] at hnodup

/-! ## Document order -/

/-- What the first path leads to stands before what the second leads to. -/
inductive Precedes : Json → List String → List String → Prop
  /-- They part at an object that has the key of the first before that of the second. -/
  | apart {members : Members} {key key' : String} {path path' : List String}
      (hkeys : [key, key'].Sublist (members.map Prod.fst)) :
    Precedes (.object members) (key :: path) (key' :: path')
  | within {members : Members} {key : String} {w : Json} {path path' : List String}
      (hmember : (key, w) ∈ members) (h : Precedes w path path') :
    Precedes (.object members) (key :: path) (key :: path')

theorem pairwise_precedes_leavesOf
    (h : ∀ member ∈ members,
      (leavesAt member.2).Pairwise fun a b => Precedes member.2 a.path b.path) :
    (leavesOf members).Pairwise fun a b => Precedes (.object members) a.path b.path := by
  rw [leavesOf_eq_flatMap, List.pairwise_flatMap]
  constructor
  · intro member hmember
    rw [List.pairwise_map]
    exact (h member hmember).imp fun hprecedes => .within hmember hprecedes
  · refine List.pairwise_iff_forall_sublist.mpr fun hsublist a ha b hb => ?_
    obtain ⟨_, -, rfl⟩ := List.mem_map.mp ha
    obtain ⟨_, -, rfl⟩ := List.mem_map.mp hb
    exact .apart (hsublist.map Prod.fst)

theorem pairwise_precedes_leavesAt (v : Json) :
    (leavesAt v).Pairwise fun a b => Precedes v a.path b.path := by
  induction v using leafInduction with
  | leaf v hv => simp [leavesAt_of_isLeaf hv]
  | node members hne ih =>
    rw [leavesAt_object hne]
    exact pairwise_precedes_leavesOf ih

/-- The leaves of a record come in document order. -/
theorem pairwise_precedes_leaves (record : Json) :
    (leaves record).Pairwise fun a b => Precedes record a.path b.path := by
  cases record with
  | object members => exact pairwise_precedes_leavesOf fun _ _ => pairwise_precedes_leavesAt _
  | _ => exact .nil

end PagedQuery.Record
