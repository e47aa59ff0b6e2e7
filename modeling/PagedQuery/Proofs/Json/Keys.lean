import Mathlib.Data.List.Nodup
import PagedQuery.Json.Reader
import PagedQuery.Proofs.Repetition

/-!
# PagedQuery.Proofs.Json.Keys

The keys of objects.  Members that are set one after the other have distinct keys, and members
that have them already come out as they are (`Members.setAll_of_nodup`); members whose values
follow from their keys come out once each (`Members.setAll_graph`).  Every value that is read
from a text has distinct keys in each of its objects (`Json.hasDistinctKeys_of_ofTextWithin?`), and
so have the records of a page.
-/

namespace PagedQuery

namespace Members

variable {m rows : Members} {row : String × Json} {key : String} {value : Json}

/-! ## Getting -/

theorem get?_eq_lookup (m : Members) (key : String) : get? m key = m.lookup key := by
  induction m with
  | nil => rfl
  | cons p rest ih =>
    obtain ⟨k, v⟩ := p
    by_cases hk : k = key
    · simp [get?, hk]
    · simp [get?, hk, List.lookup_cons, beq_false_of_ne (Ne.symm hk), ih]

theorem lookup_eq_none_iff : m.lookup key = none ↔ key ∉ m.map Prod.fst := by
  rw [List.lookup_eq_none_iff, ← List.forall_mem_ne, List.forall_mem_map]
  simp only [bne_iff_ne, ne_eq]

/-! ## Setting -/

theorem mem_of_mem_set (h : row ∈ set m key value) : row ∈ m ∨ row = (key, value) := by
  induction m with
  | nil => exact .inr (List.mem_singleton.mp h)
  | cons p rest ih =>
    obtain ⟨k, v⟩ := p
    rw [set] at h
    split at h
    · rcases List.mem_cons.mp h with hrow | hrow
      · exact .inr hrow
      · exact .inl (List.mem_cons_of_mem _ hrow)
    · rcases List.mem_cons.mp h with hrow | hrow
      · exact .inl (hrow ▸ List.mem_cons_self)
      · exact (ih hrow).imp_left (List.mem_cons_of_mem _)

theorem nodup_keys_set (h : (m.map Prod.fst).Nodup) (key : String) (value : Json) :
    ((set m key value).map Prod.fst).Nodup := by
  rw [keys_set]
  split
  · exact h
  · next hnew =>
    rw [← List.concat_eq_append]
    exact h.concat hnew

theorem set_of_not_mem (h : key ∉ m.map Prod.fst) (value : Json) :
    set m key value = m ++ [(key, value)] := by
  induction m with
  | nil => rfl
  | cons p rest ih =>
    obtain ⟨k, v⟩ := p
    rw [List.map_cons, List.mem_cons, not_or] at h
    rw [set, if_neg (Ne.symm h.1), ih h.2]
    rfl

/-- Setting a key to the value it has changes nothing. -/
theorem set_of_get? (h : get? m key = some value) : set m key value = m := by
  induction m with
  | nil => contradiction
  | cons p rest ih =>
    obtain ⟨k, v⟩ := p
    rw [get?] at h
    rw [set]
    split at h
    · next hk => rw [if_pos hk, hk, Option.some.inj h]
    · next hk => rw [if_neg hk, ih h]

theorem mem_of_get? (h : get? m key = some value) : (key, value) ∈ m := by
  induction m with
  | nil => contradiction
  | cons p rest ih =>
    obtain ⟨k, v⟩ := p
    rw [get?] at h
    split at h
    · next hk =>
      rw [hk, Option.some.inj h]
      exact List.mem_cons_self
    · exact List.mem_cons_of_mem _ (ih h)

/-- If the keys are distinct, a key has the value of the one member that has it. -/
theorem get?_eq_some_iff (h : (m.map Prod.fst).Nodup) :
    get? m key = some value ↔ (key, value) ∈ m := by
  refine ⟨mem_of_get?, fun hmem => ?_⟩
  induction m with
  | nil => contradiction
  | cons p rest ih =>
    obtain ⟨k, v⟩ := p
    rw [List.map_cons, List.nodup_cons] at h
    rw [get?]
    rcases List.mem_cons.mp hmem with heq | hrest
    · obtain ⟨rfl, rfl⟩ := Prod.mk.inj heq
      rw [if_pos rfl]
    · have hk : k ≠ key := fun hk => h.1 (List.mem_map.mpr ⟨_, hrest, hk.symm⟩)
      rw [if_neg hk, ih h.2 hrest]

/-- Sets the values of some rows, one after the other. -/
def setAll (m rows : Members) : Members :=
  rows.foldl (fun m row => set m row.1 row.2) m

theorem setAll_append (m rows more : Members) :
    setAll m (rows ++ more) = setAll (setAll m rows) more :=
  List.foldl_append

/-- Rows with distinct keys are put behind one another. -/
theorem setAll_of_nodup (h : ((m ++ rows).map Prod.fst).Nodup) : setAll m rows = m ++ rows := by
  induction rows generalizing m with
  | nil => exact (List.append_nil m).symm
  | cons row rows ih =>
    rw [List.append_cons] at h ⊢
    have hnew : row.1 ∉ m.map Prod.fst := by
      rw [List.map_append, List.map_append, List.append_assoc, List.nodup_append] at h
      exact fun hmem => h.2.2 _ hmem _ (by simp) rfl
    rw [← ih h, ← set_of_not_mem hnew]
    rfl

/-- Whatever the rows are, a key is set only once. -/
theorem nodup_keys_setAll (h : (m.map Prod.fst).Nodup) (rows : Members) :
    ((setAll m rows).map Prod.fst).Nodup := by
  induction rows generalizing m with
  | nil => exact h
  | cons row rows ih => exact ih (nodup_keys_set h row.1 row.2)

/-- Where the values follow from the keys, a key that is set again keeps its place and value. -/
theorem setAll_graph (f : String → Json) (keys : List String) :
    setAll [] (keys.map fun key => (key, f key)) =
      keys.eraseDups.map fun key => (key, f key) := by
  induction keys using List.reverseRecOn with
  | nil => rfl
  | append_singleton keys key ih =>
    rw [List.map_append, setAll_append, ih, eraseDups_concat]
    split
    · next hkey =>
      have hvalue : get? (keys.eraseDups.map fun key => (key, f key)) key = some (f key) := by
        rw [get?_eq_lookup]
        exact List.lookup_graph f (List.mem_eraseDups.mpr hkey)
      exact set_of_get? hvalue
    · next hkey =>
      have hnew : key ∉ (keys.eraseDups.map fun key => (key, f key)).map Prod.fst := by
        simpa using hkey
      rw [List.map_append]
      exact set_of_not_mem hnew (f key)

theorem mem_of_mem_setAll (h : row ∈ setAll m rows) : row ∈ m ∨ row ∈ rows := by
  induction rows generalizing m with
  | nil => exact .inl h
  | cons r rows ih =>
    rcases ih h with hrow | hrow
    · refine (mem_of_mem_set hrow).imp_right ?_
      rintro rfl
      exact List.mem_cons_self
    · exact .inr (List.mem_cons_of_mem _ hrow)

end Members

namespace Json

/-! ## Objects in values -/

mutual

/-- The objects in a value by their members, itself included.  The items of arrays do not count. -/
def objects : Json → List Members
  | .object members => members :: objectsOf members
  | _ => []

/-- The objects in the values of some members. -/
def objectsOf : List (String × Json) → List Members
  | [] => []
  | (_, v) :: rest => objects v ++ objectsOf rest

end

theorem mem_objectsOf {members : Members} {object : Members} :
    object ∈ objectsOf members ↔ ∃ member ∈ members, object ∈ member.2.objects := by
  induction members with
  | nil => simp [objectsOf]
  | cons member rest ih => rw [objectsOf, List.mem_append, ih, List.exists_mem_cons_iff]

/-- What holds of all objects in an object holds of itself and of those in its values. -/
theorem forall_objects_object_iff {members : Members} {p : Members → Prop} :
    (∀ o ∈ (object members).objects, p o) ↔
      p members ∧ ∀ member ∈ members, ∀ o ∈ member.2.objects, p o := by
  rw [objects, List.forall_mem_cons]
  refine and_congr_right fun _ => ⟨fun h member hmember o ho => ?_, fun h o ho => ?_⟩
  · exact h o (mem_objectsOf.mpr ⟨member, hmember, ho⟩)
  · obtain ⟨member, hmember, ho⟩ := mem_objectsOf.mp ho
    exact h member hmember o ho

/-- Every object has each of its keys once. -/
def HasDistinctKeys (v : Json) : Prop :=
  ∀ members ∈ v.objects, (members.map Prod.fst).Nodup

instance (v : Json) : Decidable v.HasDistinctKeys :=
  inferInstanceAs (Decidable (∀ members ∈ v.objects, (members.map Prod.fst).Nodup))

theorem hasDistinctKeys_object_iff {members : Members} :
    (object members).HasDistinctKeys ↔
      (members.map Prod.fst).Nodup ∧ ∀ member ∈ members, member.2.HasDistinctKeys :=
  forall_objects_object_iff

/-! ## Values that are read -/

theorem HasDistinctKeys.set {members : Members} {v : Json}
    (h : (object members).HasDistinctKeys) (hv : v.HasDistinctKeys) (key : String) :
    (object (Members.set members key v)).HasDistinctKeys := by
  rw [hasDistinctKeys_object_iff] at h ⊢
  refine ⟨Members.nodup_keys_set h.1 key v, fun member hmember => ?_⟩
  rcases Members.mem_of_mem_set hmember with hold | rfl
  · exact h.2 member hold
  · exact hv

/-- Whether a value is neither an array nor an object. -/
def isAtom : Json → Bool
  | .array _ | .object _ => false
  | _ => true

theorem objects_of_isAtom {v : Json} (h : v.isAtom = true) : v.objects = [] := by
  cases v with
  | object members => contradiction
  | _ => rfl

theorem Numeral.isAtom_of_value? {n : Numeral} {v : Json} (h : n.value? = some v) :
    v.isAtom = true := by
  simp only [value?] at h
  split at h
  · exact Option.some.inj h ▸ rfl
  · split at h
    · exact Option.some.inj h ▸ rfl
    · obtain ⟨f, -, rfl⟩ := Option.map_eq_some_iff.mp h
      rfl

theorem isAtom_of_readNumber? {cs rest : List Char} {v : Json}
    (h : readNumber? cs = some (v, rest)) : v.isAtom = true := by
  simp only [readNumber?, Option.bind_eq_bind, Option.bind_eq_some_iff] at h
  obtain ⟨_, -, _, -, _, -, value, hvalue, heq⟩ := h
  obtain ⟨rfl, -⟩ := Prod.mk.inj (Option.some.inj heq)
  exact Numeral.isAtom_of_value? hvalue

/-- What a value can be read as, where `fuel` is left for its items or members. -/
inductive ReadsAs (fuel : Nat) : Json → Prop
  | atom {v : Json} (hatom : v.isAtom = true) : ReadsAs fuel v
  | emptyArray : ReadsAs fuel (.array [])
  | array {items : List Json} {depth : Nat} {cs rest : List Char}
      (hitems : readItems? fuel depth cs = some (items, rest)) : ReadsAs fuel (.array items)
  | emptyObject : ReadsAs fuel (.object [])
  | object {members : Members} {depth : Nat} {cs rest : List Char}
      (hmembers : readMembers? fuel depth [] cs = some (members, rest)) :
    ReadsAs fuel (.object members)

theorem readsAs_of_readValue? {fuel depth : Nat} {cs rest : List Char} {v : Json}
    (h : readValue? (fuel + 1) depth cs = some (v, rest)) : ReadsAs fuel v := by
  rw [readValue?] at h
  split at h
  case h_1 | h_4 | h_5 | h_6 =>
    obtain ⟨_, -, heq⟩ := Option.map_eq_some_iff.mp h
    exact .atom ((Prod.mk.inj heq).1 ▸ rfl)
  case h_2 =>
    split at h
    · contradiction
    · split at h
      · exact (Prod.mk.inj (Option.some.inj h)).1 ▸ .emptyArray
      · obtain ⟨_, hitems, heq⟩ := Option.map_eq_some_iff.mp h
        exact (Prod.mk.inj heq).1 ▸ .array hitems
  case h_3 =>
    split at h
    · contradiction
    · split at h
      · exact (Prod.mk.inj (Option.some.inj h)).1 ▸ .emptyObject
      · obtain ⟨_, hmembers, heq⟩ := Option.map_eq_some_iff.mp h
        exact (Prod.mk.inj heq).1 ▸ .object hmembers
  case h_7 => exact .atom (isAtom_of_readNumber? h)

/-- A member that is read is set among those before it, and is the last one or others follow. -/
theorem exists_readValue?_of_readMembers? {fuel depth : Nat} {acc members : Members}
    {cs rest : List Char} (h : readMembers? (fuel + 1) depth acc cs = some (members, rest)) :
    ∃ key v cs' rest', readValue? fuel depth cs' = some (v, rest') ∧
      (members = Members.set acc key v ∨
        ∃ cs'', readMembers? fuel depth (Members.set acc key v) cs'' = some (members, rest)) := by
  rw [readMembers?] at h
  split at h <;> try contradiction
  split at h <;> try contradiction
  next key _ _ =>
  split at h <;> try contradiction
  split at h <;> try contradiction
  next v rest' hvalue =>
  refine ⟨key, v, _, rest', hvalue, ?_⟩
  split at h
  · exact .inr ⟨_, h⟩
  · exact .inl (Prod.mk.inj (Option.some.inj h)).1.symm
  · contradiction

/-- Members that are read are set one after the other, the first of them among none. -/
theorem hasDistinctKeys_of_read (fuel : Nat) :
    (∀ {depth cs v rest}, readValue? fuel depth cs = some (v, rest) → v.HasDistinctKeys) ∧
    ∀ {depth acc cs members rest}, (object acc).HasDistinctKeys →
      readMembers? fuel depth acc cs = some (members, rest) →
      (object members).HasDistinctKeys := by
  induction fuel with
  | zero => exact ⟨fun h => by simp [readValue?] at h, fun _ h => by simp [readMembers?] at h⟩
  | succ fuel ih =>
    obtain ⟨ihValue, ihMembers⟩ := ih
    have hnone : (object []).HasDistinctKeys := by simp [hasDistinctKeys_object_iff]
    refine ⟨fun {_ _ v _} h => ?_, fun {_ acc _ members _} hacc h => ?_⟩
    · cases readsAs_of_readValue? h with
      | atom hatom => simp [HasDistinctKeys, objects_of_isAtom hatom]
      | emptyArray | array => simp [HasDistinctKeys, objects]
      | emptyObject => exact hnone
      | object hmembers => exact ihMembers hnone hmembers
    · obtain ⟨key, v, _, _, hvalue, rfl | ⟨_, hrest⟩⟩ := exists_readValue?_of_readMembers? h
      · exact hacc.set (ihValue hvalue) key
      · exact ihMembers (hacc.set (ihValue hvalue) key) hrest

/-- Every item of an array that is read is read as a value. -/
theorem exists_readValue?_of_mem {fuel depth : Nat} {cs rest : List Char} {items : List Json}
    (h : readItems? fuel depth cs = some (items, rest)) :
    ∀ item ∈ items, ∃ fuel' cs' rest', readValue? fuel' depth cs' = some (item, rest') := by
  induction fuel generalizing cs items rest with
  | zero => simp [readItems?] at h
  | succ fuel ih =>
    rw [readItems?] at h
    split at h
    · contradiction
    · next v rest' hvalue =>
      split at h
      · obtain ⟨⟨others, _⟩, hothers, heq⟩ := Option.map_eq_some_iff.mp h
        rw [← (Prod.mk.inj heq).1, List.forall_mem_cons]
        exact ⟨⟨fuel, cs, rest', hvalue⟩, ih hothers⟩
      · rw [← (Prod.mk.inj (Option.some.inj h)).1, List.forall_mem_singleton]
        exact ⟨fuel, cs, rest', hvalue⟩
      · contradiction

/-- Every value that is read from a text has distinct keys, and so has each item of an array that
is read, such as the records of a page. -/
theorem hasDistinctKeys_of_ofTextWithin? {depth : Nat} {text : String} {v : Json}
    (h : ofTextWithin? depth text = some v) :
    v.HasDistinctKeys ∧ ∀ items, v = .array items → ∀ item ∈ items, item.HasDistinctKeys := by
  rw [ofTextWithin?] at h
  split at h
  case h_2 => contradiction
  case h_1 v' _ hread =>
    split at h
    case isFalse => contradiction
    case isTrue =>
      obtain rfl := Option.some.inj h
      refine ⟨(hasDistinctKeys_of_read _).1 hread, ?_⟩
      rintro items rfl item hitem
      cases readsAs_of_readValue? hread with
      | atom hatom => contradiction
      | emptyArray => contradiction
      | array hitems =>
        obtain ⟨fuel, cs, rest, hvalue⟩ := exists_readValue?_of_mem hitems item hitem
        exact (hasDistinctKeys_of_read fuel).1 hvalue

end Json

end PagedQuery
