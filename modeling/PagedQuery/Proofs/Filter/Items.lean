import PagedQuery.Filter.Expr
import PagedQuery.Proofs.Repetition

/-!
# PagedQuery.Proofs.Filter.Items

What an expression contributes to a combination.  Under a combinator an empty expression has no
items, a composite that the combinator joins already has its children, and any other expression
is its own item.  Normal expressions are told by their items (`IsNormal.ofItems_items`), and those
of a combination are the items of its two sides without repetitions (`items_combine`).  So laws of
combination are laws of lists.
-/

namespace PagedQuery.Filter

namespace Expr

/-! ## Items -/

/-- Whether this is a composite under `op` that is not negated. -/
def joins (op : Combinator) : Expr → Bool
  | .leaf .. => false
  | .composite negated op' _ => !negated && op' == op

/-- What the expression contributes to a combination under `op`. -/
def items (op : Combinator) (e : Expr) : List Expr :=
  if e.isEmpty then [] else if e.joins op then e.children else [e]

/-- The expression that has the given items under `op`; where there are none it is `fallback`. -/
def ofItems (op : Combinator) (fallback : Expr) : List Expr → Expr
  | [] => fallback
  | [e] => e
  | es => .composite false op es

/-- No leaf is without text, and composites have at least two children, all of them different, none
of them empty and none joined already by the combinator of the composite.  An expression without
children is not normal (`IsNormal.isEmpty_eq`), so that no child is empty. -/
inductive IsNormal : Expr → Prop
  | leaf (negated : Bool) {text : String} (htext : text ≠ "") : IsNormal (.leaf negated text)
  | composite (negated : Bool) {op : Combinator} {children : List Expr}
      (hmany : 2 ≤ children.length) (hdistinct : children.Nodup)
      (hapart : ∀ c ∈ children, c.joins op = false) (hall : ∀ c ∈ children, IsNormal c) :
    IsNormal (.composite negated op children)

/-- The items of an expression, or of a combination: different, normal and none taken apart. -/
structure AreItems (op : Combinator) (es : List Expr) : Prop where
  distinct : es.Nodup
  apart : ∀ e ∈ es, e.joins op = false
  normal : ∀ e ∈ es, e.IsNormal

/-- Empty or normal: what all operations keep. -/
def IsSettled (e : Expr) : Prop := e.isEmpty = true ∨ e.IsNormal

variable {op : Combinator} {a b e : Expr} {es : List Expr}

theorem IsNormal.isEmpty_eq (h : e.IsNormal) : e.isEmpty = false := by
  cases h with
  | leaf => rfl
  | @composite _ _ children hmany =>
    cases children with
    | nil => contradiction
    | cons c cs => rfl

theorem IsSettled.normal (h : e.IsSettled) (hfilled : e.isEmpty = false) : e.IsNormal :=
  h.resolve_left (by simp [hfilled])

theorem items_of_isEmpty (h : e.isEmpty = true) : items op e = [] := by
  rw [items, if_pos h]

theorem items_of_joins (h : e.joins op = true) : items op e = e.children := by
  obtain _ | ⟨negated, op', _ | ⟨c, cs⟩⟩ := e
  · contradiction
  · rfl
  · rw [items, if_neg (by simp [isEmpty]), if_pos h]

theorem items_of_apart (hfilled : e.isEmpty = false) (h : e.joins op = false) :
    items op e = [e] := by
  simp [items, hfilled, h]

theorem joins_eq_true_iff : e.joins op = true ↔ e = .composite false op e.children := by
  cases e <;> simp [joins, children]

theorem ofItems_of_two_le (h : 2 ≤ es.length) (fallback : Expr) :
    ofItems op fallback es = .composite false op es := by
  match es with
  | _ :: _ :: _ => rfl

/-- Where there are items it does not matter what would stand for none. -/
theorem ofItems_congr (h : es = [] → a = b) : ofItems op a es = ofItems op b es := by
  match es with
  | [] => exact h rfl
  | [_] => rfl
  | _ :: _ :: _ => rfl

/-- A normal expression is its own item, or a composite of its items. -/
theorem IsNormal.self_or_composite (h : e.IsNormal) (op : Combinator) :
    (e.joins op = false ∧ items op e = [e]) ∨
      (e = .composite false op (items op e) ∧ 2 ≤ (items op e).length ∧
        AreItems op (items op e)) := by
  cases hjoins : e.joins op with
  | false => exact .inl ⟨rfl, items_of_apart h.isEmpty_eq hjoins⟩
  | true =>
    right
    have hcomposite := joins_eq_true_iff.mp hjoins
    rw [items_of_joins hjoins]
    rw [hcomposite] at h
    cases h with
    | composite _ hmany hdistinct hapart hall =>
      exact ⟨hcomposite, hmany, hdistinct, hapart, hall⟩

theorem IsSettled.areItems (h : e.IsSettled) (op : Combinator) : AreItems op (items op e) := by
  obtain hempty | hnormal := h
  · rw [items_of_isEmpty hempty]
    exact ⟨List.nodup_nil, nofun, nofun⟩
  · obtain ⟨hapart, hself⟩ | ⟨-, -, hitems⟩ := hnormal.self_or_composite op
    · rw [hself]
      exact ⟨by simp, by simpa using hapart, by simpa using hnormal⟩
    · exact hitems

theorem IsNormal.ofItems_items (h : e.IsNormal) (op : Combinator) (fallback : Expr) :
    ofItems op fallback (items op e) = e := by
  obtain ⟨-, hself⟩ | ⟨hcomposite, hmany, -⟩ := h.self_or_composite op
  · rw [hself, ofItems]
  · rw [ofItems_of_two_le hmany, ← hcomposite]

theorem IsSettled.ofItems_items (h : e.IsSettled) (op : Combinator) :
    ofItems op e (items op e) = e := by
  obtain hempty | hnormal := h
  · rw [items_of_isEmpty hempty, ofItems]
  · exact hnormal.ofItems_items op e

theorem IsNormal.items_ne_nil (h : e.IsNormal) (op : Combinator) : items op e ≠ [] := by
  intro hnil
  have hself := h.ofItems_items op .empty
  have hfilled := h.isEmpty_eq
  rw [hnil] at hself
  rw [← hself] at hfilled
  contradiction

theorem IsSettled.items_eq_nil_iff (h : e.IsSettled) : items op e = [] ↔ e.isEmpty = true :=
  ⟨fun hnil => h.resolve_right fun hnormal => hnormal.items_ne_nil op hnil, items_of_isEmpty⟩

theorem items_ofItems (h : AreItems op es) {fallback : Expr}
    (hempty : es = [] → fallback.isEmpty = true) : items op (ofItems op fallback es) = es := by
  match es with
  | [] => exact items_of_isEmpty (hempty rfl)
  | [e] => exact items_of_apart (h.normal e (by simp)).isEmpty_eq (h.apart e (by simp))
  | _ :: _ :: _ => exact items_of_joins (by simp [ofItems, joins])

theorem isSettled_ofItems (h : AreItems op es) {fallback : Expr} (hfallback : fallback.IsSettled) :
    (ofItems op fallback es).IsSettled := by
  match es with
  | [] => exact hfallback
  | [e] => exact .inr (h.normal e (by simp))
  | _ :: _ :: _ => exact .inr (.composite false (by simp) h.distinct h.apart h.normal)

theorem areItems_eraseDups (h : ∀ e ∈ es, e.joins op = false ∧ e.IsNormal) :
    AreItems op es.eraseDups where
  distinct := nodup_eraseDups es
  apart := fun e he => (h e (List.mem_eraseDups.mp he)).1
  normal := fun e he => (h e (List.mem_eraseDups.mp he)).2

/-- The items of several expressions, without repetitions. -/
theorem areItems_flatMap (h : ∀ e ∈ es, e.IsSettled) (op : Combinator) :
    AreItems op (es.flatMap (items op)).eraseDups := by
  apply areItems_eraseDups
  intro c hc
  obtain ⟨e, he, hc⟩ := List.mem_flatMap.mp hc
  have hitems := (h e he).areItems op
  exact ⟨hitems.apart c hc, hitems.normal c hc⟩

theorem areItems_append (ha : a.IsSettled) (hb : b.IsSettled) (op : Combinator) :
    AreItems op (items op a ++ items op b).eraseDups := by
  have hpair : ∀ e ∈ [a, b], e.IsSettled := by simp [ha, hb]
  simpa using areItems_flatMap hpair op

/-! ## Insertion -/

/-- An expression that is not taken apart is put behind the others, unless it is there already. -/
theorem insert_of_apart (h : e.IsNormal) (hapart : e.joins op = false) (acc : List Expr) :
    insert op acc e = if e ∈ acc then acc else acc ++ [e] := by
  cases h with
  | leaf => rfl
  | @composite negated op' children hmany =>
    have hlength : (children.length == 1) = false := by
      rw [beq_eq_false_iff_ne]
      omega
    rw [joins] at hapart
    simp [insert, hlength, hapart]

theorem insert_of_joins (hjoins : e.joins op = true) {acc : List Expr} (hnew : e ∉ acc) :
    insert op acc e = insertEach op acc e.children := by
  obtain _ | ⟨negated, op', children⟩ := e
  · contradiction
  · simp only [joins, Bool.and_eq_true] at hjoins
    simp [insert, hnew, hjoins, Expr.children]

theorem insert_eraseDups_of_apart (h : e.IsNormal) (hapart : e.joins op = false)
    (acc : List Expr) : insert op acc.eraseDups e = (acc ++ [e]).eraseDups := by
  rw [insert_of_apart h hapart, eraseDups_concat]
  simp only [List.mem_eraseDups]

/-- Expressions that are not taken apart are collected without repetitions. -/
theorem insertEach_eraseDups (h : ∀ e ∈ es, e.IsNormal ∧ e.joins op = false) (acc : List Expr) :
    insertEach op acc.eraseDups es = (acc ++ es).eraseDups := by
  induction es generalizing acc with
  | nil => rw [insertEach, List.append_nil]
  | cons e es ih =>
    obtain ⟨⟨hnormal, hapart⟩, hrest⟩ := List.forall_mem_cons.mp h
    rw [insertEach, insert_eraseDups_of_apart hnormal hapart, ih hrest, List.append_assoc,
      List.singleton_append]

/-- Inserting an expression is inserting its items. -/
theorem insert_eraseDups (h : e.IsNormal) (acc : List Expr)
    (hacc : ∀ c ∈ acc, c.joins op = false) :
    insert op acc.eraseDups e = (acc ++ items op e).eraseDups := by
  cases hjoins : e.joins op with
  | true =>
    have hnew : e ∉ acc.eraseDups := by
      intro hmem
      rw [hacc e (List.mem_eraseDups.mp hmem)] at hjoins
      contradiction
    have hitems := IsSettled.areItems (.inr h) op
    rw [items_of_joins hjoins] at hitems ⊢
    rw [insert_of_joins hjoins hnew]
    exact insertEach_eraseDups (fun c hc => ⟨hitems.normal c hc, hitems.apart c hc⟩) acc
  | false =>
    rw [items_of_apart h.isEmpty_eq hjoins, insert_eraseDups_of_apart h hjoins]

/-! ## Combination -/

/-- An empty expression on the right changes nothing. -/
theorem combine_of_isEmpty_right (h : e.isEmpty = true) (op : Combinator) (a : Expr) :
    combine op a e = a :=
  if_pos (.inr h)

/-- On the left it changes nothing but an expression that is empty as well. -/
theorem combine_of_isEmpty_left (h : e.isEmpty = true) (op : Combinator) (a : Expr) :
    combine op e a = if a.isEmpty then e else a := by
  cases hempty : a.isEmpty with
  | true => rw [combine_of_isEmpty_right hempty, if_pos rfl]
  | false =>
    have hne : e ≠ a := by
      rintro rfl
      rw [h] at hempty
      contradiction
    simp [combine, hne, hempty, h]

theorem insertEach_pair (ha : a.IsNormal) (hb : b.IsNormal) (op : Combinator) :
    insertEach op [] [a, b] = (items op a ++ items op b).eraseDups := by
  have hitems := IsSettled.areItems (.inr ha) op
  have hfirst : insert op [] a = (items op a).eraseDups := insert_eraseDups ha [] nofun
  rw [insertEach, insertEach, insertEach, hfirst, insert_eraseDups hb _ hitems.apart]

/-- Two different expressions have several items between them. -/
theorem two_le_length_items (ha : a.IsNormal) (hb : b.IsNormal) (hne : a ≠ b) (op : Combinator) :
    2 ≤ (items op a ++ items op b).eraseDups.length := by
  have hitems := IsSettled.areItems (.inr ha) op
  have hitems' := IsSettled.areItems (.inr hb) op
  apply two_le_length_eraseDups hitems.distinct hitems'.distinct (ha.items_ne_nil op)
    (hb.items_ne_nil op)
  intro heq
  rw [← ha.ofItems_items op a, heq, hb.ofItems_items] at hne
  contradiction

/-- A combination has the items of both sides, without repetitions. -/
theorem combine_eq_ofItems (ha : a.IsSettled) (hb : b.IsSettled) (op : Combinator) :
    combine op a b = ofItems op a (items op a ++ items op b).eraseDups := by
  rw [combine]
  split
  · next hsame =>
    have hsub : ∀ c ∈ items op b, c ∈ items op a := by
      obtain rfl | hempty := hsame
      · exact fun c hc => hc
      · rw [items_of_isEmpty hempty]
        nofun
    rw [eraseDups_append_of_subset hsub, eraseDups_of_nodup (ha.areItems op).distinct,
      ha.ofItems_items]
  · next hother =>
    rw [not_or, Bool.not_eq_true] at hother
    obtain ⟨hne, hfilled'⟩ := hother
    have hnormal' := hb.normal hfilled'
    split
    · next hempty =>
      rw [items_of_isEmpty hempty, List.nil_append,
        eraseDups_of_nodup (hb.areItems op).distinct, hnormal'.ofItems_items]
    · next hfilled =>
      have hnormal := ha.normal (by simpa using hfilled)
      have hmany := two_le_length_items hnormal hnormal' hne op
      rw [insertEach_pair hnormal hnormal', ofItems_of_two_le hmany]

theorem IsSettled.combine (ha : a.IsSettled) (hb : b.IsSettled) (op : Combinator) :
    (combine op a b).IsSettled := by
  rw [combine_eq_ofItems ha hb]
  exact isSettled_ofItems (areItems_append ha hb op) ha

theorem items_combine (ha : a.IsSettled) (hb : b.IsSettled) (op : Combinator) :
    items op (combine op a b) = (items op a ++ items op b).eraseDups := by
  rw [combine_eq_ofItems ha hb]
  refine items_ofItems (areItems_append ha hb op) fun hnone => ?_
  rw [eraseDups_eq_nil_iff, List.append_eq_nil_iff] at hnone
  exact ha.items_eq_nil_iff.mp hnone.1

end Expr

end PagedQuery.Filter
