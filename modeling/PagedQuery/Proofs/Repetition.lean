import Mathlib.Data.List.Induction

/-!
# PagedQuery.Proofs.Repetition

Lists without repetitions.  Of what a list repeats, `List.eraseDups` keeps the first occurrence;
here is what becomes of it when lists are continued (`eraseDups_concat`) and joined
(`eraseDups_append_eraseDups`).
-/

namespace PagedQuery

variable {α : Type} [DecidableEq α]

theorem eraseDups_concat (l : List α) (a : α) :
    (l ++ [a]).eraseDups = if a ∈ l then l.eraseDups else l.eraseDups ++ [a] := by
  rw [List.eraseDups_append]
  by_cases ha : a ∈ l <;> simp [List.removeAll, List.eraseDups_cons, ha]

theorem nodup_eraseDups (l : List α) : l.eraseDups.Nodup := by
  induction l using List.reverseRecOn with
  | nil => simp
  | append_singleton l a ih =>
    rw [eraseDups_concat]
    by_cases ha : a ∈ l
    · simpa [ha] using ih
    · rw [if_neg ha, List.nodup_append]
      simp only [List.mem_eraseDups, List.mem_singleton]
      grind

theorem eraseDups_eq_nil_iff {l : List α} : l.eraseDups = [] ↔ l = [] := by
  cases l <;> simp [List.eraseDups_cons]

theorem eraseDups_of_nodup {l : List α} (h : l.Nodup) : l.eraseDups = l := by
  induction l using List.reverseRecOn with
  | nil => rfl
  | append_singleton l a ih =>
    rw [List.nodup_append] at h
    have ha : a ∉ l := fun hmem => h.2.2 a hmem a (by simp) rfl
    rw [eraseDups_concat, if_neg ha, ih h.1]

/-- Repetitions may be left out of a part first. -/
theorem eraseDups_append_eraseDups (as bs : List α) :
    (as.eraseDups ++ bs.eraseDups).eraseDups = (as ++ bs).eraseDups := by
  induction bs using List.reverseRecOn with
  | nil => simpa using eraseDups_of_nodup (nodup_eraseDups as)
  | append_singleton bs b ih =>
    rw [eraseDups_concat, ← List.append_assoc, eraseDups_concat, ← ih]
    by_cases hb : b ∈ bs
    · simp [hb]
    · rw [if_neg hb, ← List.append_assoc, eraseDups_concat]
      simp [hb]

/-- What occurred before adds nothing. -/
theorem eraseDups_append_of_subset {as bs : List α} (h : ∀ b ∈ bs, b ∈ as) :
    (as ++ bs).eraseDups = as.eraseDups := by
  have hnone : bs.removeAll as = [] := by simpa [List.removeAll] using h
  rw [List.eraseDups_append, hnone, List.eraseDups_nil, List.append_nil]

omit [DecidableEq α] in
theorem eq_singleton_of_nodup {l : List α} {x : α} (hfilled : l ≠ []) (h : l.Nodup)
    (hall : ∀ a ∈ l, a = x) : l = [x] := by
  match l with
  | [a] => rw [hall a (by simp)]
  | a :: b :: l =>
    have hsame : a = b := by rw [hall a (by simp), hall b (by simp)]
    simp [hsame] at h

/-- Two lists that differ have more than one item between them. -/
theorem two_le_length_eraseDups {as bs : List α} (has : as.Nodup) (hbs : bs.Nodup)
    (hfilled : as ≠ []) (hfilled' : bs ≠ []) (hne : as ≠ bs) :
    2 ≤ (as ++ bs).eraseDups.length := by
  match hall : (as ++ bs).eraseDups with
  | [] =>
    rw [eraseDups_eq_nil_iff, List.append_eq_nil_iff] at hall
    exact absurd hall.1 hfilled
  | [x] =>
    have honly : ∀ c ∈ as ++ bs, c = x := by
      intro c hc
      rwa [← List.mem_eraseDups, hall, List.mem_singleton] at hc
    have has' := eq_singleton_of_nodup hfilled has fun a ha => honly a (by simp [ha])
    have hbs' := eq_singleton_of_nodup hfilled' hbs fun b hb => honly b (by simp [hb])
    exact absurd (has'.trans hbs'.symm) hne
  | _ :: _ :: _ => simp

end PagedQuery
