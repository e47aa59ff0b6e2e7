import Mathlib.Data.List.Basic
import Mathlib.Data.List.TakeWhile
import PagedQuery.Proofs.Text.Decimal

/-!
# PagedQuery.Proofs.Text.Trimming

What trimming leaves.  A text stays as it is just if neither end of it can be dropped
(`stripWhere_eq_self_iff`), what is dropped of one mark are runs of it
(`exists_replicate_stripWhere`), and around a mark that is not dropped the two ends of a text are
trimmed apart (`stripWhere_append_mark`).
-/

namespace PagedQuery.Text

variable {p : Char → Bool} {cs : List Char}

theorem head?_of_dropWhile_eq_self (h : cs.dropWhile p = cs) : ∀ c ∈ cs.head?, p c = false := by
  cases cs with
  | nil => nofun
  | cons c cs =>
    rintro _ ⟨⟩
    simpa only [List.getElem_cons_zero, Bool.not_eq_true] using
      List.dropWhile_eq_self_iff.mp h (Nat.succ_pos _)

theorem isPrefix_dropEndWhile (p : Char → Bool) (cs : List Char) : dropEndWhile p cs <+: cs := by
  have hprefix := (List.dropWhile_suffix p (l := cs.reverse)).reverse
  rwa [List.reverse_reverse] at hprefix

/-- What trimming leaves was there before. -/
theorem mem_of_mem_stripWhere {c : Char} (h : c ∈ stripWhere p cs) : c ∈ cs :=
  (List.dropWhile_suffix p).subset ((isPrefix_dropEndWhile p (cs.dropWhile p)).subset h)

/-- A text that trimming leaves alone has nothing to be trimmed at its ends. -/
theorem stripWhere_eq_self_iff : stripWhere p cs = cs ↔
    (∀ c ∈ cs.head?, p c = false) ∧ ∀ c ∈ cs.getLast?, p c = false := by
  refine ⟨fun h => ?_, fun h => stripWhere_eq_self h.1 h.2⟩
  have hlength := congrArg List.length h
  have hend := (isPrefix_dropEndWhile p (cs.dropWhile p)).length_le
  have hsuffix := List.dropWhile_suffix p (l := cs)
  -- neither end can be shortened and the length stay the same
  have hstart : cs.dropWhile p = cs :=
    hsuffix.eq_of_length_le (by rw [stripWhere] at hlength; omega)
  rw [stripWhere, hstart, dropEndWhile, List.reverse_eq_iff] at h
  refine ⟨head?_of_dropWhile_eq_self hstart, fun c hc => ?_⟩
  exact head?_of_dropWhile_eq_self h c (by rwa [List.head?_reverse])

theorem trim_eq_self_iff {s : String} : trim s = s ↔
    (∀ c ∈ s.toList.head?, isBlank c = false) ∧ ∀ c ∈ s.toList.getLast?, isBlank c = false := by
  rw [← stripWhere_eq_self_iff, ← String.toList_inj, toList_trim]

/-- Texts with nothing to be trimmed have nothing to be trimmed when they are joined. -/
theorem trim_append {a b : String} (ha : trim a = a) (hb : trim b = b) (hfilled : a ≠ "")
    (hfilled' : b ≠ "") (sep : String) : trim (a ++ sep ++ b) = a ++ sep ++ b := by
  rw [trim_eq_self_iff] at ha hb ⊢
  rw [Ne, ← String.toList_eq_nil_iff] at hfilled hfilled'
  rw [String.toList_append, String.toList_append, List.append_assoc,
    List.head?_append_of_ne_nil _ hfilled, ← List.append_assoc,
    List.getLast?_append_of_ne_nil _ hfilled']
  exact ⟨ha.1, hb.2⟩

/-! ## Ends -/

theorem getLast?_dropEndWhile : ∀ c ∈ (dropEndWhile p cs).getLast?, p c = false := by
  intro c hc
  rw [dropEndWhile, List.getLast?_reverse] at hc
  have hhead := List.head?_dropWhile_not p cs.reverse
  rwa [Option.mem_def.mp hc] at hhead

theorem getLast?_stripWhere : ∀ c ∈ (stripWhere p cs).getLast?, p c = false :=
  getLast?_dropEndWhile

theorem head?_stripWhere : ∀ c ∈ (stripWhere p cs).head?, p c = false := by
  intro c hc
  obtain ⟨behind, hbehind⟩ := isPrefix_dropEndWhile p (cs.dropWhile p)
  have hhead := List.head?_dropWhile_not p cs
  rwa [← hbehind, List.head?_append, ← stripWhere, Option.mem_def.mp hc] at hhead

/-- From the start of a text a run of marks is dropped. -/
theorem exists_replicate_append (m : Char) (cs : List Char) :
    ∃ n, cs = List.replicate n m ++ cs.dropWhile (· == m) := by
  have hrun : cs.takeWhile (· == m) = List.replicate (cs.takeWhile (· == m)).length m :=
    List.eq_replicate_of_mem fun c hc => by simpa using List.mem_takeWhile_imp hc
  refine ⟨(cs.takeWhile (· == m)).length, ?_⟩
  rw [← hrun, List.takeWhile_append_dropWhile]

/-- From its end as well. -/
theorem exists_append_replicate (m : Char) (cs : List Char) :
    ∃ n, cs = dropEndWhile (· == m) cs ++ List.replicate n m := by
  obtain ⟨n, hn⟩ := exists_replicate_append m cs.reverse
  refine ⟨n, ?_⟩
  rw [dropEndWhile, ← List.reverse_replicate, ← List.reverse_append, ← hn, List.reverse_reverse]

/-- What trimming drops are two runs of marks. -/
theorem exists_replicate_stripWhere (m : Char) (cs : List Char) :
    ∃ before behind, cs =
      List.replicate before m ++ stripWhere (· == m) cs ++ List.replicate behind m := by
  obtain ⟨before, hbefore⟩ := exists_replicate_append m cs
  obtain ⟨behind, hbehind⟩ := exists_append_replicate m (cs.dropWhile (· == m))
  refine ⟨before, behind, ?_⟩
  rw [stripWhere, List.append_assoc, ← hbehind, ← hbefore]

/-! ## Marks -/

section Marks

variable {m : Char} (hm : p m = false)

include hm

/-- What is dropped from a start ends at a mark that is not dropped. -/
theorem dropWhile_append_mark (a b : List Char) :
    (a ++ m :: b).dropWhile p = a.dropWhile p ++ m :: b := by
  induction a with
  | nil => rw [List.nil_append, List.dropWhile_cons_of_neg (by simp [hm])]; rfl
  | cons c a ih =>
    rw [List.cons_append]
    cases hc : p c with
    | true => rw [List.dropWhile_cons_of_pos hc, List.dropWhile_cons_of_pos hc, ih]
    | false =>
      rw [List.dropWhile_cons_of_neg (by simp [hc]), List.dropWhile_cons_of_neg (by simp [hc])]
      rfl

/-- Around a mark that is not dropped the two ends are trimmed apart. -/
theorem stripWhere_append_mark (a b : List Char) :
    stripWhere p (a ++ m :: b) = a.dropWhile p ++ m :: dropEndWhile p b := by
  have hreverse : (a.dropWhile p ++ m :: b).reverse =
      b.reverse ++ m :: (a.dropWhile p).reverse := by simp
  rw [stripWhere, dropWhile_append_mark hm, dropEndWhile, hreverse, dropWhile_append_mark hm]
  simp [dropEndWhile]

end Marks

end PagedQuery.Text
