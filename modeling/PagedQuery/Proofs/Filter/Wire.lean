import PagedQuery.Filter.Value
import PagedQuery.Proofs.Term.WellFormed
import PagedQuery.Proofs.Text.Decimal

/-!
# PagedQuery.Proofs.Filter.Wire

The characters of the texts in which scalars are sent.  Numbers, dates and times are written in
digits, signs and a few letters, none of which structures a query, so that the text of a scalar is
plain unless it was given as a text that is not (`Value.IsPlain.wire`).
-/

namespace PagedQuery

namespace Term

theorem isPlain_append {a b : String} : IsPlain (a ++ b) ↔ IsPlain a ∧ IsPlain b := by
  simp [IsPlain, or_imp, forall_and]

theorem isPlain_ofList {cs : List Char} :
    IsPlain (String.ofList cs) ↔ ∀ c ∈ cs, isStructural c = false := by
  simp [IsPlain]

theorem not_isStructural_of_isDigit {c : Char} (h : c.isDigit = true) : isStructural c = false := by
  have hne : ∀ d : Char, d.isDigit = false → (c == d) = false := by
    intro d hd
    rw [beq_eq_false_iff_ne]
    rintro rfl
    rw [h] at hd
    contradiction
  simp only [isStructural, hne '(' rfl, hne ')' rfl, hne ',' rfl, hne '&' rfl, Bool.or_self]

theorem plain_toDigits (n : Nat) : ∀ c ∈ Nat.toDigits 10 n, isStructural c = false :=
  fun _ hc => not_isStructural_of_isDigit (Text.isDigit_of_mem_decimal hc)

theorem plain_replicate_zero (n : Nat) : ∀ c ∈ List.replicate n '0', isStructural c = false := by
  intro c hc
  rw [List.eq_of_mem_replicate hc]
  rfl

theorem isPlain_toString_int (n : Int) : IsPlain (toString n) := by
  rw [IsPlain, Text.toList_toString_int]
  split
  · exact plain_toDigits _
  · exact List.forall_mem_cons.mpr ⟨rfl, plain_toDigits _⟩

end Term

/-! ## Dates and times -/

namespace Calendar

open Term

theorem isPlain_padded (width n : Nat) : IsPlain (padded width n) := by
  refine isPlain_ofList.mpr fun c hc => ?_
  obtain hzero | hdigit := List.mem_append.mp hc
  · exact plain_replicate_zero _ c hzero
  · exact plain_toDigits n c hdigit

theorem isPlain_yearText (year : Int) : IsPlain (yearText year) := by
  unfold yearText
  split
  · exact isPlain_append.mpr ⟨by decide, isPlain_padded _ _⟩
  · split
    · exact isPlain_append.mpr ⟨by decide, isPlain_padded _ _⟩
    · exact isPlain_padded _ _

theorem Date.isPlain_text (d : Date) : IsPlain d.text := by
  simp only [Date.text, isPlain_append, isPlain_yearText, isPlain_padded, true_and, and_true]
  decide

theorem isPlain_fractionText (nano : Nat) : IsPlain (fractionText nano) := by
  have hpoint : IsPlain "." := by decide
  unfold fractionText
  split
  · decide
  · split
    · exact isPlain_append.mpr ⟨hpoint, isPlain_padded _ _⟩
    · split <;> exact isPlain_append.mpr ⟨hpoint, isPlain_padded _ _⟩

theorem Time.isPlain_text (t : Time) : IsPlain t.text := by
  simp only [Time.text, isPlain_append, isPlain_padded, isPlain_fractionText, true_and, and_true]
  decide

theorem DateTime.isPlain_text (t : DateTime) : IsPlain t.text := by
  simp only [DateTime.text, isPlain_append, Date.isPlain_text, Time.isPlain_text, true_and,
    and_true]
  decide

theorem isPlain_offsetText (seconds : Int) : IsPlain (offsetText seconds) := by
  have hcolon : IsPlain ":" := by decide
  simp only [offsetText, isPlain_append, isPlain_padded, hcolon, and_true]
  split <;> decide

theorem ZonedDateTime.isPlain_text (t : ZonedDateTime) : IsPlain t.text :=
  isPlain_append.mpr ⟨t.local_.isPlain_text, isPlain_offsetText t.offset⟩

end Calendar

/-! ## Doubles -/

namespace Decimal

open Term

section Layouts

variable {digits : List Char} (hdigits : ∀ c ∈ digits, isStructural c = false)

include hdigits

theorem plain_place (style : Layout) (point : Int) :
    ∀ c ∈ style.place digits point, isStructural c = false := by
  unfold Layout.place
  simp only
  split
  · exact List.forall_mem_cons.mpr ⟨rfl, List.forall_mem_cons.mpr ⟨rfl,
      List.forall_mem_append.mpr ⟨plain_replicate_zero _, hdigits⟩⟩⟩
  · split
    · exact List.forall_mem_append.mpr ⟨fun c hc => hdigits c (List.mem_of_mem_take hc),
        List.forall_mem_cons.mpr ⟨rfl, fun c hc => hdigits c (List.mem_of_mem_drop hc)⟩⟩
    · refine List.forall_mem_append.mpr
        ⟨List.forall_mem_append.mpr ⟨hdigits, plain_replicate_zero _⟩, ?_⟩
      split <;> simp [isStructural]

theorem plain_exponential (point : Int) :
    ∀ c ∈ exponential digits point, isStructural c = false := by
  have hexponent : ∀ c ∈ (toString (point - 1)).toList, isStructural c = false :=
    isPlain_toString_int (point - 1)
  unfold exponential
  simp only [List.append_assoc, List.forall_mem_append]
  refine ⟨fun c hc => hdigits c (List.mem_of_mem_take hc), ?_, ?_⟩
  · split
    · nofun
    · exact List.forall_mem_cons.mpr ⟨rfl, fun c hc => hdigits c (List.mem_of_mem_drop hc)⟩
  · exact List.forall_mem_cons.mpr ⟨rfl, hexponent⟩

end Layouts

theorem plain_magnitude (style : Layout) (m : Nat) (q : Int) :
    ∀ c ∈ style.magnitude m q, isStructural c = false := by
  unfold Layout.magnitude
  simp only
  split
  · exact plain_place (plain_toDigits _) style _
  · exact plain_exponential (plain_toDigits _) _

theorem Layout.isPlain_text (style : Layout) (bits : UInt64) : IsPlain (style.text bits) := by
  have hsigned (negative : Bool) {body : List Char} (h : ∀ c ∈ body, isStructural c = false) :
      IsPlain (String.ofList (if negative then '-' :: body else body)) := by
    rw [isPlain_ofList]
    cases negative with
    | true => exact List.forall_mem_cons.mpr ⟨rfl, h⟩
    | false => exact h
  unfold Layout.text
  cases classify bits with
  | nan => exact (by decide : IsPlain "NaN")
  | infinite negative => exact hsigned negative (by simp [isStructural])
  | zero negative => exact hsigned negative (by simp [isStructural])
  | finite negative m q => exact hsigned negative (plain_magnitude style m q)

end Decimal

/-! ## Values -/

namespace Filter.Value

open Term

/-- No character of a text or of the items of a list structures a query. -/
def IsPlain : Value → Prop
  | .text s => Term.IsPlain s
  | .list items => ∀ s ∈ items, Term.IsPlain s
  | _ => True

/-- A scalar is sent in a plain text, unless it is itself a text that is not plain. -/
theorem IsPlain.wire {value : Value} {text : String} (h : value.IsPlain)
    (hwire : value.wire? = some text) : Term.IsPlain text := by
  cases value with
  | text s =>
    cases hwire
    exact h
  | boolean b =>
    cases hwire
    cases b <;> decide
  | integer n =>
    cases hwire
    exact isPlain_toString_int n
  | float bits =>
    cases hwire
    exact floatLayout.isPlain_text bits
  | date d =>
    cases hwire
    exact d.isPlain_text
  | dateTime t =>
    cases hwire
    exact t.isPlain_text
  | zonedDateTime t =>
    cases hwire
    exact t.isPlain_text
  | list items => contradiction
  | null => contradiction

end Filter.Value

end PagedQuery
