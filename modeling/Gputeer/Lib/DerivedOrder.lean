import Mathlib.Data.String.Basic
import Mathlib.Data.UInt

/-! The order that is derived for a type of several forms: it compares the forms first, then the fields of the
one form after the other. Such an order is lawful when it is that of the fields. -/

namespace DerivedOrder

/-- A field as an order sees it: numbers before texts. -/
structure Field where
  numbers : List Nat
  texts : List String

namespace Field

def number (value : Nat) : Field := ⟨[value], []⟩

def text (value : String) : Field := ⟨[], [value]⟩

def textList (values : List String) : Field := ⟨[], values⟩

def word (value : UInt64) : Field := number value.toNat

def halfWord (value : UInt32) : Field := number value.toNat

/-- An absent word comes before every present one. -/
def wordOption (value : Option UInt64) : Field := ⟨(value.map UInt64.toNat).toList, []⟩

def order : Field → Field → Ordering := compareLex (compareOn Field.numbers) (compareOn Field.texts)

instance : Std.TransCmp order := inferInstanceAs (Std.TransCmp (compareLex _ _))

theorem compare_toNat (left right : UInt64) : compare left.toNat right.toNat = compare left right := by
  simp only [compare, compareOfLessAndEq, UInt64.lt_iff_toNat_lt, UInt64.toNat_inj]

theorem compare_toNat32 (left right : UInt32) : compare left.toNat right.toNat = compare left right := by
  simp only [compare, compareOfLessAndEq, UInt32.lt_iff_toNat_lt, UInt32.toNat_inj]

theorem compare_single {α : Type} [Ord α] (left right : α) :
    compare [left] [right] = compare left right := by
  change List.compareLex compare [left] [right] = _
  rw [List.compareLex_cons_cons, List.compareLex_nil_nil, Ordering.then_eq]

@[simp] theorem order_number (left right : Nat) :
    order (number left) (number right) = compare left right := by
  change (compare [left] [right]).then .eq = _
  rw [compare_single, Ordering.then_eq]

@[simp] theorem order_text (left right : String) :
    order (text left) (text right) = compare left right := by
  change Ordering.then .eq (compare [left] [right]) = _
  rw [compare_single, Ordering.eq_then]

@[simp] theorem order_textList (left right : List String) :
    order (textList left) (textList right) = compare left right := rfl

@[simp] theorem order_word (left right : UInt64) :
    order (word left) (word right) = compare left right := by
  rw [word, word, order_number, compare_toNat]

@[simp] theorem order_halfWord (left right : UInt32) :
    order (halfWord left) (halfWord right) = compare left right := by
  rw [halfWord, halfWord, order_number, compare_toNat32]

@[simp] theorem order_wordOption (left right : Option UInt64) :
    order (wordOption left) (wordOption right) = compare left right := by
  cases left with
  | none => cases right <;> rfl
  | some left =>
      cases right with
      | none => rfl
      | some right => exact order_word left right

end Field

section Lawful

variable {α : Type} [Ord α]

theorem transOrd_of_eq {cmp : α → α → Ordering} [Std.TransCmp cmp]
    (same : ∀ left right, compare left right = cmp left right) : Std.TransOrd α where
  eq_swap {left right} := by
    rw [same, same]
    exact Std.OrientedCmp.eq_swap
  isLE_trans {first second third} below above := by
    rw [same] at *
    exact Std.TransCmp.isLE_trans below above

/-- The forms of a type are told by a number, and each has its fields. -/
theorem transOrd_of_fields {form : α → Nat} {fields : α → List Field}
    (shown : ∀ left right, compare left right = (compare (form left) (form right)).then
      (List.compareLex Field.order (fields left) (fields right))) : Std.TransOrd α := by
  have lawful : Std.TransCmp (compareLex (compareOn form) fun left right =>
      List.compareLex Field.order (fields left) (fields right)) := by
    have : Std.TransCmp fun left right => List.compareLex Field.order (fields left) (fields right) :=
      { eq_swap := Std.OrientedCmp.eq_swap
        isLE_trans := Std.TransCmp.isLE_trans }
    infer_instance
  exact @transOrd_of_eq _ _ _ lawful shown

end Lawful

section Chain

variable {α : Type} {cmps : List (α → α → Ordering)}

/-- Comparisons asked one after the other: the first that tells two values apart decides. -/
def inTurn (cmps : List (α → α → Ordering)) (left right : α) : Ordering :=
  (cmps.map fun cmp => cmp left right).foldl Ordering.then .eq

theorem foldl_then (first : Ordering) (orderings : List Ordering) :
    orderings.foldl Ordering.then first = first.then (orderings.foldl Ordering.then .eq) := by
  induction orderings generalizing first with
  | nil => rw [List.foldl_nil, List.foldl_nil, Ordering.then_eq]
  | cons next rest ih =>
      rw [List.foldl_cons, List.foldl_cons, ih, ih (Ordering.then .eq next), Ordering.eq_then,
        Ordering.then_assoc]

theorem inTurn_cons (cmp : α → α → Ordering) :
    inTurn (cmp :: cmps) = compareLex cmp (inTurn cmps) := by
  funext left right
  rw [inTurn, List.map_cons, List.foldl_cons, foldl_then, Ordering.eq_then]
  rfl

theorem inTurn_transCmp (lawful : ∀ cmp ∈ cmps, Std.TransCmp cmp) : Std.TransCmp (inTurn cmps) := by
  induction cmps with
  | nil => exact { eq_swap := rfl, isLE_trans := fun _ _ => rfl }
  | cons cmp rest ih =>
      rw [List.forall_mem_cons] at lawful
      have := lawful.1
      have := ih lawful.2
      rw [inTurn_cons]
      infer_instance

end Chain

section Texts

theorem isLE_compare_text (left right : String) : (compare left right).isLE ↔ left ≤ right := by
  change (compareOfLessAndEq left right).isLE ↔ _
  rw [compareOfLessAndEq, le_iff_lt_or_eq]
  split
  · next below => simp [below]
  · next above => split <;> simp_all

theorem compare_eq_lt_text (left right : String) : compare left right = .lt ↔ left < right := by
  change compareOfLessAndEq left right = .lt ↔ _
  rw [compareOfLessAndEq]
  split
  · next below => simp [below]
  · next above => split <;> simp [above]

end Texts

end DerivedOrder
