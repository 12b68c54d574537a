import Mathlib.Data.List.Forall2
import Mathlib.Data.List.Nodup
import Mathlib.Tactic.Common

/-! What dropping repeated neighbours keeps, and which of several values under one key was written last. -/

namespace List

section Repeated

variable {α : Type} [BEq α] [LawfulBEq α]

theorem mem_eraseRepsBy_loop {x last : α} {rest done : List α} :
    x ∈ eraseRepsBy.loop (· == ·) last rest done ↔ x = last ∨ x ∈ rest ∨ x ∈ done := by
  induction rest generalizing last done with
  | nil => simp [eraseRepsBy.loop, or_comm]
  | cons next rest ih =>
      cases same : last == next with
      | true =>
          obtain rfl := eq_of_beq same
          simp only [eraseRepsBy.loop, same, ih, mem_cons]
          tauto
      | false =>
          simp only [eraseRepsBy.loop, same, ih, mem_cons]
          tauto

theorem mem_eraseReps {x : α} {items : List α} : x ∈ items.eraseReps ↔ x ∈ items := by
  cases items with
  | nil => simp [eraseReps, eraseRepsBy]
  | cons first rest => simp [eraseReps, eraseRepsBy, mem_eraseRepsBy_loop]

end Repeated

section Paired

variable {α β : Type} {R : α → β → Prop} {firsts : List α} {seconds : List β}

theorem Forall₂.exists_right {first : α} (paired : Forall₂ R firsts seconds) (listed : first ∈ firsts) :
    ∃ second ∈ seconds, R first second := by
  induction paired with
  | nil => cases listed
  | cons pair rest ih =>
      rcases mem_cons.mp listed with rfl | later
      · exact ⟨_, mem_cons_self, pair⟩
      · obtain ⟨second, there, related⟩ := ih later
        exact ⟨second, mem_cons_of_mem _ there, related⟩

theorem Forall₂.exists_left {second : β} (paired : Forall₂ R firsts seconds) (listed : second ∈ seconds) :
    ∃ first ∈ firsts, R first second :=
  @Forall₂.exists_right _ _ (fun second first => R first second) _ _ _ paired.flip listed

theorem Forall₂.map_eq {γ : Type} {f : α → γ} {g : β → γ} (paired : Forall₂ R firsts seconds)
    (agree : ∀ first second, R first second → f first = g second) :
    firsts.map f = seconds.map g := by
  induction paired with
  | nil => rfl
  | cons pair _ ih => rw [map_cons, map_cons, agree _ _ pair, ih]

theorem exists_forall₂ (each : ∀ first ∈ firsts, ∃ second, R first second) : ∃ seconds, Forall₂ R firsts seconds := by
  induction firsts with
  | nil => exact ⟨[], .nil⟩
  | cons first rest ih =>
      rw [forall_mem_cons] at each
      obtain ⟨second, pair⟩ := each.1
      obtain ⟨others, paired⟩ := ih each.2
      exact ⟨second :: others, .cons pair paired⟩

end Paired

theorem Perm.eq_nil_iff {α : Type} {items others : List α} (same : items.Perm others) :
    items = [] ↔ others = [] :=
  ⟨fun none => nil_perm.mp (none ▸ same), fun none => perm_nil.mp (none ▸ same)⟩

section Written

variable {Key Value : Type} [DecidableEq Key] {writes : List (Key × Value)} {key : Key} {value : Value}

/-- The value that was written last under this key. -/
def lastValue : List (Key × Value) → Key → Option Value
  | [], _ => none
  | (written, value) :: rest, key => (lastValue rest key).or (if key = written then some value else none)

theorem mem_of_lastValue (last : lastValue writes key = some value) : (key, value) ∈ writes := by
  induction writes with
  | nil => cases last
  | cons write rest ih =>
      obtain ⟨written, first⟩ := write
      unfold lastValue at last
      rcases Option.or_eq_some_iff.mp last with later | ⟨_, here⟩
      · exact mem_cons_of_mem _ (ih later)
      · split at here
        · next same =>
          cases here
          rw [same]
          exact mem_cons_self
        · cases here

theorem lastValue_isSome (written : (key, value) ∈ writes) : ∃ last, lastValue writes key = some last := by
  induction writes with
  | nil => cases written
  | cons write rest ih =>
      unfold lastValue
      rcases mem_cons.mp written with rfl | later
      · cases found : lastValue rest key with
        | none => exact ⟨value, by simp⟩
        | some last => exact ⟨last, rfl⟩
      · obtain ⟨last, found⟩ := ih later
        exact ⟨last, by rw [found, Option.some_or]⟩

/-- Where each key is written once, the last value is the only one. -/
theorem lastValue_eq_some (distinct : (writes.map Prod.fst).Nodup) :
    lastValue writes key = some value ↔ (key, value) ∈ writes := by
  refine ⟨mem_of_lastValue, fun written => ?_⟩
  obtain ⟨last, found⟩ := lastValue_isSome written
  have same := inj_on_of_nodup_map distinct (mem_of_lastValue found) written rfl
  rw [found, (Prod.mk.inj same).2]

theorem lastValue_perm {others : List (Key × Value)} (distinct : (writes.map Prod.fst).Nodup)
    (same : writes.Perm others) : lastValue writes key = lastValue others key := by
  have othersDistinct : (others.map Prod.fst).Nodup := (same.map Prod.fst).nodup_iff.mp distinct
  refine Option.ext fun value => ?_
  rw [lastValue_eq_some distinct, lastValue_eq_some othersDistinct, same.mem_iff]

end Written

section Sources

variable {α β : Type} {f : α → β} {P : α → Prop} {items : List β}

/-- A list of values of a function comes from a list. -/
theorem exists_map_eq (each : ∀ item ∈ items, ∃ source, P source ∧ f source = item) :
    ∃ sources : List α, (∀ source ∈ sources, P source) ∧ sources.map f = items := by
  induction items with
  | nil => exact ⟨[], by simp, rfl⟩
  | cons item rest ih =>
      rw [forall_mem_cons] at each
      obtain ⟨source, holds, rfl⟩ := each.1
      obtain ⟨others, all, rfl⟩ := ih each.2
      exact ⟨source :: others, forall_mem_cons.mpr ⟨holds, all⟩, rfl⟩

end Sources

section Checked

variable {α : Type} {P : α → Prop} [DecidablePred P] {items : List α}

/-- What a pass over a list finds of each member holds of each: a statement about a fixed list is decided by
going through the list, not through the type. -/
theorem forall_mem_of_all (passed : items.all (fun item => decide (P item)) = true) : ∀ item ∈ items, P item :=
  fun item listed => of_decide_eq_true (all_eq_true.mp passed item listed)

end Checked

end List
