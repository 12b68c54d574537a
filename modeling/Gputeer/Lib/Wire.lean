import Mathlib.Data.UInt
import Mathlib.Data.List.Nodup
import Mathlib.Tactic.Common

/-! Streams of tagged records: a variable-length tag, then a variable-length number or a length
and that many bytes. -/

namespace Wire

/-- Seven bits a byte, least significant first; the high bit says that more follow. -/
def varint (n : Nat) : List UInt8 :=
  if n < 128 then [UInt8.ofNat n] else UInt8.ofNat (n % 128 + 128) :: varint (n / 128)
termination_by n
decreasing_by omega

theorem ofNat_eq {n m : Nat} (first : n < 256) (second : m < 256)
    (same : UInt8.ofNat n = UInt8.ofNat m) : n = m := by
  have numbers := congrArg UInt8.toNat same
  rw [UInt8.toNat_ofNat', UInt8.toNat_ofNat'] at numbers
  omega

/-- A number can be read off the front of a byte string in one way only. -/
theorem varint_append_inj {n m : Nat} {tail rest : List UInt8}
    (same : varint n ++ tail = varint m ++ rest) : n = m ∧ tail = rest := by
  induction n using Nat.strongRecOn generalizing m with
  | ind n ih =>
      rw [varint, varint.eq_def m] at same
      split at same
      · split at same
        · rw [List.cons_append, List.cons_append, List.cons.injEq] at same
          exact ⟨ofNat_eq (by omega) (by omega) same.1, by simpa using same.2⟩
        · rw [List.cons_append, List.cons_append, List.cons.injEq] at same
          have bytes := ofNat_eq (by omega) (by omega) same.1
          omega
      · split at same
        · rw [List.cons_append, List.cons_append, List.cons.injEq] at same
          have bytes := ofNat_eq (by omega) (by omega) same.1
          omega
        · rw [List.cons_append, List.cons_append, List.cons.injEq] at same
          have bytes := ofNat_eq (by omega) (by omega) same.1
          rcases ih (n / 128) (by omega) same.2 with ⟨quotient, tails⟩
          exact ⟨by omega, tails⟩

/-- What stands before the last byte says that more follow, the last byte does not, and it is filled unless
it is the only one. -/
structure Minimal (groups : List UInt8) (last : UInt8) : Prop where
  more : ∀ byte ∈ groups, 128 ≤ byte.toNat
  ends : last.toNat < 128
  filled : groups ≠ [] → last ≠ 0

/-- The bytes of a number, and its highest seven bits. -/
theorem exists_minimal (n : Nat) : ∃ groups last, varint n = groups ++ [last] ∧ Minimal groups last ∧
    n / 128 ^ groups.length = last.toNat := by
  induction n using Nat.strongRecOn with
  | ind n ih =>
      rw [varint]
      split
      · next small =>
        have low : (UInt8.ofNat n).toNat = n := by
          rw [UInt8.toNat_ofNat']
          omega
        exact ⟨[], UInt8.ofNat n, rfl, ⟨by simp, by omega, by simp⟩, by simp [low]⟩
      · next large =>
        obtain ⟨groups, last, bytes, minimal, highest⟩ := ih (n / 128) (by omega)
        refine ⟨UInt8.ofNat (n % 128 + 128) :: groups, last, by rw [bytes]; rfl, ⟨?_, minimal.ends, ?_⟩, ?_⟩
        · intro byte listed
          rcases List.mem_cons.mp listed with rfl | later
          · rw [UInt8.toNat_ofNat']
            omega
          · exact minimal.more byte later
        · intro _
          by_cases only : groups = []
          · rintro rfl
            rw [only] at highest
            simp only [List.length_nil, pow_zero, Nat.div_one, UInt8.toNat_zero] at highest
            omega
          · exact minimal.filled only
        · rw [List.length_cons, pow_succ', ← Nat.div_div_eq_div_mul]
          exact highest

theorem exists_varint {groups : List UInt8} {last : UInt8} (minimal : Minimal groups last) :
    ∃ n, varint n = groups ++ [last] ∧ n / 128 ^ groups.length = last.toNat := by
  induction groups with
  | nil =>
      refine ⟨last.toNat, ?_, by simp⟩
      rw [varint, if_pos minimal.ends, UInt8.ofNat_toNat]
      rfl
  | cons byte groups ih =>
      have rest : Minimal groups last :=
        ⟨fun other listed => minimal.more other (List.mem_cons_of_mem _ listed), minimal.ends,
          fun _ => minimal.filled (List.cons_ne_nil _ _)⟩
      obtain ⟨n, bytes, highest⟩ := ih rest
      have more := minimal.more byte List.mem_cons_self
      have bound := byte.toNat_lt
      have positive : n ≠ 0 := by
        rintro rfl
        rw [Nat.zero_div] at highest
        exact minimal.filled (List.cons_ne_nil _ _) (UInt8.toNat_inj.mp highest.symm)
      have quotient : (128 * n + (byte.toNat - 128)) / 128 = n := by omega
      have remainder : (128 * n + (byte.toNat - 128)) % 128 + 128 = byte.toNat := by omega
      refine ⟨128 * n + (byte.toNat - 128), ?_, ?_⟩
      · rw [varint, if_neg (by omega), quotient, remainder, bytes, UInt8.ofNat_toNat]
        rfl
      · rw [List.length_cons, pow_succ', ← Nat.div_div_eq_div_mul, quotient]
        exact highest

inductive Payload where
  | number (value : Nat)
  | bytes (content : List UInt8)

namespace Payload

def wireType : Payload → Nat
  | number _ => 0
  | bytes _ => 2

def body : Payload → List UInt8
  | number value => varint value
  | bytes content => varint content.length ++ content

/-- Given the wire type, a payload can be read off the front of a byte string. -/
theorem body_append_inj {first second : Payload} {tail rest : List UInt8}
    (kind : first.wireType = second.wireType) (same : first.body ++ tail = second.body ++ rest) :
    first = second ∧ tail = rest := by
  cases first with
  | number value =>
      cases second with
      | number other =>
          rcases varint_append_inj same with ⟨values, tails⟩
          exact ⟨by rw [values], tails⟩
      | bytes content => cases kind
  | bytes content =>
      cases second with
      | number other => cases kind
      | bytes other =>
          simp only [body, List.append_assoc] at same
          rcases varint_append_inj same with ⟨lengths, contents⟩
          rcases List.append_inj contents lengths with ⟨equal, tails⟩
          exact ⟨by rw [equal], tails⟩

end Payload

def record (field : Nat) (payload : Payload) : List UInt8 :=
  varint (field * 8 + payload.wireType) ++ payload.body

theorem record_ne_nil (field : Nat) (payload : Payload) : record field payload ≠ [] := by
  rw [record, varint]
  split <;> simp

theorem wireType_lt (payload : Payload) : payload.wireType < 8 := by
  cases payload <;> simp [Payload.wireType]

theorem record_append_inj {field other : Nat} {first second : Payload} {tail rest : List UInt8}
    (same : record field first ++ tail = record other second ++ rest) :
    field = other ∧ first = second ∧ tail = rest := by
  simp only [record, List.append_assoc] at same
  rcases varint_append_inj same with ⟨tags, bodies⟩
  have bound := wireType_lt first
  have otherBound := wireType_lt second
  rcases Payload.body_append_inj (by omega) bodies with ⟨payloads, tails⟩
  exact ⟨by omega, payloads, tails⟩

def stream (records : List (Nat × Payload)) : List UInt8 :=
  records.flatMap (fun entry => record entry.1 entry.2)

/-- A byte string is the stream of at most one list of records. -/
theorem stream_injective {first second : List (Nat × Payload)}
    (same : stream first = stream second) : first = second := by
  induction first generalizing second with
  | nil =>
      cases second with
      | nil => rfl
      | cons entry rest =>
          simp [stream, record_ne_nil] at same
  | cons entry rest ih =>
      cases second with
      | nil => simp [stream, record_ne_nil] at same
      | cons other others =>
          simp only [stream, List.flatMap_cons] at same
          rcases record_append_inj same with ⟨fields, payloads, tails⟩
          rw [Prod.ext fields payloads, ih tails]

/-- The records of several fields, one field after the other. -/
def ungroup (groups : List (Nat × List Payload)) : List (Nat × Payload) :=
  groups.flatMap (fun group => group.2.map (Prod.mk group.1))

theorem filter_group (field : Nat) (payloads : List Payload) :
    (payloads.map (Prod.mk field)).filter (·.1 == field) = payloads.map (Prod.mk field) := by
  rw [List.filter_eq_self]
  intro entry member
  rw [List.mem_map] at member
  rcases member with ⟨payload, _, isEntry⟩
  simp [← isEntry]

theorem filter_other {field : Nat} {groups : List (Nat × List Payload)}
    (absent : field ∉ groups.map Prod.fst) : (ungroup groups).filter (·.1 == field) = [] := by
  rw [List.filter_eq_nil_iff]
  intro entry member
  simp only [ungroup, List.mem_flatMap, List.mem_map] at member
  rcases member with ⟨group, inGroups, payload, _, isEntry⟩
  simp only [← isEntry, beq_iff_eq]
  intro same
  exact absent (List.mem_map.mpr ⟨group, inGroups, same⟩)

/-- With distinct field numbers known beforehand, the records give every field back. -/
theorem ungroup_injective {first second : List (Nat × List Payload)}
    (numbers : first.map Prod.fst = second.map Prod.fst) (distinct : (first.map Prod.fst).Nodup)
    (same : ungroup first = ungroup second) : first = second := by
  induction first generalizing second with
  | nil => exact (List.map_eq_nil_iff.mp numbers.symm).symm
  | cons group rest ih =>
      cases second with
      | nil => cases numbers
      | cons other others =>
          simp only [List.map_cons, List.cons.injEq] at numbers
          rw [List.map_cons, List.nodup_cons] at distinct
          have otherAbsent : other.1 ∉ others.map Prod.fst := by
            rw [← numbers.1, ← numbers.2]
            exact distinct.1
          simp only [ungroup, List.flatMap_cons] at same
          have filtered := congrArg (List.filter (·.1 == group.1)) same
          rw [List.filter_append, List.filter_append, filter_group,
            ← ungroup, ← ungroup, filter_other distinct.1, numbers.1, filter_group,
            filter_other otherAbsent, List.append_nil, List.append_nil] at filtered
          have payloads : group.2 = other.2 :=
            List.map_injective_iff.mpr (Prod.mk_right_injective other.1) filtered
          have heads : group = other := Prod.ext numbers.1 payloads
          rw [heads, List.append_cancel_left_eq] at same
          rw [heads, ih numbers.2 distinct.2 same]

end Wire
