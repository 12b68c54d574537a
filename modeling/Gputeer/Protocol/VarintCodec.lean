import Gputeer.Lib.Wire
import Mathlib.Data.UInt
import Mathlib.Data.Nat.Bitwise
import Mathlib.Data.List.Infix
import Mathlib.Tactic.Ring

/-! Numbers of a variable length, of which only the shortest form is read. -/

namespace Gputeer.Protocol

inductive CanonicalError where
  | truncatedVarint
  | varintTooLong
  | nonMinimalVarint
  | floatNotAllowed
  deriving DecidableEq

theorem toNat_shiftRight_seven (n : UInt64) : (n >>> 7).toNat = n.toNat / 128 := by
  rw [UInt64.toNat_shiftRight]
  simp [Nat.shiftRight_eq_div_pow]

/-- Seven bits a byte; the eighth says that more follow. -/
def encodeVarint (n : UInt64) : List UInt8 :=
  let b := (n &&& 0x7F).toUInt8
  if n >>> 7 = 0 then [b] else (b ||| 0x80) :: encodeVarint (n >>> 7)
termination_by n.toNat
decreasing_by
  have positive : (n >>> 7).toNat ≠ 0 := fun none_ => ‹¬ n >>> 7 = 0› (UInt64.toNat_inj.mp none_)
  rw [toNat_shiftRight_seven] at positive ⊢
  omega

/-- The groups from a position on, and the position after the last byte that was looked at. -/
def decodeGroups (buf : List UInt8) (pos : Nat) (result : UInt64) (shift : Nat) :
    Except CanonicalError UInt64 × Nat :=
  match buf[pos]? with
  | none => (.error .truncatedVarint, pos)
  | some b =>
      let result := result ||| ((b &&& 0x7F).toUInt64 <<< UInt64.ofNat shift)
      if b &&& 0x80 = 0 then (.ok result, pos + 1)
      else if 63 < shift + 7 then (.error .varintTooLong, pos + 1)
      else decodeGroups buf (pos + 1) result (shift + 7)
termination_by 64 - shift

/-- What is read has to be what would be written. -/
def decodeVarint (buf : List UInt8) (pos : Nat) : Except CanonicalError UInt64 × Nat :=
  match decodeGroups buf pos 0 0 with
  | (.error error, after) => (.error error, after)
  | (.ok result, after) =>
      if encodeVarint result ≠ (buf.drop pos).take (after - pos) then (.error .nonMinimalVarint, after)
      else (.ok result, after)

section Bytes

variable {n : UInt64} {b : UInt8}

theorem toNat_low (n : UInt64) : ((n &&& 0x7F).toUInt8).toNat = n.toNat % 128 := by
  have mask : (0x7F : UInt64).toNat = 2 ^ 7 - 1 := rfl
  rw [UInt64.toNat_toUInt8, UInt64.toNat_and, mask, Nat.and_two_pow_sub_one_eq_mod]
  omega

theorem toNat_marked (small : b.toNat < 128) : (b ||| 0x80).toNat = b.toNat + 128 := by
  have mark : (0x80 : UInt8).toNat = 2 ^ 7 * 1 := rfl
  rw [UInt8.toNat_or, mark, Nat.or_comm, ← Nat.two_pow_add_eq_or_of_lt small]
  omega

theorem toNat_group (b : UInt8) : ((b &&& 0x7F).toUInt64).toNat = b.toNat % 128 := by
  have mask : (0x7F : UInt8).toNat = 2 ^ 7 - 1 := rfl
  rw [UInt8.toNat_toUInt64, UInt8.toNat_and, mask, Nat.and_two_pow_sub_one_eq_mod]

theorem mark_eq_zero : b &&& 0x80 = 0 ↔ b.toNat < 128 := by
  have mark : (0x80 : UInt8).toNat = 2 ^ 7 := rfl
  have bound := b.toNat_lt
  rw [← UInt8.toNat_inj, UInt8.toNat_and, mark, Nat.and_two_pow, UInt8.toNat_zero]
  have bit : b.toNat.testBit 7 = decide (128 ≤ b.toNat) := by
    rw [Nat.testBit_eq_decide_div_mod_eq]
    congr 1
    apply propext
    omega
  rw [bit]
  by_cases large : 128 ≤ b.toNat
  · simp [large]
  · simp [large]
    omega

end Bytes

/-- The bytes are those of the number on the wire. -/
theorem encodeVarint_eq (n : UInt64) : encodeVarint n = Wire.varint n.toNat := by
  induction counted : n.toNat using Nat.strongRecOn generalizing n with
  | ind value ih =>
      subst counted
      have none_ : n >>> 7 = 0 ↔ n.toNat < 128 := by
        rw [← UInt64.toNat_inj, toNat_shiftRight_seven, UInt64.toNat_zero]
        omega
      rw [encodeVarint, Wire.varint]
      split
      · next last =>
        rw [if_pos (none_.mp last), List.cons.injEq]
        refine ⟨UInt8.toNat_inj.mp ?_, rfl⟩
        have small := none_.mp last
        rw [toNat_low, UInt8.toNat_ofNat']
        omega
      · next more =>
        rw [if_neg (fun small => more (none_.mpr small)), List.cons.injEq]
        have shorter : (n >>> 7).toNat < n.toNat := by
          rw [toNat_shiftRight_seven]
          have large : ¬ n.toNat < 128 := fun small => more (none_.mpr small)
          omega
        refine ⟨UInt8.toNat_inj.mp ?_, ?_⟩
        · rw [toNat_marked (by rw [toNat_low]; omega), toNat_low, UInt8.toNat_ofNat']
          omega
        · rw [ih _ shorter (n >>> 7) rfl, toNat_shiftRight_seven]

section Reading

variable {n result : UInt64} {b : UInt8} {buf tail : List UInt8} {pos shift value : Nat}

/-- A group is put above the bits that are there. -/
theorem toNat_addGroup (room : shift < 64) (low : result.toNat < 2 ^ shift)
    (fits : (b.toNat % 128) * 2 ^ shift + result.toNat < 2 ^ 64) :
    (result ||| ((b &&& 0x7F).toUInt64 <<< UInt64.ofNat shift)).toNat =
      (b.toNat % 128) * 2 ^ shift + result.toNat := by
  have amount : (UInt64.ofNat shift).toNat % 64 = shift := by
    rw [UInt64.toNat_ofNat']
    omega
  have shifted : ((b &&& 0x7F).toUInt64 <<< UInt64.ofNat shift).toNat = (b.toNat % 128) * 2 ^ shift := by
    rw [UInt64.toNat_shiftLeft, amount, toNat_group, Nat.shiftLeft_eq]
    exact Nat.mod_eq_of_lt (by omega)
  rw [UInt64.toNat_or, shifted, Nat.or_comm, Nat.mul_comm, ← Nat.two_pow_add_eq_or_of_lt low]

theorem getElem?_of_drop {items : List UInt8} {rest : List UInt8} (there : items.drop pos = b :: rest) :
    items[pos]? = some b ∧ items.drop (pos + 1) = rest := by
  have first := congrArg List.head? there
  have others := congrArg List.tail there
  rw [List.head?_drop] at first
  rw [List.tail_drop] at others
  exact ⟨first, others⟩

/-- The groups of a number that fits above the bits that are there. -/
theorem decodeGroups_varint (there : buf.drop pos = Wire.varint value ++ tail) (room : shift < 64)
    (low : result.toNat < 2 ^ shift) (fits : value * 2 ^ shift + result.toNat < 2 ^ 64) :
    decodeGroups buf pos result shift =
      (.ok (UInt64.ofNat (value * 2 ^ shift + result.toNat)), pos + (Wire.varint value).length) := by
  induction value using Nat.strongRecOn generalizing pos result shift with
  | ind value ih =>
      rw [Wire.varint] at there ⊢
      split at there
      · next small =>
        rw [if_pos small]
        have byte : (UInt8.ofNat value).toNat = value := by
          rw [UInt8.toNat_ofNat']
          omega
        have group := @toNat_addGroup result (UInt8.ofNat value) shift room low
          (by rw [byte, Nat.mod_eq_of_lt small]; exact fits)
        rw [byte, Nat.mod_eq_of_lt small] at group
        rw [decodeGroups, (getElem?_of_drop there).1]
        simp only [mark_eq_zero, byte, small, if_true, List.length_singleton]
        rw [← group, UInt64.ofNat_toNat]
      · next large =>
        rw [if_neg large]
        have byte : (UInt8.ofNat (value % 128 + 128)).toNat = value % 128 + 128 := by
          rw [UInt8.toNat_ofNat']
          omega
        have low7 : (value % 128 + 128) % 128 = value % 128 := by omega
        have parts : value * 2 ^ shift = value / 128 * 2 ^ (shift + 7) + value % 128 * 2 ^ shift := by
          have whole := Nat.div_add_mod value 128
          calc value * 2 ^ shift = (128 * (value / 128) + value % 128) * 2 ^ shift := by rw [whole]
            _ = value / 128 * 2 ^ (shift + 7) + value % 128 * 2 ^ shift := by
              rw [Nat.add_mul, pow_add]
              ring
        have group := @toNat_addGroup result (UInt8.ofNat (value % 128 + 128)) shift room low
          (by rw [byte, low7]; omega)
        rw [byte, low7] at group
        have more : ¬ 63 < shift + 7 := by
          intro end_
          have big : 2 ^ 64 ≤ 2 ^ (shift + 7) := Nat.pow_le_pow_right (by decide) (by omega)
          have one : 1 ≤ value / 128 := by omega
          have least : 1 * 2 ^ (shift + 7) ≤ value / 128 * 2 ^ (shift + 7) := Nat.mul_le_mul_right _ one
          omega
        have filled : value % 128 * 2 ^ shift + result.toNat < 2 ^ (shift + 7) := by
          have group_ : value % 128 + 1 ≤ 128 := by omega
          have most : (value % 128 + 1) * 2 ^ shift ≤ 128 * 2 ^ shift := Nat.mul_le_mul_right _ group_
          rw [pow_add]
          rw [Nat.add_mul] at most
          omega
        obtain ⟨first, rest⟩ := getElem?_of_drop there
        rw [decodeGroups, first]
        simp only [mark_eq_zero, byte, if_neg more]
        rw [if_neg (by omega), ih (value / 128) (by omega) rest (by omega) (by rw [group]; exact filled)
          (by rw [group, ← Nat.add_assoc, ← parts]; exact fits), group, ← Nat.add_assoc, ← parts]
        simp only [List.length_cons, Prod.mk.injEq, true_and]
        omega

theorem decodeVarint_encodeVarint (there : buf.drop pos = encodeVarint n ++ tail) :
    decodeVarint buf pos = (.ok n, pos + (encodeVarint n).length) := by
  have read : decodeGroups buf pos 0 0 = (.ok n, pos + (encodeVarint n).length) := by
    rw [encodeVarint_eq] at there ⊢
    have groups := @decodeGroups_varint 0 buf tail pos 0 n.toNat there (by decide) (by decide)
      (by simpa using n.toNat_lt)
    simpa using groups
  rw [decodeVarint, read]
  simp only [Nat.add_sub_cancel_left, there, List.take_left', ne_eq, not_true, if_false]

theorem decodeVarint_eq_ok (done : (decodeVarint buf pos).1 = .ok n) : encodeVarint n <+: buf.drop pos := by
  rw [decodeVarint] at done
  split at done
  · cases done
  · next result_ after read =>
    split at done
    · cases done
    · next same =>
      obtain rfl := Except.ok.inj done
      rw [not_not.mp same]
      exact List.take_prefix _ _

end Reading

/-- The bytes of a number of 64 bits: at most ten of them, of which the tenth holds one bit. -/
def ShortestForm (bytes : List UInt8) : Prop :=
  ∃ groups last, bytes = groups ++ [last] ∧ Wire.Minimal groups last ∧
    (groups.length < 9 ∨ groups.length = 9 ∧ last.toNat ≤ 1)

theorem fits_iff {groups : List UInt8} {last : UInt8} {value : Nat} (minimal : Wire.Minimal groups last)
    (highest : value / 128 ^ groups.length = last.toNat) :
    value < 2 ^ 64 ↔ groups.length < 9 ∨ groups.length = 9 ∧ last.toNat ≤ 1 := by
  have nine : (128 : Nat) ^ 9 = 2 ^ 63 := by decide
  have ends := minimal.ends
  rcases Nat.lt_trichotomy groups.length 9 with few | exact_ | many
  · have power : 128 ^ (groups.length + 1) ≤ 128 ^ 9 := Nat.pow_le_pow_right (by decide) few
    have below : value < (last.toNat + 1) * 128 ^ groups.length := by
      rw [← Nat.div_lt_iff_lt_mul (Nat.pow_pos (by decide)), highest]
      omega
    have most : (last.toNat + 1) * 128 ^ groups.length ≤ 128 * 128 ^ groups.length :=
      Nat.mul_le_mul_right _ ends
    rw [pow_succ'] at power
    exact iff_of_true (by omega) (.inl few)
  · rw [exact_, nine] at highest
    omega
  · have power : 128 ^ 10 ≤ 128 ^ groups.length := Nat.pow_le_pow_right (by decide) many
    have filled : last.toNat ≠ 0 := by
      intro empty
      have some_ : groups ≠ [] := List.ne_nil_of_length_pos (by omega)
      exact minimal.filled some_ (UInt8.toNat_inj.mp empty)
    have least : last.toNat * 128 ^ groups.length ≤ value := by
      rw [← highest]
      exact Nat.div_mul_le_self _ _
    have one : 1 * 128 ^ groups.length ≤ last.toNat * 128 ^ groups.length := Nat.mul_le_mul_right _ (by omega)
    exact iff_of_false (by omega) (by omega)

theorem exists_encodeVarint_iff {bytes : List UInt8} : (∃ n, encodeVarint n = bytes) ↔ ShortestForm bytes := by
  constructor
  · rintro ⟨n, rfl⟩
    obtain ⟨groups, last, same, minimal, highest⟩ := Wire.exists_minimal n.toNat
    refine ⟨groups, last, (encodeVarint_eq n).trans same, minimal, ?_⟩
    exact (fits_iff minimal highest).mp n.toNat_lt
  · rintro ⟨groups, last, rfl, minimal, short⟩
    obtain ⟨value, same, highest⟩ := Wire.exists_varint minimal
    have fits := (fits_iff minimal highest).mpr short
    refine ⟨UInt64.ofNat value, ?_⟩
    rw [encodeVarint_eq, UInt64.toNat_ofNat_of_lt' fits, same]

/-- What is written is read back wherever it stands, nothing else is read, and what can be written has neither
an empty last group nor more than 64 bits. -/
theorem varint_reads_what_is_written :
    (∀ (n : UInt64) (before after : List UInt8), decodeVarint (before ++ encodeVarint n ++ after) before.length =
      (.ok n, before.length + (encodeVarint n).length)) ∧
    (∀ (buf : List UInt8) (pos : Nat) (n : UInt64) (after : Nat), decodeVarint buf pos = (.ok n, after) ↔
      encodeVarint n <+: buf.drop pos ∧ after = pos + (encodeVarint n).length) ∧
    ∀ bytes : List UInt8, (∃ n, encodeVarint n = bytes) ↔ ShortestForm bytes := by
  refine ⟨fun n before after => ?_, fun buf pos n after => ⟨fun done => ?_, ?_⟩, fun _ => exists_encodeVarint_iff⟩
  · apply decodeVarint_encodeVarint
    rw [List.append_assoc, List.drop_left]
  · have begins : encodeVarint n <+: buf.drop pos := decodeVarint_eq_ok (by rw [done])
    obtain ⟨tail, there⟩ := id begins
    rw [decodeVarint_encodeVarint there.symm] at done
    exact ⟨begins, (congrArg Prod.snd done).symm⟩
  · rintro ⟨⟨tail, there⟩, rfl⟩
    exact decodeVarint_encodeVarint there.symm

end Gputeer.Protocol
