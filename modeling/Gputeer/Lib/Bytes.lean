import Mathlib.Data.UInt
import Mathlib.Algebra.Order.Ring.Nat
import Mathlib.Tactic.Ring
import Mathlib.Tactic.Common

/-! Fixed-width integers as byte strings, in both byte orders. -/

namespace Bytes

/-- The `width` low-order bytes of `n`, least significant byte first. -/
def leBytes : Nat → Nat → List UInt8
  | 0, _ => []
  | width + 1, n => UInt8.ofNat (n % 256) :: leBytes width (n / 256)

def leNat (bytes : List UInt8) : Nat :=
  bytes.foldr (fun byte high => byte.toNat + 256 * high) 0

def beBytes (width n : Nat) : List UInt8 := (leBytes width n).reverse

def beNat (bytes : List UInt8) : Nat := leNat bytes.reverse

@[simp] theorem length_leBytes (width n : Nat) : (leBytes width n).length = width := by
  induction width generalizing n with
  | zero => rfl
  | succ width ih => simp [leBytes, ih]

@[simp] theorem length_beBytes (width n : Nat) : (beBytes width n).length = width := by
  simp [beBytes]

@[simp] theorem leNat_nil : leNat [] = 0 := rfl

@[simp] theorem leNat_cons (byte : UInt8) (bytes : List UInt8) :
    leNat (byte :: bytes) = byte.toNat + 256 * leNat bytes := rfl

theorem leNat_lt (bytes : List UInt8) : leNat bytes < 256 ^ bytes.length := by
  induction bytes with
  | nil => simp
  | cons byte bytes ih =>
      have low := byte.toNat_lt
      rw [leNat_cons, List.length_cons, pow_succ]
      omega

/-- A number that fits the width survives the trip through its bytes. -/
theorem leNat_leBytes {width n : Nat} (fits : n < 256 ^ width) :
    leNat (leBytes width n) = n := by
  induction width generalizing n with
  | zero =>
      have : n = 0 := by simpa using fits
      rw [this]
      rfl
  | succ width ih =>
      have quotient : n / 256 < 256 ^ width := by
        rw [Nat.div_lt_iff_lt_mul (by decide)]
        simpa [pow_succ] using fits
      rw [leBytes, leNat_cons, ih quotient]
      simp only [UInt8.toNat_ofNat']
      omega

/-- Bytes are recovered from the number they denote and their count. -/
theorem leBytes_leNat (bytes : List UInt8) : leBytes bytes.length (leNat bytes) = bytes := by
  induction bytes with
  | nil => rfl
  | cons byte bytes ih =>
      have low := byte.toNat_lt
      have remainder : (byte.toNat + 256 * leNat bytes) % 256 = byte.toNat := by omega
      have quotient : (byte.toNat + 256 * leNat bytes) / 256 = leNat bytes := by omega
      rw [leNat_cons, List.length_cons, leBytes, remainder, quotient, ih]
      simp

theorem beNat_beBytes {width n : Nat} (fits : n < 256 ^ width) :
    beNat (beBytes width n) = n := by
  rw [beNat, beBytes, List.reverse_reverse, leNat_leBytes fits]

theorem beBytes_beNat (bytes : List UInt8) : beBytes bytes.length (beNat bytes) = bytes := by
  have low := leBytes_leNat bytes.reverse
  rw [List.length_reverse] at low
  rw [beBytes, beNat, low, List.reverse_reverse]

theorem leBytes_injective {width n m : Nat} (first : n < 256 ^ width) (second : m < 256 ^ width)
    (same : leBytes width n = leBytes width m) : n = m := by
  rw [← leNat_leBytes first, ← leNat_leBytes second, same]

theorem beBytes_injective {width n m : Nat} (first : n < 256 ^ width) (second : m < 256 ^ width)
    (same : beBytes width n = beBytes width m) : n = m := by
  rw [← beNat_beBytes first, ← beNat_beBytes second, same]

/-- Text as the UTF-8 bytes it is made of. -/
def utf8 (text : String) : List UInt8 := text.toByteArray.data.toList

theorem utf8_ofList (text : List Char) :
    utf8 (String.ofList text) = text.flatMap String.utf8EncodeChar := by
  unfold utf8
  rw [String.toByteArray_ofList, List.utf8Encode]
  simp

theorem utf8ByteSize_eq (text : String) : text.utf8ByteSize = (utf8 text).length := by
  rw [utf8, Array.length_toList]
  rfl

theorem utf8_injective {first second : String} (same : utf8 first = utf8 second) :
    first = second := by
  rw [← String.toByteArray_inj]
  exact ByteArray.ext (Array.toList_inj.mp same)

end Bytes
