import Gputeer.Checkpoint.SharedNames
import Gputeer.Lib.Except
import Gputeer.Lib.Lists

/-! Reading a digest that was written in hexadecimal, with the ways in which it ends. -/

namespace Gputeer.Checkpoint

open Bytes

/-- How a reading that gives nothing ends. -/
inductive HexStop where
  | refused (error : SharedError)
  /-- A slice began or ended inside of a character. -/
  | panicked

/-- `str::is_char_boundary`, of the bytes of a text. -/
def isCharBoundary (bytes : List UInt8) (index : Nat) : Bool :=
  index = 0 || index = bytes.length || (bytes[index]?.any fun byte => byte < 128 || 192 ≤ byte)

/-- The number of two bytes of the text, if they are one. -/
def hexPair (bytes : List UInt8) (i : Nat) : Option UInt8 :=
  match (bytes.drop (i * 2)).take 2 with
  | [first, second] => hexByte first second
  | _ => none

def hexAt (bytes : List UInt8) (what : String) (i : Nat) : Except HexStop UInt8 :=
  if isCharBoundary bytes (i * 2) ∧ isCharBoundary bytes (i * 2 + 2) then
    Except.ofOption (.refused (.text s!"{what} 가 hex 가 아니다")) (hexPair bytes i)
  else .error .panicked

/-- `hex32`, up to the first pair that cannot be read. -/
def hex32Run (hex what : String) : Except HexStop (List UInt8) :=
  if hex.utf8ByteSize ≠ 64 then .error (.refused (.text s!"{what} 가 32바이트 hex 가 아니다"))
  else (List.range 32).mapM (hexAt (utf8 hex) what)

/-- `char::is_ascii_hexdigit` -/
def isHexDigit (c : Char) : Bool := isLowerHex c || ('A' ≤ c && c ≤ 'F')

/-- 64 digits and nothing else. -/
structure HexDigits64 (hex : String) : Prop where
  length_eq : hex.length = 64
  digits : ∀ c ∈ hex.toList, isHexDigit c = true

/-- Two digits for each byte. -/
def Writes (hex : String) (bytes : List UInt8) : Prop :=
  (utf8 hex).map hexDigit = bytes.flatMap fun byte => [some (byte.toNat / 16), some (byte.toNat % 16)]

variable {hex what : String} {bytes : List UInt8} {n i : Nat} {first second : UInt8}

section Digits

theorem hexDigit_lt {digit : UInt8} {value : Nat} (read : hexDigit digit = some value) : value < 16 := by
  simp only [hexDigit, UInt8.le_iff_toNat_le, UInt8.reduceToNat] at read
  split at read
  · obtain rfl := Option.some.inj read
    omega
  · split at read
    · obtain rfl := Option.some.inj read
      omega
    · split at read
      · obtain rfl := Option.some.inj read
        omega
      · cases read

theorem hexDigit_isSome_iff {digit : UInt8} : (hexDigit digit).isSome ↔
    (48 ≤ digit.toNat ∧ digit.toNat ≤ 57) ∨ (97 ≤ digit.toNat ∧ digit.toNat ≤ 102) ∨
      (65 ≤ digit.toNat ∧ digit.toNat ≤ 70) := by
  simp only [hexDigit, UInt8.le_iff_toNat_le, UInt8.reduceToNat]
  split
  · simp_all
  · split
    · simp_all
    · split
      · simp_all
      · simp_all

theorem isHexDigit_iff {c : Char} : isHexDigit c = true ↔
    (48 ≤ c.val.toNat ∧ c.val.toNat ≤ 57) ∨ (97 ≤ c.val.toNat ∧ c.val.toNat ≤ 102) ∨
      (65 ≤ c.val.toNat ∧ c.val.toNat ≤ 70) := by
  simp only [isHexDigit, isLowerHex, Char.isDigit, Bool.or_eq_true, Bool.and_eq_true, decide_eq_true_eq,
    Char.le_def, UInt32.le_iff_toNat_le, ge_iff_le]
  exact or_assoc

/-- A digit is one byte with the same number; whatever else is more bytes has none that is a digit at the end. -/
theorem hexDigits_utf8EncodeChar {c : Char} :
    (∀ byte ∈ String.utf8EncodeChar c, (hexDigit byte).isSome) ↔ isHexDigit c = true := by
  rw [isHexDigit_iff]
  unfold String.utf8EncodeChar
  simp only
  split
  · next small =>
    have low : (UInt8.ofNat c.val.toNat).toNat = c.val.toNat := by
      rw [UInt8.toNat_ofNat']
      omega
    simp only [List.mem_singleton, forall_eq, hexDigit_isSome_iff, low]
  · next large =>
    have last : (UInt8.ofNat (c.val.toNat % 64 + 128)).toNat = c.val.toNat % 64 + 128 := by
      rw [UInt8.toNat_ofNat']
      omega
    have noDigit : ¬ (hexDigit (UInt8.ofNat (c.val.toNat % 64 + 128))).isSome := by
      rw [hexDigit_isSome_iff, last]
      omega
    have outside : ¬ ((48 ≤ c.val.toNat ∧ c.val.toNat ≤ 57) ∨ (97 ≤ c.val.toNat ∧ c.val.toNat ≤ 102) ∨
        (65 ≤ c.val.toNat ∧ c.val.toNat ≤ 70)) := by
      omega
    refine iff_of_false (fun all => noDigit ?_) outside
    split at all
    · exact all _ (by simp)
    · split at all
      · exact all _ (by simp)
      · exact all _ (by simp)

end Digits

theorem utf8_eq (text : String) : utf8 text = text.toList.flatMap String.utf8EncodeChar := by
  rw [← utf8_ofList, String.ofList_toList]

theorem hexDigits64_iff : HexDigits64 hex ↔
    (utf8 hex).length = 64 ∧ ∀ byte ∈ utf8 hex, (hexDigit byte).isSome := by
  have every : (∀ byte ∈ utf8 hex, (hexDigit byte).isSome) ↔ ∀ c ∈ hex.toList, isHexDigit c = true := by
    simp only [utf8_eq, List.mem_flatMap, forall_exists_index, and_imp, ← hexDigits_utf8EncodeChar]
    exact ⟨fun all c listed byte inside => all byte c listed inside,
      fun all byte c listed inside => all c listed byte inside⟩
  have sizes (digits : ∀ c ∈ hex.toList, isHexDigit c = true) : (utf8 hex).length = hex.length := by
    have one : hex.toList.map (fun c => (String.utf8EncodeChar c).length) = hex.toList.map fun _ => 1 := by
      apply List.map_congr_left
      intro c listed
      have digit := isHexDigit_iff.mp (digits c listed)
      have small : c.val.toNat ≤ 0x7F := by omega
      simp only [String.utf8EncodeChar, if_pos small, List.length_singleton]
    rw [utf8_eq, List.length_flatMap, one, ← String.length_toList]
    simp
  rw [every]
  constructor
  · rintro ⟨length, digits⟩
    exact ⟨(sizes digits).trans length, digits⟩
  · rintro ⟨length, digits⟩
    exact ⟨(sizes digits).symm.trans length, digits⟩

section Pairs

theorem hexPair_succ (rest : List UInt8) : hexPair (first :: second :: rest) (i + 1) = hexPair rest i := by
  unfold hexPair
  rw [Nat.add_mul, Nat.one_mul, List.drop_succ_cons, List.drop_succ_cons]

/-- Reading pair by pair from the front. -/
theorem hexBytes_eq_some (long : bytes.length = 2 * n) {read : List UInt8} : hexBytes bytes = some read ↔
    List.Forall₂ (fun i byte => hexPair bytes i = some byte) (List.range n) read := by
  induction n generalizing bytes read with
  | zero =>
      obtain rfl := List.length_eq_zero_iff.mp long
      simp [hexBytes, eq_comm]
  | succ n ih =>
      obtain ⟨first, others, rfl⟩ := List.exists_cons_of_length_eq_add_one (n := 2 * n + 1) long
      obtain ⟨second, rest, rfl⟩ := List.exists_cons_of_length_eq_add_one (n := 2 * n) (Nat.succ.inj long)
      have shorter : rest.length = 2 * n := Nat.succ.inj (Nat.succ.inj long)
      rw [List.range_succ_eq_map, List.forall₂_cons_left_iff]
      simp only [hexBytes, Option.bind_eq_bind, Option.bind_eq_some_iff, Option.pure_def, Option.some.injEq,
        List.forall₂_map_left_iff, hexPair_succ, ih shorter]
      constructor
      · rintro ⟨byte, done, others, tail, rfl⟩
        exact ⟨byte, others, done, tail, rfl⟩
      · rintro ⟨byte, others, done, tail, rfl⟩
        exact ⟨byte, done, others, tail, rfl⟩

theorem hexByte_of_digits (high : (hexDigit first).isSome) (low : (hexDigit second).isSome) :
    ∃ byte, hexByte first second = some byte ∧ [hexDigit first, hexDigit second] =
      [some (byte.toNat / 16), some (byte.toNat % 16)] := by
  obtain ⟨h, firstIs⟩ := Option.isSome_iff_exists.mp high
  obtain ⟨l, secondIs⟩ := Option.isSome_iff_exists.mp low
  have highBound := hexDigit_lt firstIs
  have lowBound := hexDigit_lt secondIs
  have value : (UInt8.ofNat (16 * h + l)).toNat = 16 * h + l := by
    rw [UInt8.toNat_ofNat']
    omega
  refine ⟨UInt8.ofNat (16 * h + l), by simp [hexByte, firstIs, secondIs], ?_⟩
  rw [firstIs, secondIs, value]
  congr 2
  · omega
  · congr 1
    omega

/-- Digits are read as the bytes that they write. -/
theorem hexBytes_of_digits (long : bytes.length = 2 * n) (digits : ∀ byte ∈ bytes, (hexDigit byte).isSome) :
    ∃ read, hexBytes bytes = some read ∧
      bytes.map hexDigit = read.flatMap fun byte => [some (byte.toNat / 16), some (byte.toNat % 16)] := by
  induction n generalizing bytes with
  | zero =>
      obtain rfl := List.length_eq_zero_iff.mp long
      exact ⟨[], rfl, rfl⟩
  | succ n ih =>
      obtain ⟨first, others, rfl⟩ := List.exists_cons_of_length_eq_add_one (n := 2 * n + 1) long
      obtain ⟨second, rest, rfl⟩ := List.exists_cons_of_length_eq_add_one (n := 2 * n) (Nat.succ.inj long)
      obtain ⟨read, done, written⟩ := @ih rest (Nat.succ.inj (Nat.succ.inj long))
        fun byte listed => digits byte (List.mem_cons_of_mem _ (List.mem_cons_of_mem _ listed))
      obtain ⟨byte, pair, halves⟩ := hexByte_of_digits (digits first (by simp)) (digits second (by simp))
      refine ⟨byte :: read, by simp [hexBytes, pair, done], ?_⟩
      rw [List.flatMap_cons, ← halves, ← written]
      rfl

/-- A pair that is read is of single bytes. -/
theorem ascii_of_hexByte {byte : UInt8} (read : hexByte first second = some byte) :
    first.toNat < 128 ∧ second.toNat < 128 := by
  have digit {value : UInt8} {number : Nat} (is : hexDigit value = some number) : value.toNat < 128 := by
    have some_ : (hexDigit value).isSome := by rw [is]; rfl
    have range := hexDigit_isSome_iff.mp some_
    omega
  unfold hexByte at read
  split at read
  · next high low => exact ⟨digit high, digit low⟩
  · next low =>
    split at read
    · next plus =>
      rw [plus]
      exact ⟨by decide, digit low⟩
    · cases read
  · cases read

theorem hexPair_eq_some {byte : UInt8} (read : hexPair bytes i = some byte) :
    ∃ first second, bytes[i * 2]? = some first ∧ bytes[i * 2 + 1]? = some second ∧
      hexByte first second = some byte := by
  unfold hexPair at read
  split at read
  · next first second taken =>
    have at_ (k : Nat) : ((bytes.drop (i * 2)).take 2)[k]? = [first, second][k]? := by rw [taken]
    have zero := at_ 0
    have one := at_ 1
    rw [List.getElem?_take_of_lt (by decide), List.getElem?_drop] at zero one
    exact ⟨first, second, zero, one, read⟩
  · cases read

end Pairs

section Running

theorem isCharBoundary_of_ascii {index : Nat} (inside : index ≤ bytes.length)
    (ascii : ∀ byte ∈ bytes[index]?, byte.toNat < 128) : isCharBoundary bytes index = true := by
  rcases Nat.lt_or_eq_of_le inside with below | rfl
  · have there := List.getElem?_eq_getElem below
    have small := ascii _ there
    unfold isCharBoundary
    rw [there]
    have less : bytes[index] < 128 := UInt8.lt_iff_toNat_lt.mpr small
    simp [less]
  · simp [isCharBoundary]

theorem hexAt_eq_ok {byte : UInt8} : hexAt bytes what i = .ok byte ↔
    (isCharBoundary bytes (i * 2) = true ∧ isCharBoundary bytes (i * 2 + 2) = true) ∧
      hexPair bytes i = some byte := by
  unfold hexAt
  split
  · next bounds => simp [bounds]
  · next bounds => simp [bounds]

theorem hexAt_eq_refused {error : SharedError} : hexAt bytes what i = .error (.refused error) ↔
    (isCharBoundary bytes (i * 2) = true ∧ isCharBoundary bytes (i * 2 + 2) = true) ∧
      hexPair bytes i = none ∧ error = .text s!"{what} 가 hex 가 아니다" := by
  unfold hexAt
  split
  · next bounds =>
    rw [Except.ofOption_eq_error]
    simp [bounds, eq_comm (a := error)]
  · next bounds => simp [bounds]

/-- Where all pairs are read no character is cut. -/
theorem hex32Run_eq_ok (size : hex.utf8ByteSize = 64) {read : List UInt8} :
    hex32Run hex what = .ok read ↔ hexBytes (utf8 hex) = some read := by
  have long : (utf8 hex).length = 2 * 32 := (utf8ByteSize_eq hex).symm.trans size
  rw [hex32Run, if_neg (not_not.mpr size), Except.mapM_eq_ok, hexBytes_eq_some long]
  simp only [hexAt_eq_ok]
  constructor
  · intro each
    exact each.imp fun _ _ both => both.2
  · intro each
    have readable : ∀ i < 32, ∃ byte, hexPair (utf8 hex) i = some byte := by
      intro i inside
      obtain ⟨byte, _, done⟩ := List.Forall₂.exists_right each (List.mem_range.mpr inside)
      exact ⟨byte, done⟩
    have ascii : ∀ index ≤ 64, isCharBoundary (utf8 hex) index = true := by
      intro index inside
      refine isCharBoundary_of_ascii (by omega) fun byte there => ?_
      have below := (List.getElem?_eq_some_iff.mp there).1
      obtain ⟨_, done⟩ := readable (index / 2) (by omega)
      obtain ⟨first, second, even, odd, pair⟩ := hexPair_eq_some done
      obtain ⟨firstSmall, secondSmall⟩ := ascii_of_hexByte pair
      rcases Nat.mod_two_eq_zero_or_one index with even_ | odd_
      · have place : index / 2 * 2 = index := by omega
        rw [place] at even
        obtain rfl := Option.some.inj (even.symm.trans there)
        exact firstSmall
      · have place : index / 2 * 2 + 1 = index := by omega
        rw [place] at odd
        obtain rfl := Option.some.inj (odd.symm.trans there)
        exact secondSmall
    refine (List.forall₂_and_left _ _).mpr ⟨fun i listed => ?_, each⟩
    have inside := List.mem_range.mp listed
    exact ⟨ascii _ (by omega), ascii _ (by omega)⟩

end Running

/-- No panic, success on exactly 64 digits, and the bytes that they write. -/
structure ReadsHex (hex what : String) : Prop where
  noPanic : hex32Run hex what ≠ .error .panicked
  accepts : (∃ bytes, hex32Run hex what = .ok bytes) ↔ HexDigits64 hex
  written : ∀ bytes, hex32Run hex what = .ok bytes → Writes hex bytes

/-- The first pair that is no number is made of whole characters, and so are the pairs before it. -/
def StopsAtWholePair (bytes : List UInt8) : Prop :=
  ∃ i < 32, (∀ j < i, (hexPair bytes j).isSome) ∧ hexPair bytes i = none ∧
    ∀ j ≤ i, isCharBoundary bytes (j * 2 + 2) = true

theorem stops_of_not_digits (size : hex.utf8ByteSize = 64) (mixed : ¬ HexDigits64 hex) :
    ReadsHex hex what ↔ StopsAtWholePair (utf8 hex) := by
  have run : hex32Run hex what = (List.range 32).mapM (hexAt (utf8 hex) what) := by
    rw [hex32Run, if_neg (not_not.mpr size)]
  constructor
  · intro reads
    cases outcome : hex32Run hex what with
    | ok bytes => exact absurd (reads.accepts.mp ⟨bytes, outcome⟩) mixed
    | error stop =>
        cases stop with
        | panicked => exact absurd outcome reads.noPanic
        | refused error =>
            rw [run, Except.mapM_range_eq_error] at outcome
            obtain ⟨i, inside, before, refused⟩ := outcome
            obtain ⟨bounds, unread, _⟩ := hexAt_eq_refused.mp refused
            refine ⟨i, inside, fun j below => ?_, unread, fun j upTo => ?_⟩
            · obtain ⟨byte, done⟩ := before j below
              rw [(hexAt_eq_ok.mp done).2]
              rfl
            · rcases Nat.lt_or_eq_of_le upTo with below | rfl
              · obtain ⟨byte, done⟩ := before j below
                exact (hexAt_eq_ok.mp done).1.2
              · exact bounds.2
  · rintro ⟨i, inside, readable, unread, whole⟩
    have start (j : Nat) (upTo : j ≤ i) : isCharBoundary (utf8 hex) (j * 2) = true := by
      cases j with
      | zero => simp [isCharBoundary]
      | succ j =>
          rw [Nat.succ_mul]
          exact whole j (by omega)
    have refused : hex32Run hex what = .error (.refused (.text s!"{what} 가 hex 가 아니다")) := by
      rw [run, Except.mapM_range_eq_error]
      refine ⟨i, inside, fun j below => ?_, hexAt_eq_refused.mpr ⟨⟨start i le_rfl, whole i le_rfl⟩, unread, rfl⟩⟩
      obtain ⟨byte, done⟩ := Option.isSome_iff_exists.mp (readable j below)
      exact ⟨byte, hexAt_eq_ok.mpr ⟨⟨start j below.le, whole j below.le⟩, done⟩⟩
    constructor
    · rw [refused]
      simp
    · rw [refused]
      exact iff_of_false (by simp) mixed
    · rw [refused]
      intro bytes done
      cases done

/-- Digests are read as they should unless 64 bytes hold a sign for a digit or a character that is cut. -/
theorem hex32_reads_iff (hex what : String) : ReadsHex hex what ↔
    hex.utf8ByteSize ≠ 64 ∨ HexDigits64 hex ∨ StopsAtWholePair (utf8 hex) := by
  by_cases size : hex.utf8ByteSize = 64
  · by_cases digits : HexDigits64 hex
    · refine iff_of_true ?_ (.inr (.inl digits))
      obtain ⟨length, each⟩ := hexDigits64_iff.mp digits
      obtain ⟨read, done, written⟩ := @hexBytes_of_digits (utf8 hex) 32 length each
      have outcome : hex32Run hex what = .ok read := (hex32Run_eq_ok size).mpr done
      constructor
      · rw [outcome]
        simp
      · exact iff_of_true ⟨read, outcome⟩ digits
      · intro bytes same
        obtain rfl := Except.ok.inj (outcome.symm.trans same)
        exact written
    · rw [stops_of_not_digits size digits]
      simp [size, digits]
  · have refused : hex32Run hex what = .error (.refused (.text s!"{what} 가 32바이트 hex 가 아니다")) := by
      rw [hex32Run, if_pos size]
    have mixed : ¬ HexDigits64 hex := by
      intro digits
      exact size ((utf8ByteSize_eq hex).trans (hexDigits64_iff.mp digits).1)
    refine iff_of_true ?_ (.inl size)
    constructor
    · rw [refused]
      simp
    · rw [refused]
      exact iff_of_false (by simp) mixed
    · rw [refused]
      intro bytes done
      cases done

/-- 32 signs with a digit each. -/
def signedZeros : String := String.join (List.replicate 32 "+0")

/-- A cut: one byte, then a character of two. -/
def cutInside : String := "aéaaaaaaaaaaaaaaaaaaaaaaaaaaaaaaaaaaaaaaaaaaaaaaaaaaaaaaaaaaaaa"

theorem signs_are_read_and_a_cut_panics :
    ¬ (∀ hex what, ReadsHex hex what) ∧
      hex32Run signedZeros "file digest" = .ok (List.replicate 32 0) ∧ ¬ HexDigits64 signedZeros ∧
      hex32Run cutInside "file digest" = .error .panicked := by
  have signs : hex32Run signedZeros "file digest" = .ok (List.replicate 32 0) :=
    (hex32Run_eq_ok (by decide +kernel)).mpr (by decide +kernel)
  have mixed : ¬ HexDigits64 signedZeros := by
    intro digits
    exact absurd (digits.digits '+' (by decide)) (by decide)
  refine ⟨fun all => mixed ((all signedZeros "file digest").accepts.mp ⟨_, signs⟩), signs, mixed, ?_⟩
  have cut : hexAt (utf8 cutInside) "file digest" 0 = .error .panicked := if_neg (by decide +kernel)
  rw [hex32Run, if_neg (by decide +kernel), Except.mapM_range_eq_error]
  exact ⟨0, by decide, fun j below => absurd below (Nat.not_lt_zero j), cut⟩

end Gputeer.Checkpoint
