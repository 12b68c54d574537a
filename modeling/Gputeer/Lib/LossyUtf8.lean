import Mathlib.Data.List.DropRight
import Mathlib.Data.List.Infix
import Mathlib.Tactic.Common

/-! Bytes read as UTF-8 with a replacement character for what is not, a byte at a time. -/

namespace LossyUtf8

/-- Which bytes may follow a first byte: not all of them where the code would be too short, of a surrogate or too
large. -/
inductive TailRange where
  | any
  | fromA0
  | upTo9F
  | from90
  | upTo8F

namespace TailRange

def low : TailRange → UInt8
  | .any | .upTo9F | .upTo8F => 0x80
  | .fromA0 => 0xA0
  | .from90 => 0x90

def high : TailRange → UInt8
  | .any | .fromA0 | .from90 => 0xBF
  | .upTo9F => 0x9F
  | .upTo8F => 0x8F

end TailRange

/-- Between two characters, or inside one with the code so far and how many bytes it waits for after the next. -/
inductive State where
  | start
  | inside (code owed : Nat) (range : TailRange)

def replacement : Char := Char.ofNat 0xFFFD

def first (byte : UInt8) : List Char × State :=
  if byte < 0x80 then ([Char.ofNat byte.toNat], .start)
  else if 0xC2 ≤ byte ∧ byte ≤ 0xDF then ([], .inside (byte.toNat - 0xC0) 0 .any)
  else if byte = 0xE0 then ([], .inside 0 1 .fromA0)
  else if byte = 0xED then ([], .inside 0xD 1 .upTo9F)
  else if 0xE1 ≤ byte ∧ byte ≤ 0xEF then ([], .inside (byte.toNat - 0xE0) 1 .any)
  else if byte = 0xF0 then ([], .inside 0 2 .from90)
  else if 0xF1 ≤ byte ∧ byte ≤ 0xF3 then ([], .inside (byte.toNat - 0xF0) 2 .any)
  else if byte = 0xF4 then ([], .inside 4 2 .upTo8F)
  else ([replacement], .start)

/-- A byte that goes on with a character. -/
def goOn (code : Nat) (byte : UInt8) : Nat → List Char × State
  | 0 => ([Char.ofNat (code * 64 + (byte.toNat - 0x80))], .start)
  | owed + 1 => ([], .inside (code * 64 + (byte.toNat - 0x80)) owed .any)

/-- A byte that cannot follow ends the character before it and is read as a first one. -/
def step : State → UInt8 → List Char × State
  | .start, byte => first byte
  | .inside code owed range, byte =>
      if range.low ≤ byte ∧ byte ≤ range.high then goOn code byte owed
      else (replacement :: (first byte).1, (first byte).2)

def decode : State → List UInt8 → List Char
  | .start, [] => []
  | .inside _ _ _, [] => [replacement]
  | state, byte :: bytes => (step state byte).1 ++ decode (step state byte).2 bytes

/-- `String::from_utf8_lossy`. -/
def fromUtf8Lossy (bytes : List UInt8) : List Char := decode .start bytes

def ascii (byte : UInt8) : Char := Char.ofNat byte.toNat

variable {byte : UInt8} {bytes : List UInt8} {state : State}

theorem decode_cons (state : State) (byte : UInt8) (bytes : List UInt8) :
    decode state (byte :: bytes) = (step state byte).1 ++ decode (step state byte).2 bytes := by
  cases state with
  | start => rfl
  | inside code owed range => rfl

theorem first_ascii (isAscii : byte < 0x80) : first byte = ([ascii byte], .start) := by
  rw [first, if_pos isAscii]
  rfl

theorem low_ge (range : TailRange) : 0x80 ≤ range.low := by
  cases range <;> decide

/-- An ASCII byte is never inside a character. -/
theorem step_inside_ascii (code owed : Nat) (range : TailRange) (isAscii : byte < 0x80) :
    step (.inside code owed range) byte = ([replacement, ascii byte], .start) := by
  have notTail : ¬ (range.low ≤ byte ∧ byte ≤ range.high) := by
    intro tail
    have low := UInt8.le_trans (low_ge range) tail.1
    exact absurd isAscii (UInt8.not_lt.mpr low)
  rw [step, if_neg notTail, first_ascii isAscii]

theorem decode_snoc_ascii (isAscii : byte < 0x80) (state : State) (bytes : List UInt8) :
    decode state (bytes ++ [byte]) = decode state bytes ++ [ascii byte] := by
  induction bytes generalizing state with
  | nil =>
      rw [List.nil_append, decode_cons]
      cases state with
      | start => rw [step, first_ascii isAscii]; rfl
      | inside code owed range => rw [step_inside_ascii code owed range isAscii]; rfl
  | cons head bytes ih => rw [List.cons_append, decode_cons, decode_cons, ih, List.append_assoc]

/-- The numbers of the characters beyond ASCII. -/
def IsWide (code : Nat) : Prop := (0x80 ≤ code ∧ code < 0xD800) ∨ (0xE000 ≤ code ∧ code < 0x110000)

/-- However the character goes on, it is one beyond ASCII. -/
def GoesOnWide (code : Nat) : Nat → TailRange → Prop
  | 0, range => ∀ byte : Nat, range.low.toNat ≤ byte → byte ≤ range.high.toNat → IsWide (code * 64 + (byte - 0x80))
  | owed + 1, range => ∀ byte : Nat, range.low.toNat ≤ byte → byte ≤ range.high.toNat →
      GoesOnWide (code * 64 + (byte - 0x80)) owed .any

def State.Sound : State → Prop
  | .start => True
  | .inside code owed range => GoesOnWide code owed range

/-- The second of three bytes settles whether they are a character beyond ASCII. -/
theorem goesOnWide_two {code : Nat} {range : TailRange}
    (bounds : ∀ byte, range.low.toNat ≤ byte → byte ≤ range.high.toNat →
      (0x2 ≤ code * 64 + (byte - 0x80) ∧ code * 64 + (byte - 0x80) < 0x360) ∨
        (0x380 ≤ code * 64 + (byte - 0x80) ∧ code * 64 + (byte - 0x80) < 0x4400)) :
    GoesOnWide code 1 range := by
  intro second low high third lowThird highThird
  have settled := bounds second low high
  simp only [TailRange.low, TailRange.high, UInt8.reduceToNat] at lowThird highThird
  unfold IsWide
  omega

/-- The second of four bytes, too. -/
theorem goesOnWide_three {code : Nat} {range : TailRange}
    (bounds : ∀ byte, range.low.toNat ≤ byte → byte ≤ range.high.toNat →
      0x10 ≤ code * 64 + (byte - 0x80) ∧ code * 64 + (byte - 0x80) < 0x110) : GoesOnWide code 2 range := by
  intro second low high
  have settled := bounds second low high
  apply goesOnWide_two
  intro third lowThird highThird
  simp only [TailRange.low, TailRange.high, UInt8.reduceToNat] at lowThird highThird
  omega

theorem sound_first (byte : UInt8) : (first byte).2.Sound := by
  unfold first
  split
  · trivial
  split
  · next lead =>
    rw [UInt8.le_iff_toNat_le, UInt8.le_iff_toNat_le] at lead
    intro tail low high
    simp only [TailRange.low, TailRange.high, UInt8.reduceToNat] at lead low high
    unfold IsWide
    omega
  split
  · apply goesOnWide_two
    intro second low high
    simp only [TailRange.low, TailRange.high, UInt8.reduceToNat] at low high
    omega
  split
  · apply goesOnWide_two
    intro second low high
    simp only [TailRange.low, TailRange.high, UInt8.reduceToNat] at low high
    omega
  split
  · next notE0 notED lead =>
    have apartE0 : byte.toNat ≠ 0xE0 := fun same => notE0 (UInt8.toNat_inj.mp same)
    have apartED : byte.toNat ≠ 0xED := fun same => notED (UInt8.toNat_inj.mp same)
    rw [UInt8.le_iff_toNat_le, UInt8.le_iff_toNat_le] at lead
    apply goesOnWide_two
    intro second low high
    simp only [TailRange.low, TailRange.high, UInt8.reduceToNat] at lead low high
    omega
  split
  · apply goesOnWide_three
    intro second low high
    simp only [TailRange.low, TailRange.high, UInt8.reduceToNat] at low high
    omega
  split
  · next lead =>
    rw [UInt8.le_iff_toNat_le, UInt8.le_iff_toNat_le] at lead
    apply goesOnWide_three
    intro second low high
    simp only [TailRange.low, TailRange.high, UInt8.reduceToNat] at lead low high
    omega
  split
  · apply goesOnWide_three
    intro second low high
    simp only [TailRange.low, TailRange.high, UInt8.reduceToNat] at low high
    omega
  · trivial

theorem wide_char {code : Nat} (wide : IsWide code) : 0x80 ≤ (Char.ofNat code).toNat := by
  have isValid : code.isValidChar := by
    unfold IsWide at wide
    unfold Nat.isValidChar
    omega
  have same : (Char.ofNat code).toNat = code := by
    rw [Char.ofNat, dif_pos isValid]
    rfl
  unfold IsWide at wide
  omega

/-- What is given out inside a character starts beyond ASCII. -/
theorem decode_inside {code owed : Nat} {range : TailRange} (wide : GoesOnWide code owed range) (bytes : List UInt8) :
    ∃ c chars, decode (.inside code owed range) bytes = c :: chars ∧ 0x80 ≤ c.toNat := by
  induction bytes generalizing code owed range with
  | nil => exact ⟨replacement, [], rfl, by decide⟩
  | cons byte bytes ih =>
      rw [decode_cons, step]
      split
      · next tail =>
        rw [UInt8.le_iff_toNat_le, UInt8.le_iff_toNat_le] at tail
        cases owed with
        | zero => exact ⟨_, _, rfl, wide_char (wide byte.toNat tail.1 tail.2)⟩
        | succ owed => exact ih (wide byte.toNat tail.1 tail.2)
      · exact ⟨replacement, _, rfl, by decide⟩

/-- A byte beyond ASCII starts a character or is replaced. -/
theorem first_wide (isWide : ¬ byte < 0x80) : first byte = ([replacement], .start) ∨
    ∃ code owed range, first byte = ([], .inside code owed range) := by
  unfold first
  rw [if_neg isWide]
  iterate 7 (split; · exact .inr ⟨_, _, _, rfl⟩)
  exact .inl rfl

theorem fromUtf8Lossy_wide (isWide : ¬ byte < 0x80) (bytes : List UInt8) :
    ∃ c chars, fromUtf8Lossy (byte :: bytes) = c :: chars ∧ 0x80 ≤ c.toNat := by
  have sound := sound_first byte
  rw [fromUtf8Lossy, decode_cons, step]
  rcases first_wide isWide with replaced | ⟨code, owed, range, begun⟩
  · rw [replaced]
    exact ⟨replacement, _, rfl, by decide⟩
  · rw [begun] at sound ⊢
    exact decode_inside sound bytes

theorem fromUtf8Lossy_ascii (isAscii : byte < 0x80) (bytes : List UInt8) :
    fromUtf8Lossy (byte :: bytes) = ascii byte :: fromUtf8Lossy bytes := by
  rw [fromUtf8Lossy, decode_cons, step, first_ascii isAscii]
  rfl

theorem fromUtf8Lossy_snoc_ascii (isAscii : byte < 0x80) (bytes : List UInt8) :
    fromUtf8Lossy (bytes ++ [byte]) = fromUtf8Lossy bytes ++ [ascii byte] :=
  decode_snoc_ascii isAscii .start bytes

theorem toNat_ascii (isAscii : byte < 0x80) : (ascii byte).toNat = byte.toNat := by
  have below : byte.toNat < 0x80 := UInt8.lt_iff_toNat_lt.mp isAscii
  have isValid : byte.toNat.isValidChar := by
    unfold Nat.isValidChar
    omega
  rw [ascii, Char.ofNat, dif_pos isValid]
  rfl

theorem ascii_injective {other : UInt8} (isAscii : byte < 0x80) (otherAscii : other < 0x80)
    (same : ascii byte = ascii other) : byte = other := by
  apply UInt8.toNat_inj.mp
  rw [← toNat_ascii isAscii, ← toNat_ascii otherAscii, same]

/-- An ASCII text stands at the beginning of what is read exactly where its bytes do. -/
theorem ascii_prefix_iff {start bytes : List UInt8} (isAscii : ∀ byte ∈ start, byte < 0x80) :
    start.map ascii <+: fromUtf8Lossy bytes ↔ start <+: bytes := by
  induction start generalizing bytes with
  | nil => simp
  | cons byte start ih =>
      have headAscii := isAscii byte List.mem_cons_self
      have tailAscii : ∀ byte ∈ start, byte < 0x80 := fun later listed => isAscii later (List.mem_cons_of_mem _ listed)
      cases bytes with
      | nil => simp [fromUtf8Lossy, decode]
      | cons head bytes =>
          rw [List.map_cons, List.cons_prefix_cons]
          by_cases wide : head < 0x80
          · rw [fromUtf8Lossy_ascii wide, List.cons_prefix_cons, ih tailAscii]
            constructor
            · intro ⟨same, rest⟩
              exact ⟨ascii_injective headAscii wide same, rest⟩
            · intro ⟨same, rest⟩
              exact ⟨by rw [same], rest⟩
          · obtain ⟨c, chars, isText, beyond⟩ := fromUtf8Lossy_wide wide bytes
            rw [isText, List.cons_prefix_cons]
            constructor
            · intro ⟨same, _⟩
              rw [← same, toNat_ascii headAscii] at beyond
              exact absurd (UInt8.lt_iff_toNat_lt.mp headAscii) (not_lt_of_ge beyond)
            · intro ⟨same, _⟩
              rw [same] at headAscii
              exact absurd headAscii wide

end LossyUtf8
