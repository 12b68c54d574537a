import Mathlib.Data.List.Basic
import Mathlib.Tactic.Common
import Gputeer.Lib.Except

/-! Readers that take bytes off the front of their input, the writers they undo, and rules to
prove that the two fit together. -/

abbrev Reader (ε α : Type) := StateT (List UInt8) (Except ε) α

namespace Reader

variable {ε α β : Type}

/-- A decision that consumes nothing. -/
def lift (answer : Except ε α) : Reader ε α := fun input => answer.map (·, input)

def take (short : ε) (count : Nat) : Reader ε (List UInt8) := fun input =>
  if count ≤ input.length then .ok (input.take count, input.drop count) else .error short

def many (reader : Reader ε α) : Nat → Reader ε (List α)
  | 0 => pure []
  | count + 1 => do
      let head ← reader
      let tail ← many reader count
      return head :: tail

/-- The writer's loop: append the bytes of each value, stop at the first refusal. -/
def writeAll (write : α → Except ε (List UInt8)) : List α → Except ε (List UInt8)
  | [] => .ok []
  | head :: tail => do
      let first ← write head
      let rest ← writeAll write tail
      return first ++ rest

@[simp] theorem bind_eq_ok {reader : Reader ε α} {next : α → Reader ε β} {input rest : List UInt8}
    {value : β} :
    (reader >>= next) input = .ok (value, rest) ↔
      ∃ first between, reader input = .ok (first, between) ∧
        next first between = .ok (value, rest) := by
  change (reader input >>= fun p => next p.1 p.2) = .ok (value, rest) ↔ _
  rw [Except.bind_eq_ok]
  constructor
  · intro h
    rcases h with ⟨⟨first, between⟩, ran, continued⟩
    exact ⟨first, between, ran, continued⟩
  · intro h
    rcases h with ⟨first, between, ran, continued⟩
    exact ⟨(first, between), ran, continued⟩

@[simp] theorem pure_eq_ok {input rest : List UInt8} {value result : α} :
    (pure value : Reader ε α) input = .ok (result, rest) ↔ value = result ∧ input = rest := by
  change (Except.ok (value, input) : Except ε (α × List UInt8)) = _ ↔ _
  simp

@[simp] theorem lift_eq_ok {answer : Except ε α} {input rest : List UInt8} {value : α} :
    lift answer input = .ok (value, rest) ↔ answer = .ok value ∧ input = rest := by
  cases answer <;> simp [lift, Except.map]

@[simp] theorem take_eq_ok {short : ε} {count : Nat} {input rest bytes : List UInt8} :
    take short count input = .ok (bytes, rest) ↔ bytes.length = count ∧ input = bytes ++ rest := by
  simp only [take]
  split
  · rename_i enough
    simp only [Except.ok.injEq, Prod.mk.injEq]
    constructor
    · intro h
      rw [← h.1, ← h.2]
      rw [List.length_take]
      exact ⟨by omega, by simp⟩
    · intro h
      rw [h.2, ← h.1]
      simp
  · rename_i few
    simp only [reduceCtorEq, false_iff]
    intro h
    rw [h.2, List.length_append] at few
    omega

@[simp] theorem writeAll_nil (write : α → Except ε (List UInt8)) : writeAll write [] = .ok [] := rfl

theorem writeAll_cons {write : α → Except ε (List UInt8)} {head : α} {tail : List α}
    {bytes : List UInt8} :
    writeAll write (head :: tail) = .ok bytes ↔
      ∃ first rest, write head = .ok first ∧ writeAll write tail = .ok rest ∧
        bytes = first ++ rest := by
  simp only [writeAll, Except.bind_eq_ok, Except.pure_eq_ok]
  constructor
  · intro h
    rcases h with ⟨first, written, rest, others, same⟩
    exact ⟨first, rest, written, others, same.symm⟩
  · intro h
    rcases h with ⟨first, rest, written, others, same⟩
    exact ⟨first, written, rest, others, same.symm⟩

/-- Reading `count` values inverts the writer's loop when reading one value inverts one write. -/
theorem many_sound {reader : Reader ε α} {write : α → Except ε (List UInt8)}
    (sound : ∀ {input value rest}, reader input = .ok (value, rest) →
      ∃ bytes, write value = .ok bytes ∧ input = bytes ++ rest)
    {count : Nat} {input rest : List UInt8} {values : List α}
    (ran : many reader count input = .ok (values, rest)) :
    values.length = count ∧ ∃ bytes, writeAll write values = .ok bytes ∧ input = bytes ++ rest := by
  induction count generalizing input values with
  | zero =>
      simp only [many, pure_eq_ok] at ran
      rcases ran with ⟨rfl, rfl⟩
      exact ⟨rfl, [], rfl, rfl⟩
  | succ count ih =>
      simp only [many, bind_eq_ok, pure_eq_ok] at ran
      rcases ran with ⟨head, between, first, tail, after, others, rfl, rfl⟩
      rcases sound first with ⟨bytes, written, rfl⟩
      rcases ih others with ⟨length, more, writtenMore, rfl⟩
      refine ⟨by simp [length], bytes ++ more, ?_, by simp⟩
      exact writeAll_cons.mpr ⟨bytes, more, written, writtenMore, rfl⟩

/-- What the writer's loop produced is read back when each single write is. -/
theorem many_complete {reader : Reader ε α} {write : α → Except ε (List UInt8)} {values : List α}
    (complete : ∀ value ∈ values, ∀ bytes rest, write value = .ok bytes →
      reader (bytes ++ rest) = .ok (value, rest))
    {bytes : List UInt8} (written : writeAll write values = .ok bytes) (rest : List UInt8) :
    many reader values.length (bytes ++ rest) = .ok (values, rest) := by
  induction values generalizing bytes with
  | nil =>
      simp only [writeAll_nil, Except.ok.injEq] at written
      subst written
      simp [many]
  | cons head tail ih =>
      rcases writeAll_cons.mp written with ⟨first, others, writtenHead, writtenTail, rfl⟩
      simp only [List.length_cons, many, bind_eq_ok, pure_eq_ok, List.append_assoc]
      refine ⟨head, others ++ rest, complete head (by simp) first _ writtenHead, tail, rest, ?_,
        rfl, rfl⟩
      exact ih (fun value member => complete value (by simp [member])) writtenTail

end Reader
