import Mathlib.Data.List.TakeWhile
import Mathlib.Data.UInt
import Mathlib.Tactic.Common

/-! How a process on Windows splits its command line into arguments, on UTF-16 units. -/

namespace ArgumentRules

def space : UInt16 := 0x20

def tab : UInt16 := 0x09

def quote : UInt16 := 0x22

def backslash : UInt16 := 0x5C

def isBlank (unit : UInt16) : Bool := unit = space ∨ unit = tab

/-- The first token ends at its closing quote, or at a blank if it is not quoted; backslashes are plain. -/
def firstToken (line : List UInt16) : List UInt16 × List UInt16 :=
  if line.head? = some quote then
    (line.tail.takeWhile (· ≠ quote), (line.tail.dropWhile (· ≠ quote)).tail)
  else (line.takeWhile (!isBlank ·), line.dropWhile (!isBlank ·))

/-- Between two tokens, or in one: quoted or not, after some backslashes that may belong to a quote. -/
inductive State
  | between
  | inside (quoted : Bool) (backslashes : Nat) (token : List UInt16)

/-- In a token, a quote after an even number of backslashes turns quoting on or off and halves them, after an
odd number it is literal; other backslashes are literal; a blank outside quotes ends the token. -/
def stepInside (quoted : Bool) (backslashes : Nat) (token : List UInt16) (unit : UInt16) :
    Option (List UInt16) × State :=
  if unit = backslash then (none, .inside quoted (backslashes + 1) token)
  else if unit = quote then
    let halved := token ++ List.replicate (backslashes / 2) backslash
    if backslashes % 2 = 0 then (none, .inside (!quoted) 0 halved)
    else (none, .inside quoted 0 (halved ++ [quote]))
  else if !quoted && isBlank unit then (some (token ++ List.replicate backslashes backslash), .between)
  else (none, .inside quoted 0 (token ++ List.replicate backslashes backslash ++ [unit]))

def step : State → UInt16 → Option (List UInt16) × State
  | .between, unit => if isBlank unit then (none, .between) else stepInside false 0 [] unit
  | .inside quoted backslashes token, unit => stepInside quoted backslashes token unit

def tokens : State → List UInt16 → List (List UInt16)
  | .between, [] => []
  | .inside _ backslashes token, [] => [token ++ List.replicate backslashes backslash]
  | state, unit :: rest => (step state unit).1.toList ++ tokens (step state unit).2 rest

def split (line : List UInt16) : List (List UInt16) :=
  (firstToken line).1 :: tokens .between (firstToken line).2

variable {quoted : Bool} {backslashes count : Nat} {token rest : List UInt16} {unit : UInt16}

/-- A unit without a meaning of its own in the state. -/
def Plain (quoted : Bool) (unit : UInt16) : Prop :=
  unit ≠ backslash ∧ unit ≠ quote ∧ (quoted = false → isBlank unit = false)

theorem tokens_backslashes (count : Nat) :
    tokens (.inside quoted backslashes token) (List.replicate count backslash ++ rest) =
      tokens (.inside quoted (backslashes + count) token) rest := by
  induction count generalizing backslashes with
  | zero => rfl
  | succ count ih =>
      rw [List.replicate_succ, List.cons_append, tokens, step, stepInside, if_pos rfl]
      simp only [Option.toList_none, List.nil_append]
      rw [ih, Nat.add_right_comm, Nat.add_assoc]

theorem tokens_backslash : tokens (.inside quoted backslashes token) (backslash :: rest) =
    tokens (.inside quoted (backslashes + 1) token) rest := tokens_backslashes 1

theorem tokens_plain (plain : Plain quoted unit) :
    tokens (.inside quoted backslashes token) (unit :: rest) =
      tokens (.inside quoted 0 (token ++ List.replicate backslashes backslash ++ [unit])) rest := by
  obtain ⟨notBackslash, notQuote, notEnd⟩ := plain
  have stays : (!quoted && isBlank unit) = false := by
    cases quoted with
    | true => rfl
    | false => rw [notEnd rfl]; rfl
  rw [tokens, step, stepInside, if_neg notBackslash, if_neg notQuote, stays]
  simp

theorem tokens_toggle :
    tokens (.inside quoted (2 * count) token) (quote :: rest) =
      tokens (.inside (!quoted) 0 (token ++ List.replicate count backslash)) rest := by
  have half : 2 * count / 2 = count := by omega
  have even : 2 * count % 2 = 0 := by omega
  rw [tokens, step, stepInside, if_neg (by decide), if_pos rfl]
  simp only [half, even, if_true, Option.toList_none, List.nil_append]

theorem tokens_literal_quote :
    tokens (.inside quoted (2 * count + 1) token) (quote :: rest) =
      tokens (.inside quoted 0 (token ++ List.replicate count backslash ++ [quote])) rest := by
  have half : (2 * count + 1) / 2 = count := by omega
  have odd : (2 * count + 1) % 2 ≠ 0 := by omega
  rw [tokens, step, stepInside, if_neg (by decide), if_pos rfl]
  simp only [half, if_neg odd, Option.toList_none, List.nil_append]

theorem tokens_end (blank : isBlank unit = true) :
    tokens (.inside false backslashes token) (unit :: rest) =
      (token ++ List.replicate backslashes backslash) :: tokens .between rest := by
  have notBackslash : unit ≠ backslash := by
    rintro rfl
    exact absurd blank (by decide)
  have notQuote : unit ≠ quote := by
    rintro rfl
    exact absurd blank (by decide)
  rw [tokens, step, stepInside, if_neg notBackslash, if_neg notQuote, blank]
  rfl

theorem tokens_blank (blank : isBlank unit = true) : tokens .between (unit :: rest) = tokens .between rest := by
  rw [tokens, step, if_pos blank]
  rfl

theorem tokens_begin (filled : isBlank unit = false) :
    tokens .between (unit :: rest) = tokens (.inside false 0 []) (unit :: rest) := by
  rw [tokens, step, filled, tokens, step]
  simp

/-- What ends a token: the end of the line, or a blank. -/
def Ends (rest : List UInt16) : Prop := ∀ unit ∈ rest.head?, isBlank unit = true

theorem tokens_ended (ends : Ends rest) :
    tokens (.inside false backslashes token) rest =
      (token ++ List.replicate backslashes backslash) :: tokens .between rest := by
  cases rest with
  | nil => simp [tokens]
  | cons unit rest =>
      have blank := ends unit rfl
      rw [tokens_end blank, tokens_blank blank]

/-- A token without blanks and quotes stands for itself. -/
theorem tokens_bare {units : List UInt16} (ends : Ends rest)
    (bare : ∀ unit ∈ units, isBlank unit = false ∧ unit ≠ quote) :
    tokens (.inside false backslashes token) (units ++ rest) =
      (token ++ List.replicate backslashes backslash ++ units) :: tokens .between rest := by
  induction units generalizing backslashes token with
  | nil => rw [List.nil_append, tokens_ended ends, List.append_nil]
  | cons unit units ih =>
      obtain ⟨⟨filled, notQuote⟩, others⟩ := List.forall_mem_cons.mp bare
      by_cases isBackslash : unit = backslash
      · subst isBackslash
        rw [List.cons_append, tokens_backslash, ih others, List.replicate_succ']
        simp
      · rw [List.cons_append, tokens_plain ⟨isBackslash, notQuote, fun _ => filled⟩, ih others]
        simp

theorem firstToken_bare {units : List UInt16} (ends : Ends rest)
    (bare : ∀ unit ∈ units, isBlank unit = false ∧ unit ≠ quote) (some_ : units ≠ []) :
    firstToken (units ++ rest) = (units, rest) := by
  have notQuoted : (units ++ rest).head? ≠ some quote := by
    cases units with
    | nil => exact absurd rfl some_
    | cons unit units =>
        intro same
        exact (bare unit List.mem_cons_self).2 (Option.some.inj same)
  have kept : ∀ unit ∈ units, (!isBlank unit) = true := by
    intro unit listed
    rw [(bare unit listed).1]
    rfl
  have stop : rest.takeWhile (!isBlank ·) = [] ∧ rest.dropWhile (!isBlank ·) = rest := by
    cases rest with
    | nil => exact ⟨rfl, rfl⟩
    | cons unit rest =>
        have blank := ends unit rfl
        simp [List.takeWhile, List.dropWhile, blank]
  rw [firstToken, if_neg notQuoted, List.takeWhile_append_of_pos kept, List.dropWhile_append_of_pos kept, stop.1,
    stop.2, List.append_nil]

theorem firstToken_quoted {units : List UInt16} (unquoted : quote ∉ units) :
    firstToken (quote :: (units ++ quote :: rest)) = (units, rest) := by
  have kept : ∀ unit ∈ units, decide (unit ≠ quote) = true := by
    intro unit listed
    rw [decide_eq_true_eq]
    rintro rfl
    exact unquoted listed
  rw [firstToken, if_pos List.head?_cons, List.tail_cons, List.takeWhile_append_of_pos kept, List.dropWhile_append_of_pos kept]
  simp [List.takeWhile, List.dropWhile]

end ArgumentRules
