import Gputeer.Lib.ArgumentRules

/-! The command line that a worker process is started with. -/

namespace Gputeer.RuntimeWindows

open ArgumentRules

def needsQuotes (units : List UInt16) : Bool :=
  units.isEmpty || units.any fun c => c = space || c = tab || c = quote

/-- The loop over the units of a part that is quoted; the backslashes before a quote are doubled, those before
the closing quote as well. -/
def quoteUnits (backslashes : Nat) : List UInt16 → List UInt16
  | [] => List.replicate (backslashes * 2) backslash ++ [quote]
  | c :: units =>
      if c = backslash then quoteUnits (backslashes + 1) units
      else if c = quote then
        List.replicate (backslashes * 2 + 1) backslash ++ quote :: quoteUnits 0 units
      else List.replicate backslashes backslash ++ c :: quoteUnits 0 units

def quotePart (units : List UInt16) : List UInt16 :=
  if needsQuotes units then quote :: quoteUnits 0 units else units

def quoteCommandLine (exe : List UInt16) (args : List (List UInt16)) : List UInt16 :=
  quotePart exe ++ args.flatMap fun arg => space :: quotePart arg

variable {units token rest exe : List UInt16} {backslashes : Nat}

/-- In quotes the parser reads back what the loop was given, the pending backslashes first. -/
theorem tokens_quoteUnits (units rest token : List UInt16) (backslashes : Nat) :
    tokens (.inside true 0 token) (quoteUnits backslashes units ++ rest) =
      tokens (.inside false 0 (token ++ List.replicate backslashes backslash ++ units)) rest := by
  induction units generalizing backslashes token with
  | nil =>
      rw [quoteUnits, List.append_assoc, tokens_backslashes, Nat.zero_add, Nat.mul_comm, List.singleton_append,
        tokens_toggle, List.append_nil]
      rfl
  | cons c units ih =>
      unfold quoteUnits
      split
      · rename_i isBackslash
        rw [ih, isBackslash, List.replicate_succ']
        simp
      · rename_i notBackslash
        split
        · rename_i isQuote
          rw [isQuote, List.append_assoc, tokens_backslashes, Nat.zero_add, Nat.mul_comm, List.cons_append,
            tokens_literal_quote, ih]
          simp
        · rename_i notQuote
          rw [List.append_assoc, tokens_backslashes, Nat.zero_add, List.cons_append,
            tokens_plain ⟨notBackslash, notQuote, fun never => by cases never⟩, ih]
          simp

theorem bare_of_not_needsQuotes (bare : needsQuotes units = false) :
    units ≠ [] ∧ ∀ unit ∈ units, isBlank unit = false ∧ unit ≠ quote := by
  simp only [needsQuotes, Bool.or_eq_false_iff, List.any_eq_false, List.isEmpty_eq_false_iff] at bare
  refine ⟨bare.1, fun unit listed => ?_⟩
  simpa [isBlank, and_assoc] using bare.2 unit listed

/-- One argument, from the blank before it. -/
theorem tokens_quotePart (units : List UInt16) (ends : Ends rest) :
    tokens .between (space :: (quotePart units ++ rest)) = units :: tokens .between rest := by
  rw [tokens_blank rfl]
  unfold quotePart
  split
  · rw [List.cons_append, tokens_begin rfl]
    have opened : tokens (.inside false (2 * 0) []) (quote :: (quoteUnits 0 units ++ rest)) =
        tokens (.inside true 0 []) (quoteUnits 0 units ++ rest) := tokens_toggle
    rw [Nat.mul_zero] at opened
    rw [opened, tokens_quoteUnits, tokens_ended ends]
    simp
  · rename_i bare
    obtain ⟨some_, plain⟩ := bare_of_not_needsQuotes (Bool.not_eq_true _ ▸ bare)
    cases units with
    | nil => exact absurd rfl some_
    | cons unit units =>
        rw [List.cons_append, tokens_begin (plain unit List.mem_cons_self).1, ← List.cons_append,
          tokens_bare ends plain]
        simp

theorem ends_args (args : List (List UInt16)) : Ends (args.flatMap fun arg => space :: quotePart arg) := by
  cases args with
  | nil =>
      intro unit never
      cases never
  | cons arg args =>
      intro unit first
      cases first
      rfl

theorem tokens_args (args : List (List UInt16)) :
    tokens .between (args.flatMap fun arg => space :: quotePart arg) = args := by
  induction args with
  | nil => rfl
  | cons arg args ih => rw [List.flatMap_cons, List.cons_append, tokens_quotePart arg (ends_args args), ih]

/-- Without quotes in it, and with no backslash before the closing quote, a part is quoted as it is. -/
theorem quoteUnits_plain (unquoted : quote ∉ units) (closed : units.getLast? ≠ some backslash)
    (pending : units = [] → backslashes = 0) :
    quoteUnits backslashes units = List.replicate backslashes backslash ++ units ++ [quote] := by
  induction units generalizing backslashes with
  | nil =>
      rw [pending rfl]
      rfl
  | cons c units ih =>
      rw [List.mem_cons, not_or] at unquoted
      have later : units.getLast? ≠ some backslash := by
        intro last
        cases units with
        | nil => cases last
        | cons next units => exact closed (by rw [List.getLast?_cons_cons, last])
      unfold quoteUnits
      split
      · rename_i isBackslash
        have more : units = [] → backslashes + 1 = 0 := by
          rintro rfl
          exact absurd (by rw [isBackslash]; rfl) closed
        rw [ih unquoted.2 later more, isBackslash, List.replicate_succ']
        simp
      · rw [if_neg (fun same => unquoted.1 same.symm), ih unquoted.2 later fun _ => rfl]
        simp

theorem firstToken_exe (unquoted : quote ∉ exe) (closed : exe.getLast? ≠ some backslash) (ends : Ends rest) :
    firstToken (quotePart exe ++ rest) = (exe, rest) := by
  unfold quotePart
  split
  · rw [quoteUnits_plain unquoted closed fun _ => rfl]
    have quoted := @firstToken_quoted rest exe unquoted
    simpa using quoted
  · rename_i bare
    obtain ⟨some_, plain⟩ := bare_of_not_needsQuotes (Bool.not_eq_true _ ▸ bare)
    exact firstToken_bare ends plain some_

/-- The started process sees the executable and the same arguments. -/
theorem split_quoteCommandLine (exe : List UInt16) (args : List (List UInt16)) (unquoted : quote ∉ exe)
    (closed : exe.getLast? ≠ some backslash) : split (quoteCommandLine exe args) = exe :: args := by
  rw [split, quoteCommandLine, firstToken_exe unquoted closed (ends_args args), tokens_args]

/-- An empty argument, one of a blank, a backslash and a quote, and one that ends in a backslash. -/
theorem split_three_arguments :
    split (quoteCommandLine [0x61, 0x20, 0x62] [[], [0x20, 0x5C, 0x22], [0x09, 0x5C]]) =
      [[0x61, 0x20, 0x62], [], [0x20, 0x5C, 0x22], [0x09, 0x5C]] :=
  split_quoteCommandLine [0x61, 0x20, 0x62] [[], [0x20, 0x5C, 0x22], [0x09, 0x5C]] (by decide) (by decide)

end Gputeer.RuntimeWindows
