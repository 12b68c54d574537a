import Mathlib.Data.List.Forall2
import Mathlib.Tactic.Common

/-! A command line as its program reads it: a token with a dash in front is an option, some options take the
next token as their value, and the first other token ends the options. -/

namespace OptionTokens

def isOption (token : String) : Bool := token.toList.head? = some '-'

/-- An option, with the value that stands behind its first `=`. -/
def named (token : String) : String × Option String :=
  if '=' ∈ token.toList then
    (String.ofList (token.toList.takeWhile (· ≠ '=')),
      some (String.ofList ((token.toList.dropWhile (· ≠ '=')).drop 1)))
  else (token, none)

section Reading

variable (takesNext : String → Bool)

/-- The options, and what is left from the first token that is none. -/
def read : List String → List (String × Option String) × List String
  | [] => ([], [])
  | [token] => if isOption token then ([named token], []) else ([], [token])
  | token :: value :: rest =>
      if isOption token then
        if takesNext token then
          let (options, left) := read rest
          ((token, some value) :: options, left)
        else
          let (options, left) := read (value :: rest)
          (named token :: options, left)
      else ([], token :: value :: rest)

/-- The tokens that write an option. -/
inductive Written : List String → String × Option String → Prop where
  | flag {name : String} (dash : isOption name) (plain : '=' ∉ name.toList) (alone : takesNext name = false) :
      Written [name] (name, none)
  | fused {token name value : String} (dash : isOption name) (plain : '=' ∉ name.toList)
      (same : token = name ++ "=" ++ value) : Written [token] (name, some value)
  | separate {name value : String} (dash : isOption name) (takes : takesNext name) :
      Written [name, value] (name, some value)

inductive Writes : List String → List (String × Option String) → Prop where
  | nil : Writes [] []
  | cons {first rest : List String} {option : String × Option String}
      {options : List (String × Option String)} (written : Written takesNext first option)
      (others : Writes rest options) : Writes (first ++ rest) (option :: options)

end Reading

variable {takesNext : String → Bool}

theorem takeWhile_plain {name : List Char} (plain : '=' ∉ name) (value : List Char) :
    (name ++ '=' :: value).takeWhile (· ≠ '=') = name := by
  have each : ∀ c ∈ name, decide (c ≠ '=') = true := by
    intro c listed
    exact decide_eq_true fun same => plain (same ▸ listed)
  rw [List.takeWhile_append_of_pos each, List.takeWhile_cons_of_neg (by simp), List.append_nil]

theorem dropWhile_plain {name : List Char} (plain : '=' ∉ name) (value : List Char) :
    (name ++ '=' :: value).dropWhile (· ≠ '=') = '=' :: value := by
  have each : ∀ c ∈ name, decide (c ≠ '=') = true := by
    intro c listed
    exact decide_eq_true fun same => plain (same ▸ listed)
  rw [List.dropWhile_append_of_pos each, List.dropWhile_cons_of_neg (by simp)]

theorem toList_fused (name value : String) :
    (name ++ "=" ++ value).toList = name.toList ++ '=' :: value.toList := by
  simp [String.toList_append]

theorem named_fused {name : String} (plain : '=' ∉ name.toList) (value : String) :
    named (name ++ "=" ++ value) = (name, some value) := by
  unfold named
  rw [toList_fused, if_pos (by simp), takeWhile_plain plain, dropWhile_plain plain]
  simp

theorem named_plain {name : String} (plain : '=' ∉ name.toList) : named name = (name, none) := if_neg plain

theorem isOption_fused {name : String} (dash : isOption name) (value : String) :
    isOption (name ++ "=" ++ value) = true := by
  have first : name.toList.head? = some '-' := of_decide_eq_true dash
  unfold isOption
  rw [toList_fused, List.head?_append, first]
  rfl

/-- A token that takes no value of its own, with anything behind it. -/
theorem read_alone {token : String} (dash : isOption token) (alone : takesNext token = false)
    (rest : List String) :
    read takesNext (token :: rest) =
      (named token :: (read takesNext rest).1, (read takesNext rest).2) := by
  cases rest with
  | nil => simp [read, dash]
  | cons value rest => simp [read, dash, alone]

theorem read_stop {token : String} (stops : isOption token = false) (rest : List String) :
    read takesNext (token :: rest) = ([], token :: rest) := by
  cases rest with
  | nil => simp [read, stops]
  | cons value rest => simp [read, stops]

section Grammar

variable (flat : ∀ token, takesNext token = true → '=' ∉ token.toList)
include flat

theorem read_written_append {tokens : List String} {option : String × Option String}
    (written : Written takesNext tokens option) (rest : List String) :
    read takesNext (tokens ++ rest) =
      (option :: (read takesNext rest).1, (read takesNext rest).2) := by
  cases written with
  | flag dash plain alone =>
      rw [List.singleton_append, read_alone dash alone, named_plain plain]
  | @fused token name value dash plain same =>
      have alone : takesNext token = false := by
        cases takes : takesNext token with
        | false => rfl
        | true =>
            refine absurd ?_ (flat token takes)
            rw [same, toList_fused]
            simp
      rw [List.singleton_append, read_alone (same ▸ isOption_fused dash value) alone, same, named_fused plain]
  | separate dash takes => simp [read, dash, takes]

/-- What was written is read, up to the first token that is no option. -/
theorem Writes.read {tokens : List String} {options : List (String × Option String)}
    (writes : Writes takesNext tokens options) {token : String} (stops : isOption token = false)
    (rest : List String) :
    OptionTokens.read takesNext (tokens ++ token :: rest) = (options, token :: rest) := by
  induction writes with
  | nil => exact read_stop stops rest
  | cons written others ih =>
      rw [List.append_assoc, read_written_append flat written, ih]

end Grammar

namespace Writes

variable {tokens more : List String} {options others : List (String × Option String)}

theorem append (first : Writes takesNext tokens options) (second : Writes takesNext more others) :
    Writes takesNext (tokens ++ more) (options ++ others) := by
  induction first with
  | nil => exact second
  | cons written rest ih =>
      rw [List.append_assoc]
      exact .cons written ih

/-- Options of one token each. -/
theorem of_forall₂ (each : List.Forall₂ (fun token option => Written takesNext [token] option) tokens options) :
    Writes takesNext tokens options := by
  induction each with
  | nil => exact .nil
  | cons first rest ih => exact .cons first ih

end Writes

end OptionTokens
