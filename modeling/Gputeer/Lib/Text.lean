import Mathlib.Data.List.DropRight
import Mathlib.Data.List.Infix
import Mathlib.Tactic.Common

/-! White space in texts, the numbers written in them, and the debug form of strings. -/

namespace Text

/-- The code points with the Unicode property White_Space. -/
def isWhiteSpace (c : Char) : Bool :=
  (0x9 ≤ c.val ∧ c.val ≤ 0xD) || c.val ∈ [0x20, 0x85, 0xA0, 0x1680] ||
    (0x2000 ≤ c.val ∧ c.val ≤ 0x200A) || c.val ∈ [0x2028, 0x2029, 0x202F, 0x205F, 0x3000]

def isBlank (text : String) : Bool := text.toList.all isWhiteSpace

/-- A character as the debug form of a string shows it. Combining characters and the unprintable ones
beyond ASCII are shown as they are. -/
def debugChar (c : Char) : String :=
  if c = '\"' then "\\\""
  else if c = '\\' then "\\\\"
  else if c = '\n' then "\\n"
  else if c = '\r' then "\\r"
  else if c = '\t' then "\\t"
  else if c.val = 0 then "\\0"
  else if c.val < 0x20 ∨ c.val = 0x7F then
    "\\u\x7b" ++ String.ofList (Nat.toDigits 16 c.toNat) ++ "\x7d"
  else c.toString

def debugQuoted (text : String) : String :=
  "\"" ++ String.join (text.toList.map debugChar) ++ "\""

/-- The debug form of a value that may be missing. -/
def debugMaybe {α : Type} (debug : α → String) : Option α → String
  | some value => "Some(" ++ debug value ++ ")"
  | none => "None"

/-- `str::trim`. -/
def trim (text : String) : String :=
  String.ofList ((text.toList.dropWhile isWhiteSpace).rdropWhile isWhiteSpace)

/-- `str::split_whitespace`. -/
def fields (text : String) : List String :=
  ((text.toList.splitOnP isWhiteSpace).filter (· ≠ [])).map String.ofList

/-- What stands before the first white space, and what after it. -/
def splitOnceWhiteSpace (text : String) : String × String :=
  (String.ofList (text.toList.takeWhile (!isWhiteSpace ·)),
    String.ofList ((text.toList.dropWhile (!isWhiteSpace ·)).drop 1))

/-- Whether `part` occurs in the text. -/
def occurs (part text : String) : Bool := part.toList <:+: text.toList

def endsWith (suffix text : String) : Bool := suffix.toList <:+ text.toList

def asciiLowercase (text : String) : String := String.ofList (text.toList.map Char.toLower)

/-- `str::split` at a character. -/
def split (mark : Char) (text : String) : List String := (text.toList.splitOn mark).map String.ofList

/-- `str::trim_end_matches` of a character. -/
def trimEndMatches (mark : Char) (text : String) : String := String.ofList (text.toList.rdropWhile (· = mark))

/-- `str::trim_matches` of a character. -/
def trimMatches (mark : Char) (text : String) : String :=
  String.ofList ((text.toList.dropWhile (· = mark)).rdropWhile (· = mark))

/-- What `Path::components` gives on a Unix host. -/
inductive PathComponent where
  | rootDir
  | curDir
  | parentDir
  | normal (name : String)
  deriving DecidableEq

/-- An empty part and a `.` say nothing, unless a `.` comes first. -/
def componentOf (part : List Char) : Option PathComponent :=
  if part = [] ∨ part = ['.'] then none
  else if part = ['.', '.'] then some .parentDir
  else some (.normal (String.ofList part))

def pathComponents (path : String) : List PathComponent :=
  match path.toList.splitOn '/' with
  | [] => []
  | first :: rest =>
      if first = [] ∧ rest ≠ [] then .rootDir :: rest.filterMap componentOf
      else if first = ['.'] then .curDir :: rest.filterMap componentOf
      else (first :: rest).filterMap componentOf

def isNormal : PathComponent → Bool
  | .normal _ => true
  | .rootDir | .curDir | .parentDir => false

/-- The names of a path. -/
def normalNames (components : List PathComponent) : List String :=
  components.filterMap fun
    | .normal name => some name
    | .rootDir | .curDir | .parentDir => none

section Int64

/-- The digits of a number of 64 bits, each taken with the sign. -/
def digitsInt64 (sign : Int) (tooLarge : String) : Int → List Char → Except String Int
  | number, [] => .ok number
  | number, c :: rest =>
      if c.isDigit then
        let next := number * 10 + sign * ((c.toNat : Int) - 48)
        if -2 ^ 63 ≤ next ∧ next < 2 ^ 63 then digitsInt64 sign tooLarge next rest else .error tooLarge
      else .error "invalid digit found in string"

/-- `str::parse::<i64>`. -/
def parseInt64 (text : String) : Except String Int :=
  match text.toList with
  | [] => .error "cannot parse integer from empty string"
  | ['-'] | ['+'] => .error "invalid digit found in string"
  | '-' :: digits => digitsInt64 (-1) "number too small to fit in target type" 0 digits
  | '+' :: digits => digitsInt64 1 "number too large to fit in target type" 0 digits
  | digits => digitsInt64 1 "number too large to fit in target type" 0 digits

end Int64

section Unsigned

/-- The digits of a number below the bound. -/
def digitsBelow (bound : Nat) : Nat → List Char → Option Nat
  | number, [] => some number
  | number, c :: rest =>
      if c.isDigit then
        let next := number * 10 + (c.toNat - 48)
        if next < bound then digitsBelow bound next rest else none
      else none

/-- `str::parse` of an unsigned number below the bound: a plus may come first. -/
def parseBelow (bound : Nat) : List Char → Option Nat
  | [] => none
  | ['+'] => none
  | '+' :: digits => digitsBelow bound 0 digits
  | digits => digitsBelow bound 0 digits

/-- The number that digits write after the ones that are read. -/
def decimalFrom (number : Nat) (digits : List Char) : Nat :=
  digits.foldl (fun value c => value * 10 + (c.toNat - 48)) number

variable {bound number value : Nat} {digits : List Char}

theorem le_decimalFrom (number : Nat) (digits : List Char) : number ≤ decimalFrom number digits := by
  induction digits generalizing number with
  | nil => exact le_rfl
  | cons c rest ih =>
      have later := ih (number * 10 + (c.toNat - 48))
      simp only [decimalFrom, List.foldl_cons] at later ⊢
      omega

/-- Digits that stay below the bound to the end do so all the way. -/
theorem digitsBelow_eq_some (some_ : digits ≠ []) : digitsBelow bound number digits = some value ↔
    (∀ c ∈ digits, c.isDigit = true) ∧ decimalFrom number digits < bound ∧ decimalFrom number digits = value := by
  induction digits generalizing number with
  | nil => exact absurd rfl some_
  | cons c rest ih =>
      have grows := le_decimalFrom (number * 10 + (c.toNat - 48)) rest
      have step : decimalFrom number (c :: rest) = decimalFrom (number * 10 + (c.toNat - 48)) rest := rfl
      rw [digitsBelow, step, List.forall_mem_cons]
      by_cases digit : c.isDigit = true
      · by_cases below : number * 10 + (c.toNat - 48) < bound
        · cases rest with
          | nil => simp [digit, below, digitsBelow, decimalFrom]
          | cons next others => simp only [digit, below, if_true, ih (List.cons_ne_nil _ _), true_and]
        · have above : ¬ decimalFrom (number * 10 + (c.toNat - 48)) rest < bound := by omega
          simp [digit, below, above]
      · simp [digit]

/-- A number is its digits, after a plus or not. -/
theorem parseBelow_eq_some {text : List Char} : parseBelow bound text = some value ↔
    ∃ digits, (text = digits ∨ text = '+' :: digits) ∧ digits ≠ [] ∧ (∀ c ∈ digits, c.isDigit = true) ∧
      decimalFrom 0 digits < bound ∧ decimalFrom 0 digits = value := by
  have plus : ('+' : Char).isDigit = false := by decide
  unfold parseBelow
  split
  · simp
  · constructor
    · intro none_
      cases none_
    · rintro ⟨digits, same | same, some_, all, _⟩
      · rw [← same] at all
        exact absurd (all '+' (by simp)) (by simp [plus])
      · exact absurd (List.cons.inj same).2.symm some_
  · next rest notAlone =>
    have some_ : rest ≠ [] := fun empty => notAlone (by rw [empty])
    rw [digitsBelow_eq_some some_]
    constructor
    · intro read
      exact ⟨rest, .inr rfl, some_, read⟩
    · rintro ⟨digits, same | same, _, all, read⟩
      · rw [← same] at all
        exact absurd (all '+' (by simp)) (by simp [plus])
      · obtain rfl := (List.cons.inj same).2
        exact ⟨all, read⟩
  · next some_ _ noPlus =>
    rw [digitsBelow_eq_some (fun empty => some_ empty)]
    constructor
    · intro read
      exact ⟨_, .inl rfl, fun empty => some_ empty, read⟩
    · rintro ⟨digits, rfl | same, _, all, read⟩
      · exact ⟨all, read⟩
      · exact absurd same (noPlus digits)

end Unsigned

section Split

variable {mark : Char} {parts : List String} {text part : String}

theorem not_mem_of_mem_splitOn {text part : List Char} (listed : part ∈ text.splitOn mark) : mark ∉ part := by
  induction text generalizing part with
  | nil =>
      obtain rfl : part = [] := by simpa using listed
      exact List.not_mem_nil
  | cons first rest ih =>
      rw [List.splitOn_cons_eq_if_modifyHead] at listed
      split at listed
      · rcases List.mem_cons.mp listed with rfl | later
        · exact List.not_mem_nil
        · exact ih later
      · next other =>
        cases parts : rest.splitOn mark with
        | nil => exact absurd parts (List.splitOn_ne_nil mark rest)
        | cons head tail =>
            rw [parts] at ih listed
            rcases List.mem_cons.mp listed with rfl | later
            · have differs : mark ≠ first := fun same => other (beq_iff_eq.mpr same.symm)
              simpa [differs] using ih List.mem_cons_self
            · exact ih (List.mem_cons_of_mem _ later)

theorem split_ne_nil (mark : Char) (text : String) : split mark text ≠ [] := by
  simp [split]

theorem split_of_not_mem (plain : mark ∉ text.toList) : split mark text = [text] := by
  simp [split, List.splitOn_eq_singleton plain]

theorem not_mem_of_mem_split (listed : part ∈ split mark text) : mark ∉ part.toList := by
  obtain ⟨chars, inside, rfl⟩ := List.mem_map.mp listed
  simpa using not_mem_of_mem_splitOn inside

/-- Parts without the mark are what their join is split into. -/
theorem split_intercalate (plain : ∀ part ∈ parts, mark ∉ part.toList) (some_ : parts ≠ []) :
    split mark ((mark.toString).intercalate parts) = parts := by
  have chars : ((mark.toString).intercalate parts).toList.splitOn mark = parts.map String.toList := by
    rw [String.toList_intercalate, Char.toString_eq_singleton, String.toList_singleton]
    exact List.splitOn_intercalate mark (by simpa using plain) (by simpa using some_)
  rw [split, chars, List.map_map]
  simp

theorem split_append {before after : String} :
    split mark (before ++ mark.toString ++ after) = split mark before ++ split mark after := by
  rw [split, split, split, ← List.map_append, ← List.splitOn_append_cons_self]
  simp [Char.toString_eq_singleton]

theorem intercalate_split : (mark.toString).intercalate (split mark text) = text := by
  apply String.toList_injective
  rw [String.toList_intercalate, Char.toString_eq_singleton, String.toList_singleton, split, List.map_map]
  simp

theorem eq_of_split_cons {first : String} {rest : List String} (divided : split mark text = first :: rest) :
    text = first ∨ ∃ after, text = first ++ mark.toString ++ after := by
  have whole : (mark.toString).intercalate (first :: rest) = text := by rw [← divided, intercalate_split]
  by_cases last : rest = []
  · rw [last, String.intercalate_singleton] at whole
    exact Or.inl whole.symm
  · rw [String.intercalate_cons_of_ne_nil last] at whole
    exact Or.inr ⟨_, whole.symm⟩

/-- A join begins with a text, up to a mark, when the parts begin with the parts of that text. -/
theorem split_prefix_iff (plain : ∀ part ∈ parts, mark ∉ part.toList) (some_ : parts ≠ []) :
    split mark text <+: parts ↔ (mark.toString).intercalate parts = text ∨
      (text ++ mark.toString).toList <+: ((mark.toString).intercalate parts).toList := by
  constructor
  · rintro ⟨rest, rfl⟩
    by_cases last : rest = []
    · rw [last, List.append_nil, intercalate_split]
      exact Or.inl rfl
    · rw [String.intercalate_append_of_ne_nil (split_ne_nil mark text) last, intercalate_split, @String.toList_append (_ ++ _)]
      exact Or.inr (List.prefix_append _ _)
  · rintro (rfl | ⟨after, joined⟩)
    · rw [split_intercalate plain some_]
    · have whole : (mark.toString).intercalate parts = text ++ mark.toString ++ String.ofList after := by
        apply String.toList_injective
        rw [← joined, @String.toList_append (_ ++ _), String.toList_ofList]
      rw [← split_intercalate plain some_, whole, split_append]
      exact List.prefix_append _ _

end Split

section Replacing

/-- The matches from the left that do not overlap, replaced; so many characters belong to the last match still. -/
def replaceFrom (pattern new : List Char) : Nat → List Char → List Char
  | _, [] => []
  | left + 1, _ :: rest => replaceFrom pattern new left rest
  | 0, c :: rest =>
      if pattern <+: c :: rest then new ++ replaceFrom pattern new (pattern.length - 1) rest
      else c :: replaceFrom pattern new 0 rest

/-- `str::replace` of a pattern that is not empty. -/
def replace (pattern new text : String) : String :=
  String.ofList (replaceFrom pattern.toList new.toList 0 text.toList)

/-- A mark that is put into a pattern, and has none of its characters; no end of the pattern begins it. -/
structure Breaks (head mark tail : List Char) : Prop where
  begun : head ≠ []
  marked : mark ≠ []
  ended : tail ≠ []
  apart : ∀ c ∈ mark, c ∉ head ++ tail
  bordered : ∀ last ∈ tail.tails, last <+: head ++ tail → last = []

variable {head mark tail sought before after text : List Char} {left : Nat}

theorem eq_nil_of_prefix_mark (some_ : mark ≠ []) (free : ∀ c ∈ mark, c ∉ sought) (begins : sought <+: mark ++ after) :
    sought = [] := by
  cases mark with
  | nil => exact absurd rfl some_
  | cons c rest =>
      cases sought with
      | nil => rfl
      | cons first following =>
          rw [List.cons_append, List.cons_prefix_cons] at begins
          exact absurd (begins.1 ▸ List.mem_cons_self) (free c List.mem_cons_self)

/-- A text without the characters of a mark ends before it. -/
theorem prefix_before_mark (some_ : mark ≠ []) (free : ∀ c ∈ mark, c ∉ sought)
    (begins : sought <+: before ++ (mark ++ after)) : sought <+: before := by
  rcases List.prefix_or_prefix_of_prefix begins (List.prefix_append before _) with short | ⟨rest, rfl⟩
  · exact short
  · have nothing : rest = [] := eq_nil_of_prefix_mark some_
      (fun c inside listed => free c inside (List.mem_append_right _ listed))
      ((List.prefix_append_right_inj before).mp begins)
    rw [nothing, List.append_nil]

/-- Or it is all before it, or all after it. -/
theorem infix_beside_mark (some_ : mark ≠ []) (free : ∀ c ∈ mark, c ∉ sought) (filled : sought ≠ [])
    (inside : sought <:+: before ++ (mark ++ after)) : sought <:+: before ∨ sought <:+: after := by
  have apart {part : List Char} (within : part <:+: mark) (owned : part ⊆ sought) : part = [] :=
    List.eq_nil_iff_forall_not_mem.mpr fun c listed => free c (within.subset listed) (owned listed)
  rcases List.infix_append_iff.mp inside with first | later | ⟨l₁, l₂, rfl, ends, begins⟩
  · exact Or.inl first
  · rcases List.infix_append_iff.mp later with within | last | ⟨l₁, l₂, rfl, ends, begins⟩
    · exact absurd (apart within (List.Subset.refl _)) filled
    · exact Or.inr last
    · rw [apart ends.isInfix (List.subset_append_left l₁ l₂), List.nil_append]
      exact Or.inr begins.isInfix
  · have nothing : l₂ = [] :=
      eq_nil_of_prefix_mark some_ (fun c within listed => free c within (List.mem_append_right _ listed)) begins
    rw [nothing, List.append_nil]
    exact Or.inl ends.isInfix

/-- What begins the new text, without the mark, begins the old one. By induction on the text. -/
theorem prefix_of_replaceFrom (breaks : Breaks head mark tail) (free : ∀ c ∈ mark, c ∉ sought)
    (begins : sought <+: replaceFrom (head ++ tail) (head ++ (mark ++ tail)) left text) :
    sought <+: text.drop left := by
  induction text generalizing sought left with
  | nil => simpa [replaceFrom] using begins
  | cons c rest ih =>
      cases left with
      | succ left => exact ih free begins
      | zero =>
          rw [replaceFrom] at begins
          split at begins
          · next found =>
            rw [List.append_assoc, List.append_assoc] at begins
            exact ((prefix_before_mark breaks.marked free begins).trans (List.prefix_append head tail)).trans found
          · cases sought with
            | nil => exact List.nil_prefix
            | cons first following =>
                rw [List.cons_prefix_cons] at begins
                have rest := ih (fun c inside listed => free c inside (List.mem_cons_of_mem _ listed)) begins.2
                rw [begins.1]
                exact List.cons_prefix_cons.mpr ⟨rfl, rest⟩

/-- The pattern occurs no more. -/
theorem not_infix_replaceFrom (breaks : Breaks head mark tail) :
    ¬ head ++ tail <:+: replaceFrom (head ++ tail) (head ++ (mark ++ tail)) left text := by
  have filled : head ++ tail ≠ [] := fun empty => breaks.begun (List.append_eq_nil_iff.mp empty).1
  have long {part : List Char} (within : head ++ tail <:+: part) : head.length + tail.length ≤ part.length := by
    simpa using within.length_le
  have heads := List.length_pos_iff.mpr breaks.begun
  have tails := List.length_pos_iff.mpr breaks.ended
  induction text generalizing left with
  | nil =>
      intro inside
      have short := long inside
      simp only [replaceFrom, List.length_nil] at short
      omega
  | cons c rest ih =>
      intro inside
      cases left with
      | succ left => exact ih inside
      | zero =>
          rw [replaceFrom] at inside
          split at inside
          · rw [List.append_assoc, List.append_assoc] at inside
            rcases infix_beside_mark breaks.marked breaks.apart filled inside with first | later
            · have := long first
              omega
            · rcases List.infix_append_iff.mp later with within | last | ⟨l₁, l₂, whole, ends, begins⟩
              · have := long within
                omega
              · exact ih last
              · have nothing : l₁ = [] := breaks.bordered l₁ ((List.mem_tails _ _).mpr ends) ⟨l₂, whole.symm⟩
                rw [nothing, List.nil_append] at whole
                rw [← whole] at begins
                exact ih begins.isInfix
          · next missing =>
            rcases List.infix_cons_iff.mp inside with begins | later
            · refine missing (@prefix_of_replaceFrom _ _ _ _ (c :: rest) 0 breaks breaks.apart ?_)
              rw [replaceFrom, if_neg missing]
              exact begins
            · exact ih later

/-- Nothing else comes about that has no character of the mark. -/
theorem infix_of_replaceFrom (breaks : Breaks head mark tail) (free : ∀ c ∈ mark, c ∉ sought) (filled : sought ≠ [])
    (inside : sought <:+: replaceFrom (head ++ tail) (head ++ (mark ++ tail)) left text) :
    sought <:+: text.drop left := by
  induction text generalizing left with
  | nil => simpa [replaceFrom] using inside
  | cons c rest ih =>
      cases left with
      | succ left => exact ih inside
      | zero =>
          rw [replaceFrom] at inside
          split at inside
          · next found =>
            obtain ⟨following, whole⟩ := found
            have dropped : rest.drop ((head ++ tail).length - 1) = following := by
              have both := congrArg (List.drop (head ++ tail).length) whole
              rw [List.drop_left] at both
              rw [both]
              have heads := List.length_pos_iff.mpr breaks.begun
              obtain ⟨count, same⟩ : ∃ count, (head ++ tail).length = count + 1 :=
                ⟨(head ++ tail).length - 1, by simp; omega⟩
              rw [same, List.drop_succ_cons, Nat.add_sub_cancel]
            rw [List.drop_zero, ← whole, List.append_assoc]
            rw [List.append_assoc, List.append_assoc] at inside
            rcases infix_beside_mark breaks.marked free filled inside with first | later
            · exact first.trans (List.prefix_append _ _).isInfix
            · refine List.IsInfix.trans ?_ (List.suffix_append head _).isInfix
              rcases List.infix_append_iff.mp later with within | last | ⟨l₁, l₂, rfl, ends, begins⟩
              · exact within.trans (List.prefix_append _ _).isInfix
              · have kept := ih last
                rw [dropped] at kept
                exact kept.trans (List.suffix_append _ _).isInfix
              · have kept := prefix_of_replaceFrom breaks
                  (fun c within listed => free c within (List.mem_append_right _ listed)) begins
                rw [dropped] at kept
                exact List.infix_append_iff.mpr (Or.inr (Or.inr ⟨l₁, l₂, rfl, ends, kept⟩))
          · rcases List.infix_cons_iff.mp inside with begins | later
            · next missing =>
              refine (@prefix_of_replaceFrom _ _ _ sought (c :: rest) 0 breaks free ?_).isInfix
              rw [replaceFrom, if_neg missing]
              exact begins
            · exact (ih later).trans (List.suffix_cons c rest).isInfix

end Replacing

theorem mem_asciiLowercase {c : Char} {text : String} (inside : c ∈ text.toList) :
    c.toLower ∈ (asciiLowercase text).toList := by
  rw [asciiLowercase, String.toList_ofList]
  exact List.mem_map_of_mem inside

theorem ne_empty_of_not_isBlank {text : String} (filled : isBlank text = false) : text ≠ "" := by
  rintro rfl
  exact absurd filled (by decide +kernel)

end Text
