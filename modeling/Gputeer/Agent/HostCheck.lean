import Mathlib.Algebra.Order.Ring.Nat
import Gputeer.Lib.Lists
import Gputeer.Lib.Text

/-! Which `Host` headers the owner's panel takes for its own. -/

namespace Gputeer.Agent

open Text

/-- `str::split_once`, at a character. -/
def splitOnce (mark : Char) : List Char → Option (List Char × List Char)
  | [] => none
  | c :: rest => if c = mark then some ([], rest) else (splitOnce mark rest).map fun parts => (c :: parts.1, parts.2)

/-- The name, and what stands behind it. -/
def hostParts : List Char → Option (List Char × List Char)
  | '[' :: rest => splitOnce ']' rest
  | host => some ((splitOnce ':' host).getD (host, []))

/-- Behind a bracket stands nothing, or a colon and the port. -/
def portBehind (host behind : List Char) : Option (List Char) :=
  if host.head? = some '[' then
    match behind with
    | [] => some []
    | ':' :: port => some port
    | _ => none
  else some behind

def lower (name : List Char) : List Char := name.map Char.toLower

def isLoopbackName (name : List Char) : Bool :=
  lower name = "127.0.0.1".toList || lower name = "localhost".toList || lower name = "::1".toList

def isPort (port : List Char) : Bool := port = [] || (parseBelow (2 ^ 16) port).isSome

def loopbackHost (host : List Char) : Bool :=
  match hostParts host with
  | none => false
  | some (name, behind) =>
      match portBehind host behind with
      | none => false
      | some port => isPort port && isLoopbackName name

def hostIsLoopback : Option String → Bool
  | none => false
  | some host => loopbackHost host.toList

section Grammar

/-- The names without a bracket. -/
def PlainLoopback (name : List Char) : Prop := name = "127.0.0.1".toList ∨ lower name = "localhost".toList

/-- A number of at most 65535, in digits. -/
def PortDigits (digits : List Char) : Prop :=
  digits ≠ [] ∧ (∀ c ∈ digits, c.isDigit = true) ∧ decimalFrom 0 digits ≤ 65535

/-- The names, the address of version six in brackets. -/
def LoopbackName (name : List Char) : Prop := PlainLoopback name ∨ name = "[::1]".toList

/-- What the check is documented to take: a name, and a colon and a port if there is one. -/
def LoopbackHost (host : List Char) : Prop :=
  ∃ name behind, host = name ++ behind ∧ LoopbackName name ∧
    (behind = [] ∨ ∃ digits, behind = ':' :: digits ∧ PortDigits digits)

/-- A colon without a port, or a port with a plus. -/
def LoosePort (behind : List Char) : Prop :=
  behind = [':'] ∨ ∃ digits, behind = ':' :: '+' :: digits ∧ PortDigits digits

/-- Behind a name the code takes a port, a loose one, or nothing. -/
def TakenPort (behind : List Char) : Prop :=
  behind = [] ∨ (∃ digits, behind = ':' :: digits ∧ PortDigits digits) ∨ LoosePort behind

/-- A plain name in brackets. -/
def BracketedName (host : List Char) : Prop :=
  ∃ name behind, host = '[' :: name ++ ']' :: behind ∧ PlainLoopback name ∧ TakenPort behind

def LooseHost (host : List Char) : Prop :=
  BracketedName host ∨ ∃ name behind, host = name ++ behind ∧ LoopbackName name ∧ LoosePort behind

end Grammar

variable {host name behind before after digits : List Char} {mark : Char}

theorem splitOnce_eq_some : splitOnce mark host = some (before, after) ↔
    host = before ++ mark :: after ∧ mark ∉ before := by
  induction host generalizing before with
  | nil => simp [splitOnce]
  | cons c rest ih =>
      unfold splitOnce
      split
      · next same =>
        subst same
        constructor
        · intro divided
          obtain ⟨rfl, rfl⟩ := Prod.mk.inj (Option.some.inj divided)
          exact ⟨rfl, List.not_mem_nil⟩
        · rintro ⟨whole, absent⟩
          cases before with
          | nil => rw [(List.cons.inj whole).2]
          | cons other others => exact absurd (List.cons.inj whole).1 fun first => absent (by rw [first]; simp)
      · next differs =>
        rw [Option.map_eq_some_iff]
        constructor
        · rintro ⟨⟨first, last⟩, divided, same⟩
          obtain ⟨rfl, rfl⟩ := Prod.mk.inj same
          obtain ⟨rfl, absent⟩ := ih.mp divided
          exact ⟨rfl, by simp [absent, Ne.symm differs]⟩
        · rintro ⟨whole, absent⟩
          cases before with
          | nil => exact absurd (List.cons.inj whole).1 differs
          | cons other others =>
              obtain ⟨rfl, rest_⟩ := List.cons.inj whole
              exact ⟨(others, after), ih.mpr ⟨rest_, fun listed => absent (List.mem_cons_of_mem _ listed)⟩, rfl⟩

theorem splitOnce_eq_none : splitOnce mark host = none ↔ mark ∉ host := by
  induction host with
  | nil => simp [splitOnce]
  | cons c rest ih =>
      unfold splitOnce
      split
      · next same => simp [same]
      · next differs => simp [ih, Ne.symm differs]

section Names

theorem toNat_toLower (c : Char) : c.toLower.val.toNat =
    if 65 ≤ c.val.toNat ∧ c.val.toNat ≤ 90 then c.val.toNat + 32 else c.val.toNat := by
  have apart : ('a'.val - 'A'.val).toNat = 32 := rfl
  have capital : c.val ≥ 'A'.val ∧ c.val ≤ 'Z'.val ↔ 65 ≤ c.val.toNat ∧ c.val.toNat ≤ 90 := by
    rw [ge_iff_le, UInt32.le_iff_toNat_le, UInt32.le_iff_toNat_le]
    rfl
  unfold Char.toLower
  split
  · next large =>
    rw [if_pos (capital.mp large), UInt32.toNat_add, apart]
    have range := capital.mp large
    omega
  · next small => rw [if_neg (fun large => small (capital.mpr large))]

/-- Only what becomes a small letter is changed. -/
theorem eq_of_toLower {c d : Char} (same : c.toLower = d) (noLetter : ¬ (97 ≤ d.val.toNat ∧ d.val.toNat ≤ 122)) :
    c = d := by
  subst same
  have lowered := toNat_toLower c
  apply Char.ext
  apply UInt32.toNat_inj.mp
  split at lowered
  · omega
  · exact lowered.symm

theorem eq_of_lower {other : List Char} (same : lower name = other)
    (noLetters : ∀ d ∈ other, ¬ (97 ≤ d.val.toNat ∧ d.val.toNat ≤ 122)) : name = other := by
  induction name generalizing other with
  | nil => exact same
  | cons c rest ih =>
      subst same
      simp only [lower, List.map_cons, List.forall_mem_cons] at noLetters ⊢
      rw [List.cons.injEq]
      exact ⟨eq_of_toLower rfl noLetters.1, ih rfl noLetters.2⟩

theorem isLoopbackName_iff : isLoopbackName name = true ↔ PlainLoopback name ∨ name = "::1".toList := by
  have four : lower name = "127.0.0.1".toList ↔ name = "127.0.0.1".toList := by
    constructor
    · intro same
      exact eq_of_lower same (List.forall_mem_of_all (by decide))
    · rintro rfl
      decide
  have six : lower name = "::1".toList ↔ name = "::1".toList := by
    constructor
    · intro same
      exact eq_of_lower same (List.forall_mem_of_all (by decide))
    · rintro rfl
      decide
  simp only [isLoopbackName, Bool.or_eq_true, decide_eq_true_eq, four, six, PlainLoopback]

/-- The characters of a plain name, as small letters. -/
theorem PlainLoopback.toLower_mem (plain : PlainLoopback name) {c : Char} (listed : c ∈ name) :
    c.toLower ∈ "127.0.0.1localhost".toList := by
  have lowered : c.toLower ∈ lower name := List.mem_map_of_mem listed
  rcases plain with rfl | same
  · have inside : ∀ d ∈ "127.0.0.1".toList, d.toLower ∈ "127.0.0.1localhost".toList :=
      List.forall_mem_of_all (by decide)
    exact inside c listed
  · rw [same] at lowered
    have inside : ∀ d ∈ "localhost".toList, d ∈ "127.0.0.1localhost".toList :=
      List.forall_mem_of_all (by decide)
    exact inside _ lowered

theorem PlainLoopback.not_mem (plain : PlainLoopback name)
    (foreign : mark.toLower ∉ "127.0.0.1localhost".toList) : mark ∉ name :=
  fun listed => foreign (plain.toLower_mem listed)

theorem PlainLoopback.ne_nil (plain : PlainLoopback name) : name ≠ [] := by
  rintro rfl
  rcases plain with same | same
  · exact absurd same (by decide)
  · exact absurd same (by decide)

end Names

section Ports

theorem isPort_iff {port : List Char} : isPort port = true ↔
    port = [] ∨ PortDigits port ∨ ∃ digits, port = '+' :: digits ∧ PortDigits digits := by
  simp only [isPort, Bool.or_eq_true, decide_eq_true_eq, Option.isSome_iff_exists, parseBelow_eq_some]
  constructor
  · rintro (empty | ⟨value, digits, rfl | rfl, some_, all, below, _⟩)
    · exact .inl empty
    · exact .inr (.inl ⟨some_, all, Nat.le_of_lt_succ below⟩)
    · exact .inr (.inr ⟨digits, rfl, some_, all, Nat.le_of_lt_succ below⟩)
  · rintro (empty | ⟨some_, all, most⟩ | ⟨digits, rfl, some_, all, most⟩)
    · exact .inl empty
    · exact .inr ⟨_, port, .inl rfl, some_, all, Nat.lt_succ_of_le most, rfl⟩
    · exact .inr ⟨_, digits, .inr rfl, some_, all, Nat.lt_succ_of_le most, rfl⟩

theorem takenPort_iff : TakenPort behind ↔ behind = [] ∨ ∃ port, behind = ':' :: port ∧ isPort port = true := by
  simp only [TakenPort, LoosePort, isPort_iff]
  constructor
  · rintro (rfl | ⟨digits, rfl, port⟩ | rfl | ⟨digits, rfl, port⟩)
    · exact .inl rfl
    · exact .inr ⟨digits, rfl, .inr (.inl port)⟩
    · exact .inr ⟨[], rfl, .inl rfl⟩
    · exact .inr ⟨'+' :: digits, rfl, .inr (.inr ⟨digits, rfl, port⟩)⟩
  · rintro (rfl | ⟨port, rfl, rfl | digits | ⟨digits, rfl, after⟩⟩)
    · exact .inl rfl
    · exact .inr (.inr (.inl rfl))
    · exact .inr (.inl ⟨port, rfl, digits⟩)
    · exact .inr (.inr (.inr ⟨digits, rfl, after⟩))

end Ports

/-- A plain name, or any of the names in brackets, and what the code takes for a port. -/
def TakenHost (host : List Char) : Prop :=
  ∃ name behind, TakenPort behind ∧ (host = name ++ behind ∧ PlainLoopback name ∨
    host = '[' :: name ++ ']' :: behind ∧ (PlainLoopback name ∨ name = "::1".toList))

section Taken

theorem loopbackHost_bracket (rest : List Char) : loopbackHost ('[' :: rest) = true ↔
    ∃ name behind, rest = name ++ ']' :: behind ∧ TakenPort behind ∧
      (PlainLoopback name ∨ name = "::1".toList) := by
  have noBracket (name : List Char) (loopback : PlainLoopback name ∨ name = "::1".toList) : ']' ∉ name := by
    rcases loopback with plain | rfl
    · exact plain.not_mem (by decide)
    · decide
  simp only [loopbackHost, hostParts, portBehind, List.head?_cons, if_true, ← isLoopbackName_iff, takenPort_iff]
  constructor
  · intro taken
    split at taken
    · cases taken
    · next name behind divided =>
      obtain ⟨whole, _⟩ := splitOnce_eq_some.mp divided
      split at taken
      · cases taken
      · next port found =>
        rw [Bool.and_eq_true] at taken
        split at found
        · exact ⟨name, [], whole, .inl rfl, taken.2⟩
        · obtain rfl := Option.some.inj found
          exact ⟨name, _, whole, .inr ⟨_, rfl, taken.1⟩, taken.2⟩
        · cases found
  · rintro ⟨name, behind, rfl, port, loopback⟩
    have divided : splitOnce ']' (name ++ ']' :: behind) = some (name, behind) :=
      splitOnce_eq_some.mpr ⟨rfl, noBracket name (isLoopbackName_iff.mp loopback)⟩
    rw [divided]
    rcases port with rfl | ⟨port, rfl, taken⟩
    · simp [loopback, isPort]
    · simp [loopback, taken]

theorem loopbackHost_plain (noBracket : host.head? ≠ some '[') : loopbackHost host = true ↔
    ∃ name behind, host = name ++ behind ∧ TakenPort behind ∧ PlainLoopback name := by
  have parts : hostParts host = some ((splitOnce ':' host).getD (host, [])) := by
    unfold hostParts
    split
    · exact absurd rfl noBracket
    · rfl
  simp only [loopbackHost, parts, portBehind, if_neg noBracket, Bool.and_eq_true, isLoopbackName_iff, takenPort_iff]
  constructor
  · rintro ⟨taken, loopback⟩
    cases divided : splitOnce ':' host with
    | none =>
        rw [divided] at loopback
        rcases loopback with plain | rfl
        · exact ⟨host, [], (List.append_nil host).symm, .inl rfl, plain⟩
        · exact absurd (splitOnce_eq_none.mp divided) (by decide)
    | some both =>
        obtain ⟨name, port⟩ := both
        rw [divided] at taken loopback
        obtain ⟨whole, noColon⟩ := splitOnce_eq_some.mp divided
        rcases loopback with plain | same
        · exact ⟨name, _, whole, .inr ⟨port, rfl, taken⟩, plain⟩
        · rw [show name = "::1".toList from same] at noColon
          exact absurd noColon (by decide)
  · rintro ⟨name, behind, rfl, port, plain⟩
    have noColon : ':' ∉ name := plain.not_mem (by decide)
    rcases port with rfl | ⟨port, rfl, taken⟩
    · rw [List.append_nil, splitOnce_eq_none.mpr noColon]
      exact ⟨by simp [isPort], .inl plain⟩
    · have divided : splitOnce ':' (name ++ ':' :: port) = some (name, port) :=
        splitOnce_eq_some.mpr ⟨rfl, noColon⟩
      rw [divided]
      exact ⟨taken, .inl plain⟩

theorem loopbackHost_iff : loopbackHost host = true ↔ TakenHost host := by
  have noBracket {name behind : List Char} (plain : PlainLoopback name) : (name ++ behind).head? ≠ some '[' := by
    rw [List.head?_append_of_ne_nil _ plain.ne_nil]
    intro first
    exact plain.not_mem (by decide) (List.mem_of_head? first)
  by_cases bracket : host.head? = some '['
  · obtain ⟨rest, rfl⟩ : ∃ rest, host = '[' :: rest := by
      cases host with
      | nil => cases bracket
      | cons c rest => exact ⟨rest, by rw [Option.some.inj bracket]⟩
    rw [loopbackHost_bracket]
    constructor
    · rintro ⟨name, behind, rfl, port, loopback⟩
      exact ⟨name, behind, port, .inr ⟨rfl, loopback⟩⟩
    · rintro ⟨name, behind, port, ⟨whole, plain⟩ | ⟨whole, loopback⟩⟩
      · exact absurd (by rw [← whole]; rfl) (@noBracket name behind plain)
      · exact ⟨name, behind, (List.cons.inj whole).2, port, loopback⟩
  · rw [loopbackHost_plain bracket]
    constructor
    · rintro ⟨name, behind, whole, port, plain⟩
      exact ⟨name, behind, port, .inl ⟨whole, plain⟩⟩
    · rintro ⟨name, behind, port, ⟨whole, plain⟩ | ⟨whole, _⟩⟩
      · exact ⟨name, behind, whole, port, plain⟩
      · exact absurd (by rw [whole]; rfl) bracket

theorem takenHost_iff : TakenHost host ↔ LoopbackHost host ∨ LooseHost host := by
  have six (behind : List Char) : '[' :: "::1".toList ++ ']' :: behind = "[::1]".toList ++ behind := rfl
  constructor
  · rintro ⟨name, behind, port, ⟨rfl, plain⟩ | ⟨rfl, plain | rfl⟩⟩
    · rcases port with empty | digits | loose
      · exact .inl ⟨name, behind, rfl, .inl plain, .inl empty⟩
      · exact .inl ⟨name, behind, rfl, .inl plain, .inr digits⟩
      · exact .inr (.inr ⟨name, behind, rfl, .inl plain, loose⟩)
    · exact .inr (.inl ⟨name, behind, rfl, plain, port⟩)
    · rw [six]
      rcases port with empty | digits | loose
      · exact .inl ⟨_, behind, rfl, .inr rfl, .inl empty⟩
      · exact .inl ⟨_, behind, rfl, .inr rfl, .inr digits⟩
      · exact .inr (.inr ⟨_, behind, rfl, .inr rfl, loose⟩)
  · have taken {name behind : List Char} (loopback : LoopbackName name) (port : TakenPort behind) :
        TakenHost (name ++ behind) := by
      rcases loopback with plain | rfl
      · exact ⟨name, behind, port, .inl ⟨rfl, plain⟩⟩
      · exact ⟨_, behind, port, .inr ⟨(six behind).symm, .inr rfl⟩⟩
    rintro (⟨name, behind, rfl, loopback, empty | digits⟩ | ⟨name, behind, rfl, plain, port⟩ |
      ⟨name, behind, rfl, loopback, loose⟩)
    · exact taken loopback (.inl empty)
    · exact taken loopback (.inr (.inl digits))
    · exact ⟨name, behind, port, .inr ⟨rfl, .inl plain⟩⟩
    · exact taken loopback (.inr (.inr loose))

end Taken

section Apart

theorem LoopbackName.noPlus (loopback : LoopbackName name) : '+' ∉ name := by
  rcases loopback with plain | rfl
  · exact plain.not_mem (by decide)
  · decide

theorem LoopbackName.getLast_ne (loopback : LoopbackName name) : name.getLast? ≠ some ':' := by
  rcases loopback with plain | rfl
  · exact fun last => plain.not_mem (by decide) (List.mem_of_getLast? last)
  · decide

theorem LoopbackHost.noPlus (documented : LoopbackHost host) : '+' ∉ host := by
  obtain ⟨name, behind, rfl, loopback, rfl | ⟨digits, rfl, _, all, _⟩⟩ := documented
  · rw [List.append_nil]
    exact loopback.noPlus
  · intro listed
    rcases List.mem_append.mp listed with inName | inPort
    · exact loopback.noPlus inName
    · rcases List.mem_cons.mp inPort with colon | digit
      · exact absurd colon (by decide)
      · exact absurd (all '+' digit) (by decide)

theorem LoopbackHost.getLast_ne (documented : LoopbackHost host) : host.getLast? ≠ some ':' := by
  obtain ⟨name, behind, rfl, loopback, rfl | ⟨digits, rfl, some_, all, _⟩⟩ := documented
  · rw [List.append_nil]
    exact loopback.getLast_ne
  · rw [List.getLast?_append_of_ne_nil _ (List.cons_ne_nil _ _), List.getLast?_cons]
    cases last : digits.getLast? with
    | none => exact absurd (List.getLast?_eq_none_iff.mp last) some_
    | some c =>
        rintro ⟨rfl⟩
        exact absurd (all ':' (List.mem_of_getLast? last)) (by decide)

theorem LoopbackHost.not_bracketed (documented : LoopbackHost host) : ¬ BracketedName host := by
  rintro ⟨inside, after, whole, plain, _⟩
  obtain ⟨c, others, rfl⟩ := List.exists_cons_of_ne_nil plain.ne_nil
  obtain ⟨name, behind, rfl, plainToo | rfl, _⟩ := documented
  · obtain ⟨d, rest, rfl⟩ := List.exists_cons_of_ne_nil plainToo.ne_nil
    obtain rfl : d = '[' := (List.cons.inj whole).1
    exact plainToo.not_mem (by decide) List.mem_cons_self
  · obtain rfl : ':' = c := (List.cons.inj (List.cons.inj whole).2).1
    exact plain.not_mem (by decide) List.mem_cons_self

theorem LoopbackHost.not_loose (documented : LoopbackHost host) : ¬ LooseHost host := by
  rintro (bracketed | ⟨name, behind, rfl, _, rfl | ⟨digits, rfl, _⟩⟩)
  · exact documented.not_bracketed bracketed
  · exact documented.getLast_ne (by simp)
  · exact documented.noPlus (by simp)

end Apart

/-- The check takes what is documented and nothing else, unless a plain name stands in brackets, or the port
is missing behind its colon or has a plus. -/
theorem hostIsLoopback_iff (host : String) :
    (hostIsLoopback (some host) = true ↔ LoopbackHost host.toList) ↔ ¬ LooseHost host.toList := by
  have taken : hostIsLoopback (some host) = true ↔ LoopbackHost host.toList ∨ LooseHost host.toList :=
    loopbackHost_iff.trans takenHost_iff
  rw [taken]
  constructor
  · intro only loose
    exact (only.mp (.inr loose)).not_loose loose
  · intro strict
    exact or_iff_left strict

theorem loose_hosts_are_taken :
    ¬ (∀ host : String, hostIsLoopback (some host) = true ↔ LoopbackHost host.toList) ∧
      ∀ host ∈ ["[localhost]", "[127.0.0.1]:8765", "localhost:", "[::1]:", "127.0.0.1:+80"],
        hostIsLoopback (some host) = true ∧ ¬ LoopbackHost host.toList := by
  have loose : ∀ host ∈ ["[localhost]", "[127.0.0.1]:8765", "localhost:", "[::1]:", "127.0.0.1:+80"],
      LooseHost host.toList := by
    have local_ : PlainLoopback "localhost".toList := .inr (by decide)
    have four : PlainLoopback "127.0.0.1".toList := .inl rfl
    simp only [List.forall_mem_cons]
    refine ⟨.inl ⟨_, [], rfl, local_, .inl rfl⟩,
      .inl ⟨_, ":8765".toList, rfl, four, .inr (.inl ⟨"8765".toList, rfl, ?_⟩)⟩,
      .inr ⟨_, _, rfl, .inl local_, .inl rfl⟩, .inr ⟨_, _, rfl, .inr rfl, .inl rfl⟩,
      .inr ⟨_, ":+80".toList, rfl, .inl four, .inr ⟨"80".toList, rfl, ?_⟩⟩, by simp⟩
    · exact ⟨by decide, List.forall_mem_of_all (by decide), by decide⟩
    · exact ⟨by decide, List.forall_mem_of_all (by decide), by decide⟩
  have taken : ∀ host ∈ ["[localhost]", "[127.0.0.1]:8765", "localhost:", "[::1]:", "127.0.0.1:+80"],
      hostIsLoopback (some host) = true ∧ ¬ LoopbackHost host.toList := by
    intro host listed
    have there := loose host listed
    exact ⟨loopbackHost_iff.mpr (takenHost_iff.mpr (.inr there)), fun documented => documented.not_loose there⟩
  refine ⟨fun same => ?_, taken⟩
  obtain ⟨accepted, undocumented⟩ := taken "[localhost]" (by simp)
  exact undocumented ((same "[localhost]").mp accepted)

end Gputeer.Agent
