import Gputeer.Lib.Except
import Gputeer.Lib.Text

/-! Which paths a job may write. Only the text of a path is looked at: what a link leads to is not seen here. -/

namespace Gputeer.RuntimePolicy

inductive ArtifactViolation where
  | pathTraversal (requested : String)
  | absolutePath (requested : String)
  | outsideAllowedPrefixes (requested : String)
  | ntfsAlternateDataStream (requested : String)
  | invisibleCharacters (requested : String)
  | nonAscii (requested : String)
  | windowsReservedName (requested component : String)
  | trailingDotOrSpace (requested : String)
  deriving DecidableEq

def isInvisible (c : Char) : Bool :=
  c.val ≤ 0x1f || (0x7f ≤ c.val && c.val ≤ 0x9f) || (0x200b ≤ c.val && c.val ≤ 0x200f) ||
    (0x2028 ≤ c.val && c.val ≤ 0x202e) || (0x2060 ≤ c.val && c.val ≤ 0x206f) || c.val = 0xfeff

def hasInvisibleChars (s : String) : Bool := s.toList.any isInvisible

def windowsReservedNames : List String :=
  ["CON", "PRN", "AUX", "NUL", "COM1", "COM2", "COM3", "COM4", "COM5", "COM6", "COM7", "COM8",
    "COM9", "LPT1", "LPT2", "LPT3", "LPT4", "LPT5", "LPT6", "LPT7", "LPT8", "LPT9"]

def isWindowsReservedName (component : String) : Bool :=
  let stem := (Text.split '.' component).headD component
  windowsReservedNames.any fun reserved => Text.asciiLowercase reserved = Text.asciiLowercase stem

structure ArtifactPolicy where
  writablePrefixes : List String

namespace ArtifactPolicy

/-- A prefix that says nothing is dropped. -/
def isMeaningful (prefix_ : String) : Bool :=
  let trimmed := Text.trimMatches '/' prefix_
  trimmed ≠ "" && trimmed ≠ "."

def new (writablePrefixes : List String) : ArtifactPolicy := ⟨writablePrefixes.filter isMeaningful⟩

def forwardSlashes (requested : String) : String :=
  String.ofList (requested.toList.map fun c => if c = '\\' then '/' else c)

/-- `Path::is_absolute` on a Unix host. -/
def isAbsolute (path : String) : Bool := path.toList.head? = some '/'

def checkComponent (requested rawComponent : String) : Except ArtifactViolation Unit :=
  if rawComponent = "" ∨ rawComponent = "." ∨ rawComponent = ".." then .ok ()
  else do
    Except.ensure (¬ (Text.endsWith "." rawComponent ∨ Text.endsWith " " rawComponent))
      (.trailingDotOrSpace requested)
    Except.ensure (isWindowsReservedName rawComponent = false) (.windowsReservedName requested rawComponent)

/-- The normalized path is the prefix or goes on below it. -/
def isBelow (rebuilt prefix_ : String) : Bool :=
  let prefix_ := Text.trimEndMatches '/' prefix_
  rebuilt = prefix_ || (prefix_ ++ "/").toList.isPrefixOf rebuilt.toList

/-- The parts of a path that say something. -/
def pathParts (normalized : String) : List String :=
  (Text.split '/' normalized).filter fun p => p ≠ "" && p ≠ "."

def check (policy : ArtifactPolicy) (requested : String) : Except ArtifactViolation Unit := do
  Except.ensure (hasInvisibleChars requested = false) (.invisibleCharacters requested)
  Except.ensure (requested.toList.all (·.val < 0x80)) (.nonAscii requested)
  let normalized := forwardSlashes requested
  Except.ensure (':' ∉ normalized.toList) (.ntfsAlternateDataStream requested)
  Except.ensure (¬ (normalized.toList.head? = some '/' ∨ isAbsolute normalized)) (.absolutePath requested)
  (Text.split '/' normalized).forM (checkComponent requested)
  let parts := pathParts normalized
  Except.ensure (".." ∉ parts) (.pathTraversal requested)
  let rebuilt := "/".intercalate parts
  Except.ensure (rebuilt ≠ "") (.outsideAllowedPrefixes requested)
  Except.ensure (policy.writablePrefixes.any (isBelow rebuilt)) (.outsideAllowedPrefixes requested)

section Meaning

variable {prefixes : List String} {requested prefix_ component : String} {done : Unit}

/-- A component that Windows takes for a device: a reserved name in any case, with any extension. -/
def WindowsDevice (component : String) : Prop :=
  ∃ reserved ∈ windowsReservedNames, ∃ stem, Text.asciiLowercase stem = Text.asciiLowercase reserved ∧
    (component = stem ∨ ∃ extension, component = stem ++ "." ++ extension)

/-- A path that no rule but the one about the prefixes stands against. -/
structure Admissible (requested : String) : Prop where
  printable : ∀ c ∈ requested.toList, 0x20 ≤ c.val ∧ c.val ≤ 0x7e
  noColon : ':' ∉ requested.toList
  relative : ∀ c ∈ requested.toList.head?, c ≠ '/' ∧ c ≠ '\\'
  noEscape : ".." ∉ pathParts (forwardSlashes requested)
  noTrailing : ∀ component ∈ pathParts (forwardSlashes requested), ∀ c ∈ component.toList.getLast?,
    c ≠ '.' ∧ c ≠ ' '
  noDevice : ∀ component ∈ pathParts (forwardSlashes requested), ¬ WindowsDevice component
  named : pathParts (forwardSlashes requested) ≠ []

/-- The components of a prefix as it is written, but for the slashes at its end. -/
def prefixParts (prefix_ : String) : List String := Text.split '/' (Text.trimEndMatches '/' prefix_)

theorem printable_iff : (hasInvisibleChars requested = false ∧ requested.toList.all (·.val < 0x80) = true) ↔
    ∀ c ∈ requested.toList, 0x20 ≤ c.val ∧ c.val ≤ 0x7e := by
  simp only [hasInvisibleChars, List.any_eq_false, List.all_eq_true, ← forall_and]
  refine forall₂_congr fun c _ => ?_
  simp only [isInvisible, UInt32.le_iff_toNat_le, UInt32.lt_iff_toNat_lt, ← UInt32.toNat_inj, Bool.or_eq_true,
    Bool.and_eq_true, decide_eq_true_eq, UInt32.toNat_ofNat]
  omega

theorem no_dot_in_reserved : ∀ reserved ∈ windowsReservedNames, '.' ∉ (Text.asciiLowercase reserved).toList := by
  decide +kernel

/-- The extension begins at the first dot, and a reserved name has none. -/
theorem isWindowsReservedName_iff : isWindowsReservedName component = true ↔ WindowsDevice component := by
  unfold isWindowsReservedName
  simp only [List.any_eq_true, decide_eq_true_eq]
  refine exists_congr fun reserved => and_congr_right fun listed => ?_
  constructor
  · intro same
    obtain ⟨stem, rest, divided⟩ := List.exists_cons_of_ne_nil (Text.split_ne_nil '.' component)
    rw [divided, List.headD_cons] at same
    refine ⟨stem, same.symm, ?_⟩
    rcases Text.eq_of_split_cons divided with alone | extended
    · exact Or.inl alone
    · exact Or.inr extended
  · rintro ⟨stem, same, whole⟩
    have plain : '.' ∉ stem.toList := fun dotted =>
      no_dot_in_reserved reserved listed (by rw [← same]; exact Text.mem_asciiLowercase dotted)
    rcases whole with rfl | ⟨extension, rfl⟩
    · rw [Text.split_of_not_mem plain, List.headD_cons, same]
    · have divided : Text.split '.' (stem ++ "." ++ extension) = stem :: Text.split '.' extension := by
        rw [show "." = ('.').toString from rfl, Text.split_append, Text.split_of_not_mem plain, List.singleton_append]
      rw [divided, List.headD_cons, same]

theorem checkComponent_eq_ok : checkComponent requested component = .ok done ↔
    component = "" ∨ component = "." ∨ component = ".." ∨
      ((∀ c ∈ component.toList.getLast?, c ≠ '.' ∧ c ≠ ' ') ∧ ¬ WindowsDevice component) := by
  unfold checkComponent
  by_cases special : component = "" ∨ component = "." ∨ component = ".."
  · rw [if_pos special]
    tauto
  · rw [if_neg special]
    simp only [Except.bind_eq_ok, Except.ensure_eq_ok, Text.endsWith, decide_eq_true_eq, exists_const,
      show ".".toList = ['.'] from rfl, show " ".toList = [' '] from rfl,
      List.singleton_suffix_iff_getLast?_eq_some, ← isWindowsReservedName_iff, Bool.not_eq_true]
    have last : (¬ (component.toList.getLast? = some '.' ∨ component.toList.getLast? = some ' ')) ↔
        ∀ c ∈ component.toList.getLast?, c ≠ '.' ∧ c ≠ ' ' := by
      cases component.toList.getLast? <;> simp
    rw [not_or, not_or] at special
    rw [last, or_iff_right special.1, or_iff_right special.2.1, or_iff_right special.2.2]

theorem mem_pathParts : component ∈ pathParts requested ↔
    component ∈ Text.split '/' requested ∧ component ≠ "" ∧ component ≠ "." := by
  simp [pathParts]

theorem forward_head : (forwardSlashes requested).toList.head? = some '/' ↔
    ¬ ∀ c ∈ requested.toList.head?, c ≠ '/' ∧ c ≠ '\\' := by
  rw [forwardSlashes, String.toList_ofList, List.head?_map]
  cases requested.toList.head? with
  | none => simp
  | some c =>
      by_cases backslash : c = '\\' <;> simp [backslash]

theorem colon_mem_forward : ':' ∈ (forwardSlashes requested).toList ↔ ':' ∈ requested.toList := by
  rw [forwardSlashes, String.toList_ofList, List.mem_map]
  constructor
  · rintro ⟨c, inside, same⟩
    split at same
    · simp at same
    · exact same ▸ inside
  · exact fun inside => ⟨':', inside, rfl⟩

/-- Nothing that is joined holds a slash, so the text below a prefix is what its parts go before. -/
theorem isBelow_iff (some_ : pathParts requested ≠ []) :
    isBelow ("/".intercalate (pathParts requested)) prefix_ = true ↔
      prefixParts prefix_ <+: pathParts requested := by
  have plain : ∀ part ∈ pathParts requested, '/' ∉ part.toList := fun part listed =>
    Text.not_mem_of_mem_split (mem_pathParts.mp listed).1
  rw [prefixParts, Text.split_prefix_iff plain some_, isBelow]
  simp

theorem rebuilt_ne_empty : "/".intercalate (pathParts requested) ≠ "" ↔ pathParts requested ≠ [] := by
  refine not_congr ⟨fun empty => ?_, fun none_ => by rw [none_, String.intercalate_nil]⟩
  by_contra some_
  have parts := @Text.split_intercalate '/' _ (fun part listed =>
    Text.not_mem_of_mem_split (mem_pathParts.mp listed).1) some_
  rw [show ('/').toString = "/" from rfl, empty] at parts
  have listed : "" ∈ pathParts requested := by
    rw [← parts, Text.split_of_not_mem (by simp)]
    exact List.mem_singleton_self _
  exact (mem_pathParts.mp listed).2.1 rfl

theorem checkComponents_iff :
    ((∀ raw ∈ Text.split '/' (forwardSlashes requested), checkComponent requested raw = .ok ()) ∧
      ".." ∉ pathParts (forwardSlashes requested)) ↔
    ".." ∉ pathParts (forwardSlashes requested) ∧ ∀ component ∈ pathParts (forwardSlashes requested),
      (∀ c ∈ component.toList.getLast?, c ≠ '.' ∧ c ≠ ' ') ∧ ¬ WindowsDevice component := by
  simp only [checkComponent_eq_ok, mem_pathParts]
  constructor
  · rintro ⟨each, noEscape⟩
    refine ⟨noEscape, fun component listed => ?_⟩
    rcases each component listed.1 with empty | dot | dots | good
    · exact absurd empty listed.2.1
    · exact absurd dot listed.2.2
    · exact absurd (dots ▸ listed) noEscape
    · exact good
  · rintro ⟨noEscape, each⟩
    refine ⟨fun component listed => ?_, noEscape⟩
    by_cases empty : component = ""
    · exact Or.inl empty
    · by_cases dot : component = "."
      · exact Or.inr (Or.inl dot)
      · exact Or.inr (Or.inr (Or.inr (each component ⟨listed, empty, dot⟩)))

/-- The request is read by its components; a prefix is taken as it is written. -/
theorem check_accepts_iff : (new prefixes).check requested = .ok done ↔ Admissible requested ∧
    ∃ prefix_ ∈ (new prefixes).writablePrefixes, prefixParts prefix_ <+: pathParts (forwardSlashes requested) := by
  have below (some_ : pathParts (forwardSlashes requested) ≠ []) :
      (new prefixes).writablePrefixes.any (isBelow ("/".intercalate (pathParts (forwardSlashes requested)))) = true ↔
        ∃ prefix_ ∈ (new prefixes).writablePrefixes, prefixParts prefix_ <+: pathParts (forwardSlashes requested) := by
    simp only [List.any_eq_true, isBelow_iff some_]
  simp only [check, Except.bind_eq_ok, Except.ensure_eq_ok, Except.forM_eq_ok, exists_const, rebuilt_ne_empty,
    colon_mem_forward, isAbsolute, decide_eq_true_eq, or_self, forward_head, not_not]
  constructor
  · rintro ⟨visible, ascii, noColon, relative, each, noEscape, named, allowed⟩
    obtain ⟨noEscape, good⟩ := checkComponents_iff.mp ⟨each, noEscape⟩
    exact ⟨⟨printable_iff.mp ⟨visible, ascii⟩, noColon, relative, noEscape, fun component listed => (good component listed).1,
      fun component listed => (good component listed).2, named⟩, (below named).mp allowed⟩
  · rintro ⟨admissible, allowed⟩
    obtain ⟨visible, ascii⟩ := printable_iff.mpr admissible.printable
    obtain ⟨each, noEscape⟩ := checkComponents_iff.mpr ⟨admissible.noEscape, fun component listed =>
      ⟨admissible.noTrailing component listed, admissible.noDevice component listed⟩⟩
    exact ⟨visible, ascii, admissible.noColon, admissible.relative, each, noEscape, admissible.named,
      (below admissible.named).mpr allowed⟩

/-- A `.` in a prefix stays, so nothing is below it. -/
theorem dotted_prefix_allows_nothing :
    (new ["./jobs"]).check "jobs/x" = .error (.outsideAllowedPrefixes "jobs/x") ∧ Admissible "jobs/x" ∧
    ∃ prefix_ ∈ (new ["./jobs"]).writablePrefixes,
      pathParts (forwardSlashes prefix_) <+: pathParts (forwardSlashes "jobs/x") := by
  -- Read by the checks themselves: what they ask of a text is asked of its few characters.
  obtain ⟨noEscape, each⟩ := (@checkComponents_iff "jobs/x").mp ⟨by decide +kernel, by decide +kernel⟩
  have admissible : Admissible "jobs/x" :=
    { printable := printable_iff.mp ⟨by decide +kernel, by decide +kernel⟩
      noColon := by decide +kernel
      relative := not_not.mp (forward_head.not.mp (by decide +kernel))
      noEscape
      noTrailing := fun component listed => (each component listed).1
      noDevice := fun component listed => (each component listed).2
      named := by decide +kernel }
  exact ⟨by decide +kernel, admissible, "./jobs", by decide +kernel, by decide +kernel⟩

end Meaning

end ArtifactPolicy

end Gputeer.RuntimePolicy
