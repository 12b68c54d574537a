import Gputeer.Checkpoint.Resumable
import Gputeer.Checkpoint.Shared

/-! The names of shared checkpoints: digests in hexadecimal read back as they were, a stored name gives its
logical name back, and each is one name below its folder. -/

namespace Gputeer.Checkpoint

open Text

section Hex

variable {bytes : List UInt8} {what : String}

theorem hexDigit_digitChar : ∀ n < 16, (String.utf8EncodeChar (Nat.digitChar n)).map hexDigit = [some n] := by
  decide

/-- No digit is the end of a reserved name, nor dropped from the end of a name. -/
theorem digitChar_plain : ∀ n < 16, (Nat.digitChar n).toLower ≠ 'k' ∧ Nat.digitChar n ≠ '.' ∧
    Nat.digitChar n ≠ ' ' := by decide

theorem isLowerHex_digitChar : ∀ n < 16, isLowerHex (Nat.digitChar n) = true := by decide

/-- A digit is one byte. -/
theorem utf8_digitChar {n : Nat} (small : n < 16) :
    ∃ digit, String.utf8EncodeChar (Nat.digitChar n) = [digit] ∧ hexDigit digit = some n := by
  have read := hexDigit_digitChar n small
  rcases List.map_eq_singleton_iff.mp read with ⟨digit, single, value⟩
  exact ⟨digit, single, value⟩

theorem utf8_toHex : Bytes.utf8 (toHex bytes) = (bytes.flatMap hexDigits).flatMap String.utf8EncodeChar :=
  Bytes.utf8_ofList _

/-- A byte is its high half times sixteen plus its low half. -/
theorem hexByte_halves (byte : UInt8) :
    UInt8.ofNat (16 * (byte.toNat / 16) + byte.toNat % 16) = byte := by
  rw [Nat.div_add_mod, UInt8.ofNat_toNat]

theorem hexBytes_toHex : hexBytes (Bytes.utf8 (toHex bytes)) = some bytes := by
  rw [utf8_toHex]
  induction bytes with
  | nil => rfl
  | cons byte bytes ih =>
      have bound := byte.toNat_lt
      obtain ⟨first, firstByte, high⟩ := @utf8_digitChar (byte.toNat / 16) (by omega)
      obtain ⟨second, secondByte, low⟩ := @utf8_digitChar (byte.toNat % 16) (by omega)
      rw [List.flatMap_cons, List.flatMap_append]
      simp only [hexDigits, List.flatMap_cons, List.flatMap_nil, firstByte, secondByte, List.append_nil,
        List.cons_append, List.nil_append, hexBytes, hexByte, high, low, ih, hexByte_halves]
      rfl

theorem size_toHex : (toHex bytes).utf8ByteSize = 2 * bytes.length := by
  rw [Bytes.utf8ByteSize_eq, utf8_toHex]
  induction bytes with
  | nil => rfl
  | cons byte bytes ih =>
      have bound := byte.toNat_lt
      obtain ⟨first, firstByte, _⟩ := @utf8_digitChar (byte.toNat / 16) (by omega)
      obtain ⟨second, secondByte, _⟩ := @utf8_digitChar (byte.toNat % 16) (by omega)
      rw [List.flatMap_cons, List.flatMap_append, List.length_append, ih]
      simp only [hexDigits, List.flatMap_cons, List.flatMap_nil, firstByte, secondByte, List.length_append,
        List.length_cons, List.length_nil]
      omega

/-- A digest that was written in hexadecimal. -/
theorem hex32_toHex (long : bytes.length = 32) : hex32 (toHex bytes) what = .ok bytes := by
  unfold hex32
  rw [size_toHex, long, hexBytes_toHex]
  rfl

theorem mem_toHex {c : Char} (listed : c ∈ (toHex bytes).toList) : ∃ n < 16, c = Nat.digitChar n := by
  unfold toHex at listed
  rw [String.toList_ofList] at listed
  obtain ⟨byte, _, digit⟩ := List.mem_flatMap.mp listed
  have bound := byte.toNat_lt
  simp only [hexDigits, List.mem_cons, List.not_mem_nil, or_false] at digit
  rcases digit with rfl | rfl
  · exact ⟨_, by omega, rfl⟩
  · exact ⟨_, by omega, rfl⟩

theorem lowerHex_toHex {c : Char} (listed : c ∈ (toHex bytes).toList) : isLowerHex c = true := by
  obtain ⟨n, small, rfl⟩ := mem_toHex listed
  exact isLowerHex_digitChar n small

theorem not_mem_toHex {c : Char} (noDigit : isLowerHex c = false) : c ∉ (toHex bytes).toList := by
  intro listed
  rw [lowerHex_toHex listed] at noDigit
  cases noDigit

end Hex

section Plain

variable {name value what suffix : String}

/-- One name below a folder. -/
structure PlainName (name : String) : Prop where
  filled : name ≠ ""
  notHere : name ≠ "."
  notUp : name ≠ ".."
  flat : '/' ∉ name.toList

theorem PlainName.componentOf (plain : PlainName name) : componentOf name.toList = some (.normal name) := by
  have noName : name.toList ≠ [] := fun same => plain.filled (String.toList_inj.mp same)
  have noDot : name.toList ≠ ['.'] := fun same => plain.notHere (String.toList_inj.mp same)
  have noDots : name.toList ≠ ['.', '.'] := fun same => plain.notUp (String.toList_inj.mp same)
  unfold Text.componentOf
  rw [if_neg (not_or.mpr ⟨noName, noDot⟩), if_neg noDots, String.ofList_toList]

theorem pathComponents_plain (plain : PlainName name) : pathComponents name = [.normal name] := by
  have whole : name.toList.splitOn '/' = [name.toList] := List.splitOn_eq_singleton plain.flat
  have noDot : name.toList ≠ ['.'] := fun same => plain.notHere (String.toList_inj.mp same)
  unfold pathComponents
  rw [whole]
  simp [noDot, plain.componentOf]

theorem joinName_plain (dir : DiskPath) (plain : PlainName name) : joinName dir name = dir ++ [name] := by
  unfold joinName
  rw [pathComponents_plain plain]
  rfl

theorem openBeneath_plain (plain : PlainName name) : openBeneath name = .ok [name] := by
  have noEnd (part : String) (slash : '/' ∈ part.toList) : endsWith part name = false :=
    decide_eq_false fun ends => plain.flat (ends.subset slash)
  unfold openBeneath
  rw [pathComponents_plain plain]
  simp [noEnd "/" (by decide), noEnd "/." (by decide), isNormal, normalNames]

theorem endsWith_after {before : String} (plain : PlainName name) :
    endsWith "/" (before ++ name) = false ∧ endsWith "/." (before ++ name) = false := by
  have last : name.toList <:+ (before ++ name).toList := by
    rw [String.toList_append]
    exact List.suffix_append _ _
  have noName : name.toList ≠ [] := fun same => plain.filled (String.toList_inj.mp same)
  have noDot : name.toList ≠ ['.'] := fun same => plain.notHere (String.toList_inj.mp same)
  constructor
  · refine decide_eq_false fun ends => ?_
    rcases List.suffix_or_suffix_of_suffix last ends with short | inside
    · rcases List.suffix_cons_iff.mp short with same | rest
      · exact plain.flat (same ▸ by decide)
      · exact noName (List.suffix_nil.mp rest)
    · exact plain.flat (inside.subset (by decide))
  · refine decide_eq_false fun ends => ?_
    rcases List.suffix_or_suffix_of_suffix last ends with short | inside
    · rcases List.suffix_cons_iff.mp short with same | rest
      · exact plain.flat (same ▸ by decide)
      · rcases List.suffix_cons_iff.mp rest with same | rest
        · exact noDot same
        · exact noName (List.suffix_nil.mp rest)
    · exact plain.flat (inside.subset (by decide))

/-- A folder and a file in it. -/
theorem openBeneath_pair {dirName : String} (dirPlain : PlainName dirName) (plain : PlainName name) :
    openBeneath (dirName ++ "/" ++ name) = .ok [dirName, name] := by
  have divided : (dirName ++ "/" ++ name).toList.splitOn '/' = [dirName.toList, name.toList] := by
    rw [String.toList_append, String.toList_append, List.append_assoc]
    have first := List.splitOn_append_cons_self_of_not_mem dirPlain.flat name.toList
    rw [List.splitOn_eq_singleton plain.flat] at first
    exact first
  have noName : dirName.toList ≠ [] := fun same => dirPlain.filled (String.toList_inj.mp same)
  have noDot : dirName.toList ≠ ['.'] := fun same => dirPlain.notHere (String.toList_inj.mp same)
  have parts : pathComponents (dirName ++ "/" ++ name) = [.normal dirName, .normal name] := by
    unfold pathComponents
    rw [divided]
    simp [noName, noDot, dirPlain.componentOf, plain.componentOf]
  unfold openBeneath
  rw [parts]
  simp [(endsWith_after plain).1, (endsWith_after plain).2, isNormal, normalNames]

theorem ne_of_longer {short : String} (plain : PlainName name) (long : 1 < suffix.toList.length)
    (few : short.toList.length ≤ 2) : name ++ suffix ≠ short := by
  rintro rfl
  have filled : 0 < name.toList.length :=
    List.length_pos_of_ne_nil fun none_ => plain.filled (String.toList_inj.mp none_)
  rw [String.toList_append, List.length_append] at few
  omega

theorem PlainName.append (plain : PlainName name) (flat : '/' ∉ suffix.toList) (long : 1 < suffix.toList.length) :
    PlainName (name ++ suffix) where
  filled := ne_of_longer plain long (by decide)
  notHere := ne_of_longer plain long (by decide)
  notUp := ne_of_longer plain long (by decide)
  flat := by
    rw [String.toList_append, List.mem_append]
    exact not_or.mpr ⟨plain.flat, flat⟩

theorem safeComponent_eq_ok : safeComponent value what = .ok () ↔ PlainName value ∧ '\\' ∉ value.toList ∧
    ':' ∉ value.toList ∧ ∀ c ∈ value.toList, isControl c = false := by
  unfold safeComponent
  split
  · next unsafe_ =>
    refine ⟨fun no => (by cases no), fun ⟨plain, noBack, noColon, printable⟩ => ?_⟩
    rcases unsafe_ with rfl | rfl | rfl | (slash | back | colon) | control
    · exact absurd rfl plain.filled
    · exact absurd rfl plain.notHere
    · exact absurd rfl plain.notUp
    · exact absurd slash plain.flat
    · exact absurd back noBack
    · exact absurd colon noColon
    · obtain ⟨c, listed, is⟩ := List.any_eq_true.mp control
      rw [printable c listed] at is
      cases is
  · next safe =>
    simp only [not_or, List.any_eq_true, not_exists, not_and, Bool.not_eq_true] at safe
    exact ⟨fun _ => ⟨⟨safe.1, safe.2.1, safe.2.2.1, safe.2.2.2.1.1⟩, safe.2.2.2.1.2.1, safe.2.2.2.1.2.2,
      safe.2.2.2.2⟩, fun _ => rfl⟩

end Plain

section Logical

variable {codec : CheckpointCodec} {logical name : String} {data : List UInt8}

/-- The names that are staged. -/
structure LogicalName (name : String) : Prop where
  plain : PlainName name
  noBack : '\\' ∉ name.toList
  visible : name.toList.head? ≠ some '.'

theorem validateLogicalName_ok (accepted : validateLogicalName name = .ok ()) : LogicalName name := by
  unfold validateLogicalName at accepted
  split at accepted
  · cases accepted
  · next valid =>
    unfold validateComponent at valid
    split at valid
    · cases valid
    · next filled =>
      split at valid
      · cases valid
      · split at valid
        · cases valid
        · next flat =>
          split at valid
          · cases valid
          · next named =>
            split at valid
            · cases valid
            · next visible =>
              rw [not_or] at flat named
              exact ⟨⟨filled, named.1, named.2, flat.1⟩, flat.2, visible⟩

theorem rsplitOnce_eq_none {mark : Char} {part text : List Char} (absent : mark ∉ text) :
    rsplitOnce (mark :: part) text = none := by
  induction text with
  | nil => rfl
  | cons c rest ih =>
      rw [List.mem_cons, not_or] at absent
      have apart : ¬ mark :: part <+: c :: rest := fun begins => absent.1 (List.cons_prefix_cons.mp begins).1
      unfold rsplitOnce
      rw [ih absent.2]
      exact if_neg apart

/-- The last mark is the one before a text without its first character. -/
theorem rsplitOnce_append {mark : Char} {part digest : List Char} (partPlain : mark ∉ part)
    (plain : mark ∉ digest) (before : List Char) :
    rsplitOnce (mark :: part) (before ++ (mark :: part ++ digest)) = some (before, digest) := by
  induction before with
  | nil =>
      have later : rsplitOnce (mark :: part) (part ++ digest) = none :=
        rsplitOnce_eq_none (by simp [partPlain, plain])
      rw [List.nil_append, List.cons_append]
      unfold rsplitOnce
      rw [later]
      simp
  | cons c before ih =>
      rw [List.cons_append]
      unfold rsplitOnce
      rw [ih]

theorem stored_toList : (storedName codec logical data).toList =
    logical.toList ++ (contentAddressMarker.toList ++ (codec.hash data).toList) := by
  simp [storedName]

theorem rsplitOnce_stored : rsplitOnce contentAddressMarker.toList (storedName codec logical data).toList =
    some (logical.toList, (codec.hash data).toList) := by
  rw [stored_toList]
  exact @rsplitOnce_append '.' ['b', '3', '-'] _ (by decide) (not_mem_toHex (by decide)) _

theorem size_hash : (codec.hash data).utf8ByteSize = 64 := by
  unfold CheckpointCodec.hash
  rw [size_toHex, Vector.length_toList]

theorem logicalNameOf_stored (filled : logical ≠ "") :
    logicalNameOf (storedName codec logical data) = some logical := by
  have noName : logical.toList ≠ [] := fun same => filled (String.toList_inj.mp same)
  have hex : (codec.hash data).toList.all isLowerHex = true :=
    List.all_eq_true.mpr fun c listed => lowerHex_toHex listed
  unfold logicalNameOf
  rw [rsplitOnce_stored]
  simp [noName, size_hash, hex]

theorem storedName_injective {other : String} {content : List UInt8} (filled : logical ≠ "")
    (otherFilled : other ≠ "") (same : storedName codec logical data = storedName codec other content) :
    logical = other := by
  have named := @logicalNameOf_stored codec logical data filled
  rw [same, logicalNameOf_stored otherFilled] at named
  exact (Option.some.inj named).symm

theorem plain_stored (logicalName : LogicalName logical) : PlainName (storedName codec logical data) := by
  have flat : '/' ∉ (contentAddressMarker ++ codec.hash data).toList := by
    rw [String.toList_append, List.mem_append]
    exact not_or.mpr ⟨by decide, not_mem_toHex (by decide)⟩
  have long : 1 < (contentAddressMarker ++ codec.hash data).toList.length := by
    rw [String.toList_append, List.length_append]
    have : contentAddressMarker.toList.length = 4 := by decide
    omega
  have whole : storedName codec logical data = logical ++ (contentAddressMarker ++ codec.hash data) :=
    String.append_assoc
  rw [whole]
  exact logicalName.plain.append flat long

/-- A stored name ends in a digit. -/
theorem stored_last : ∃ before, ∃ n < 16, (storedName codec logical data).toList = before ++ [Nat.digitChar n] := by
  have filled : codec.hash data ≠ "" := by
    intro same
    have long := @size_hash codec data
    rw [same] at long
    cases long
  have someDigit : (codec.hash data).toList ≠ [] := fun same => filled (String.toList_inj.mp same)
  rcases List.eq_nil_or_concat' (codec.hash data).toList with none_ | ⟨before, c, same⟩
  · exact absurd none_ someDigit
  · obtain ⟨n, small, rfl⟩ := @mem_toHex (codec.blake3 data).toList c (by
      change c ∈ (codec.hash data).toList
      rw [same]
      simp)
    refine ⟨logical.toList ++ (contentAddressMarker.toList ++ before), n, small, ?_⟩
    rw [stored_toList, same]
    simp

theorem relative_plain (plain : PlainName name) (unreserved : endsWith ".write_once.lock" (asciiLowercase
      (String.ofList (name.toList.rdropWhile fun c => c = '.' || c = ' '))) = false) :
    validateRelativeName name = .ok () := by
  unfold validateRelativeName
  simp only [plain.filled, unreserved, pathComponents_plain plain]
  rfl

/-- The last character tells that a name is none of a lock. -/
theorem relative_of_last {before : List Char} {c : Char} (plain : PlainName name) (whole : name.toList = before ++ [c])
    (stays : c ≠ '.' ∧ c ≠ ' ') (noLock : c.toLower ≠ 'k') : validateRelativeName name = .ok () := by
  have kept : name.toList.rdropWhile (fun c => c = '.' || c = ' ') = before ++ [c] := by
    rw [whole]
    exact List.rdropWhile_concat_neg _ _ _ (by simp [stays.1, stays.2])
  refine relative_plain plain (decide_eq_false fun ends => noLock ?_)
  rw [kept] at ends
  simp only [asciiLowercase, String.toList_ofList, List.map_append, List.map_cons, List.map_nil] at ends
  obtain ⟨rest, same⟩ := ends
  have last := congrArg List.getLast? same
  rw [List.getLast?_append_of_ne_nil _ (by decide), List.getLast?_concat] at last
  exact (Option.some.inj last).symm

theorem relative_stored (logicalName : LogicalName logical) :
    validateRelativeName (storedName codec logical data) = .ok () := by
  obtain ⟨before, n, small, whole⟩ := @stored_last codec logical data
  obtain ⟨noLock, noDot, noBlank⟩ := digitChar_plain n small
  exact relative_of_last (plain_stored logicalName) whole ⟨noDot, noBlank⟩ noLock

end Logical

end Gputeer.Checkpoint
