import Gputeer.Protocol.Canonical

/-! Which differences between two trees of fields the canonical encoding does not show. -/

namespace Gputeer.Protocol

variable {derived : List UInt32} {fields others first second : Fields}

theorem canonicalEncode_eq (derived : List UInt32) (fields : Fields) :
    canonicalEncode derived fields = fields.flatMap (encodeEntry derived) := by
  induction fields with
  | nil => rfl
  | cons entry rest ih => rw [canonicalEncode, ih, List.flatMap_cons]

theorem encodeItems_eq_flatMap (num : UInt32) (items : List Fields) :
    encodeItems num items = items.flatMap fun item => encodeLenDelimited num (canonicalEncode [] item) := by
  induction items with
  | nil => rfl
  | cons item items ih => rw [encodeItems, ih, List.flatMap_cons]

theorem encodeEntry_left_out {num : UInt32} {value : Value}
    (left_out : num = signatureField ∨ num ∈ derived ∨ value.isDefault) : encodeEntry derived (num, value) = [] := by
  unfold encodeEntry
  by_cases excluded : num = signatureField ∨ num ∈ derived
  · rw [if_pos excluded]
  · have isDefault : value.isDefault := by
      rcases left_out with signed | listed | isDefault
      · exact absurd (.inl signed) excluded
      · exact absurd (.inr listed) excluded
      · exact isDefault
    rw [if_neg excluded, if_pos isDefault]

/-- The tree that calls of `set` build, in their order. -/
def Fields.ofCalls (calls : List (UInt32 × Value)) : Fields :=
  calls.foldl (fun fields call => Fields.set call.1 call.2 fields) []

/-- The trees differ in nothing but the order in which fields were set, field 90 at any depth, the derived
fields at the top, and fields at any depth that are absent in one and have their default in the other. -/
inductive DifferOnly : List UInt32 → Fields → Fields → Prop
  | refl (derived : List UInt32) (fields : Fields) : DifferOnly derived fields fields
  | symm {derived : List UInt32} {first second : Fields} (differ : DifferOnly derived first second) :
      DifferOnly derived second first
  | trans {derived : List UInt32} {first second third : Fields} (differ : DifferOnly derived first second)
      (further : DifferOnly derived second third) : DifferOnly derived first third
  | order (derived : List UInt32) {calls others : List (UInt32 × Value)} (same : calls.Perm others)
      (once : (calls.map Prod.fst).Nodup) : DifferOnly derived (.ofCalls calls) (.ofCalls others)
  | signature (derived : List UInt32) (before after : Fields) (value : Value) :
      DifferOnly derived (before ++ after) (before ++ (signatureField, value) :: after)
  | derivedField {derived : List UInt32} (before after : Fields) {num : UInt32} (value : Value)
      (listed : num ∈ derived) : DifferOnly derived (before ++ after) (before ++ (num, value) :: after)
  | unset (derived : List UInt32) (before after : Fields) (num : UInt32) {value : Value}
      (isDefault : value.isDefault) : DifferOnly derived (before ++ after) (before ++ (num, value) :: after)
  | message (derived : List UInt32) (before after : Fields) (num : UInt32) {inner other : Fields}
      (differ : DifferOnly [] inner other) :
      DifferOnly derived (before ++ (num, .message inner) :: after) (before ++ (num, .message other) :: after)
  | element (derived : List UInt32) (before after : Fields) (num : UInt32) (items rest : List Fields)
      {inner other : Fields} (differ : DifferOnly [] inner other) :
      DifferOnly derived (before ++ (num, .repeatedMessage (items ++ inner :: rest)) :: after)
        (before ++ (num, .repeatedMessage (items ++ other :: rest)) :: after)

/-! ### The order of the calls -/

/-- Two fields can be set in either order. -/
theorem set_comm {num other : UInt32} (apart : num ≠ other) (value otherValue : Value) (fields : Fields) :
    Fields.set num value (Fields.set other otherValue fields) =
      Fields.set other otherValue (Fields.set num value fields) := by
  wlog below : num < other generalizing num other value otherValue
  · have above : other < num := by
      rw [UInt32.lt_iff_toNat_lt] at *
      have numbers : num.toNat ≠ other.toNat := fun same => apart (UInt32.toNat_inj.mp same)
      omega
    exact (this apart.symm otherValue value above).symm
  induction fields with
  | nil =>
      have after : ¬ other < num := UInt32.lt_asymm below
      simp [Fields.set, below, after, apart.symm]
  | cons entry rest ih =>
      have after : ¬ other < num := UInt32.lt_asymm below
      by_cases otherFirst : other < entry.1
      · have first : num < entry.1 := UInt32.lt_trans below otherFirst
        simp [Fields.set, below, after, apart.symm, otherFirst, first]
      · by_cases otherHere : other = entry.1
        · subst otherHere
          simp [Fields.set, below, after, apart.symm]
        · by_cases first : num < entry.1
          · simp [Fields.set, after, apart.symm, otherFirst, otherHere, first]
          · by_cases here : num = entry.1
            · subst here
              simp [Fields.set, after, apart.symm]
            · simp [Fields.set, otherFirst, otherHere, first, here, ih]

theorem ofCalls_perm {calls others : List (UInt32 × Value)} (same : calls.Perm others)
    (once : (calls.map Prod.fst).Nodup) : Fields.ofCalls calls = Fields.ofCalls others := by
  apply same.foldl_eq'
  intro call listed other listedOther fields
  by_cases twice : call = other
  · rw [twice]
  · have apart : other.1 ≠ call.1 := fun number =>
      twice (List.inj_on_of_nodup_map once listed listedOther number.symm)
    exact set_comm apart _ _ _

/-! ### What is encoded -/

theorem canonicalEncode_insert (before after : Fields) {entry : UInt32 × Value}
    (nothing : encodeEntry derived entry = []) :
    canonicalEncode derived (before ++ after) = canonicalEncode derived (before ++ entry :: after) := by
  rw [canonicalEncode_eq, canonicalEncode_eq, List.flatMap_append, List.flatMap_append, List.flatMap_cons, nothing,
    List.nil_append]

theorem canonicalEncode_replace (before after : Fields) {entry other : UInt32 × Value}
    (same : encodeEntry derived entry = encodeEntry derived other) :
    canonicalEncode derived (before ++ entry :: after) = canonicalEncode derived (before ++ other :: after) := by
  rw [canonicalEncode_eq, canonicalEncode_eq, List.flatMap_append, List.flatMap_append, List.flatMap_cons,
    List.flatMap_cons, same]

/-- An empty message and one that is encoded to nothing are both left out. -/
theorem encodeEntry_message {num : UInt32} : encodeEntry derived (num, .message fields) =
    if num = signatureField ∨ num ∈ derived ∨ canonicalEncode [] fields = [] then []
    else encodeLenDelimited num (canonicalEncode [] fields) := by
  unfold encodeEntry
  by_cases excluded : num = signatureField ∨ num ∈ derived
  · have left_out : num = signatureField ∨ num ∈ derived ∨ canonicalEncode [] fields = [] :=
      excluded.imp_right .inl
    rw [if_pos excluded, if_pos left_out]
  · rw [if_neg excluded]
    rw [not_or] at excluded
    simp only [excluded.1, excluded.2, false_or]
    cases fields with
    | nil => rfl
    | cons entry rest =>
        simp only [Value.isDefault, List.isEmpty_cons, Bool.false_eq_true, if_false, encodeValue, List.isEmpty_iff]

theorem encodeEntry_repeatedMessage {num : UInt32} {items : List Fields} :
    encodeEntry derived (num, .repeatedMessage items) =
      if num = signatureField ∨ num ∈ derived then []
      else items.flatMap fun item => encodeLenDelimited num (canonicalEncode [] item) := by
  unfold encodeEntry
  split
  · rfl
  · cases items with
    | nil => rfl
    | cons item rest => simp only [Value.isDefault, List.isEmpty_cons, Bool.false_eq_true, if_false, encodeValue,
        encodeItems_eq_flatMap]

theorem DifferOnly.canonicalEncode_eq (differ : DifferOnly derived first second) :
    canonicalEncode derived first = canonicalEncode derived second := by
  induction differ with
  | refl => rfl
  | symm differ ih => exact ih.symm
  | trans differ further ih ihFurther => exact ih.trans ihFurther
  | order derived same once => rw [ofCalls_perm same once]
  | signature derived before after value =>
      exact canonicalEncode_insert before after (encodeEntry_left_out (.inl rfl))
  | derivedField before after value listed =>
      exact canonicalEncode_insert before after (encodeEntry_left_out (.inr (.inl listed)))
  | unset derived before after num isDefault =>
      exact canonicalEncode_insert before after (encodeEntry_left_out (.inr (.inr isDefault)))
  | message derived before after num differ ih =>
      apply canonicalEncode_replace
      rw [encodeEntry_message, encodeEntry_message, ih]
  | element derived before after num items rest differ ih =>
      apply canonicalEncode_replace
      rw [encodeEntry_repeatedMessage, encodeEntry_repeatedMessage, List.flatMap_append, List.flatMap_append,
        List.flatMap_cons, List.flatMap_cons, ih]

/-- The list of derived fields takes these entries off the top and does nothing else. -/
theorem canonicalEncode_derived (derived : List UInt32) (fields : Fields) :
    canonicalEncode derived fields = canonicalEncode [] (fields.filter (·.1 ∉ derived)) := by
  induction fields with
  | nil => rfl
  | cons entry rest ih =>
      obtain ⟨num, value⟩ := entry
      rw [canonicalEncode, ih]
      by_cases listed : num ∈ derived
      · rw [encodeEntry_left_out (.inr (.inl listed)), List.filter_cons_of_neg (by simpa using listed),
          List.nil_append]
      · rw [List.filter_cons_of_pos (by simpa using listed), canonicalEncode]
        congr 1
        simp [encodeEntry, listed]

/-! ### Differences that calls of `set` make -/

/-- A call of `set` puts its entry at one place, where an entry of the same number may stand. -/
theorem exists_set (num : UInt32) (value : Value) (fields : Fields) :
    ∃ before after, Fields.set num value fields = before ++ (num, value) :: after ∧
      (fields = before ++ after ∨ ∃ old, fields = before ++ (num, old) :: after) := by
  induction fields with
  | nil => exact ⟨[], [], rfl, .inl rfl⟩
  | cons entry rest ih =>
      unfold Fields.set
      split
      · exact ⟨[], entry :: rest, rfl, .inl rfl⟩
      · split
        · rename_i here
          exact ⟨[], rest, rfl, .inr ⟨entry.2, by rw [here]; rfl⟩⟩
        · obtain ⟨before, after, put, absent | ⟨old, present⟩⟩ := ih
          · exact ⟨entry :: before, after, by rw [put]; rfl, .inl (by rw [absent]; rfl)⟩
          · exact ⟨entry :: before, after, by rw [put]; rfl, .inr ⟨old, by rw [present]; rfl⟩⟩

theorem DifferOnly.set_signature (derived : List UInt32) (value : Value) (fields : Fields) :
    DifferOnly derived fields (Fields.set signatureField value fields) := by
  obtain ⟨before, after, put, rfl | ⟨old, rfl⟩⟩ := exists_set signatureField value fields
  · rw [put]
    exact .signature derived before after value
  · rw [put]
    exact (DifferOnly.signature derived before after old).symm.trans (.signature derived before after value)

theorem DifferOnly.set_derived {num : UInt32} (listed : num ∈ derived) (value : Value) (fields : Fields) :
    DifferOnly derived fields (Fields.set num value fields) := by
  obtain ⟨before, after, put, rfl | ⟨old, rfl⟩⟩ := exists_set num value fields
  · rw [put]
    exact .derivedField before after value listed
  · rw [put]
    exact (DifferOnly.derivedField before after old listed).symm.trans (.derivedField before after value listed)

/-- The encoding does not show these differences, and the derived fields are taken off the top only. -/
theorem canonicalEncode_sees_only_meaning (derived : List UInt32) :
    (∀ first second, DifferOnly derived first second →
      canonicalEncode derived first = canonicalEncode derived second) ∧
    (∀ fields num value, num = signatureField ∨ num ∈ derived →
      canonicalEncode derived (Fields.set num value fields) = canonicalEncode derived fields) ∧
    ∀ fields, canonicalEncode derived fields = canonicalEncode [] (fields.filter (·.1 ∉ derived)) := by
  refine ⟨fun first second differ => differ.canonicalEncode_eq, ?_, canonicalEncode_derived derived⟩
  rintro fields num value (rfl | listed)
  · exact (DifferOnly.set_signature derived value fields).canonicalEncode_eq.symm
  · exact (DifferOnly.set_derived listed value fields).canonicalEncode_eq.symm

/-- A nested message with nothing in it but a signature and a default is as good as absent, and so is a
derived field. -/
theorem nested_signature_is_not_shown :
    canonicalEncode [4] [(1, .uint 5)] =
      canonicalEncode [4] [(1, .uint 5), (3, .message [(1, .uint 0), (90, .bytes [7])]), (4, .bytes [1])] := by
  have signed : DifferOnly [] [(1, .uint 0)] [(1, .uint 0), (90, .bytes [7])] := .signature [] [(1, .uint 0)] [] _
  have filled : DifferOnly [] [] [(1, .uint 0), (90, .bytes [7])] := (DifferOnly.unset [] [] [] 1 rfl).trans signed
  have absent : DifferOnly [4] [(1, .uint 5)] [(1, .uint 5), (3, .message [])] :=
    .unset [4] [(1, .uint 5)] [] 3 rfl
  have nested : DifferOnly [4] [(1, .uint 5), (3, .message [])]
      [(1, .uint 5), (3, .message [(1, .uint 0), (90, .bytes [7])])] := .message [4] [(1, .uint 5)] [] 3 filled
  have derived : DifferOnly [4] [(1, .uint 5), (3, .message [(1, .uint 0), (90, .bytes [7])])]
      [(1, .uint 5), (3, .message [(1, .uint 0), (90, .bytes [7])]), (4, .bytes [1])] :=
    .derivedField [(1, .uint 5), (3, .message [(1, .uint 0), (90, .bytes [7])])] [] _ (by decide)
  exact (canonicalEncode_sees_only_meaning [4]).1 _ _ ((absent.trans nested).trans derived)

end Gputeer.Protocol
