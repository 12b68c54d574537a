import Gputeer.Protocol.ToFields

/-! What the canonical encoding says about a message. Field numbers are known from the type, so
the records of the stream give back the value put under each number. -/

namespace Gputeer.Protocol

open ToCanonicalFields

def Value.payloads : Value → List Wire.Payload
  | .uint value => [.number value.toNat]
  | .int value => [.number value.toUInt64.toNat]
  | .bool _ => [.number 1]
  | .str text => [.bytes (Bytes.utf8 text)]
  | .bytes content => [.bytes content]
  | .message fields =>
      if (canonicalEncode [] fields).isEmpty then [] else [.bytes (canonicalEncode [] fields)]
  | .repeatedStr items => items.map (fun item => .bytes (Bytes.utf8 item))
  | .repeatedMessage items => items.map (fun item => .bytes (canonicalEncode [] item))
  | .mapStrStr entries => entries.toList.map (fun entry => .bytes (encodeMapEntry entry))

theorem encodeUint_eq (num : UInt32) (value : UInt64) :
    encodeUint num value = Wire.record num.toNat (.number value.toNat) := rfl

theorem encodeLenDelimited_eq (num : UInt32) (payload : List UInt8) :
    encodeLenDelimited num payload = Wire.record num.toNat (.bytes payload) := by
  rw [encodeLenDelimited, encodeTag, List.append_assoc]
  rfl

theorem encodeItems_eq (num : UInt32) (items : List Fields) :
    encodeItems num items =
      items.flatMap (fun item => Wire.record num.toNat (.bytes (canonicalEncode [] item))) := by
  induction items with
  | nil => rfl
  | cons item items ih =>
      rw [encodeItems, ih, encodeLenDelimited_eq, List.flatMap_cons]

/-- A value is encoded as one record for each of its payloads. -/
theorem encodeValue_eq (num : UInt32) (value : Value) :
    encodeValue num value = value.payloads.flatMap (Wire.record num.toNat) := by
  cases value with
  | message fields =>
      rw [encodeValue, Value.payloads]
      split
      · rfl
      · rw [List.flatMap_singleton, encodeLenDelimited_eq]
  | repeatedMessage items =>
      rw [encodeValue, encodeItems_eq, Value.payloads, List.flatMap_map]
  | _ =>
      simp [encodeValue, Value.payloads, encodeUint_eq, encodeLenDelimited_eq, List.flatMap_map]

def Put.payloads (put : Put) : List Wire.Payload :=
  match put.value with
  | none => []
  | some value => if value.isDefault then [] else value.payloads

theorem set_append {num : UInt32} {value : Value} {fields : Fields}
    (below : ∀ entry ∈ fields, entry.1 < num) :
    Fields.set num value fields = fields ++ [(num, value)] := by
  induction fields with
  | nil => rfl
  | cons entry rest ih =>
      have head := below entry (by simp)
      have later : ¬ num < entry.1 := UInt32.lt_asymm head
      have distinct : num ≠ entry.1 := (UInt32.ne_of_lt head).symm
      rw [Fields.set, if_neg later, if_neg distinct, List.cons_append,
        ih (fun other member => below other (by simp [member]))]

theorem canonicalEncode_append (first second : Fields) :
    canonicalEncode [] (first ++ second) = canonicalEncode [] first ++ canonicalEncode [] second := by
  induction first with
  | nil => rfl
  | cons entry rest ih => rw [List.cons_append, canonicalEncode, canonicalEncode, ih, List.append_assoc]

theorem encodeEntry_eq {num : UInt32} (unsigned : num ≠ signatureField) (value : Value) :
    canonicalEncode [] [(num, value)] =
      (Put.mk num (some value)).payloads.flatMap (Wire.record num.toNat) := by
  rw [canonicalEncode, canonicalEncode, List.append_nil, encodeEntry, if_neg (by simp [unsigned]),
    encodeValue_eq]
  simp only [Put.payloads]
  split <;> rfl

/-- Calls that go up in the field numbers add their records one after the other. -/
theorem canonicalEncode_foldl_put (puts : List Put) (fields : Fields)
    (below : ∀ entry ∈ fields, ∀ put ∈ puts, entry.1 < put.number)
    (ascending : puts.Pairwise (fun first second => first.number < second.number))
    (unsigned : ∀ put ∈ puts, put.number ≠ signatureField) :
    canonicalEncode [] (puts.foldl Fields.put fields) =
      canonicalEncode [] fields ++
        puts.flatMap (fun put => put.payloads.flatMap (Wire.record put.number.toNat)) := by
  induction puts generalizing fields with
  | nil => simp
  | cons put puts ih =>
      rw [List.pairwise_cons] at ascending
      have rest := fun fields below => ih fields below ascending.2
        (fun other member => unsigned other (by simp [member]))
      rw [List.foldl_cons, List.flatMap_cons, ← List.append_assoc]
      rcases put with ⟨number, _ | value⟩
      · rw [Fields.put, rest fields (fun entry member other inside =>
          below entry member other (by simp [inside]))]
        simp [Put.payloads]
      · have last := fun entry member => below entry member ⟨number, some value⟩ (by simp)
        rw [Fields.put]
        simp only
        rw [set_append last, rest, canonicalEncode_append,
          encodeEntry_eq (unsigned ⟨number, some value⟩ (by simp))]
        intro entry member other inside
        rw [List.mem_append, List.mem_singleton] at member
        rcases member with earlier | isNew
        · exact below entry earlier other (by simp [inside])
        · rw [isNew]
          exact ascending.1 other inside

/-- A message type whose fields are set under fixed numbers, and the part of a message that is
signed: nested messages that are absent count as empty ones, signatures as absent. -/
class Pinned (M : Type) [ToCanonicalFields M] where
  normalize : M → M
  empty : M
  puts_numbers : ∀ first second : M, (puts first).map Put.number = (puts second).map Put.number
  ascending : ((puts empty).map Put.number).IsChain (· < ·)
  unsigned : signatureField ∉ (puts empty).map Put.number
  empty_fields : toCanonicalFields empty = []
  normalize_eq : ∀ first second : M,
    (puts first).map Put.payloads = (puts second).map Put.payloads →
      normalize first = normalize second

section

variable {M : Type} [ToCanonicalFields M]

def encode (m : M) : List UInt8 := canonicalEncode [] (toCanonicalFields m)

variable [Pinned M]

theorem encode_eq_stream (m : M) :
    encode m = Wire.stream (Wire.ungroup
      ((puts m).map (fun put => (put.number.toNat, put.payloads)))) := by
  have ascending : (puts m).Pairwise (fun first second => first.number < second.number) := by
    rw [← List.pairwise_map, Pinned.puts_numbers m Pinned.empty, ← List.isChain_iff_pairwise]
    exact Pinned.ascending
  have unsigned : ∀ put ∈ puts m, put.number ≠ signatureField := by
    intro put member same
    apply Pinned.unsigned (M := M)
    rw [← Pinned.puts_numbers m, ← same]
    exact List.mem_map_of_mem member
  rw [encode, toCanonicalFields, canonicalEncode_foldl_put _ _ (by simp) ascending unsigned]
  simp [canonicalEncode, Wire.stream, Wire.ungroup, List.flatMap_map, List.flatMap_assoc]

/-- The encoding determines the signed part of a message. -/
theorem normalize_eq_of_encode_eq {first second : M} (same : encode first = encode second) :
    Pinned.normalize first = Pinned.normalize second := by
  apply Pinned.normalize_eq
  rw [encode_eq_stream, encode_eq_stream] at same
  have numbers := Pinned.puts_numbers first second
  have distinct : ((puts first).map (fun put => put.number.toNat)).Nodup := by
    have nodup : ((puts first).map Put.number).Nodup := by
      rw [Pinned.puts_numbers first Pinned.empty]
      exact (List.isChain_iff_pairwise.mp Pinned.ascending).imp UInt32.ne_of_lt
    rw [show (fun put : Put => put.number.toNat) = UInt32.toNat ∘ Put.number from rfl,
      ← List.map_map]
    exact nodup.map (fun _ _ equal => UInt32.toNat_inj.mp equal)
  have groups := Wire.ungroup_injective
    (by simpa [Function.comp_def] using congrArg (List.map UInt32.toNat) numbers)
    (by simpa [Function.comp_def] using distinct) (Wire.stream_injective same)
  simpa [Function.comp_def] using congrArg (List.map Prod.snd) groups

theorem encode_empty : encode (Pinned.empty : M) = [] := by
  rw [encode, Pinned.empty_fields, canonicalEncode]

/-- An absent nested message counts as the empty one. -/
def normalizeOption (value : Option M) : Option M :=
  some (Pinned.normalize (value.getD Pinned.empty))

def normalizeList (items : List M) : List M := items.map Pinned.normalize

end

section Kinds

variable {num : UInt32}

/-- A value that is left out at its default is determined by its payloads. -/
theorem single_payload_eq {α : Type} [DecidableEq α] {zero : α} {payload : α → Wire.Payload}
    (injective : Function.Injective payload) {first second : α} :
    (if first = zero then [] else [payload first]) =
        (if second = zero then [] else [payload second]) ↔ first = second := by
  constructor
  · intro same
    split at same
    · split at same
      · rename_i isZero otherZero
        rw [isZero, otherZero]
      · cases same
    · split at same
      · cases same
      · rw [List.cons.injEq] at same
        exact injective same.1
  · intro same
    rw [same]

theorem number_injective {α : Type} {toNat : α → Nat} (injective : Function.Injective toNat) :
    Function.Injective (fun value => Wire.Payload.number (toNat value)) := by
  intro first second same
  exact injective (Wire.Payload.number.inj same)

theorem bytes_injective {α : Type} {toBytes : α → List UInt8}
    (injective : Function.Injective toBytes) :
    Function.Injective (fun value => Wire.Payload.bytes (toBytes value)) := by
  intro first second same
  exact injective (Wire.Payload.bytes.inj same)

@[simp] theorem putUint_payloads_eq {first second : UInt64} :
    (putUint num first).payloads = (putUint num second).payloads ↔ first = second := by
  have payloads : ∀ value, (putUint num value).payloads =
      if value = 0 then [] else [.number value.toNat] := by
    intro value
    by_cases zero : value = 0 <;>
      simp [putUint, Put.payloads, Value.isDefault, Value.payloads, zero]
  rw [payloads, payloads]
  exact single_payload_eq (number_injective (fun _ _ => UInt64.toNat_inj.mp))

theorem toUInt64_injective : Function.Injective Int64.toUInt64 := by
  intro first second same
  simpa using congrArg UInt64.toInt64 same

@[simp] theorem putInt_payloads_eq {first second : Int64} :
    (putInt num first).payloads = (putInt num second).payloads ↔ first = second := by
  have payloads : ∀ value, (putInt num value).payloads =
      if value = 0 then [] else [.number value.toUInt64.toNat] := by
    intro value
    by_cases zero : value = 0 <;>
      simp [putInt, Put.payloads, Value.isDefault, Value.payloads, zero]
  rw [payloads, payloads]
  exact single_payload_eq (number_injective (fun _ _ same =>
    toUInt64_injective (UInt64.toNat_inj.mp same)))

@[simp] theorem putBool_payloads_eq {first second : Bool} :
    (putBool num first).payloads = (putBool num second).payloads ↔ first = second := by
  cases first <;> cases second <;> simp [putBool, Put.payloads, Value.isDefault, Value.payloads]

@[simp] theorem putStr_payloads_eq {first second : String} :
    (putStr num first).payloads = (putStr num second).payloads ↔ first = second := by
  have payloads : ∀ text, (putStr num text).payloads =
      if text = "" then [] else [.bytes (Bytes.utf8 text)] := by
    intro text
    by_cases blank : text = "" <;>
      simp [putStr, Put.payloads, Value.isDefault, Value.payloads, blank]
  rw [payloads, payloads]
  exact single_payload_eq (bytes_injective (fun _ _ => Bytes.utf8_injective))

@[simp] theorem putBytes_payloads_eq {first second : List UInt8} :
    (putBytes num first).payloads = (putBytes num second).payloads ↔ first = second := by
  have payloads : ∀ content, (putBytes num content).payloads =
      if content = [] then [] else [.bytes content] := by
    intro content
    by_cases blank : content = [] <;>
      simp [putBytes, Put.payloads, Value.isDefault, Value.payloads, blank]
  rw [payloads, payloads]
  exact single_payload_eq (bytes_injective Function.injective_id)

@[simp] theorem putRepeatedStr_payloads_eq {first second : List String} :
    (putRepeatedStr num first).payloads = (putRepeatedStr num second).payloads ↔
      first = second := by
  have payloads : ∀ items, (putRepeatedStr num items).payloads =
      items.map (fun item => .bytes (Bytes.utf8 item)) := by
    intro items
    by_cases blank : items = [] <;>
      simp [putRepeatedStr, Put.payloads, Value.isDefault, Value.payloads, blank]
  rw [payloads, payloads]
  exact (List.map_injective_iff.mpr (bytes_injective (fun _ _ => Bytes.utf8_injective))).eq_iff

theorem encodeMapEntry_injective : Function.Injective encodeMapEntry := by
  intro first second same
  simp only [encodeMapEntry, encodeLenDelimited_eq] at same
  rcases Wire.record_append_inj same with ⟨_, keys, tails⟩
  have sameKey := Bytes.utf8_injective (Wire.Payload.bytes.inj keys)
  have sameValue : first.2 = second.2 := by
    split at tails
    · split at tails
      · rename_i blank otherBlank
        rw [blank, otherBlank]
      · exact (Wire.record_ne_nil _ _ tails.symm).elim
    · split at tails
      · exact (Wire.record_ne_nil _ _ tails).elim
      · have padded := congrArg (· ++ ([] : List UInt8)) tails
        rcases Wire.record_append_inj padded with ⟨_, values, _⟩
        exact Bytes.utf8_injective (Wire.Payload.bytes.inj values)
  exact Prod.ext sameKey sameValue

@[simp] theorem putMap_payloads_eq {first second : Std.ExtTreeMap String String} :
    (putMap num first).payloads = (putMap num second).payloads ↔ first = second := by
  have payloads : ∀ entries, (putMap num entries).payloads =
      entries.toList.map (fun entry => .bytes (encodeMapEntry entry)) := by
    intro entries
    by_cases blank : entries.isEmpty
    · have none : entries.toList = [] := by
        rw [← List.isEmpty_iff, Std.ExtTreeMap.isEmpty_toList, blank]
      simp [putMap, Put.payloads, blank, none]
    · simp [putMap, Put.payloads, Value.isDefault, Value.payloads, blank]
  rw [payloads, payloads,
    (List.map_injective_iff.mpr (bytes_injective encodeMapEntry_injective)).eq_iff]
  exact Std.ExtTreeMap.toList_inj

variable {M : Type} [ToCanonicalFields M] [Pinned M]

theorem putMsg_payloads (value : Option M) :
    (putMsg num value).payloads =
      if encode (value.getD Pinned.empty) = [] then []
      else [.bytes (encode (value.getD Pinned.empty))] := by
  cases value with
  | none => simp [putMsg, Put.payloads, encode_empty]
  | some inner =>
      by_cases blank : toCanonicalFields inner = []
      · simp [putMsg, Put.payloads, encode, blank, canonicalEncode]
      · by_cases silent : canonicalEncode [] (toCanonicalFields inner) = [] <;>
          simp [putMsg, Put.payloads, encode, blank, silent, Value.isDefault, Value.payloads]

theorem putMsg_payloads_eq {first second : Option M}
    (same : (putMsg num first).payloads = (putMsg num second).payloads) :
    normalizeOption first = normalizeOption second := by
  rw [putMsg_payloads, putMsg_payloads] at same
  have encodings := (single_payload_eq (bytes_injective Function.injective_id)).mp same
  rw [normalizeOption, normalizeOption, normalize_eq_of_encode_eq encodings]

theorem putRepeatedMsg_payloads_eq {first second : List M}
    (same : (putRepeatedMsg num first).payloads = (putRepeatedMsg num second).payloads) :
    normalizeList first = normalizeList second := by
  have payloads : ∀ items : List M, (putRepeatedMsg num items).payloads =
      (items.map encode).map Wire.Payload.bytes := by
    intro items
    by_cases blank : items = [] <;>
      simp [putRepeatedMsg, Put.payloads, Value.isDefault, Value.payloads, blank, encode]
  rw [payloads, payloads] at same
  replace same := List.map_injective_iff.mpr (bytes_injective Function.injective_id) same
  induction first generalizing second with
  | nil =>
      cases second with
      | nil => rfl
      | cons item items => cases same
  | cons item items ih =>
      cases second with
      | nil => cases same
      | cons other others =>
          rw [List.map_cons, List.map_cons, List.cons.injEq] at same
          rw [normalizeList, List.map_cons, normalize_eq_of_encode_eq same.1]
          exact congrArg _ (ih same.2)

end Kinds

section Defaults

variable (num : UInt32) (fields : Fields)

@[simp] theorem putUint_number (value : UInt64) : (putUint num value).number = num := rfl

@[simp] theorem putInt_number (value : Int64) : (putInt num value).number = num := rfl

@[simp] theorem putBool_number (value : Bool) : (putBool num value).number = num := rfl

@[simp] theorem putStr_number (text : String) : (putStr num text).number = num := rfl

@[simp] theorem putBytes_number (content : List UInt8) : (putBytes num content).number = num := rfl

@[simp] theorem putRepeatedStr_number (items : List String) :
    (putRepeatedStr num items).number = num := rfl

@[simp] theorem putMap_number (entries : Std.ExtTreeMap String String) :
    (putMap num entries).number = num := rfl

@[simp] theorem putMsg_number {M : Type} [ToCanonicalFields M] (value : Option M) :
    (putMsg num value).number = num := rfl

@[simp] theorem putRepeatedMsg_number {M : Type} [ToCanonicalFields M] (items : List M) :
    (putRepeatedMsg num items).number = num := rfl

@[simp] theorem put_putUint_zero : Fields.put fields (putUint num 0) = fields := by
  simp [Fields.put, putUint]

@[simp] theorem put_putInt_zero : Fields.put fields (putInt num 0) = fields := by
  simp [Fields.put, putInt]

@[simp] theorem put_putBool_false : Fields.put fields (putBool num false) = fields := rfl

@[simp] theorem put_putStr_empty : Fields.put fields (putStr num "") = fields := by
  simp [Fields.put, putStr]

@[simp] theorem put_putBytes_nil : Fields.put fields (putBytes num []) = fields := rfl

@[simp] theorem put_putRepeatedStr_nil : Fields.put fields (putRepeatedStr num []) = fields := rfl

@[simp] theorem put_putMap_empty : Fields.put fields (putMap num ∅) = fields := by
  simp [Fields.put, putMap]

@[simp] theorem put_putMsg_none {M : Type} [ToCanonicalFields M] :
    Fields.put fields (putMsg num (none : Option M)) = fields := rfl

@[simp] theorem put_putRepeatedMsg_nil {M : Type} [ToCanonicalFields M] :
    Fields.put fields (putRepeatedMsg num ([] : List M)) = fields := rfl

@[simp] theorem asU64_zero : asU64 0 = 0 := by
  decide

end Defaults

@[simp] theorem asU64_inj {first second : Int32} : asU64 first = asU64 second ↔ first = second := by
  constructor
  · intro same
    have extended : first.toInt64 = second.toInt64 := toUInt64_injective same
    exact Int32.toInt_inj.mp (by simpa using congrArg Int64.toInt extended)
  · intro same
    rw [same]

end Gputeer.Protocol
