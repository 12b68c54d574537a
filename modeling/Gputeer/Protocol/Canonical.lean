import Mathlib
import Gputeer.Lib.Wire
import Gputeer.Protocol.Domain

/-! The canonical encoding that is signed. -/

namespace Gputeer.Protocol

def signatureField : UInt32 := 90

/-- A value that can be encoded. A message is its fields in ascending order of number. -/
inductive Value where
  | uint (value : UInt64)
  | int (value : Int64)
  | bool (value : Bool)
  | str (text : String)
  | bytes (content : List UInt8)
  | message (fields : List (UInt32 × Value))
  | repeatedStr (items : List String)
  | repeatedMessage (items : List (List (UInt32 × Value)))
  | mapStrStr (entries : Std.ExtTreeMap String String)

abbrev Fields := List (UInt32 × Value)

def Value.isDefault : Value → Bool
  | .uint value => value == 0
  | .int value => value == 0
  | .bool value => !value
  | .str text => text == ""
  | .bytes content => content.isEmpty
  | .message fields => fields.isEmpty
  | .repeatedStr items => items.isEmpty
  | .repeatedMessage items => items.isEmpty
  | .mapStrStr entries => entries.isEmpty

/-- `BTreeMap::insert`: the list stays in ascending order and a number occurs once. -/
def Fields.set (num : UInt32) (value : Value) : Fields → Fields
  | [] => [(num, value)]
  | entry :: rest =>
      if num < entry.1 then (num, value) :: entry :: rest
      else if num = entry.1 then (num, value) :: rest
      else entry :: Fields.set num value rest

def encodeTag (num : UInt32) (wireType : Nat) : List UInt8 :=
  Wire.varint (num.toNat * 8 + wireType)

def encodeUint (num : UInt32) (value : UInt64) : List UInt8 :=
  encodeTag num 0 ++ Wire.varint value.toNat

def encodeLenDelimited (num : UInt32) (payload : List UInt8) : List UInt8 :=
  encodeTag num 2 ++ Wire.varint payload.length ++ payload

/-- A map entry always names its key; an empty value is left out. -/
def encodeMapEntry (entry : String × String) : List UInt8 :=
  encodeLenDelimited 1 (Bytes.utf8 entry.1) ++
    if entry.2 = "" then [] else encodeLenDelimited 2 (Bytes.utf8 entry.2)

mutual

def canonicalEncode (derivedHashFields : List UInt32) : List (UInt32 × Value) → List UInt8
  | [] => []
  | entry :: rest => encodeEntry derivedHashFields entry ++ canonicalEncode derivedHashFields rest

def encodeEntry (derivedHashFields : List UInt32) : UInt32 × Value → List UInt8
  | (num, value) =>
      if num = signatureField ∨ num ∈ derivedHashFields then []
      else if value.isDefault then []
      else encodeValue num value

-- the list of derived fields is not handed down to nested messages
def encodeValue (num : UInt32) : Value → List UInt8
  | .uint value => encodeUint num value
  | .int value => encodeUint num value.toUInt64
  | .bool _ => encodeUint num 1
  | .str text => encodeLenDelimited num (Bytes.utf8 text)
  | .bytes content => encodeLenDelimited num content
  | .message fields =>
      let inner := canonicalEncode [] fields
      if inner.isEmpty then [] else encodeLenDelimited num inner
  | .repeatedStr items => items.flatMap (fun item => encodeLenDelimited num (Bytes.utf8 item))
  | .repeatedMessage items => encodeItems num items
  | .mapStrStr entries =>
      entries.toList.flatMap (fun entry => encodeLenDelimited num (encodeMapEntry entry))

def encodeItems (num : UInt32) : List (List (UInt32 × Value)) → List UInt8
  | [] => []
  | item :: rest => encodeLenDelimited num (canonicalEncode [] item) ++ encodeItems num rest

end

/-- Domain tag, schema version and length of the encoding, then the encoding. -/
def sigInput (domain : Domain) (schemaVersion : UInt32) (canonical : List UInt8) : List UInt8 :=
  domain.tagBytes ++ Bytes.beBytes 4 schemaVersion.toNat ++ Bytes.beBytes 4 canonical.length ++
    canonical

end Gputeer.Protocol
