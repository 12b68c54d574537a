import Gputeer.Lib.Bytes

/-! Writers whose end can be told: what one of them wrote is read off the front of whatever it stands in. -/

variable {Symbol α β : Type}

/-- What was written is told from what follows it, as long as the values fit the writer. -/
def Delimited (write : α → List Symbol) (Fits : α → Prop) : Prop :=
  ∀ ⦃first second : α⦄ ⦃tail rest : List Symbol⦄, Fits first → Fits second →
    write first ++ tail = write second ++ rest → first = second ∧ tail = rest

namespace Delimited

variable {write : α → List Symbol} {Fits : α → Prop}

/-- A writer of one width needs only to be injective. -/
theorem of_length {width : Nat} (whole : ∀ value, Fits value → (write value).length = width)
    (injective : ∀ first second, Fits first → Fits second → write first = write second → first = second) :
    Delimited write Fits := by
  intro first second tail rest fits fitsToo same
  have lengths : (write first).length = (write second).length := by
    rw [whole first fits, whole second fitsToo]
  obtain ⟨written, tails⟩ := List.append_inj same lengths
  exact ⟨injective first second fits fitsToo written, tails⟩

theorem injective (delimited : Delimited write Fits) {first second : α} (fits : Fits first)
    (fitsToo : Fits second) (same : write first = write second) : first = second := by
  have padded : write first ++ [] = write second ++ [] := by rw [same]
  exact (delimited fits fitsToo padded).1

/-- A tag says whether there is a value. -/
theorem optional {absent present : Symbol} (different : absent ≠ present) (delimited : Delimited write Fits) :
    Delimited (fun value : Option α => value.elim [absent] (present :: write ·)) (∀ value ∈ ·, Fits value) := by
  intro first second tail rest fits fitsToo same
  cases first with
  | none =>
      cases second with
      | none => exact ⟨rfl, (List.cons.inj same).2⟩
      | some value => exact absurd (List.cons.inj same).1 different
  | some value =>
      cases second with
      | none => exact absurd (List.cons.inj same).1.symm different
      | some other =>
          obtain ⟨rfl, tails⟩ := delimited (fits value rfl) (fitsToo other rfl) (List.cons.inj same).2
          exact ⟨rfl, tails⟩

/-- Lists of one length, each element behind the one before. -/
theorem flatMap (delimited : Delimited write Fits) {first second : List α} {tail rest : List Symbol}
    (fits : ∀ value ∈ first, Fits value) (fitsToo : ∀ value ∈ second, Fits value)
    (lengths : first.length = second.length)
    (same : first.flatMap write ++ tail = second.flatMap write ++ rest) : first = second ∧ tail = rest := by
  induction first generalizing second with
  | nil =>
      obtain rfl := List.length_eq_zero_iff.mp lengths.symm
      exact ⟨rfl, same⟩
  | cons value values ih =>
      cases second with
      | nil => cases lengths
      | cons other others =>
          simp only [List.flatMap_cons, List.append_assoc] at same
          obtain ⟨rfl, behind⟩ := delimited (fits value List.mem_cons_self) (fitsToo other List.mem_cons_self) same
          obtain ⟨rfl, tails⟩ := ih (fun later listed => fits later (List.mem_cons_of_mem _ listed))
            (fun later listed => fitsToo later (List.mem_cons_of_mem _ listed)) (Nat.succ.inj lengths) behind
          exact ⟨rfl, tails⟩

/-- The number of elements, then the elements. -/
theorem counted (delimited : Delimited write Fits) {count : Nat → List Symbol} {bound : Nat}
    (counts : Delimited count (· < bound)) :
    Delimited (fun values : List α => count values.length ++ values.flatMap write)
      (fun values => values.length < bound ∧ ∀ value ∈ values, Fits value) := by
  intro first second tail rest fits fitsToo same
  simp only [List.append_assoc] at same
  obtain ⟨lengths, elements⟩ := counts fits.1 fitsToo.1 same
  exact delimited.flatMap fits.2 fitsToo.2 lengths elements

/-- One writer after the other. -/
theorem pair {other : β → List Symbol} {FitsOther : β → Prop} (delimited : Delimited write Fits)
    (delimitedToo : Delimited other FitsOther) :
    Delimited (fun values : α × β => write values.1 ++ other values.2)
      (fun values => Fits values.1 ∧ FitsOther values.2) := by
  intro first second tail rest fits fitsToo same
  simp only [List.append_assoc] at same
  obtain ⟨heads, behind⟩ := delimited fits.1 fitsToo.1 same
  obtain ⟨others, tails⟩ := delimitedToo fits.2 fitsToo.2 behind
  exact ⟨Prod.ext heads others, tails⟩

/-- A length before the content, in a width that holds it. -/
theorem lengthPrefixed {count : Nat → List Symbol} {bound : Nat} (counts : Delimited count (· < bound)) :
    Delimited (fun content : List Symbol => count content.length ++ content) (·.length < bound) := by
  intro first second tail rest fits fitsToo same
  simp only [List.append_assoc] at same
  obtain ⟨lengths, contents⟩ := counts fits fitsToo same
  exact List.append_inj contents lengths

section Text

open Bytes

/-- UTF-8 is a prefix code. -/
theorem utf8EncodeChar : Delimited String.utf8EncodeChar fun _ => True := by
  intro first second tail rest _ _ same
  have decoded (c : Char) (behind : List UInt8) :
      ByteArray.utf8DecodeChar? (String.utf8EncodeChar c ++ behind).toByteArray 0 = some c := by
    rw [List.toByteArray_append]
    exact ByteArray.utf8DecodeChar?_utf8EncodeChar_append
  have chars := decoded first tail
  rw [same, decoded second rest] at chars
  obtain rfl := Option.some.inj chars
  exact ⟨rfl, List.append_cancel_left same⟩

/-- Texts of one length in characters, however many bytes they are. -/
theorem utf8 (length : Nat) : Delimited utf8 fun text : String => text.length = length := by
  have bytes (text : String) : Bytes.utf8 text = text.toList.flatMap String.utf8EncodeChar := by
    rw [← utf8_ofList, String.ofList_toList]
  intro first second tail rest fits fitsToo same
  rw [bytes, bytes] at same
  have lengths : first.toList.length = second.toList.length := by
    rw [String.length_toList, String.length_toList, fits, fitsToo]
  obtain ⟨chars, tails⟩ := utf8EncodeChar.flatMap (fun _ _ => trivial) (fun _ _ => trivial) lengths same
  exact ⟨String.toList_inj.mp chars, tails⟩

theorem beBytes (width : Nat) : Delimited (beBytes width) (· < 256 ^ width) :=
  of_length (fun n _ => length_beBytes width n) fun _ _ fits fitsToo => beBytes_injective fits fitsToo

theorem leBytes (width : Nat) : Delimited (leBytes width) (· < 256 ^ width) :=
  of_length (fun n _ => length_leBytes width n) fun _ _ fits fitsToo => leBytes_injective fits fitsToo

end Text

end Delimited
