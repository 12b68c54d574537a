import Mathlib.Tactic.FinCases
import Gputeer.Cli.OutputLines

/-! However the bytes arrive, the scanner takes the lines of the whole stream. -/

namespace Gputeer.AgentLoop

open Lines LossyUtf8

variable {ε : Type}

/-- The bytes a reader gives until its end or its first failure. -/
def delivered : BufReader ε → List UInt8 × Option ε
  | [] => ([], none)
  | .piece bytes :: rest => (bytes ++ (delivered rest).1, (delivered rest).2)
  | .interrupted :: rest => delivered rest
  | .failed error :: _ => ([], some error)

/-- No piece is empty, which would be an end. -/
def NoEmptyPiece (reader : BufReader ε) : Prop := ∀ event ∈ reader, event ≠ .piece []

/-- What is known of a line after its first bytes. -/
def partialOf (seen : List UInt8) : Partial :=
  ⟨seen.take maxLineBytes, seen.length, decide (maxLineBytes < seen.length)⟩

section Reading

variable {content tail stream : List UInt8} {reader rest : BufReader ε} {fault : Option ε}

/-- The room left depends on how many bytes there were, and on nothing else. -/
theorem extend_partialOf (seen available : List UInt8) {taken : Nat} (within : taken ≤ available.length) :
    (partialOf seen).extend available taken = partialOf (seen ++ available.take taken) := by
  have kept : (seen.take maxLineBytes).length = min maxLineBytes seen.length := List.length_take
  have length : (seen ++ available.take taken).length = seen.length + taken := by
    rw [List.length_append, List.length_take, min_eq_left within]
  rw [partialOf, Partial.extend, partialOf, length]
  simp only [kept, Partial.mk.injEq, true_and]
  constructor
  · rw [List.take_append, List.take_take]
    by_cases room : seen.length ≤ maxLineBytes
    · rw [min_eq_right room, min_comm]
    · have none_ : maxLineBytes - min maxLineBytes seen.length = 0 := by omega
      have noneToo : maxLineBytes - seen.length = 0 := by omega
      rw [none_, noneToo, Nat.min_zero, Nat.zero_min]
  · rw [Bool.eq_iff_iff]
    simp only [Bool.or_eq_true, decide_eq_true_eq]
    omega

theorem delivered_consume (taken : Nat) (available : List UInt8) (rest : BufReader ε) :
    delivered (consume taken available rest) = (available.drop taken ++ (delivered rest).1, (delivered rest).2) := by
  unfold consume
  split
  · next nothing => rw [nothing, List.nil_append]
  · rfl

theorem noEmptyPiece_consume (taken : Nat) (available : List UInt8) (whole : NoEmptyPiece rest) :
    NoEmptyPiece (consume taken available rest) := by
  unfold consume
  split
  · exact whole
  · next some_ =>
    intro event listed
    rcases List.mem_cons.mp listed with rfl | listed
    · exact fun same => some_ (ReadEvent.piece.inj same)
    · exact whole event listed

/-- A piece with a newline in it ends the line there. -/
theorem findIdx_newline {available : List UInt8} {index : Nat} (found : available.findIdx? (· = newline) = some index) :
    index < available.length ∧ newline ∉ available.take index ∧
      available = available.take index ++ newline :: available.drop (index + 1) := by
  obtain ⟨inside, isMark, before⟩ := List.findIdx?_eq_some_iff_getElem.mp found
  refine ⟨inside, ?_, ?_⟩
  · intro listed
    obtain ⟨place, within, same⟩ := List.mem_take_iff_getElem.mp listed
    have earlier := before place (by omega)
    simp [same] at earlier
  · have mark : available[index] = newline := by simpa using isMark
    rw [← mark, List.getElem_cons_drop, List.take_append_drop]

theorem findIdx_none {available : List UInt8} (found : available.findIdx? (· = newline) = none) :
    newline ∉ available := by
  intro listed
  have apart := List.findIdx?_eq_none_iff.mp found newline listed
  simp at apart

/-- A piece without a newline is taken whole. -/
theorem readLineCapped_piece {seen available : List UInt8} (some_ : available ≠ []) (unmarked : newline ∉ available) :
    readLineCapped (partialOf seen) (.piece available :: rest) =
      readLineCapped (partialOf (seen ++ available)) rest := by
  have none_ : available.findIdx? (· = newline) = none := by
    rw [List.findIdx?_eq_none_iff]
    intro byte listed
    simpa using fun same : byte = newline => unmarked (same ▸ listed)
  rw [readLineCapped, if_neg some_, none_, extend_partialOf seen available le_rfl, List.take_length]

/-- Up to a newline. -/
theorem readLineCapped_ended (seen : List UInt8) (whole : NoEmptyPiece reader) (unmarked : newline ∉ content)
    (isDelivered : delivered reader = (content ++ newline :: tail, fault)) :
    ∃ rest, readLineCapped (partialOf seen) reader = .ok (partialOf (seen ++ (content ++ [newline])), rest) ∧
      delivered rest = (tail, fault) ∧ NoEmptyPiece rest := by
  induction reader generalizing seen content with
  | nil => simp [delivered] at isDelivered
  | cons event events ih =>
      have wholeBehind : NoEmptyPiece events := fun later listed => whole later (List.mem_cons_of_mem _ listed)
      cases event with
      | interrupted => exact ih seen wholeBehind unmarked isDelivered
      | failed error => simp [delivered] at isDelivered
      | piece available =>
          have some_ : available ≠ [] := fun none_ => whole _ List.mem_cons_self (by rw [none_])
          obtain ⟨stream, isFault⟩ := Prod.mk.inj isDelivered
          cases found : available.findIdx? (· = newline) with
          | some index =>
              obtain ⟨inside, before, isSplit⟩ := findIdx_newline found
              have split := stream
              rw [isSplit, List.append_assoc, List.cons_append] at split
              obtain ⟨isContent, isTail⟩ := first_mark_unique before unmarked split
              have taken : available.take (index + 1) = content ++ [newline] := by
                rw [← isContent, List.take_succ_eq_append_getElem inside]
                have mark : available[index] = newline := by
                  simpa using (List.findIdx?_eq_some_iff_getElem.mp found).2.1
                rw [mark]
              refine ⟨consume (index + 1) available events, ?_, ?_, noEmptyPiece_consume _ _ wholeBehind⟩
              · have within : index + 1 ≤ available.length := inside
                have extended := extend_partialOf seen available within
                rw [taken] at extended
                rw [readLineCapped, if_neg some_, found, ← extended]
              · rw [delivered_consume, isTail, isFault]
          | none =>
              have apart := findIdx_none found
              obtain ⟨left, isContent, isMore⟩ := unmarked_before_first apart stream
              have unmarkedLeft : newline ∉ left := by
                rw [isContent, List.mem_append, not_or] at unmarked
                exact unmarked.2
              have later := ih (seen ++ available) wholeBehind unmarkedLeft (Prod.ext isMore isFault)
              rw [readLineCapped_piece some_ apart, isContent]
              simpa only [List.append_assoc] using later

/-- Without a newline, to the end. -/
theorem readLineCapped_unended (seen : List UInt8) (whole : NoEmptyPiece reader) (unmarked : newline ∉ content)
    (isDelivered : delivered reader = (content, fault)) : readLineCapped (partialOf seen) reader =
      fault.elim (.ok (partialOf (seen ++ content), [])) .error := by
  induction reader generalizing seen content with
  | nil =>
      obtain ⟨isContent, isFault⟩ := Prod.mk.inj isDelivered
      rw [← isContent, ← isFault, List.append_nil]
      rfl
  | cons event events ih =>
      have wholeBehind : NoEmptyPiece events := fun later listed => whole later (List.mem_cons_of_mem _ listed)
      cases event with
      | interrupted => exact ih seen wholeBehind unmarked isDelivered
      | failed error =>
          rw [← (Prod.mk.inj isDelivered).2]
          rfl
      | piece available =>
          have some_ : available ≠ [] := fun none_ => whole _ List.mem_cons_self (by rw [none_])
          obtain ⟨stream, isFault⟩ := Prod.mk.inj isDelivered
          rw [← stream, List.mem_append, not_or] at unmarked
          have later := ih (seen ++ available) wholeBehind unmarked.2 (Prod.ext rfl isFault)
          rw [readLineCapped_piece some_ unmarked.1, later, ← stream, List.append_assoc]

end Reading

section Scanning

variable {stream : List UInt8} {reader : BufReader ε} {fault : Option ε}

/-- What the scanner makes of a line of the stream. -/
def takeRead (state : RoundLines × List String) (line : Line UInt8) : RoundLines × List String :=
  takeLine ((whole newline line).take maxLineBytes) (decide (maxLineBytes < (whole newline line).length)) state

theorem scanLines_read {state : RoundLines × List String} {read : Partial} {rest : BufReader ε}
    (isRead : readLineCapped .start reader = .ok (read, rest)) (some_ : read.consumed ≠ 0) :
    scanLines state reader = scanLines (takeLine read.line read.cut state) rest := by
  rw [scanLines]
  split
  · next failed =>
    rw [isRead] at failed
    cases failed
  · next again =>
    rw [isRead] at again
    obtain ⟨rfl, rfl⟩ := Prod.mk.inj (Except.ok.inj again)
    rw [dif_neg some_]

theorem scanLines_end {state : RoundLines × List String} {read : Partial} {rest : BufReader ε}
    (isRead : readLineCapped .start reader = .ok (read, rest)) (none_ : read.consumed = 0) :
    scanLines state reader = (.ok (), state) := by
  rw [scanLines]
  split
  · next failed =>
    rw [isRead] at failed
    cases failed
  · next again =>
    rw [isRead] at again
    obtain ⟨rfl, rfl⟩ := Prod.mk.inj (Except.ok.inj again)
    rw [dif_pos none_]

theorem scanLines_failed {state : RoundLines × List String} {error : ε}
    (failed : readLineCapped .start reader = .error error) : scanLines state reader = (.error error, state) := by
  rw [scanLines]
  split
  · next again =>
    rw [failed] at again
    rw [Except.error.inj again]
  · next isRead =>
    rw [failed] at isRead
    cases isRead

theorem scanLines_nil (state : RoundLines × List String) : scanLines state ([] : BufReader ε) = (.ok (), state) :=
  have atEnd : readLineCapped .start ([] : BufReader ε) = .ok (.start, []) := rfl
  scanLines_end atEnd rfl

/-- The lines that are taken: all of them, but when the reading fails not the one it fails in. -/
def takenLines (stream : List UInt8) (fault : Option ε) : List (Line UInt8) :=
  (lines newline stream).filter fun line => line.ended || fault.isNone

/-- The scanner takes the lines of the stream one by one, whatever pieces it comes in. -/
theorem scanLines_eq (pieces : NoEmptyPiece reader) (isDelivered : delivered reader = (stream, fault))
    (state : RoundLines × List String) :
    scanLines state reader = (fault.elim (.ok ()) .error, (takenLines stream fault).foldl takeRead state) := by
  obtain ⟨count, isCount⟩ : ∃ count, count = stream.length := ⟨_, rfl⟩
  induction count using Nat.strong_induction_on generalizing stream reader state with
  | _ count ih =>
      rcases exists_first_mark newline stream with unmarked | ⟨content, behind, unmarked, isStream⟩
      · have unended := readLineCapped_unended [] pieces unmarked isDelivered
        rw [List.nil_append] at unended
        cases fault with
        | some error =>
            have nothing : takenLines stream (some error) = [] := by
              cases stream with
              | nil => rfl
              | cons first rest =>
                  rw [takenLines, lines_unended unmarked (List.cons_ne_nil _ _)]
                  rfl
            rw [scanLines_failed unended, nothing]
            rfl
        | none =>
            cases stream with
            | nil =>
                rw [scanLines_end unended rfl]
                rfl
            | cons first rest =>
                have one : takenLines (first :: rest) (none : Option ε) = [⟨first :: rest, false⟩] := by
                  rw [takenLines, lines_unended unmarked (List.cons_ne_nil _ _)]
                  rfl
                rw [scanLines_read unended (Nat.succ_ne_zero _), scanLines_nil, one, List.foldl_cons, List.foldl_nil,
                  takeRead, whole_unended]
                rfl
      · rw [isStream] at isDelivered
        obtain ⟨rest, isRead, left, leftPieces⟩ := readLineCapped_ended [] pieces unmarked isDelivered
        rw [List.nil_append] at isRead
        have shorter : behind.length < count := by
          rw [isCount, isStream, List.length_append, List.length_cons]
          omega
        have first : takenLines stream fault = ⟨content, true⟩ :: takenLines behind fault := by
          rw [takenLines, isStream, lines_ended unmarked]
          rfl
        have some_ : (partialOf (content ++ [newline])).consumed ≠ 0 := by simp [partialOf]
        rw [scanLines_read isRead some_, ih behind.length shorter leftPieces left _ rfl, first, List.foldl_cons]
        rfl

end Scanning

section Limit

variable {line : Line UInt8}

/-- The newline does not tell in the text. -/
theorem lineText_newline (content : List UInt8) : lineText (content ++ [newline]) = lineText content := by
  rw [lineText, fromUtf8Lossy_snoc_ascii (by decide), List.rdropWhile_concat_pos _ _ _ (by decide), lineText]

/-- The first bytes of a line, whether or not the newline is among them. -/
theorem lineText_take_whole (line : Line UInt8) :
    lineText ((whole newline line).take maxLineBytes) = lineText (line.content.take maxLineBytes) := by
  unfold whole
  split
  · by_cases short : line.content.length < maxLineBytes
    · have all : (line.content ++ [newline]).take maxLineBytes = line.content ++ [newline] := by
        apply List.take_of_length_le
        rw [List.length_append]
        exact short
      rw [all, lineText_newline, List.take_of_length_le short.le]
    · rw [List.take_append_of_le_length (Nat.not_lt.mp short)]
  · rw [List.append_nil]

/-- A line whose content is longer than the limit. -/
def isLong (line : Line UInt8) : Bool := decide (maxLineBytes < line.content.length)

/-- A line that is longer than the limit with its newline. -/
def isLongWhole (line : Line UInt8) : Bool := decide (maxLineBytes < (whole newline line).length)

/-- A line of a stream cut at its newlines, with the first bytes of it. -/
def takeSplit (state : RoundLines × List String) (line : Line UInt8) : RoundLines × List String :=
  takeLine (line.content.take maxLineBytes) (isLong line) state

/-- The whole stream cut at its newlines, and each line taken. -/
def splitAndTake (stream : List UInt8) : RoundLines × List String :=
  (lines newline stream).foldl takeSplit (.empty, [])

/-- The same but for the number of lines that count as cut. -/
def withCut (cutLines : Nat) (state : RoundLines × List String) : RoundLines × List String :=
  ({ state.1 with cutLines }, state.2)

/-- What a text changes. -/
def takeText (text : String) (state : RoundLines × List String) : RoundLines × List String :=
  ((state.1.take text).1, state.2 ++ (state.1.take text).2)

theorem take_cutLines (lines : RoundLines) (cutLines : Nat) (line : String) :
    RoundLines.take { lines with cutLines } line = ({ (lines.take line).1 with cutLines }, (lines.take line).2) :=
  rfl

theorem takeText_withCut (text : String) (cutLines : Nat) (state : RoundLines × List String) :
    takeText text (withCut cutLines state) = withCut cutLines (takeText text state) := by
  simp only [takeText, withCut, take_cutLines]

/-- A line changes what its text changes, and the count. -/
theorem takeLine_eq (bytes : List UInt8) (cut : Bool) (state : RoundLines × List String) :
    takeLine bytes cut state = withCut (state.1.cutLines + if cut then 1 else 0) (takeText (lineText bytes) state) := by
  rw [← takeText_withCut]
  cases cut with
  | true => rfl
  | false => rfl

theorem takeLine_withCut (bytes : List UInt8) (cut other : Bool) (cutLines : Nat) (state : RoundLines × List String) :
    takeLine bytes cut (withCut cutLines state) =
      withCut (cutLines + if cut then 1 else 0) (takeLine bytes other state) := by
  rw [takeLine_eq, takeLine_eq, takeText_withCut]
  rfl

theorem takeRead_withCut (cutLines : Nat) (state : RoundLines × List String) (line : Line UInt8) :
    takeRead (withCut cutLines state) line =
      withCut (cutLines + if isLongWhole line then 1 else 0) (takeSplit state line) := by
  have same : takeRead (withCut cutLines state) line =
      takeLine (line.content.take maxLineBytes) (isLongWhole line) (withCut cutLines state) := by
    unfold takeRead takeLine
    rw [lineText_take_whole]
    rfl
  rw [same, takeLine_withCut _ _ (isLong line)]
  rfl

/-- The scanner and the splitting differ in what they count as cut. -/
theorem foldl_takeRead (all : List (Line UInt8)) (cutLines : Nat) (state : RoundLines × List String) :
    all.foldl takeRead (withCut cutLines state) =
      withCut (cutLines + all.countP isLongWhole) (all.foldl takeSplit state) := by
  induction all generalizing cutLines state with
  | nil => rfl
  | cons line all ih =>
      rw [List.foldl_cons, List.foldl_cons, takeRead_withCut, ih, List.countP_cons]
      congr 1
      omega

theorem cutLines_foldl_takeSplit (all : List (Line UInt8)) (state : RoundLines × List String) :
    (all.foldl takeSplit state).1.cutLines = state.1.cutLines + all.countP isLong := by
  induction all generalizing state with
  | nil => rfl
  | cons line all ih =>
      have step : (takeSplit state line).1.cutLines = state.1.cutLines + if isLong line then 1 else 0 := by
        cases long : isLong line
        · rw [takeSplit, long]; rfl
        · rw [takeSplit, long]; rfl
      rw [List.foldl_cons, ih, step, List.countP_cons]
      omega

/-- No line with a newline is as long as the limit without it. -/
def NoneJustFull (stream : List UInt8) : Prop :=
  ∀ line ∈ lines newline stream, line.ended → line.content.length ≠ maxLineBytes

theorem isLongWhole_iff (line : Line UInt8) : isLongWhole line = true ↔
    isLong line = true ∨ (line.ended = true ∧ line.content.length = maxLineBytes) := by
  unfold isLongWhole isLong whole
  rw [decide_eq_true_eq, decide_eq_true_eq, List.length_append]
  cases line.ended
  · simp
  · simp only [if_true, List.length_singleton, true_and]
    omega

theorem countP_isLongWhole_iff (all : List (Line UInt8)) : all.countP isLongWhole = all.countP isLong ↔
    ∀ line ∈ all, line.ended → line.content.length ≠ maxLineBytes := by
  have fewer : ∀ all : List (Line UInt8), all.countP isLong ≤ all.countP isLongWhole := fun all =>
    List.countP_mono_left fun line _ long => (isLongWhole_iff line).mpr (.inl long)
  induction all with
  | nil => simp
  | cons line all ih =>
      have rest := fewer all
      have wholeIff := isLongWhole_iff line
      rw [List.countP_cons, List.countP_cons, List.forall_mem_cons]
      by_cases long : isLong line = true
      · have longer : line.content.length ≠ maxLineBytes := by
          rw [isLong, decide_eq_true_eq] at long
          omega
        rw [if_pos long, if_pos (wholeIff.mpr (.inl long)), Nat.add_right_cancel_iff]
        constructor
        · exact fun same => ⟨fun _ => longer, ih.mp same⟩
        · exact fun apart => ih.mpr apart.2
      · by_cases justFull : line.ended = true ∧ line.content.length = maxLineBytes
        · rw [if_neg long, if_pos (wholeIff.mpr (.inr justFull))]
          constructor
          · intro same
            omega
          · intro apart
            exact absurd justFull.2 (apart.1 justFull.1)
        · have notWhole : ¬ isLongWhole line = true := fun isWhole => (wholeIff.mp isWhole).elim long justFull
          rw [if_neg long, if_neg notWhole, Nat.add_zero, Nat.add_zero]
          constructor
          · exact fun same => ⟨fun ended full => justFull ⟨ended, full⟩, ih.mp same⟩
          · exact fun apart => ih.mpr apart.2

end Limit

/-- A reader that hands out a stream in pieces that are not empty, interrupted or not. -/
def HandsOut (reader : BufReader ε) (stream : List UInt8) : Prop :=
  delivered reader = (stream, none) ∧ NoEmptyPiece reader

theorem scanLines_handsOut {reader : BufReader ε} {stream : List UInt8} (handsOut : HandsOut reader stream) :
    scanLines (.empty, []) reader =
      (.ok (), withCut ((lines newline stream).countP isLongWhole) (splitAndTake stream)) := by
  have everyLine : takenLines stream (none : Option ε) = lines newline stream := by
    rw [takenLines, List.filter_eq_self]
    intro line _
    simp
  have folded := foldl_takeRead (lines newline stream) 0 (.empty, [])
  rw [Nat.zero_add] at folded
  rw [scanLines_eq handsOut.2 handsOut.1, everyLine, splitAndTake, ← folded]
  rfl

/-- The scanner's answer is that of the stream cut at its newlines exactly when no line is just full. -/
theorem scanLines_eq_split_iff {reader : BufReader ε} {stream : List UInt8} (handsOut : HandsOut reader stream) :
    scanLines (.empty, []) reader = (.ok (), splitAndTake stream) ↔ NoneJustFull stream := by
  have count := cutLines_foldl_takeSplit (lines newline stream) (.empty, [])
  have isCount : (splitAndTake stream).1.cutLines = (lines newline stream).countP isLong := by
    rw [splitAndTake, count]
    exact Nat.zero_add _
  rw [scanLines_handsOut handsOut, NoneJustFull, ← countP_isLongWhole_iff, ← isCount]
  constructor
  · intro same
    rw [← (Prod.mk.inj same).2]
    rfl
  · intro same
    rw [same]
    rfl

end Gputeer.AgentLoop
