import Gputeer.Lib.Bytes
import Gputeer.Lib.Lists
import Gputeer.Cli.ScannedLines

/-! The loop over agent rounds. It goes on until it has run as many rounds as it may, and stops at once after a round
whose output says that an incident or the run ledger could not be written. -/

namespace Gputeer.AgentLoop

open Lines LossyUtf8

structure Round where
  exitOk : Bool
  lines : RoundLines
  notes : List String

def merge (stdout stderr : RoundLines) : RoundLines :=
  { worked := stdout.worked || stderr.worked
    workloadResult := stdout.workloadResult.or stderr.workloadResult
    incidentNotRecorded := stdout.incidentNotRecorded.or stderr.incidentNotRecorded
    ledgerFatal := stdout.ledgerFatal.or stderr.ledgerFatal
    lastNonempty := stderr.lastNonempty.or stdout.lastNonempty
    cutLines := stdout.cutLines + stderr.cutLines }

/-- What is said of a stream that could not be read to its end. -/
def scanNote (which : String) : Except String Unit → List String
  | .ok () => []
  | .error error => [s!"{which} 를 끝까지 읽지 못했다({error}) — 그때까지 읽은 줄로 판정한다"]

/-- A round of a process that gives these bytes on its two streams, both closed in time. -/
def commandRound (exitOk : Bool) (stdout stderr : BufReader String) : Round :=
  let out := scanLines (.empty, []) stdout
  let err := scanLines (.empty, []) stderr
  { exitOk
    lines := merge out.2.1 err.2.1
    notes := scanNote "stdout" out.1 ++ scanNote "stderr" err.1 }

structure LoopState where
  rounds : Nat
  worked : Nat
  idle : Nat
  printed : List String
  sleptMs : Nat

def LoopState.start : LoopState := ⟨0, 0, 0, [], 0⟩

inductive LoopStatus where
  | asking (state : LoopState)
  | ended (state : LoopState) (result : Except String String)

def LoopState.say (state : LoopState) (lines : List String) : LoopState :=
  { state with printed := state.printed ++ lines }

section Loop

variable (intervalMs maxRounds : Nat)

/-- The head of the loop. -/
def proceed (state : LoopState) : LoopStatus :=
  if maxRounds ≠ 0 ∧ state.rounds ≥ maxRounds then
    .ended state (.ok s!"AGENT_LOOP_DONE rounds={state.rounds} worked={state.worked} idle_or_refused={state.idle}")
  else .asking state

def outputNotes (rounds : Nat) (round : Round) : List String :=
  round.notes.map (fun note => s!"  AGENT_ROUND_OUTPUT_NOTE round={rounds}: {note}") ++
    if round.lines.cutLines > 0 then
      [s!"  AGENT_ROUND_OUTPUT_NOTE round={rounds}: {round.lines.cutLines} 줄이 {maxLineBytes} 바이트를 넘어 뒷부분을 버렸다"]
    else []

def incidentStop (rounds : Nat) (line : String) : String :=
  s!"AGENT_LOOP_STOPPED round={rounds}: 사람에게 넘길 컨테이너 사건을 표식으로 남기지 못해 다음 회차를 돌리지 않는다 — 소유자가 컨테이너 · " ++
    s!"작업 폴더 · 표식 폴더를 확인한 뒤 다시 띄운다: {line}"

def ledgerStop (rounds : Nat) (line : String) : String :=
  s!"AGENT_LOOP_STOPPED round={rounds}: 노드 실행 원장에 기록하지 못해 다음 회차를 돌리지 않는다 — 다시 띄우면 원장의 풀기 규칙이 " ++
    s!"판정한다: {line}"

/-- The loop pauses after a round without work, unless it was the last one. -/
def pauseMs (rounds : Nat) : Nat :=
  if (maxRounds = 0 ∨ rounds < maxRounds) ∧ intervalMs > 0 then intervalMs else 0

def countRound (state : LoopState) (round : Round) : LoopState :=
  let result := round.lines.workloadResult.getD ""
  let last := round.lines.lastNonempty.getD ""
  if round.lines.worked then
    { state with worked := state.worked + 1 }.say
      [s!"AGENT_ROUND {state.rounds} outcome=worked exit_ok={round.exitOk} {result}"]
  else
    { state with idle := state.idle + 1, sleptMs := state.sleptMs + pauseMs intervalMs maxRounds state.rounds }.say
      [s!"AGENT_ROUND {state.rounds} outcome=idle_or_refused last={last}"]

/-- What the loop does with the answer to the round it asked for. -/
def afterRound (before : LoopState) (answer : Except String Round) : LoopStatus :=
  let state := { before with rounds := before.rounds + 1 }
  match answer with
  | .error error => .ended state (.error error)
  | .ok round =>
      let state := state.say (outputNotes state.rounds round)
      match round.lines.incidentNotRecorded, round.lines.ledgerFatal with
      | some line, _ => .ended state (.error (incidentStop state.rounds line))
      | none, some line => .ended state (.error (ledgerStop state.rounds line))
      | none, none => proceed maxRounds (countRound intervalMs maxRounds state round)

def stepLoop (status : LoopStatus) (answer : Except String Round) : LoopStatus :=
  match status with
  | .asking state => afterRound intervalMs maxRounds state answer
  | .ended state result => .ended state result

/-- The loop over the rounds that it asks for. -/
def runRounds (answers : List (Except String Round)) : LoopStatus :=
  answers.foldl (stepLoop intervalMs maxRounds) (proceed maxRounds .start)

end Loop

/-- The loop has stopped with an error. -/
def LoopStatus.Stopped (status : LoopStatus) : Prop := ∃ state error, status = .ended state (.error error)

section Stop

variable {intervalMs maxRounds : Nat} {round : Round}

theorem not_stopped_proceed (state : LoopState) : ¬ (proceed maxRounds state).Stopped := by
  intro ⟨after, error, same⟩
  unfold proceed at same
  split at same
  · cases same
  · cases same

/-- After a round that ran to its end. -/
theorem stopped_afterRound_iff (state : LoopState) : (afterRound intervalMs maxRounds state (.ok round)).Stopped ↔
    round.lines.incidentNotRecorded.isSome = true ∨ round.lines.ledgerFatal.isSome = true := by
  cases incident : round.lines.incidentNotRecorded with
  | some line =>
      simp only [afterRound, incident]
      exact ⟨fun _ => .inl rfl, fun _ => ⟨_, _, rfl⟩⟩
  | none =>
      cases ledger : round.lines.ledgerFatal with
      | some line =>
          simp only [afterRound, incident, ledger]
          exact ⟨fun _ => .inr rfl, fun _ => ⟨_, _, rfl⟩⟩
      | none =>
          simp only [afterRound, incident, ledger, Option.isSome_none, Bool.false_eq_true, or_self, iff_false]
          exact not_stopped_proceed _

/-- A text of ASCII without an end of a line in it, shorter than a line may be. -/
structure IsMark (mark : String) : Prop where
  chars : mark.toList = (Bytes.utf8 mark).map ascii
  ascii : ∀ byte ∈ Bytes.utf8 mark, byte < 0x80
  inLine : ∀ c ∈ mark.toList, isLineEnd c = false
  short : (Bytes.utf8 mark).length ≤ maxLineBytes

theorem isMark_incidentNotRecorded : IsMark incidentNotRecorded :=
  ⟨by decide, List.forall_mem_of_all (by decide), List.forall_mem_of_all (by decide), by decide⟩

theorem isMark_runLedgerFatal : IsMark runLedgerFatal :=
  ⟨by decide, List.forall_mem_of_all (by decide), List.forall_mem_of_all (by decide), by decide⟩

/-- Trimming the end of a line takes nothing off a beginning that is none. -/
theorem prefix_rdropWhile_iff {start text : List Char} (inLine : ∀ c ∈ start, isLineEnd c = false) :
    start <+: text.rdropWhile isLineEnd ↔ start <+: text := by
  constructor
  · exact fun begins => begins.trans (List.rdropWhile_prefix ..)
  · intro begins
    induction text using List.reverseRecOn with
    | nil => exact begins
    | append_singleton text c ih =>
        by_cases ends : isLineEnd c = true
        · rw [List.rdropWhile_concat_pos _ _ _ ends]
          rcases List.prefix_concat_iff.mp begins with same | earlier
          · rw [inLine c (by rw [same]; simp)] at ends
            cases ends
          · exact ih earlier
        · rw [List.rdropWhile_concat_neg _ _ _ ends]
          exact begins

/-- The text of a line that may be cut begins with a mark exactly where the line does. -/
theorem startsWith_lineText_iff {mark : String} (isMark : IsMark mark) (content : List UInt8) :
    startsWith (lineText (content.take maxLineBytes)) mark = true ↔ Bytes.utf8 mark <+: content := by
  rw [startsWith, List.isPrefixOf_iff_prefix, lineText, String.toList_ofList, prefix_rdropWhile_iff isMark.inLine,
    isMark.chars, ascii_prefix_iff isMark.ascii, List.prefix_take_iff]
  exact and_iff_left isMark.short

/-- A field that keeps the first line with a mark is filled exactly when there is such a line. -/
theorem isSome_foldl_takeSplit (field : RoundLines → Option String) {mark : String} (isMark : IsMark mark)
    (keeps : ∀ cut lines text, field (RoundLines.take { lines with cutLines := cut } text).1 =
      keepFirst (field lines) text mark)
    (all : List (Line UInt8)) (state : RoundLines × List String) :
    (field (all.foldl takeSplit state).1).isSome = true ↔
      (field state.1).isSome = true ∨ ∃ line ∈ all, Bytes.utf8 mark <+: line.content := by
  induction all generalizing state with
  | nil => simp
  | cons line all ih =>
      have step : field (takeSplit state line).1 =
          keepFirst (field state.1) (lineText (line.content.take maxLineBytes)) mark := by
        unfold takeSplit takeLine
        split
        · exact keeps _ _ _
        · exact keeps state.1.cutLines state.1 _
      rw [List.foldl_cons, ih, step, keepFirst, List.exists_mem_cons_iff, ← or_assoc]
      apply or_congr_left
      rw [← startsWith_lineText_iff isMark]
      cases field state.1 with
      | some kept => simp
      | none =>
          simp only [Option.isNone_none, Bool.true_and, Option.isSome_none, Bool.false_eq_true, false_or]
          split
          · next begins => simp [begins]
          · next apart => simp [apart]

end Stop

/-- A line after which no other round is to run. -/
def StopsLoop (line : Line UInt8) : Prop :=
  Bytes.utf8 incidentNotRecorded <+: line.content ∨ Bytes.utf8 runLedgerFatal <+: line.content

section Main

variable {intervalMs maxRounds : Nat} {stdout stderr : BufReader String} {out err : List UInt8}

theorem incident_scanned (handsOut : HandsOut stdout out) :
    (scanLines (.empty, []) stdout).2.1.incidentNotRecorded.isSome = true ↔
      ∃ line ∈ lines newline out, Bytes.utf8 incidentNotRecorded <+: line.content := by
  have found := isSome_foldl_takeSplit RoundLines.incidentNotRecorded isMark_incidentNotRecorded
    (fun _ _ _ => rfl) (lines newline out) (.empty, [])
  rw [scanLines_handsOut handsOut]
  exact found.trans (or_iff_right Bool.false_ne_true)

theorem ledger_scanned (handsOut : HandsOut stdout out) :
    (scanLines (.empty, []) stdout).2.1.ledgerFatal.isSome = true ↔
      ∃ line ∈ lines newline out, Bytes.utf8 runLedgerFatal <+: line.content := by
  have found := isSome_foldl_takeSplit RoundLines.ledgerFatal isMark_runLedgerFatal
    (fun _ _ _ => rfl) (lines newline out) (.empty, [])
  rw [scanLines_handsOut handsOut]
  exact found.trans (or_iff_right Bool.false_ne_true)

/-- A round stops the loop exactly when a line of one of its streams says so. -/
theorem stopped_commandRound_iff (exitOk : Bool) (state : LoopState) (handsOut : HandsOut stdout out)
    (handsErr : HandsOut stderr err) :
    (afterRound intervalMs maxRounds state (.ok (commandRound exitOk stdout stderr))).Stopped ↔
      ∃ line ∈ lines newline out ++ lines newline err, StopsLoop line := by
  have incident : (commandRound exitOk stdout stderr).lines.incidentNotRecorded.isSome = true ↔
      ∃ line ∈ lines newline out ++ lines newline err, Bytes.utf8 incidentNotRecorded <+: line.content := by
    rw [commandRound, merge, Option.isSome_or, Bool.or_eq_true, incident_scanned handsOut, incident_scanned handsErr]
    simp only [List.mem_append, or_and_right, exists_or]
  have ledger : (commandRound exitOk stdout stderr).lines.ledgerFatal.isSome = true ↔
      ∃ line ∈ lines newline out ++ lines newline err, Bytes.utf8 runLedgerFatal <+: line.content := by
    rw [commandRound, merge, Option.isSome_or, Bool.or_eq_true, ledger_scanned handsOut, ledger_scanned handsErr]
    simp only [List.mem_append, or_and_right, exists_or]
  rw [stopped_afterRound_iff, incident, ledger, ← exists_or]
  simp only [StopsLoop, and_or_left]

/-- The scanner's answer for a stream is that of the stream cut at its newlines. -/
def ScannedAsSplit (reader : BufReader String) (stream : List UInt8) : Prop :=
  scanLines (.empty, []) reader = (.ok (), splitAndTake stream)

/-- After the rounds so far, a round of a process is the last one exactly when a line of its output says so. -/
def StopsAsSaid (intervalMs maxRounds : Nat) (before : List (Except String Round)) (exitOk : Bool)
    (stdout stderr : BufReader String) (out err : List UInt8) : Prop :=
  (runRounds intervalMs maxRounds (before ++ [.ok (commandRound exitOk stdout stderr)])).Stopped ↔
    ∃ line ∈ lines newline out ++ lines newline err, StopsLoop line

theorem stopsAsSaid {before : List (Except String Round)} {state : LoopState}
    (asking : runRounds intervalMs maxRounds before = .asking state) (exitOk : Bool) (handsOut : HandsOut stdout out)
    (handsErr : HandsOut stderr err) : StopsAsSaid intervalMs maxRounds before exitOk stdout stderr out err := by
  have last : runRounds intervalMs maxRounds (before ++ [.ok (commandRound exitOk stdout stderr)]) =
      afterRound intervalMs maxRounds state (.ok (commandRound exitOk stdout stderr)) := by
    rw [runRounds, List.foldl_append, ← runRounds, asking]
    rfl
  rw [StopsAsSaid, last]
  exact stopped_commandRound_iff exitOk state handsOut handsErr

/-- However the bytes of the two streams arrive, the scanner leaves and forwards what the streams cut at their newlines
give, with every byte in one line, but for the number of cut lines, which counts the newline to a line; so that it is
the same throughout exactly when no line with a newline is as long as the limit without it. The loop stops after the
round exactly when one of the lines says so. -/
theorem scanned_as_split_iff_none_just_full {before : List (Except String Round)} {state : LoopState}
    (asking : runRounds intervalMs maxRounds before = .asking state) (exitOk : Bool) (handsOut : HandsOut stdout out)
    (handsErr : HandsOut stderr err) :
    (ScannedAsSplit stdout out ∧ ScannedAsSplit stderr err ∧
        StopsAsSaid intervalMs maxRounds before exitOk stdout stderr out err ↔
      NoneJustFull out ∧ NoneJustFull err) ∧
    (∀ reader stream, HandsOut reader stream →
      scanLines (.empty, []) reader =
          ((.ok (), withCut ((lines newline stream).countP isLongWhole) (splitAndTake stream)) :
            Except String Unit × RoundLines × List String) ∧
        (lines newline stream).flatMap (whole newline) = stream ∧
        ∀ line ∈ lines newline stream, newline ∉ line.content) ∧
    StopsAsSaid intervalMs maxRounds before exitOk stdout stderr out err := by
  have stops := stopsAsSaid asking exitOk handsOut handsErr
  refine ⟨?_, ?_, stops⟩
  · unfold ScannedAsSplit
    rw [scanLines_eq_split_iff handsOut, scanLines_eq_split_iff handsErr]
    exact and_congr_right fun _ => and_iff_left stops
  · intro reader stream handed
    exact ⟨scanLines_handsOut handed, flatMap_whole_lines newline stream, unmarked_lines newline stream⟩

/-- A piece of a line, an interruption, and the rest of it. -/
def ledgerReader : BufReader String :=
  [.piece (Bytes.utf8 "RUN_LEDGER"), .interrupted, .piece (Bytes.utf8 "_FATAL a\n")]

theorem handsOut_ledgerReader : HandsOut ledgerReader (Bytes.utf8 "RUN_LEDGER_FATAL a\n") := by
  refine ⟨by decide, ?_⟩
  intro event listed
  simp only [ledgerReader, List.mem_cons, List.not_mem_nil, or_false] at listed
  rcases listed with rfl | rfl | rfl
  · exact fun same => absurd (ReadEvent.piece.inj same) (by decide)
  · exact fun same => by cases same
  · exact fun same => absurd (ReadEvent.piece.inj same) (by decide)

theorem handsOut_nothing : HandsOut ([] : BufReader String) [] :=
  ⟨rfl, fun _ listed => by cases listed⟩

theorem ledgerReader_stops : ScannedAsSplit ledgerReader (Bytes.utf8 "RUN_LEDGER_FATAL a\n") ∧
    StopsAsSaid 1000 0 [] true ledgerReader [] (Bytes.utf8 "RUN_LEDGER_FATAL a\n") [] := by
  have asking : runRounds 1000 0 [] = .asking .start := rfl
  have scanned := scanned_as_split_iff_none_just_full asking true handsOut_ledgerReader handsOut_nothing
  refine ⟨(scanned.1.mpr ⟨?_, ?_⟩).1, scanned.2.2⟩
  · unfold NoneJustFull
    decide
  · unfold NoneJustFull
    decide

/-- A line of exactly as many bytes as may be kept, and its newline. -/
def justFull : List UInt8 := List.replicate maxLineBytes 120 ++ [newline]

theorem lines_justFull : lines newline justFull = [⟨List.replicate maxLineBytes 120, true⟩] := by
  have unmarked : newline ∉ List.replicate maxLineBytes (120 : UInt8) := by
    intro listed
    exact absurd (List.mem_replicate.mp listed).2 (by decide)
  rw [justFull, lines_ended unmarked]
  rfl

/-- Nothing is cut of such a line, yet it counts as cut. -/
theorem just_full_line_counts_as_cut :
    HandsOut ([.piece justFull] : BufReader String) justFull ∧
      ¬ ScannedAsSplit [.piece justFull] justFull := by
  have handsOut : HandsOut ([.piece justFull] : BufReader String) justFull := by
    refine ⟨by simp [delivered], ?_⟩
    intro event listed same
    rw [List.mem_singleton.mp listed, justFull] at same
    simp at same
  refine ⟨handsOut, ?_⟩
  rw [ScannedAsSplit, scanLines_eq_split_iff handsOut, NoneJustFull, lines_justFull]
  intro apart
  exact apart _ (List.mem_singleton_self _) rfl List.length_replicate

end Main

end Gputeer.AgentLoop
