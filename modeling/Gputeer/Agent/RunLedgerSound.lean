import Gputeer.Agent.RunLedger
import Gputeer.Lib.Trace

/-! The run ledger, read back: in every run of its calls, successful or refused, the columns of the file are
those of the rows that the calls were meant to write, so that the file opens again. -/

namespace Gputeer.Agent

/-- The rows that the calls are meant to write. -/
abbrev TypedLedger := Table String AttemptRow

section Spec

/-- A row goes from active to blocked or closed, and from blocked to closed. -/
def RowState.Becomes : RowState → RowState → Bool
  | active, _ => true
  | localBlocked, localBlocked | localBlocked, closed => true
  | localBlocked, active => false
  | closed, closed => true
  | closed, active | closed, localBlocked => false

def CloseReason.Fits (reason : CloseReason) (row : AttemptRow) : Bool :=
  match row.executor, reason with
  | .container, .reportPersisted => row.containerRemoved = some true
  | .container, .hostRestart => false
  | .container, .notStarted | .container, .noSentinel => true
  | .host, _ => true
  | .legacy, _ => false

def AttemptRow.withFacts (facts : ExitFacts) (row : AttemptRow) : AttemptRow :=
  { row with
    stopped := facts.stopped, logsComplete := facts.logsComplete, containerLeft := facts.containerLeft }

def AttemptRow.withState (state : RowState) (reason : String) (row : AttemptRow) : AttemptRow :=
  { row with state, reason := some reason }

namespace LedgerCall

def attemptId : LedgerCall → String
  | insertActive row => row.attemptId
  | recordFacts id _ | markContainerRemoved id _ | recordContainerExit id _ _ _ | markLocalBlocked id _
  | closeActive id _ | clearLocalBlocked id => id

/-- On which rows the call may be made. -/
def Allowed : LedgerCall → AttemptRow → Bool
  | insertActive _, _ => false
  | recordFacts _ _, row | markLocalBlocked _ _, row => row.state = .active
  | markContainerRemoved _ _, row | recordContainerExit _ _ _ _, row =>
      row.executor = .container ∧ row.state = .active
  | closeActive _ reason, row => row.state = .active ∧ reason.Fits row
  | clearLocalBlocked _, row => row.state = .localBlocked

/-- The row after the call. -/
def after : LedgerCall → AttemptRow → AttemptRow
  | insertActive _, row => row
  | recordFacts _ facts, row => row.withFacts facts
  | markContainerRemoved _ containerId, row =>
      { row with containerRemoved := some true, containerId := containerId <|> row.containerId }
  | recordContainerExit _ facts true _, row =>
      { row.withFacts facts with containerRemoved := some true }
  | recordContainerExit _ facts false reason, row => (row.withFacts facts).withState .localBlocked reason
  | markLocalBlocked _ reason, row => row.withState .localBlocked reason
  | closeActive _ reason, row => row.withState .closed reason.asStr
  | clearLocalBlocked _, row => row.withState .closed "cleared"

/-- A new row that the ledger can hold. -/
def Insertable (row : AttemptRow) : Bool :=
  row.state = .active ∧ row.origin = .agent ∧ row.executor ≠ .legacy ∧
    ¬ row.fenceEpoch.any fun epoch => 2 ^ 63 ≤ epoch.toNat

/-- What the call is for: the rows after it, where it is not refused. -/
def spec (ledger : TypedLedger) : LedgerCall → Option TypedLedger
  | insertActive row =>
      if Insertable row ∧ row.attemptId ∉ ledger then some (ledger.insert row.attemptId row) else none
  | call =>
      match ledger[call.attemptId]? with
      | some row => if call.Allowed row then some (ledger.insert call.attemptId (call.after row)) else none
      | none => none

/-- The rows that are inserted come from `new_active`, with what is known of the runtime filled in. -/
def FromNewActive : LedgerCall → Prop
  | insertActive row => ∃ attemptId jobId nodeId fenceEpoch executor program kind name id cgroup,
      row = { AttemptRow.newActive attemptId jobId nodeId fenceEpoch executor with
        runtimeProgram := program, runtimeKind := kind, containerName := name, containerId := id,
        cgroupPath := cgroup }
  | _ => True

end LedgerCall

end Spec

section Rows

/-- A row that the ledger can hold, and that was not closed for a report before its container was gone. -/
structure AttemptRow.Kept (row : AttemptRow) : Prop where
  formed : row.WellFormed
  reported : row.executor = .container → row.state = .closed → row.reason = some "report_persisted" →
    row.containerRemoved = some true

variable {row : AttemptRow} {call : LedgerCall}

theorem kept_legacy {attemptId : String} {origin : Origin} (legacyOrigin : origin ≠ .agent) :
    (AttemptRow.legacy attemptId origin).Kept where
  formed :=
    { removed := rfl
      origin := ⟨fun _ => legacyOrigin, fun _ => rfl⟩
      legacyClosed := fun _ => rfl
      epoch := fun _ none => by cases none }
  reported := fun container => by cases container

theorem kept_of_newActive (fromNew : (LedgerCall.insertActive row).FromNewActive)
    (insertable : LedgerCall.Insertable row = true) : row.Kept := by
  obtain ⟨attemptId, jobId, nodeId, fenceEpoch, executor, program, kind, name, id, cgroup, rfl⟩ := fromNew
  simp only [LedgerCall.Insertable, AttemptRow.newActive, Option.any_some, decide_eq_true_eq, not_le]
    at insertable
  obtain ⟨_, _, current, fits⟩ := insertable
  refine ⟨⟨?_, ?_, ?_, ?_⟩, ?_⟩
  · cases executor with
    | container => rfl
    | host => rfl
    | legacy => exact absurd rfl current
  · exact ⟨fun legacy => absurd legacy current, fun foreign => absurd rfl foreign⟩
  · exact fun legacy => absurd legacy current
  · intro epoch same
    cases same
    exact fits
  · intro _ closed
    cases closed

theorem removedFits_container {row : AttemptRow} (container : row.executor = .container) :
    removedFits row.executor (some true) = true := by
  rw [container]
  rfl

/-- What an allowed call makes of a row is a row that the ledger can hold. -/
theorem AttemptRow.Kept.after (kept : row.Kept) (allowed : call.Allowed row = true) :
    (call.after row).Kept := by
  obtain ⟨⟨removed, origin, legacyClosed, epoch⟩, reported⟩ := kept
  cases call with
  | insertActive other => cases allowed
  | recordFacts id facts => exact ⟨⟨removed, origin, legacyClosed, epoch⟩, reported⟩
  | markContainerRemoved id containerId =>
      simp only [LedgerCall.Allowed, decide_eq_true_eq] at allowed
      exact ⟨⟨removedFits_container allowed.1, origin, legacyClosed, epoch⟩, fun _ _ _ => rfl⟩
  | recordContainerExit id facts removedConfirmed reason =>
      simp only [LedgerCall.Allowed, decide_eq_true_eq] at allowed
      have current : row.executor ≠ .legacy := by
        rw [allowed.1]
        decide
      cases removedConfirmed with
      | true => exact ⟨⟨removedFits_container allowed.1, origin, legacyClosed, epoch⟩, fun _ _ _ => rfl⟩
      | false =>
          exact ⟨⟨removed, origin, fun legacy => absurd legacy current, epoch⟩,
            fun _ closed => by cases closed⟩
  | markLocalBlocked id reason =>
      simp only [LedgerCall.Allowed, decide_eq_true_eq] at allowed
      refine ⟨⟨removed, origin, fun legacy => ?_, epoch⟩, fun _ closed => by cases closed⟩
      have closed := legacyClosed legacy
      rw [allowed] at closed
      cases closed
  | closeActive id reason =>
      simp only [LedgerCall.Allowed, decide_eq_true_eq] at allowed
      refine ⟨⟨removed, origin, fun _ => rfl, epoch⟩, fun container _ persisted => ?_⟩
      cases reason with
      | reportPersisted =>
          have fits := allowed.2
          have same : row.executor = .container := container
          simp only [CloseReason.Fits, same, decide_eq_true_eq] at fits
          exact fits
      | notStarted =>
          have same : "not_started" = "report_persisted" := Option.some.inj persisted
          exact absurd same (by decide)
      | noSentinel =>
          have same : "no_sentinel" = "report_persisted" := Option.some.inj persisted
          exact absurd same (by decide)
      | hostRestart =>
          have same : "host_restart" = "report_persisted" := Option.some.inj persisted
          exact absurd same (by decide)
  | clearLocalBlocked id =>
      refine ⟨⟨removed, origin, fun _ => rfl, epoch⟩, fun _ _ persisted => ?_⟩
      have same : "cleared" = "report_persisted" := Option.some.inj persisted
      exact absurd same (by decide)

theorem becomes_after (allowed : call.Allowed row = true) :
    row.state.Becomes (call.after row).state = true := by
  cases call with
  | insertActive other => cases allowed
  | recordFacts id facts =>
      simp only [LedgerCall.Allowed, decide_eq_true_eq] at allowed
      rw [allowed]
      rfl
  | markContainerRemoved id containerId =>
      simp only [LedgerCall.Allowed, decide_eq_true_eq] at allowed
      rw [allowed.2]
      rfl
  | recordContainerExit id facts removedConfirmed reason =>
      simp only [LedgerCall.Allowed, decide_eq_true_eq] at allowed
      rw [allowed.2]
      rfl
  | markLocalBlocked id reason =>
      simp only [LedgerCall.Allowed, decide_eq_true_eq] at allowed
      rw [allowed]
      rfl
  | closeActive id reason =>
      simp only [LedgerCall.Allowed, decide_eq_true_eq] at allowed
      rw [allowed.1]
      rfl
  | clearLocalBlocked id =>
      simp only [LedgerCall.Allowed, decide_eq_true_eq] at allowed
      rw [allowed]
      rfl

theorem becomes_refl (state : RowState) : state.Becomes state = true := by
  cases state <;> rfl

theorem attemptId_after : (call.after row).attemptId = row.attemptId := by
  cases call with
  | recordContainerExit id facts removedConfirmed reason => cases removedConfirmed <;> rfl
  | _ => rfl

end Rows

section Columns

variable {row : AttemptRow} {id : String}

theorem guardFacts_eq_ok : guardFacts id row = .ok () ↔ row.state = .active := Except.ensure_eq_ok

theorem guardRemoved_eq_ok :
    guardRemoved id row = .ok () ↔ row.executor = .container ∧ row.state = .active :=
  Except.ensure_eq_ok

theorem guardExit_eq_ok :
    guardExit id row = .ok () ↔ row.executor = .container ∧ row.state = .active :=
  Except.ensure_eq_ok

theorem guardBlocked_eq_ok : guardBlocked id row = .ok () ↔ row.state = .active := Except.ensure_eq_ok

theorem guardClear_eq_ok : guardClear id row = .ok () ↔ row.state = .localBlocked := Except.ensure_eq_ok

theorem closeRule_eq_ok {reason : CloseReason} :
    closeRule id row reason = .ok () ↔ reason.Fits row = true := by
  unfold closeRule CloseReason.Fits
  cases row.executor <;> cases reason <;> simp

theorem guardClose_eq_ok {reason : CloseReason} :
    guardClose id row reason = .ok () ↔ row.state = .active ∧ reason.Fits row = true := by
  simp only [guardClose, Except.bind_eq_ok, Except.ensure_eq_ok, closeRule_eq_ok, exists_const]

theorem setFacts_columns (facts : ExitFacts) :
    row.columns.setFacts facts = (row.withFacts facts).columns := rfl

theorem setState_columns (state : RowState) (reason : String) :
    row.columns.setState state.asStr reason = (row.withState state reason).columns := rfl

theorem setExit_columns (facts : ExitFacts) (removedConfirmed : Bool) (reason : String) :
    (row.columns.setFacts facts).setExit (flagColumn removedConfirmed) reason =
      ((LedgerCall.recordContainerExit id facts removedConfirmed reason).after row).columns := by
  cases removedConfirmed with
  | true => rfl
  | false => rfl

end Columns

section Mirror

/-- The file holds the columns of these rows, each of which it can hold, under its own name. -/
structure Mirrors (file : LedgerFile) (ledger : TypedLedger) : Prop where
  attempts : ∀ id : String, file.attempts[id]? = ledger[id]?.map AttemptRow.columns
  named : ∀ (id : String) (row : AttemptRow), ledger[id]? = some row → row.attemptId = id
  kept : ∀ (id : String) (row : AttemptRow), ledger[id]? = some row → row.Kept

variable {file : LedgerFile} {ledger : TypedLedger} {commits : Bool}

theorem Mirrors.insert (mirrors : Mirrors file ledger) {row : AttemptRow} (kept : row.Kept) :
    Mirrors { file with attempts := file.attempts.insert row.attemptId row.columns }
      (ledger.insert row.attemptId row) where
  attempts := by
    intro id
    rw [Table.lookup_insert, Table.lookup_insert]
    split
    · rfl
    · exact mirrors.attempts id
  named := by
    intro id stored found
    rw [Table.lookup_insert] at found
    split at found
    · next same =>
      cases found
      exact same
    · exact mirrors.named id stored found
  kept := by
    intro id stored found
    rw [Table.lookup_insert] at found
    split at found
    · cases found
      exact kept
    · exact mirrors.kept id stored found

theorem Mirrors.mem_iff (mirrors : Mirrors file ledger) {id : String} :
    id ∈ file.attempts ↔ id ∈ ledger := by
  rw [Std.ExtTreeMap.mem_iff_isSome_getElem?, Std.ExtTreeMap.mem_iff_isSome_getElem?,
    mirrors.attempts id, Option.isSome_map]

/-- The result of a call: either it was carried out as it was meant, or nothing changed. -/
def Answers (commits : Bool) (file : LedgerFile) (result : LedgerFile × Except String Unit)
    (meant : Option TypedLedger) : Prop :=
  match meant with
  | some next =>
      if commits then result.2 = .ok () ∧ Mirrors result.1 next else result.2 ≠ .ok () ∧ result.1 = file
  | none => result.2 ≠ .ok () ∧ result.1 = file

theorem answers_transaction {body : LedgerFile → Except String LedgerFile} {next : LedgerFile}
    {meant : TypedLedger} (done : body file = .ok next) (mirrors : Mirrors next meant) :
    Answers commits file (transaction commits body file) (some meant) := by
  cases commits with
  | true =>
      simp only [Answers, transaction, done, if_true]
      exact ⟨trivial, mirrors⟩
  | false => simp [Answers, transaction, done]

theorem answers_refused {body : LedgerFile → Except String LedgerFile}
    (refused : ∀ next, body file ≠ .ok next) :
    Answers commits file (transaction commits body file) none := by
  cases done : body file with
  | ok next => exact absurd done (refused next)
  | error fault => simp [Answers, transaction, done]

theorem answers_insertActive (mirrors : Mirrors file ledger) {row : AttemptRow}
    (fromNew : (LedgerCall.insertActive row).FromNewActive) :
    Answers commits file (insertActive row commits file) ((LedgerCall.insertActive row).spec ledger) := by
  by_cases insertable : LedgerCall.Insertable row = true
  · have kept := kept_of_newActive fromNew insertable
    simp only [LedgerCall.Insertable, decide_eq_true_eq] at insertable
    obtain ⟨active, own, current, fits⟩ := insertable
    have valid : ¬ (row.state ≠ .active ∨ row.origin ≠ .agent ∨ row.executor = .legacy) := by
      simp [active, own, current]
    unfold insertActive
    rw [if_neg valid, if_neg fits]
    by_cases taken : row.attemptId ∈ ledger
    · rw [show (LedgerCall.insertActive row).spec ledger = none from if_neg fun both => both.2 taken]
      refine answers_refused fun next inserted => ?_
      rw [insertRow, if_pos (mirrors.mem_iff.mpr taken)] at inserted
      cases inserted
    · have meant : (LedgerCall.insertActive row).spec ledger = some (ledger.insert row.attemptId row) := by
        refine if_pos ⟨?_, taken⟩
        simp only [LedgerCall.Insertable, decide_eq_true_eq]
        exact ⟨active, own, current, fits⟩
      rw [meant]
      refine answers_transaction ?_ (mirrors.insert kept)
      rw [insertRow, if_neg fun there => taken (mirrors.mem_iff.mp there)]
      rfl
  · rw [show (LedgerCall.insertActive row).spec ledger = none from if_neg fun both => insertable both.1]
    unfold insertActive
    split
    · simp [Answers]
    · next valid =>
      split
      · simp [Answers]
      · next fits =>
        refine absurd ?_ insertable
        simp only [not_or, not_not] at valid
        simp only [LedgerCall.Insertable, decide_eq_true_eq]
        exact ⟨valid.1, valid.2.1, valid.2.2, fits⟩

/-- A call that updates a row, where its guard and its columns are those of the meaning. -/
theorem answers_updateState (mirrors : Mirrors file ledger) (call : LedgerCall)
    {guard : AttemptRow → Except String Unit} {change : RawRow → RawRow}
    (guarded : ∀ row, guard row = .ok () ↔ call.Allowed row = true)
    (columns : ∀ row, change row.columns = (call.after row).columns)
    (meant : call.spec ledger = match ledger[call.attemptId]? with
      | some row => if call.Allowed row then some (ledger.insert call.attemptId (call.after row)) else none
      | none => none) :
    Answers commits file (updateState call.attemptId guard change commits file) (call.spec ledger) := by
  rw [meant]
  have stored := mirrors.attempts call.attemptId
  cases found : ledger[call.attemptId]? with
  | none =>
      rw [found] at stored
      refine answers_refused fun next updated => ?_
      rw [updateRow, stored] at updated
      cases updated
  | some row =>
      rw [found, Option.map_some] at stored
      have kept := mirrors.kept _ row found
      have update : updateRow call.attemptId guard change file = (guard row).bind fun _ =>
          .ok { file with attempts := file.attempts.update call.attemptId change } := by
        simp only [updateRow, stored, Except.ofOption, kept.formed.validate_columns, bind, Except.bind]
      by_cases allowed : call.Allowed row = true
      · dsimp only
        rw [if_pos allowed]
        have written : file.attempts.update call.attemptId change =
            file.attempts.insert (call.after row).attemptId (call.after row).columns := by
          rw [Table.update, stored]
          dsimp only
          rw [columns, attemptId_after, mirrors.named _ row found]
        have target : (call.after row).attemptId = call.attemptId := by
          rw [attemptId_after, mirrors.named _ row found]
        have updated : updateRow call.attemptId guard change file = .ok { file with
            attempts := file.attempts.insert (call.after row).attemptId (call.after row).columns } := by
          rw [update, (guarded row).mpr allowed, written]
          rfl
        have inserted := mirrors.insert (kept.after allowed)
        rw [target] at inserted updated
        exact answers_transaction updated inserted
      · dsimp only
        rw [if_neg allowed]
        cases refused : guard row with
        | ok done => exact absurd ((guarded row).mp refused) allowed
        | error fault =>
            refine answers_refused fun next updated => ?_
            rw [update, refused] at updated
            cases updated

theorem answers_call (mirrors : Mirrors file ledger) {call : LedgerCall} (fromNew : call.FromNewActive)
    (commits : Bool) : Answers commits file (call.call commits file) (call.spec ledger) := by
  cases call with
  | insertActive row => exact answers_insertActive mirrors fromNew
  | recordFacts id facts =>
      refine answers_updateState mirrors (.recordFacts id facts) (fun row => ?_)
        (fun row => setFacts_columns facts) rfl
      simp [guardFacts_eq_ok, LedgerCall.Allowed]
  | markContainerRemoved id containerId =>
      refine answers_updateState mirrors (.markContainerRemoved id containerId) (fun row => ?_)
        (fun row => rfl) rfl
      simp [guardRemoved_eq_ok, LedgerCall.Allowed]
  | recordContainerExit id facts removedConfirmed reason =>
      refine answers_updateState mirrors (.recordContainerExit id facts removedConfirmed reason)
        (fun row => ?_) (fun row => setExit_columns facts removedConfirmed reason) rfl
      simp [guardExit_eq_ok, LedgerCall.Allowed]
  | markLocalBlocked id reason =>
      refine answers_updateState mirrors (.markLocalBlocked id reason) (fun row => ?_)
        (fun row => setState_columns .localBlocked reason) rfl
      simp [guardBlocked_eq_ok, LedgerCall.Allowed]
  | closeActive id reason =>
      refine answers_updateState mirrors (.closeActive id reason) (fun row => ?_)
        (fun row => setState_columns .closed reason.asStr) rfl
      simp [guardClose_eq_ok, LedgerCall.Allowed]
  | clearLocalBlocked id =>
      refine answers_updateState mirrors (.clearLocalBlocked id) (fun row => ?_)
        (fun row => setState_columns .closed "cleared") rfl
      simp [guardClear_eq_ok, LedgerCall.Allowed]

theorem metaRows_transaction {body : LedgerFile → Except String LedgerFile}
    (kept : ∀ next, body file = .ok next → next.metaRows = file.metaRows) :
    (transaction commits body file).1.metaRows = file.metaRows := by
  unfold transaction
  split
  · next next done =>
    split
    · exact kept next done
    · rfl
  · rfl

theorem metaRows_insertRow {row : AttemptRow} {next : LedgerFile}
    (inserted : insertRow row file = .ok next) : next.metaRows = file.metaRows := by
  unfold insertRow at inserted
  split at inserted
  · cases inserted
  · cases inserted
    rfl

theorem metaRows_updateState {id : String} {guard : AttemptRow → Except String Unit}
    {change : RawRow → RawRow} :
    (updateState id guard change commits file).1.metaRows = file.metaRows := by
  refine metaRows_transaction fun next updated => ?_
  simp only [updateRow, Except.bind_eq_ok] at updated
  obtain ⟨_, _, _, _, _, _, same⟩ := updated
  cases same
  rfl

theorem metaRows_call {call : LedgerCall} : (call.call commits file).1.metaRows = file.metaRows := by
  cases call with
  | insertActive row =>
      simp only [LedgerCall.call, insertActive]
      split
      · rfl
      · split
        · rfl
        · refine metaRows_transaction fun next inserted => ?_
          exact metaRows_insertRow (Except.mapError_eq_ok.mp inserted)
  | recordFacts id facts => exact metaRows_updateState
  | markContainerRemoved id containerId => exact metaRows_updateState
  | recordContainerExit id facts removedConfirmed reason => exact metaRows_updateState
  | markLocalBlocked id reason => exact metaRows_updateState
  | closeActive id reason => exact metaRows_updateState
  | clearLocalBlocked id => exact metaRows_updateState

end Mirror

section Read

variable {file : LedgerFile} {ledger : TypedLedger}

/-- What the file says is what was meant, row by row. -/
theorem rows_of_mirrors (mirrors : Mirrors file ledger) : file.rows = .ok ledger.rows := by
  have same : file.attempts = Std.ExtTreeMap.map (fun _ row => row.columns) ledger := by
    apply Std.ExtTreeMap.ext_getElem?
    intro id
    rw [mirrors.attempts, Std.ExtTreeMap.getElem?_map]
  rw [LedgerFile.rows, Except.mapM_eq_ok, Table.rows, same, Std.ExtTreeMap.toList_map, List.map_map,
    Table.rows, List.forall₂_map_left_iff, List.forall₂_map_right_iff, List.forall₂_same]
  intro entry listed
  have kept := mirrors.kept entry.1 entry.2 (Table.mem_toList.mp listed)
  exact kept.formed.validate_columns

theorem row_of_mirrors (mirrors : Mirrors file ledger) (id : String) : file.row id = .ok ledger[id]? := by
  rw [LedgerFile.row, mirrors.attempts]
  cases found : ledger[id]? with
  | none => rfl
  | some row =>
      have kept := mirrors.kept id row found
      simp [Except.onSome, kept.formed.validate_columns, Functor.map, Except.map]

/-- The generation under which the file opens. -/
theorem openExisting_of_mirrors {generation : String} (mirrors : Mirrors file ledger)
    (version : file.metaRows["format_version"]? = some (toString formatVersion))
    (named : file.metaRows["generation"]? = some generation) (wellNamed : isGeneration generation = true) :
    file.openExisting = .ok generation := by
  have rows := rows_of_mirrors mirrors
  simp only [LedgerFile.openExisting, LedgerFile.metaValue, version, named, rows, wellNamed,
    Except.ofOption, Except.ensure, if_true, bind, Except.bind]

theorem blocksNewWork_of_mirrors (mirrors : Mirrors file ledger) :
    file.blocksNewWork = .ok (ledger.rows.any fun row => row.state ≠ .closed) := by
  rw [LedgerFile.blocksNewWork, rows_of_mirrors mirrors]
  refine congrArg Except.ok (congrArg ledger.rows.any (funext fun row => ?_))
  cases row.state <;> rfl

end Read

section Runs

/-- A call, and whether its transaction could be committed. -/
def ledgerStep (file : LedgerFile) (made : LedgerCall × Bool) : LedgerFile := (made.1.call made.2 file).1

def meantStep (ledger : TypedLedger) (made : LedgerCall × Bool) : TypedLedger :=
  if made.2 then (made.1.spec ledger).getD ledger else ledger

/-- The rows of a new ledger: none, or one for each attempt that an older node had started. -/
def adoptedRows (adopted : List String) (origin : Origin) : TypedLedger :=
  adopted.foldl (fun ledger id => ledger.insert id (AttemptRow.legacy id origin)) ∅

/-- The file mirrors the rows and carries its generation. -/
structure Sound (generation : String) (file : LedgerFile) (ledger : TypedLedger) : Prop where
  mirrors : Mirrors file ledger
  version : file.metaRows["format_version"]? = some (toString formatVersion)
  named : file.metaRows["generation"]? = some generation

variable {generation : String} {file start : LedgerFile} {ledger : TypedLedger} {adopted : List String}
  {origin : Origin}

theorem sound_inserted (legacyOrigin : origin ≠ .agent) (sound : Sound generation file ledger)
    (created : (adopted.map (AttemptRow.legacy · origin)).foldlM (fun file row =>
      (insertRow row file).mapError fun fault =>
        let id := row.attemptId
        s!"RUN_LEDGER: 행을 쓰지 못했다({id}): {fault}") file = .ok start) :
    Sound generation start
      (adopted.foldl (fun ledger id => ledger.insert id (AttemptRow.legacy id origin)) ledger) := by
  induction adopted generalizing file ledger with
  | nil =>
      cases created
      exact sound
  | cons id adopted ih =>
      rw [List.map_cons, List.foldlM_cons, Except.bind_eq_ok] at created
      obtain ⟨next, inserted, rest⟩ := created
      rw [Except.mapError_eq_ok] at inserted
      unfold insertRow at inserted
      split at inserted
      · cases inserted
      · cases inserted
        exact ih ⟨sound.mirrors.insert (kept_legacy legacyOrigin), sound.version, sound.named⟩ rest

theorem sound_created (legacyOrigin : origin ≠ .agent)
    (created : createLedgerFile generation (adopted.map (AttemptRow.legacy · origin)) = .ok start) :
    Sound generation start (adoptedRows adopted origin) := by
  refine sound_inserted legacyOrigin ⟨⟨?_, ?_, ?_⟩, ?_, ?_⟩ created
  · intro id
    simp
  · intro id row found
    simp at found
  · intro id row found
    simp at found
  · rw [Table.lookup_insert_ne (by decide), Table.lookup_insert, if_pos rfl]
  · rw [Table.lookup_insert, if_pos rfl]

theorem Sound.step (sound : Sound generation file ledger) {made : LedgerCall × Bool}
    (fromNew : made.1.FromNewActive) :
    Sound generation (ledgerStep file made) (meantStep ledger made) := by
  obtain ⟨call, commits⟩ := made
  have sameMeta : (ledgerStep file (call, commits)).metaRows = file.metaRows := metaRows_call
  refine ⟨?_, ?_, ?_⟩
  · have answers := answers_call sound.mirrors fromNew commits
    unfold ledgerStep meantStep
    cases meant : call.spec ledger with
    | none =>
        simp only [Answers, meant] at answers
        rw [answers.2, Option.getD_none, ite_self]
        exact sound.mirrors
    | some next =>
        simp only [Answers, meant] at answers
        cases commits with
        | true => exact answers.2
        | false =>
            simp only [Bool.false_eq_true, if_false] at answers ⊢
            rw [answers.2]
            exact sound.mirrors
  · rw [sameMeta]
    exact sound.version
  · rw [sameMeta]
    exact sound.named

theorem Sound.run (sound : Sound generation file ledger) {calls : List (LedgerCall × Bool)}
    (fromNew : ∀ made ∈ calls, made.1.FromNewActive) :
    Sound generation (Trace.run ledgerStep file calls) (Trace.run meantStep ledger calls) := by
  induction calls generalizing file ledger with
  | nil => exact sound
  | cons made calls ih =>
      rw [List.forall_mem_cons] at fromNew
      exact ih (sound.step fromNew.1) fromNew.2

/-- A call that is not refused puts a new row in, or changes one as it may be changed. -/
theorem spec_eq_some {call : LedgerCall} {next : TypedLedger} (meant : call.spec ledger = some next) :
    (∃ row, call = .insertActive row ∧ row.attemptId ∉ ledger ∧
      next = ledger.insert row.attemptId row) ∨
    ∃ row, ledger[call.attemptId]? = some row ∧ call.Allowed row = true ∧
      next = ledger.insert call.attemptId (call.after row) := by
  have changes : (match ledger[call.attemptId]? with
      | some row => if call.Allowed row then some (ledger.insert call.attemptId (call.after row)) else none
      | none => none) = some next → ∃ row, ledger[call.attemptId]? = some row ∧
        call.Allowed row = true ∧ next = ledger.insert call.attemptId (call.after row) := by
    intro changed
    split at changed
    · next row found =>
      split at changed
      · next allowed => exact ⟨row, found, allowed, (Option.some.inj changed).symm⟩
      · cases changed
    · cases changed
  cases call with
  | insertActive row =>
      simp only [LedgerCall.spec] at meant
      split at meant
      · next both => exact Or.inl ⟨row, rfl, both.2, (Option.some.inj meant).symm⟩
      · cases meant
  | recordFacts id facts => exact Or.inr (changes meant)
  | markContainerRemoved id containerId => exact Or.inr (changes meant)
  | recordContainerExit id facts removedConfirmed reason => exact Or.inr (changes meant)
  | markLocalBlocked id reason => exact Or.inr (changes meant)
  | closeActive id reason => exact Or.inr (changes meant)
  | clearLocalBlocked id => exact Or.inr (changes meant)

theorem meantStep_becomes (ledger : TypedLedger) (made : LedgerCall × Bool) {id : String}
    {row : AttemptRow} (found : ledger[id]? = some row) :
    ∃ later, (meantStep ledger made)[id]? = some later ∧ row.state.Becomes later.state = true := by
  unfold meantStep
  split
  · cases meant : made.1.spec ledger with
    | none => exact ⟨row, found, becomes_refl _⟩
    | some next =>
        rw [Option.getD_some]
        rcases spec_eq_some meant with ⟨fresh, _, unknown, rfl⟩ | ⟨stored, there, allowed, rfl⟩
        · have away : fresh.attemptId ≠ id := by
            rintro rfl
            exact unknown (Std.ExtTreeMap.mem_iff_isSome_getElem?.mpr (by rw [found]; rfl))
          exact ⟨row, (Table.lookup_insert_ne away).trans found, becomes_refl _⟩
        · by_cases same : made.1.attemptId = id
          · rw [same, found, Option.some.injEq] at there
            subst there
            exact ⟨made.1.after row, by rw [Table.lookup_insert, if_pos same], becomes_after allowed⟩
          · exact ⟨row, (Table.lookup_insert_ne same).trans found, becomes_refl _⟩
  · exact ⟨row, found, becomes_refl _⟩

/-- In every run of calls on a new or an adopted ledger the file opens, what it says is what the calls that
were carried out meant to write, no container row was closed for its report before its container was gone,
and new work is blocked as long as a row is not closed; and one more call that is refused changes nothing,
one that is not only moves rows forward. -/
theorem run_ledger_reads_back (wellNamed : isGeneration generation = true)
    (legacyOrigin : origin ≠ .agent)
    (created : createLedgerFile generation (adopted.map (AttemptRow.legacy · origin)) = .ok start)
    (calls : List (LedgerCall × Bool)) (fromNew : ∀ made ∈ calls, made.1.FromNewActive) :
    (Trace.run ledgerStep start calls).openExisting = .ok generation ∧
    (Trace.run ledgerStep start calls).rows =
      .ok (Trace.run meantStep (adoptedRows adopted origin) calls).rows ∧
    (∀ row ∈ (Trace.run meantStep (adoptedRows adopted origin) calls).rows, row.executor = .container →
      row.state = .closed → row.reason = some "report_persisted" → row.containerRemoved = some true) ∧
    (Trace.run ledgerStep start calls).blocksNewWork =
      .ok ((Trace.run meantStep (adoptedRows adopted origin) calls).rows.any fun row =>
        row.state ≠ .closed) ∧
    ∀ (call : LedgerCall) (commits : Bool), call.FromNewActive →
      ((call.call commits (Trace.run ledgerStep start calls)).2 ≠ .ok () →
        (call.call commits (Trace.run ledgerStep start calls)).1 = Trace.run ledgerStep start calls) ∧
      ∀ id row, (Trace.run ledgerStep start calls).row id = .ok (some row) →
        ∃ later : AttemptRow, (call.call commits (Trace.run ledgerStep start calls)).1.row id = .ok (some later) ∧
          row.state.Becomes later.state = true := by
  have sound := (sound_created legacyOrigin created).run fromNew
  generalize Trace.run ledgerStep start calls = file at sound ⊢
  generalize Trace.run meantStep (adoptedRows adopted origin) calls = ledger at sound ⊢
  refine ⟨openExisting_of_mirrors sound.mirrors sound.version sound.named wellNamed,
    rows_of_mirrors sound.mirrors, ?_, blocksNewWork_of_mirrors sound.mirrors, ?_⟩
  · intro row listed
    obtain ⟨id, found⟩ := Table.mem_rows.mp listed
    exact (sound.mirrors.kept id row found).reported
  · intro call commits new
    constructor
    · intro refused
      have answers := answers_call sound.mirrors new commits
      cases meant : call.spec ledger with
      | none =>
          simp only [Answers, meant] at answers
          exact answers.2
      | some next =>
          simp only [Answers, meant] at answers
          cases commits with
          | true => exact absurd answers.1 refused
          | false => exact answers.2
    · intro id row found
      rw [row_of_mirrors sound.mirrors, Except.ok.injEq] at found
      obtain ⟨later, there, becomes⟩ := meantStep_becomes ledger (call, commits) found
      have next : Sound generation (ledgerStep file (call, commits))
          (meantStep ledger (call, commits)) := sound.step new
      refine ⟨later, ?_, becomes⟩
      exact (row_of_mirrors next.mirrors id).trans (congrArg Except.ok there)

/-- A container row that is closed after its container was seen gone, and a host row that is left. -/
def twoRuns : List (LedgerCall × Bool) :=
  [(.insertActive (.newActive "a" "j" "n" 3 .container), true),
    (.closeActive "a" .reportPersisted, true),
    (.recordContainerExit "a" ⟨some true, some true, some false⟩ true "", true),
    (.closeActive "a" .reportPersisted, true),
    (.insertActive (.newActive "b" "j" "n" 4 .host), true)]

def sampleGeneration : String := "0123456789abcdef0123456789abcdef"

def adoptedLedger : LedgerFile where
  metaRows := ((∅ : Table String String).insert "format_version" "1").insert "generation" sampleGeneration
  attempts := (∅ : Table String RawRow).insert "old" (AttemptRow.legacy "old" .legacyAdopt).columns

theorem two_runs_reopen :
    (Trace.run ledgerStep adoptedLedger twoRuns).openExisting = .ok sampleGeneration := by
  refine (@run_ledger_reads_back _ _ ["old"] .legacyAdopt ?_ (by decide) ?_ twoRuns ?_).1
  · decide +kernel
  · rfl
  · simp only [twoRuns, List.forall_mem_cons]
    exact ⟨⟨_, _, _, _, _, _, _, _, _, _, rfl⟩, trivial, trivial, trivial,
      ⟨_, _, _, _, _, _, _, _, _, _, rfl⟩, by simp⟩

end Runs

end Gputeer.Agent
