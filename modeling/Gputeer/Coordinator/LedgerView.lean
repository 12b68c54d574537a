import Gputeer.Coordinator.LedgerSound
import Gputeer.Coordinator.StagingStore

/-! The ledger that a control database stands for. A transaction refines the ledger when it leaves
readable rows and its effect is a sequence of steps. -/

namespace Gputeer.Coordinator

open Protocol Text

namespace ControlDb

def ledger (db : ControlDb) : Ledger where
  job id := db.jobs[id]?.bind (·.intoStored.toOption)
  attempt id := db.attempts[id]?
  lease id := db.leases[id]?
  reservation id := db.nodeReservations[id]?
  counter := db.maxIssuedEpoch.getD 0
  reported := {report | ∃ row ∈ db.attemptReports, (row.attemptId, row.reportBody) = report}
  operation key := db.stagingOperations[key]?
  manifested := {jobId | db.jobManifests[jobId]? ≠ none}

/-- Every job row is what the writers leave for the job it is keyed by, in a valid shape. -/
def Readable (db : ControlDb) : Prop :=
  ∀ (id : String) (row : RawJobRow), db.jobs[id]? = some row →
    ∃ job, job.WellShaped ∧ job.jobId = id ∧ row = RawJobRow.ofStored job

structure Intact (db : ControlDb) : Prop where
  readable : db.Readable
  sound : Sound db.ledger

/-- The commit from `db` to `next` is a sequence of steps of the ledger. -/
structure Refines (allowed : Allowance) (db next : ControlDb) : Prop where
  readable : next.Readable
  steps : Steps allowed db.ledger next.ledger

variable {db next last : ControlDb} {allowed : Allowance}

theorem Intact.after (intact : db.Intact) (refines : Refines allowed db next) : next.Intact where
  readable := refines.readable
  sound := refines.steps.sound_next intact.sound

theorem Intact.refl (intact : db.Intact) : Refines allowed db db where
  readable := intact.readable
  steps := Relation.ReflTransGen.refl

theorem Refines.trans (first : Refines allowed db next) (second : Refines allowed next last) :
    Refines allowed db last where
  readable := second.readable
  steps := Relation.ReflTransGen.trans first.steps second.steps

/-- A change that the ledger does not see. -/
theorem Intact.unseen (intact : db.Intact) (jobs : next.jobs = db.jobs)
    (same : next.ledger = db.ledger) : Refines allowed db next where
  readable := by
    intro id row found
    exact intact.readable id row (jobs ▸ found)
  steps := same ▸ Relation.ReflTransGen.refl

/-- A change of the other tables that is one step. -/
theorem Intact.single (intact : db.Intact) (jobs : next.jobs = db.jobs)
    (step : Step allowed db.ledger next.ledger) : Refines allowed db next where
  readable := by
    intro id row found
    exact intact.readable id row (jobs ▸ found)
  steps := Relation.ReflTransGen.single step

theorem empty_intact : ControlDb.empty.Intact where
  readable := by
    intro id row found
    simp [ControlDb.empty] at found
  sound := by
    constructor <;> intros <;> simp_all [ControlDb.empty, ledger]

section Jobs

theorem Readable.fetchJob_eq (readable : db.Readable) (id : String) :
    fetchJob db id = .ok (db.ledger.job id) := by
  simp only [fetchJob, ledger]
  cases found : db.jobs[id]? with
  | none => rfl
  | some row =>
      obtain ⟨job, shaped, _, rfl⟩ := readable id row found
      simp [Except.onSome, RawJobRow.intoStored_ofStored shaped, Functor.map, Except.map,
        Except.toOption]

theorem Readable.of_job (readable : db.Readable) {id : String} {job : StoredJob}
    (found : db.ledger.job id = some job) :
    job.jobId = id ∧ db.jobs[id]? = some (RawJobRow.ofStored job) := by
  simp only [ledger, Option.bind_eq_some_iff] at found
  obtain ⟨row, there, read⟩ := found
  obtain ⟨stored, shaped, key, rfl⟩ := readable id row there
  rw [RawJobRow.intoStored_ofStored shaped] at read
  obtain rfl := Option.some.inj read
  exact ⟨key, there⟩

/-- The database with the row of this job. -/
def withJob (db : ControlDb) (job : StoredJob) : ControlDb :=
  { db with jobs := db.jobs.insert job.jobId (RawJobRow.ofStored job) }

theorem withJob_ledger {job : StoredJob} (shaped : job.WellShaped) :
    (db.withJob job).ledger = db.ledger.setJob job := by
  ext1
  · funext id
    by_cases same : job.jobId = id
    · subst same
      simp [withJob, ledger, RawJobRow.intoStored_ofStored shaped, Except.toOption]
    · have other : ¬ id = job.jobId := fun equal => same equal.symm
      simp [withJob, ledger, Table.lookup_insert, same, other]
  all_goals rfl

theorem Readable.withJob (readable : db.Readable) {job : StoredJob} (shaped : job.WellShaped) :
    (db.withJob job).Readable := by
  intro id row found
  simp only [ControlDb.withJob, Table.lookup_insert] at found
  by_cases same : job.jobId = id
  · rw [if_pos same, Option.some.injEq] at found
    exact ⟨job, shaped, same, found.symm⟩
  · rw [if_neg same] at found
    exact readable id row found

/-- `update_job` leaves the whole row of the moved job. -/
theorem Readable.updateJob_eq_ok (readable : db.Readable) {move : JobMove} {old new : StoredJob}
    (found : db.ledger.job old.jobId = some old) (edge : JobEdge move old new)
    (written : updateJob db new = .ok next) : next = db.withJob new := by
  have row := (readable.of_job found).2
  rw [← edge.jobId_eq] at row
  simp only [updateJob, row, edge.written_ofStored, Except.ok.injEq] at written
  exact written.symm

/-- A step that changes one job. -/
theorem Intact.jobMoved (intact : db.Intact) {move : JobMove} {old new : StoredJob}
    (found : db.ledger.job old.jobId = some old) (edge : JobEdge move old new)
    (written : updateJob db new = .ok next) (step : Step allowed db.ledger (db.ledger.setJob new)) :
    Refines allowed db next := by
  have shaped := edge.wellShaped (intact.sound.job found).2.2
  obtain rfl := intact.readable.updateJob_eq_ok found edge written
  refine ⟨intact.readable.withJob shaped, Relation.ReflTransGen.single ?_⟩
  rw [withJob_ledger shaped]
  exact step

theorem Intact.moved (intact : db.Intact) {move : JobMove} {old new : StoredJob}
    (found : db.ledger.job old.jobId = some old) (edge : JobEdge move old new)
    (alone : move.alone) (written : updateJob db new = .ok next) : Refines allowed db next :=
  intact.jobMoved found edge written (Step.moved found edge alone)

end Jobs

section Attempts

/-- The database with this attempt. -/
def withAttempt (db : ControlDb) (attempt : StoredAttempt) : ControlDb :=
  { db with attempts := db.attempts.insert attempt.attemptId attempt }

theorem withAttempt_ledger (db : ControlDb) (attempt : StoredAttempt) :
    (db.withAttempt attempt).ledger = db.ledger.setAttempt attempt := by
  ext1
  case attempt =>
    funext id
    by_cases same : attempt.attemptId = id
    · simp [withAttempt, ledger, same]
    · have other : ¬ id = attempt.attemptId := fun equal => same equal.symm
      simp [withAttempt, ledger, Table.lookup_insert, same, other]
  all_goals rfl

theorem withAttempt_self {attempt : StoredAttempt}
    (present : db.ledger.attempt attempt.attemptId = some attempt) :
    db.withAttempt attempt = db := by
  have kept : db.attempts.insert attempt.attemptId attempt = db.attempts :=
    Table.insert_self present
  simp only [withAttempt, kept]

theorem writeLease_ledger (db : ControlDb) (lease : StoredLease) :
    (writeLease db lease.leaseId lease).ledger = db.ledger.setLease lease := by
  ext1
  case lease =>
    funext id
    by_cases same : lease.leaseId = id
    · simp [writeLease, ledger, same]
    · have other : ¬ id = lease.leaseId := fun equal => same equal.symm
      simp [writeLease, ledger, Table.lookup_insert, same, other]
  all_goals rfl

theorem fetchAttempt_eq_ok {attemptId : String} {attempt : StoredAttempt}
    (found : fetchAttempt db attemptId = .ok (some attempt)) :
    db.ledger.attempt attemptId = some attempt := by
  unfold fetchAttempt at found
  change db.attempts[attemptId]? = some attempt
  cases row : db.attempts[attemptId]? with
  | none => simp [row, Except.onSome] at found
  | some stored =>
      simp only [row, Except.onSome, Except.map_eq_ok, Except.ite_error_eq_ok,
        Except.ok.injEq, Option.some.injEq] at found
      obtain ⟨read, ⟨_, rfl⟩, rfl⟩ := found
      rfl

theorem fetchAttempt_eq_none {attemptId : String}
    (found : fetchAttempt db attemptId = .ok none) : db.ledger.attempt attemptId = none := by
  unfold fetchAttempt at found
  change db.attempts[attemptId]? = none
  cases row : db.attempts[attemptId]? with
  | none => rfl
  | some stored => simp [row, Except.onSome, Except.map_eq_ok] at found

theorem Intact.mem_attempts (intact : db.Intact) {jobId : String} {attempt : StoredAttempt} :
    attempt ∈ db.attempts.rows.filter (·.jobId = jobId) ↔
      db.ledger.attempt attempt.attemptId = some attempt ∧ attempt.jobId = jobId := by
  simp only [List.mem_filter, Table.mem_rows, decide_eq_true_eq]
  constructor
  · rintro ⟨⟨id, found⟩, ofJob⟩
    have key := intact.sound.attemptKey (show db.ledger.attempt id = some attempt from found)
    exact ⟨key ▸ found, ofJob⟩
  · rintro ⟨found, ofJob⟩
    exact ⟨⟨_, found⟩, ofJob⟩

/-- The counter of epochs is set as soon as there is an attempt. -/
theorem Intact.issued (intact : db.Intact) {id : String} {attempt : StoredAttempt}
    (found : db.ledger.attempt id = some attempt) :
    ∃ counter, db.maxIssuedEpoch = some counter ∧ attempt.fenceEpoch ≤ counter := by
  have low := intact.sound.numbered found
  have high := intact.sound.counted found
  simp only [ledger] at high
  cases issued : db.maxIssuedEpoch with
  | none =>
      rw [issued, Option.getD_none] at high
      exact absurd (UInt64.lt_of_lt_of_le low high) (UInt64.lt_irrefl 0)
  | some counter =>
      rw [issued, Option.getD_some] at high
      exact ⟨counter, rfl, high⟩

/-- The query for the latest attempt finds the one with the greatest epoch. -/
theorem Intact.latestAttemptForJob_iff (intact : db.Intact) {jobId attemptId : String} :
    latestAttemptForJob db jobId = some attemptId ↔
      ∃ attempt, db.ledger.Latest attempt ∧ attempt.attemptId = attemptId ∧
        attempt.jobId = jobId := by
  simp only [latestAttemptForJob, latestAttemptRow, Option.map_eq_some_iff]
  constructor
  · rintro ⟨attempt, best, rfl⟩
    obtain ⟨present, ofJob⟩ := intact.mem_attempts.mp (List.argmax_mem best)
    refine ⟨attempt, ⟨present, fun id other found same => ?_⟩, rfl, ofJob⟩
    have key := intact.sound.attemptKey found
    have listed := intact.mem_attempts.mpr ⟨key ▸ found, same.trans ofJob⟩
    have bound := List.le_of_mem_argmax listed best
    rw [Prod.Lex.toLex_le_toLex] at bound
    rw [UInt64.le_iff_toNat_le]
    omega
  · rintro ⟨attempt, latest, rfl, rfl⟩
    have listed := intact.mem_attempts.mpr ⟨latest.present, rfl⟩
    have nonempty : (db.attempts.rows.filter (·.jobId = attempt.jobId)).argmax
        (fun attempt => toLex (attempt.fenceEpoch.toNat, attempt.attemptId)) ≠ none := by
      rw [Ne, List.argmax_eq_none]
      exact List.ne_nil_of_mem listed
    obtain ⟨best, chosen⟩ := Option.ne_none_iff_exists'.mp nonempty
    refine ⟨best, chosen, ?_⟩
    obtain ⟨present, ofJob⟩ := intact.mem_attempts.mp (List.argmax_mem chosen)
    have above := List.le_of_mem_argmax listed chosen
    have below := latest.greatest _ _ present ofJob
    rw [Prod.Lex.toLex_le_toLex] at above
    rw [UInt64.le_iff_toNat_le] at below
    exact intact.sound.distinct present latest.present (UInt64.toNat_inj.mp (by omega))

end Attempts

end ControlDb

end Gputeer.Coordinator
