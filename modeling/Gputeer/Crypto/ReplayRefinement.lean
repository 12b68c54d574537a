import Gputeer.Lib.Except
import Gputeer.Crypto.Replay

/-! The SQLite guard against the in-memory one, call by call. They part only in a collection
that reaches the end of the signed 64-bit range. -/

namespace Gputeer.Replay

open Protocol

inductive ErrorClass where
  | io
  | lockTimeout
  | cacheFull
  | invalidNonce
  | signerQuotaExceeded
  deriving DecidableEq

def errorClass : ReplayStoreError → ErrorClass
  | .io _ => .io
  | .lockTimeout => .lockTimeout
  | .cacheFull => .cacheFull
  | .invalidNonce _ => .invalidNonce
  | .signerQuotaExceeded _ _ => .signerQuotaExceeded

inductive GuardCall where
  | checkAndRecord (signerId : String) (domain : Domain) (nonce : List UInt8)
      (retainUntilMs : UInt64)
  | gc (nowUnixMs : UInt64)

/-- What a caller can tell apart in the answer to one call. -/
inductive Answer where
  | decided (decision : ReplayDecision)
  | collected (count : Nat)
  | failed (fault : ErrorClass)
  deriving DecidableEq

def answerOf {α : Type} (ok : α → Answer) : Except ReplayStoreError α → Answer
  | .ok value => ok value
  | .error fault => .failed (errorClass fault)

namespace InMemoryReplayGuard

def call (guard : InMemoryReplayGuard) : GuardCall → Answer × InMemoryReplayGuard
  | .checkAndRecord signerId domain nonce retainUntilMs =>
      let result := guard.checkAndRecord signerId domain nonce retainUntilMs
      (answerOf .decided result.1, result.2)
  | .gc nowUnixMs => (.collected (guard.gc nowUnixMs).2, (guard.gc nowUnixMs).1)

abbrev run (guard : InMemoryReplayGuard) (calls : List GuardCall) : InMemoryReplayGuard :=
  Trace.run (fun guard asked => (guard.call asked).2) guard calls

def Remembers (guard : InMemoryReplayGuard) (key : Key) : Prop :=
  key ∈ guard.seen.map Prod.fst

end InMemoryReplayGuard

namespace DurableReplayGuard

def call (guard : DurableReplayGuard) : GuardCall → Answer × DurableReplayGuard
  | .checkAndRecord signerId domain nonce retainUntilMs =>
      let result := guard.checkAndRecord signerId domain nonce retainUntilMs
      (answerOf .decided result.1, result.2)
  | .gc nowUnixMs =>
      let result := guard.gc nowUnixMs
      (answerOf .collected result.1, result.2)

abbrev run (guard : DurableReplayGuard) (calls : List GuardCall) : DurableReplayGuard :=
  Trace.run (fun guard asked => (guard.call asked).2) guard calls

def Remembers (guard : DurableReplayGuard) (key : Key) : Prop :=
  key.toSql ∈ guard.replayEntries.map Prod.fst

end DurableReplayGuard

/-- The two guards answer one call alike and remember the same nonces afterwards. -/
def AgreeOn (memory : InMemoryReplayGuard) (durable : DurableReplayGuard)
    (asked : GuardCall) : Prop :=
  (memory.call asked).1 = (durable.call asked).1 ∧
    ∀ key, (memory.call asked).2.Remembers key ↔ (durable.call asked).2.Remembers key

/-- A collection that stays inside the signed range: the clock it stores fits, and at the very
last value no remembered nonce is to be kept beyond it. -/
def GcInRange (guard : InMemoryReplayGuard) : GuardCall → Prop
  | .checkAndRecord _ _ _ _ => True
  | .gc nowUnixMs =>
      nowUnixMs < guard.lastSeenMs ∨
      (gcEffective guard.lastSeenMs nowUnixMs).toNat < i64Max ∨
      ((gcEffective guard.lastSeenMs nowUnixMs).toNat = i64Max ∧
        ∀ entry ∈ guard.seen, entry.2.toNat ≤ i64Max)

theorem toSql_injective {first second : Key} (same : first.toSql = second.toSql) :
    first = second := by
  cases first
  cases second
  simp only [Key.toSql, SqlKey.mk.injEq] at same
  rw [Key.mk.injEq]
  exact ⟨same.1, Domain.asStr_injective same.2.1, same.2.2⟩

namespace InMemoryReplayGuard

/-- The count kept for each signer is the number of its entries. -/
def CountsAgree (guard : InMemoryReplayGuard) : Prop :=
  ∀ signerId, guard.signerUsage signerId =
    (guard.seen.filter (·.1.signerId = signerId)).length

theorem getD_releaseSigner (perSigner : Std.ExtTreeMap String Nat) (signerId other : String) :
    (releaseSigner perSigner signerId)[other]?.getD 0 =
      perSigner[other]?.getD 0 - if signerId = other then 1 else 0 := by
  simp only [releaseSigner]
  cases present : perSigner[signerId]? with
  | none =>
      by_cases same : signerId = other
      · subst same
        simp [present]
      · simp [same]
  | some used =>
      by_cases same : signerId = other
      · subst same
        by_cases last : used - 1 = 0
        · simp [present, last]
        · simp [present, last]
      · by_cases last : used - 1 = 0
        · simp [last, same, Std.ExtTreeMap.getElem?_erase]
        · simp [last, same, Std.ExtTreeMap.getElem?_insert]

theorem getD_foldl_releaseSigner (removed : List String) (perSigner : Std.ExtTreeMap String Nat)
    (signerId : String) :
    (removed.foldl releaseSigner perSigner)[signerId]?.getD 0 =
      perSigner[signerId]?.getD 0 - removed.count signerId := by
  induction removed generalizing perSigner with
  | nil => simp
  | cons head tail ih =>
      rw [List.foldl_cons, ih, getD_releaseSigner, List.count_cons]
      by_cases same : head = signerId
      · simp [same]
        omega
      · simp [same]

/-- Of the entries of one signer, those that stay are all but those that go. -/
theorem length_kept (keep : Key × UInt64 → Bool) (seen : List (Key × UInt64))
    (signerId : String) :
    (seen.filter (·.1.signerId = signerId)).length -
        ((seen.filter (!keep ·)).map (·.1.signerId)).count signerId =
      ((seen.filter keep).filter (·.1.signerId = signerId)).length := by
  have split : (seen.filter (·.1.signerId = signerId)).length =
      ((seen.filter keep).filter (·.1.signerId = signerId)).length +
        ((seen.filter (!keep ·)).map (·.1.signerId)).count signerId := by
    induction seen with
    | nil => simp
    | cons entry seen ih =>
        cases kept : keep entry with
        | true =>
            by_cases same : entry.1.signerId = signerId
            · simp [kept, same, ih]
              omega
            · simp [kept, same, ih]
        | false =>
            by_cases same : entry.1.signerId = signerId
            · simp [kept, same, ih]
              omega
            · simp [kept, same, ih]
  rw [split]
  omega

theorem gc_countsAgree {guard : InMemoryReplayGuard} (counts : guard.CountsAgree)
    (nowUnixMs : UInt64) : (guard.gc nowUnixMs).1.CountsAgree := by
  intro signerId
  simp only [gc]
  split
  · exact counts signerId
  · have total := counts signerId
    simp only [signerUsage, decide_not] at total ⊢
    rw [getD_foldl_releaseSigner, total]
    exact length_kept (fun entry => decide (gcEffective guard.lastSeenMs nowUnixMs < entry.2))
      guard.seen signerId

theorem checkAndRecord_countsAgree {guard : InMemoryReplayGuard} (counts : guard.CountsAgree)
    (signerId : String) (domain : Domain) (nonce : List UInt8) (retainUntilMs : UInt64) :
    (guard.checkAndRecord signerId domain nonce retainUntilMs).2.CountsAgree := by
  simp only [checkAndRecord]
  split
  · exact counts
  split
  · exact counts
  split
  · exact counts
  split
  · exact counts
  · intro other
    have before := counts other
    simp only [signerUsage] at before ⊢
    by_cases same : signerId = other
    · subst same
      simp [before]
    · simp [same, Std.ExtTreeMap.getElem?_insert, before]

end InMemoryReplayGuard

/-- The SQLite tables hold the in-memory guard's data, with times cut off at the end of the
signed range. -/
structure Mirrors (memory : InMemoryReplayGuard) (durable : DurableReplayGuard) : Prop where
  capacity : durable.capacity = memory.capacity
  perSignerCapacity : durable.perSignerCapacity = memory.perSignerCapacity
  lastSeenMs : durable.lastSeenMs = memory.lastSeenMs.toNat
  entries : durable.replayEntries =
    memory.seen.map (fun entry => (entry.1.toSql, clampSqlI64 entry.2))
  counts : memory.CountsAgree

theorem Mirrors.remembers {memory : InMemoryReplayGuard} {durable : DurableReplayGuard}
    (mirrors : Mirrors memory durable) (key : Key) :
    memory.Remembers key ↔ durable.Remembers key := by
  simp only [InMemoryReplayGuard.Remembers, DurableReplayGuard.Remembers, mirrors.entries,
    List.map_map, List.mem_map, Function.comp_apply]
  constructor
  · intro h
    rcases h with ⟨entry, member, same⟩
    exact ⟨entry, member, by rw [same]⟩
  · intro h
    rcases h with ⟨entry, member, same⟩
    exact ⟨entry, member, toSql_injective same⟩

theorem Mirrors.contains {memory : InMemoryReplayGuard} {durable : DurableReplayGuard}
    (mirrors : Mirrors memory durable) (key : Key) :
    durable.replayEntries.any (·.1 == key.toSql) = memory.contains key := by
  rw [mirrors.entries, InMemoryReplayGuard.contains, List.any_map]
  congr 1
  funext entry
  have iff : entry.1.toSql = key.toSql ↔ entry.1 = key :=
    ⟨toSql_injective, fun same => by rw [same]⟩
  rw [Bool.eq_iff_iff]
  simp [iff]

theorem Mirrors.signerUsage {memory : InMemoryReplayGuard} {durable : DurableReplayGuard}
    (mirrors : Mirrors memory durable) (signerId : String) :
    durable.signerUsage signerId = memory.signerUsage signerId := by
  rw [mirrors.counts signerId, DurableReplayGuard.signerUsage, mirrors.entries, List.filter_map,
    List.length_map]
  rfl

theorem Mirrors.checkAndRecord {memory : InMemoryReplayGuard} {durable : DurableReplayGuard}
    (mirrors : Mirrors memory durable) (signerId : String) (domain : Domain) (nonce : List UInt8)
    (retainUntilMs : UInt64) :
    (durable.checkAndRecord signerId domain nonce retainUntilMs).1 =
        (memory.checkAndRecord signerId domain nonce retainUntilMs).1 ∧
      Mirrors (memory.checkAndRecord signerId domain nonce retainUntilMs).2
        (durable.checkAndRecord signerId domain nonce retainUntilMs).2 := by
  have counts := InMemoryReplayGuard.checkAndRecord_countsAgree mirrors.counts signerId domain
    nonce retainUntilMs
  have contains := mirrors.contains ⟨signerId, domain, nonce⟩
  have usage := mirrors.signerUsage signerId
  have length : durable.replayEntries.length = memory.seen.length := by
    rw [mirrors.entries, List.length_map]
  simp only [InMemoryReplayGuard.checkAndRecord, DurableReplayGuard.checkAndRecord] at counts ⊢
  simp only [Key.toSql] at contains
  rw [contains, usage, length, mirrors.perSignerCapacity, mirrors.capacity]
  split
  · exact ⟨rfl, mirrors⟩
  split
  · exact ⟨rfl, mirrors⟩
  split
  · exact ⟨rfl, mirrors⟩
  split
  · exact ⟨rfl, mirrors⟩
  · rename_i wrongLength seen overQuota full
    rw [if_neg wrongLength, if_neg seen, if_neg overQuota, if_neg full] at counts
    refine ⟨rfl, ⟨rfl, rfl, mirrors.lastSeenMs, ?_, counts⟩⟩
    simp [mirrors.entries, Key.toSql]

theorem fromSqlI64_toNat (value : UInt64) (field : String) :
    fromSqlI64 (value.toNat : Int) field = .ok value := by
  simp [fromSqlI64]

/-- Inside the range the clamped comparison is the comparison itself. -/
theorem clamp_le_iff {retainUntilMs effective : UInt64}
    (inRange : effective.toNat < i64Max ∨
      (effective.toNat = i64Max ∧ retainUntilMs.toNat ≤ i64Max)) :
    clampSqlI64 retainUntilMs ≤ clampSqlI64 effective ↔ ¬ effective < retainUntilMs := by
  simp only [clampSqlI64, UInt64.lt_iff_toNat_lt]
  omega

theorem Mirrors.gc {memory : InMemoryReplayGuard} {durable : DurableReplayGuard}
    (mirrors : Mirrors memory durable) {nowUnixMs : UInt64}
    (inRange : GcInRange memory (.gc nowUnixMs)) :
    (durable.gc nowUnixMs).1 = .ok (memory.gc nowUnixMs).2 ∧
      Mirrors (memory.gc nowUnixMs).1 (durable.gc nowUnixMs).2 := by
  have counts := InMemoryReplayGuard.gc_countsAgree mirrors.counts nowUnixMs
  simp only [InMemoryReplayGuard.gc, DurableReplayGuard.gc, mirrors.lastSeenMs,
    fromSqlI64_toNat] at counts ⊢
  by_cases rollback : nowUnixMs < memory.lastSeenMs
  · rw [if_pos rollback, if_pos rollback]
    rw [if_pos rollback] at counts
    exact ⟨rfl, ⟨mirrors.capacity, mirrors.perSignerCapacity, rfl, mirrors.entries, counts⟩⟩
  · rw [if_neg rollback, if_neg rollback]
    rw [if_neg rollback] at counts
    generalize effectiveIs : gcEffective memory.lastSeenMs nowUnixMs = effective at counts ⊢
    have reached : effective.toNat < i64Max ∨
        (effective.toNat = i64Max ∧ ∀ entry ∈ memory.seen, entry.2.toNat ≤ i64Max) := by
      rw [← effectiveIs]
      exact inRange.resolve_left rollback
    have stored : toSqlI64 effective "last_seen_ms" = .ok (effective.toNat : Int) := by
      rw [toSqlI64, if_pos (by omega)]
    have same : ∀ entry ∈ memory.seen,
        decide (clampSqlI64 entry.2 ≤ clampSqlI64 effective) = decide (¬ effective < entry.2) := by
      intro entry member
      rw [decide_eq_decide]
      apply clamp_le_iff
      rcases reached with below | ⟨last, all⟩
      · exact Or.inl below
      · exact Or.inr ⟨last, all entry member⟩
    have kept : durable.replayEntries.filter (fun entry => ¬ entry.2 ≤ clampSqlI64 effective) =
        (memory.seen.filter (fun entry => effective < entry.2)).map
          (fun entry => (entry.1.toSql, clampSqlI64 entry.2)) := by
      rw [mirrors.entries, List.filter_map]
      congr 1
      apply List.filter_congr
      intro entry member
      have comparison := same entry member
      simp only [decide_not, Function.comp_apply] at comparison ⊢
      rw [comparison, Bool.not_not]
    have deleted : (durable.replayEntries.filter
        (fun entry => entry.2 ≤ clampSqlI64 effective)).length =
        memory.seen.length - (memory.seen.filter (fun entry => effective < entry.2)).length := by
      rw [mirrors.entries, List.filter_map, List.length_map]
      have gone : memory.seen.filter ((fun entry : SqlKey × Int =>
          decide (entry.2 ≤ clampSqlI64 effective)) ∘
            (fun entry => (entry.1.toSql, clampSqlI64 entry.2))) =
          memory.seen.filter (fun entry => !decide (effective < entry.2)) := by
        apply List.filter_congr
        intro entry member
        have comparison := same entry member
        simp only [decide_not, Function.comp_apply] at comparison ⊢
        exact comparison
      rw [gone]
      have total := List.length_eq_length_filter_add (l := memory.seen)
        (fun entry => decide (effective < entry.2))
      omega
    rw [stored]
    refine ⟨?_, ⟨mirrors.capacity, mirrors.perSignerCapacity, rfl, kept, counts⟩⟩
    simp only [deleted]

theorem Mirrors.call {memory : InMemoryReplayGuard} {durable : DurableReplayGuard}
    (mirrors : Mirrors memory durable) {asked : GuardCall} (inRange : GcInRange memory asked) :
    (memory.call asked).1 = (durable.call asked).1 ∧
      Mirrors (memory.call asked).2 (durable.call asked).2 := by
  cases asked with
  | checkAndRecord signerId domain nonce retainUntilMs =>
      have same := mirrors.checkAndRecord signerId domain nonce retainUntilMs
      simp only [InMemoryReplayGuard.call, DurableReplayGuard.call, same.1]
      exact ⟨trivial, same.2⟩
  | gc nowUnixMs =>
      have same := mirrors.gc inRange
      simp only [InMemoryReplayGuard.call, DurableReplayGuard.call, same.1, answerOf]
      exact ⟨trivial, same.2⟩

theorem Mirrors.agreeOn {memory : InMemoryReplayGuard} {durable : DurableReplayGuard}
    (mirrors : Mirrors memory durable) {asked : GuardCall} (inRange : GcInRange memory asked) :
    AgreeOn memory durable asked := by
  have same := mirrors.call inRange
  exact ⟨same.1, same.2.remembers⟩

/-- A collection beyond the signed range fails in the database and succeeds in memory. -/
theorem Mirrors.gc_beyond {memory : InMemoryReplayGuard} {durable : DurableReplayGuard}
    (mirrors : Mirrors memory durable) {nowUnixMs : UInt64}
    (forward : ¬ nowUnixMs < memory.lastSeenMs)
    (beyond : i64Max < (gcEffective memory.lastSeenMs nowUnixMs).toNat) :
    ∃ detail, (durable.gc nowUnixMs).1 = .error (.io detail) := by
  have refused : ¬ (gcEffective memory.lastSeenMs nowUnixMs).toNat ≤ i64Max := by omega
  simp only [DurableReplayGuard.gc, mirrors.lastSeenMs, fromSqlI64_toNat, if_neg forward,
    toSqlI64, if_neg refused]
  exact ⟨_, rfl⟩

/-- At the very end of the signed range the clamped column makes the database forget every
nonce, also one that the memory keeps. -/
theorem Mirrors.gc_last {memory : InMemoryReplayGuard} {durable : DurableReplayGuard}
    (mirrors : Mirrors memory durable) {nowUnixMs : UInt64}
    (forward : ¬ nowUnixMs < memory.lastSeenMs)
    (last : (gcEffective memory.lastSeenMs nowUnixMs).toNat = i64Max) (key : Key) :
    ¬ (durable.gc nowUnixMs).2.Remembers key := by
  have stored : (gcEffective memory.lastSeenMs nowUnixMs).toNat ≤ i64Max := by omega
  simp only [DurableReplayGuard.gc, mirrors.lastSeenMs, fromSqlI64_toNat, if_neg forward,
    toSqlI64, if_pos stored, DurableReplayGuard.Remembers, mirrors.entries, List.mem_map,
    List.mem_filter, not_exists, not_and]
  intro row kept
  rcases kept with ⟨⟨entry, _, isRow⟩, after⟩
  rw [← isRow] at after
  simp only [clampSqlI64, last, decide_eq_true_eq] at after
  omega

theorem Mirrors.gcInRange_of_agreeOn {memory : InMemoryReplayGuard}
    {durable : DurableReplayGuard} (mirrors : Mirrors memory durable) {asked : GuardCall}
    (agree : AgreeOn memory durable asked) : GcInRange memory asked := by
  cases asked with
  | checkAndRecord => trivial
  | gc nowUnixMs =>
      by_cases forward : nowUnixMs < memory.lastSeenMs
      · exact Or.inl forward
      apply Or.inr
      rcases Nat.lt_trichotomy (gcEffective memory.lastSeenMs nowUnixMs).toNat i64Max with
        below | last | beyond
      · exact Or.inl below
      · refine Or.inr ⟨last, ?_⟩
        intro entry member
        by_contra late
        have kept : (memory.gc nowUnixMs).1.Remembers entry.1 := by
          simp only [InMemoryReplayGuard.gc, if_neg forward, InMemoryReplayGuard.Remembers]
          apply List.mem_map_of_mem
          rw [List.mem_filter]
          refine ⟨member, ?_⟩
          simp only [UInt64.lt_iff_toNat_lt, last, decide_eq_true_eq]
          omega
        exact mirrors.gc_last forward last entry.1 ((agree.2 entry.1).mp kept)
      · rcases mirrors.gc_beyond forward beyond with ⟨detail, failed⟩
        have answers := agree.1
        simp only [InMemoryReplayGuard.call, DurableReplayGuard.call, failed, answerOf] at answers
        cases answers

theorem mirrors_empty {capacity perSignerCapacity : Nat} {memory : InMemoryReplayGuard}
    {durable : DurableReplayGuard}
    (inMemory : InMemoryReplayGuard.tryWithCapacities capacity perSignerCapacity = .ok memory)
    (opened : DurableReplayGuard.openWithCapacities capacity perSignerCapacity = .ok durable) :
    Mirrors memory durable := by
  rw [InMemoryReplayGuard.tryWithCapacities, Except.ite_error_eq_ok] at inMemory
  rw [DurableReplayGuard.openWithCapacities, Except.ite_error_eq_ok,
    Except.ite_error_eq_ok] at opened
  have isMemory := Except.ok.inj inMemory.2
  have isDurable := Except.ok.inj opened.2.2
  rw [← isMemory, ← isDurable]
  refine ⟨rfl, rfl, rfl, rfl, ?_⟩
  intro signerId
  simp [InMemoryReplayGuard.signerUsage]

/-- As long as every collection stays in range the tables follow the memory. -/
theorem mirrors_run {memory : InMemoryReplayGuard} {durable : DurableReplayGuard}
    (mirrors : Mirrors memory durable) (calls : List GuardCall)
    (inRange : ∀ before asked, Trace.Took calls before asked →
      GcInRange (memory.run before) asked) :
    Mirrors (memory.run calls) (durable.run calls) := by
  induction calls using List.reverseRecOn with
  | nil => exact mirrors
  | append_singleton calls asked ih =>
      rw [InMemoryReplayGuard.run, DurableReplayGuard.run, Trace.run_snoc, Trace.run_snoc]
      have before : Mirrors (memory.run calls) (durable.run calls) := by
        apply ih
        intro earlier call took
        exact inRange earlier call (Trace.took_snoc.mpr (Or.inl took))
      have last := inRange calls asked (Trace.took_snoc.mpr (Or.inr ⟨rfl, rfl⟩))
      exact (before.call last).2

/-- Guards that agreed at every call have seen only collections in range. -/
theorem gcInRange_of_agree_run {memory : InMemoryReplayGuard} {durable : DurableReplayGuard}
    (mirrors : Mirrors memory durable) (calls : List GuardCall)
    (agree : ∀ before asked, Trace.Took calls before asked →
      AgreeOn (memory.run before) (durable.run before) asked) :
    ∀ before asked, Trace.Took calls before asked → GcInRange (memory.run before) asked := by
  induction calls using List.reverseRecOn with
  | nil =>
      intro before asked took
      exact (Trace.not_took_nil took).elim
  | append_singleton calls last ih =>
      have earlier := ih (fun before asked took =>
        agree before asked (Trace.took_snoc.mpr (Or.inl took)))
      intro before asked took
      rcases Trace.took_snoc.mp took with inside | ⟨isBefore, isAsked⟩
      · exact earlier before asked inside
      · rw [isBefore, isAsked]
        have atLast := agree calls last (Trace.took_snoc.mpr (Or.inr ⟨rfl, rfl⟩))
        exact (mirrors_run mirrors calls earlier).gcInRange_of_agreeOn atLast

/-- From empty with the same limits, the two guards agree at every call of a run exactly when
every collection of the run stays inside the signed range. -/
theorem durable_refines_memory_iff_gc_in_range {capacity perSignerCapacity : Nat}
    {memory : InMemoryReplayGuard} {durable : DurableReplayGuard}
    (inMemory : InMemoryReplayGuard.tryWithCapacities capacity perSignerCapacity = .ok memory)
    (opened : DurableReplayGuard.openWithCapacities capacity perSignerCapacity = .ok durable)
    (calls : List GuardCall) :
    (∀ before asked, Trace.Took calls before asked →
      AgreeOn (memory.run before) (durable.run before) asked) ↔
    ∀ before asked, Trace.Took calls before asked → GcInRange (memory.run before) asked := by
  have start := mirrors_empty inMemory opened
  constructor
  · exact gcInRange_of_agree_run start calls
  · intro inRange before asked took
    rcases took with ⟨after, isRun⟩
    have mirrors : Mirrors (memory.run before) (durable.run before) := by
      apply mirrors_run start
      intro earlier call took
      rcases took with ⟨between, isBefore⟩
      apply inRange earlier call
      rw [isRun, isBefore]
      exact Trace.took_append
    exact mirrors.agreeOn (inRange before asked ⟨after, isRun⟩)

def emptyInMemory : InMemoryReplayGuard :=
  { seen := [], capacity := 4, perSigner := ∅, perSignerCapacity := 2, lastSeenMs := 0,
    clockRollbacks := 0, clockJumps := 0 }

def emptyDurable : DurableReplayGuard :=
  { replayEntries := [], lastSeenMs := 0, clockRollbacks := 0, clockJumps := 0, capacity := 4,
    perSignerCapacity := 2 }

def recordThenCollect : List GuardCall :=
  [.checkAndRecord "node" .nodeHeartbeat (List.replicate 16 7) 18446744073709551615,
   .gc 18446744073709551615]

theorem record_then_collect_refines_iff :
    (∀ before asked, Trace.Took recordThenCollect before asked →
      AgreeOn (emptyInMemory.run before) (emptyDurable.run before) asked) ↔
    ∀ before asked, Trace.Took recordThenCollect before asked →
      GcInRange (emptyInMemory.run before) asked :=
  durable_refines_memory_iff_gc_in_range
    (show InMemoryReplayGuard.tryWithCapacities 4 2 = .ok emptyInMemory from rfl)
    (show DurableReplayGuard.openWithCapacities 4 2 = .ok emptyDurable from rfl)
    recordThenCollect

/-- A first collection at `u64::MAX` empties the memory; the database answers with an error and
keeps the nonce. -/
theorem record_then_collect_disagrees :
    InMemoryReplayGuard.tryWithCapacities 4 2 = .ok emptyInMemory ∧
    DurableReplayGuard.openWithCapacities 4 2 = .ok emptyDurable ∧
    ∃ before asked, Trace.Took recordThenCollect before asked ∧
      ¬ AgreeOn (emptyInMemory.run before) (emptyDurable.run before) asked := by
  refine ⟨rfl, rfl, recordThenCollect.take 1, .gc 18446744073709551615, ⟨[], rfl⟩, ?_⟩
  intro agree
  have answers := agree.1
  revert answers
  decide

end Gputeer.Replay
