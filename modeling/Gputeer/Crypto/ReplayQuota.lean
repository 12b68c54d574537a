import Gputeer.Crypto.ReplayRefinement
import Gputeer.Crypto.ReplayWindow

/-! What the in-memory guard counts is what it remembers, within its limits; and as long as there is room for
everybody, what one signer asks does not tell in the answers to another. -/

namespace Gputeer.Replay

open Protocol InMemoryReplayGuard

namespace InMemoryReplayGuard

/-- The keys of one signer. -/
def remembered (guard : InMemoryReplayGuard) (signerId : String) : Nat :=
  (guard.seen.filter (·.1.signerId = signerId)).length

/-- The counts are of what is remembered, none is zero, and the limits are kept. -/
structure Counted (guard : InMemoryReplayGuard) : Prop where
  distinct : (guard.seen.map Prod.fst).Nodup
  counts : guard.CountsAgree
  filled : ∀ (signerId : String) (used : Nat), guard.perSigner[signerId]? = some used → used ≠ 0
  total : guard.seen.length ≤ guard.capacity
  quota : ∀ signerId, guard.remembered signerId ≤ guard.perSignerCapacity

variable {guard : InMemoryReplayGuard} {signerId : String} {domain : Domain} {nonce : List UInt8}
  {retainUntilMs nowUnixMs : UInt64}

section Counts

theorem filled_releaseSigner {perSigner : Std.ExtTreeMap String Nat}
    (filled : ∀ (signerId : String) (used : Nat), perSigner[signerId]? = some used → used ≠ 0) (released : String) :
    ∀ (signerId : String) (used : Nat), (releaseSigner perSigner released)[signerId]? = some used → used ≠ 0 := by
  intro signerId used found
  unfold releaseSigner at found
  split at found
  · exact filled signerId used found
  · next before there =>
    split at found
    · rw [Std.ExtTreeMap.getElem?_erase] at found
      split at found
      · cases found
      · exact filled signerId used found
    · next some_ =>
      rw [Std.ExtTreeMap.getElem?_insert] at found
      split at found
      · rw [← Option.some.inj found]
        exact some_
      · exact filled signerId used found

theorem filled_foldl {removed : List String} {perSigner : Std.ExtTreeMap String Nat}
    (filled : ∀ (signerId : String) (used : Nat), perSigner[signerId]? = some used → used ≠ 0) :
    ∀ (signerId : String) (used : Nat), (removed.foldl releaseSigner perSigner)[signerId]? = some used → used ≠ 0 := by
  induction removed generalizing perSigner with
  | nil => exact filled
  | cons first rest ih => exact ih (filled_releaseSigner filled first)

theorem Counted.gc (counted : guard.Counted) (nowUnixMs : UInt64) : (guard.gc nowUnixMs).1.Counted := by
  have agree := gc_countsAgree counted.counts nowUnixMs
  unfold InMemoryReplayGuard.gc at agree ⊢
  split
  · exact ⟨counted.distinct, counted.counts, counted.filled, counted.total, counted.quota⟩
  · next forward =>
    rw [if_neg forward] at agree
    refine ⟨counted.distinct.sublist (List.filter_sublist.map _), agree, filled_foldl counted.filled, ?_, ?_⟩
    · exact (List.length_filter_le _ _).trans counted.total
    · intro signerId
      have fewer := (List.filter_sublist (p := fun entry : Key × UInt64 =>
        decide (gcEffective guard.lastSeenMs nowUnixMs < entry.2)) (l := guard.seen)).filter
          (fun entry => decide (entry.1.signerId = signerId))
      exact fewer.length_le.trans (counted.quota signerId)

/-- A call is either taken down, with room for it, or changes nothing. -/
theorem checkAndRecord_cases (guard : InMemoryReplayGuard) (signerId : String) (domain : Domain)
    (nonce : List UInt8) (retainUntilMs : UInt64) :
    (guard.checkAndRecord signerId domain nonce retainUntilMs = (.ok .fresh, { guard with
        seen := guard.seen ++ [(⟨signerId, domain, nonce⟩, retainUntilMs)]
        perSigner := guard.perSigner.insert signerId (guard.signerUsage signerId + 1) }) ∧
      guard.contains ⟨signerId, domain, nonce⟩ = false ∧ guard.signerUsage signerId < guard.perSignerCapacity ∧
      guard.seen.length < guard.capacity) ∨
    (guard.checkAndRecord signerId domain nonce retainUntilMs).2 = guard := by
  unfold InMemoryReplayGuard.checkAndRecord
  split
  · exact .inr rfl
  · split
    · exact .inr rfl
    · next unseen =>
      split
      · exact .inr rfl
      · next quota =>
        split
        · exact .inr rfl
        · next room => exact .inl ⟨rfl, by simpa using unseen, by omega, by omega⟩

theorem contains_iff (key : Key) : guard.contains key = true ↔ key ∈ guard.seen.map Prod.fst := by
  simp [contains, List.any_eq_true]

theorem remembered_append (key : Key) :
    ((guard.seen ++ [(key, retainUntilMs)]).filter (·.1.signerId = signerId)).length =
      guard.remembered signerId + if key.signerId = signerId then 1 else 0 := by
  rw [List.filter_append, List.length_append, remembered]
  split
  · next same => simp [same]
  · next other => simp [other]

theorem Counted.checkAndRecord (counted : guard.Counted) (signerId : String) (domain : Domain) (nonce : List UInt8)
    (retainUntilMs : UInt64) : (guard.checkAndRecord signerId domain nonce retainUntilMs).2.Counted := by
  have agree := checkAndRecord_countsAgree counted.counts signerId domain nonce retainUntilMs
  rcases checkAndRecord_cases guard signerId domain nonce retainUntilMs with ⟨done, unseen, quota, room⟩ | same
  · rw [done] at agree ⊢
    refine ⟨?_, agree, ?_, ?_, ?_⟩
    · have absent : (⟨signerId, domain, nonce⟩ : Key) ∉ guard.seen.map Prod.fst := by
        rw [← contains_iff, unseen]
        exact Bool.false_ne_true
      rw [List.map_append, List.nodup_append]
      refine ⟨counted.distinct, by simp, fun key listed other last => ?_⟩
      rintro rfl
      rw [List.mem_singleton.mp last] at listed
      exact absent listed
    · intro other used found
      rw [Std.ExtTreeMap.getElem?_insert] at found
      split at found
      · rw [← Option.some.inj found]
        omega
      · exact counted.filled other used found
    · rw [List.length_append]
      exact room
    · intro other
      have before := counted.quota other
      rw [remembered, remembered_append]
      split
      · next own =>
        subst own
        have usage := counted.counts signerId
        rw [usage] at quota
        exact quota
      · exact before
  · rw [same]
    exact counted

theorem Counted.call (counted : guard.Counted) (asked : GuardCall) : (guard.call asked).2.Counted := by
  cases asked with
  | checkAndRecord signerId domain nonce retainUntilMs => exact counted.checkAndRecord _ _ _ _
  | gc nowUnixMs => exact counted.gc nowUnixMs

theorem Counted.run (counted : guard.Counted) (calls : List GuardCall) : (guard.run calls).Counted :=
  Trace.invariant Counted counted (fun _ asked holds => holds.call asked) calls

theorem counted_of_opened {capacity perSignerCapacity : Nat}
    (opened : tryWithCapacities capacity perSignerCapacity = .ok guard) : guard.Counted := by
  rw [tryWithCapacities, Except.ite_error_eq_ok] at opened
  obtain ⟨_, opened⟩ := opened
  obtain rfl := Except.ok.inj opened
  refine ⟨by simp, ?_, ?_, Nat.zero_le _, fun _ => Nat.zero_le _⟩
  · intro signerId
    simp [signerUsage]
  · intro signerId used found
    simp at found

/-- The limits a guard was opened with. -/
def HasLimits (capacity perSignerCapacity : Nat) (guard : InMemoryReplayGuard) : Prop :=
  guard.capacity = capacity ∧ guard.perSignerCapacity = perSignerCapacity

theorem HasLimits.call {capacity perSignerCapacity : Nat} (limits : HasLimits capacity perSignerCapacity guard)
    (asked : GuardCall) : HasLimits capacity perSignerCapacity (guard.call asked).2 := by
  cases asked with
  | checkAndRecord signerId domain nonce retainUntilMs =>
      show HasLimits capacity perSignerCapacity (guard.checkAndRecord signerId domain nonce retainUntilMs).2
      rcases checkAndRecord_cases guard signerId domain nonce retainUntilMs with ⟨done, _⟩ | same
      · rw [done]
        exact limits
      · rw [same]
        exact limits
  | gc nowUnixMs =>
      show HasLimits capacity perSignerCapacity (guard.gc nowUnixMs).1
      unfold InMemoryReplayGuard.gc
      split
      · exact limits
      · exact limits

theorem HasLimits.run {capacity perSignerCapacity : Nat} (limits : HasLimits capacity perSignerCapacity guard)
    (calls : List GuardCall) : HasLimits capacity perSignerCapacity (guard.run calls) :=
  Trace.invariant (HasLimits capacity perSignerCapacity) limits (fun _ asked holds => holds.call asked) calls

theorem limits_of_opened {capacity perSignerCapacity : Nat}
    (opened : tryWithCapacities capacity perSignerCapacity = .ok guard) :
    HasLimits capacity perSignerCapacity guard := by
  rw [tryWithCapacities, Except.ite_error_eq_ok] at opened
  rw [← Except.ok.inj opened.2]
  exact ⟨rfl, rfl⟩

/-- The entry of a signer. -/
theorem Counted.perSigner_eq (counted : guard.Counted) (signerId : String) : guard.perSigner[signerId]? =
    if guard.remembered signerId = 0 then none else some (guard.remembered signerId) := by
  have usage := counted.counts signerId
  rw [← remembered, signerUsage] at usage
  cases found : guard.perSigner[signerId]? with
  | none =>
      rw [found] at usage
      have zero : guard.remembered signerId = 0 := usage.symm
      rw [if_pos zero]
  | some used =>
      rw [found] at usage
      have same : used = guard.remembered signerId := usage
      have some_ := counted.filled signerId used found
      rw [← same, if_neg some_]

end Counts

section Collections

/-- Up to which time a collection removes what was to be kept. -/
def collectedUpTo (lastSeenMs nowUnixMs : UInt64) : Nat :=
  if lastSeenMs = 0 then nowUnixMs.toNat else min nowUnixMs.toNat (lastSeenMs.toNat + 5 * 60 * 1000)

theorem toNat_gcEffective (lastSeenMs nowUnixMs : UInt64) :
    (gcEffective lastSeenMs nowUnixMs).toNat = collectedUpTo lastSeenMs nowUnixMs := by
  have advance : maxGcAdvanceMs.toNat = 5 * 60 * 1000 := rfl
  have bound := nowUnixMs.toNat_lt
  unfold gcEffective collectedUpTo
  split
  · rfl
  · split
    · next jump =>
      rw [UInt64.lt_iff_toNat_lt, UInt64.toNat_saturatingAdd, advance] at jump
      rw [UInt64.toNat_saturatingAdd, advance]
      omega
    · next near =>
      rw [UInt64.lt_iff_toNat_lt, UInt64.toNat_saturatingAdd, advance] at near
      omega

/-- What a collection does to the keys. -/
structure Collects (guard : InMemoryReplayGuard) (nowUnixMs : UInt64) : Prop where
  back : nowUnixMs < guard.lastSeenMs → (guard.gc nowUnixMs).2 = 0 ∧ (guard.gc nowUnixMs).1.seen = guard.seen
  forward : guard.lastSeenMs ≤ nowUnixMs →
    (guard.gc nowUnixMs).1.seen =
        guard.seen.filter (fun entry => ¬ entry.2.toNat ≤ collectedUpTo guard.lastSeenMs nowUnixMs) ∧
      (guard.gc nowUnixMs).2 =
        (guard.seen.filter (fun entry => entry.2.toNat ≤ collectedUpTo guard.lastSeenMs nowUnixMs)).length

theorem collects (guard : InMemoryReplayGuard) (nowUnixMs : UInt64) : guard.Collects nowUnixMs := by
  constructor
  · intro back
    rw [InMemoryReplayGuard.gc, if_pos back]
    exact ⟨rfl, rfl⟩
  · intro forward
    have kept : guard.seen.filter (fun entry => gcEffective guard.lastSeenMs nowUnixMs < entry.2) =
        guard.seen.filter (fun entry => ¬ entry.2.toNat ≤ collectedUpTo guard.lastSeenMs nowUnixMs) := by
      apply List.filter_congr
      intro entry _
      rw [decide_eq_decide, UInt64.lt_iff_toNat_lt, toNat_gcEffective]
      omega
    rw [InMemoryReplayGuard.gc, if_neg (UInt64.not_lt.mpr forward)]
    refine ⟨kept, ?_⟩
    have whole := List.length_eq_length_filter_add (l := guard.seen)
      (fun entry => decide (entry.2.toNat ≤ collectedUpTo guard.lastSeenMs nowUnixMs))
    simp only [kept, decide_not]
    omega

theorem lastSeen_le_call (guard : InMemoryReplayGuard) (asked : GuardCall) :
    guard.lastSeenMs ≤ (guard.call asked).2.lastSeenMs := by
  cases asked with
  | checkAndRecord signerId domain nonce retainUntilMs =>
      show guard.lastSeenMs ≤ (guard.checkAndRecord signerId domain nonce retainUntilMs).2.lastSeenMs
      rcases checkAndRecord_cases guard signerId domain nonce retainUntilMs with ⟨done, _⟩ | same
      · rw [done]
        exact UInt64.le_refl _
      · rw [same]
        exact UInt64.le_refl _
  | gc nowUnixMs =>
      show guard.lastSeenMs ≤ (guard.gc nowUnixMs).1.lastSeenMs
      unfold InMemoryReplayGuard.gc
      split
      · exact UInt64.le_refl _
      · next forward =>
        rw [UInt64.not_lt, UInt64.le_iff_toNat_le] at forward
        rw [UInt64.le_iff_toNat_le, toNat_gcEffective, collectedUpTo]
        split
        · exact forward
        · omega

end Collections

end InMemoryReplayGuard

/-- The signer that asks. -/
def GuardCall.asker : GuardCall → Option String
  | .checkAndRecord signerId _ _ _ => some signerId
  | .gc _ => none

namespace InMemoryReplayGuard

variable {guard other : InMemoryReplayGuard} {noisy signerId : String}

section Fairness

/-- What one signer hears in a run. -/
def answersTo (signerId : String) : InMemoryReplayGuard → List GuardCall → List Answer
  | _, [] => []
  | guard, asked :: rest =>
      if asked.asker = some signerId then
        (guard.call asked).1 :: answersTo signerId (guard.call asked).2 rest
      else answersTo signerId (guard.call asked).2 rest

/-- Whenever a signer other than `noisy` asks, there is room. -/
def Roomy (noisy : String) : InMemoryReplayGuard → List GuardCall → Prop
  | _, [] => True
  | guard, asked :: rest =>
      (∀ signerId, asked.asker = some signerId → signerId ≠ noisy → guard.seen.length < guard.capacity) ∧
        Roomy noisy (guard.call asked).2 rest

/-- The keys that are not of `noisy`. -/
def keysApart (noisy : String) (guard : InMemoryReplayGuard) : List (Key × UInt64) :=
  guard.seen.filter (·.1.signerId ≠ noisy)

/-- Two guards that differ in the keys of `noisy` only. -/
structure SameApart (noisy : String) (guard other : InMemoryReplayGuard) : Prop where
  capacity : guard.capacity = other.capacity
  perSignerCapacity : guard.perSignerCapacity = other.perSignerCapacity
  lastSeenMs : guard.lastSeenMs = other.lastSeenMs
  keys : keysApart noisy guard = keysApart noisy other
  counts : guard.CountsAgree
  otherCounts : other.CountsAgree

theorem SameApart.symm (same : SameApart noisy guard other) : SameApart noisy other guard :=
  ⟨same.capacity.symm, same.perSignerCapacity.symm, same.lastSeenMs.symm, same.keys.symm, same.otherCounts,
    same.counts⟩

theorem sameApart_refl (counts : guard.CountsAgree) : SameApart noisy guard guard :=
  ⟨rfl, rfl, rfl, rfl, counts, counts⟩

theorem keysApart_append (key : Key) (retainUntilMs : UInt64) :
    (guard.seen ++ [(key, retainUntilMs)]).filter (·.1.signerId ≠ noisy) =
      keysApart noisy guard ++ if key.signerId ≠ noisy then [(key, retainUntilMs)] else [] := by
  rw [List.filter_append, keysApart]
  split
  · next apart => simp [apart]
  · next own => simp [own]

/-- What `noisy` asks. -/
theorem SameApart.noisy_call (same : SameApart noisy guard other) {asked : GuardCall}
    (asks : asked.asker = some noisy) : SameApart noisy (guard.call asked).2 other := by
  cases asked with
  | gc nowUnixMs => cases asks
  | checkAndRecord signerId domain nonce retainUntilMs =>
      have own : signerId = noisy := Option.some.inj asks
      have counts := checkAndRecord_countsAgree same.counts signerId domain nonce retainUntilMs
      show SameApart noisy (guard.checkAndRecord signerId domain nonce retainUntilMs).2 other
      rcases checkAndRecord_cases guard signerId domain nonce retainUntilMs with ⟨done, _⟩ | unchanged
      · rw [done] at counts ⊢
        refine ⟨same.capacity, same.perSignerCapacity, same.lastSeenMs, ?_, counts, same.otherCounts⟩
        rw [← same.keys, keysApart, keysApart_append, if_neg (not_not.mpr own), List.append_nil]
      · rw [unchanged]
        exact same

theorem SameApart.gc (same : SameApart noisy guard other) (nowUnixMs : UInt64) :
    SameApart noisy (guard.gc nowUnixMs).1 (other.gc nowUnixMs).1 := by
  have counts := gc_countsAgree same.counts nowUnixMs
  have otherCounts := gc_countsAgree same.otherCounts nowUnixMs
  unfold InMemoryReplayGuard.gc at counts otherCounts ⊢
  rw [same.lastSeenMs] at counts ⊢
  split
  · next back =>
    rw [if_pos back] at counts otherCounts
    exact ⟨same.capacity, same.perSignerCapacity, rfl, same.keys, counts, otherCounts⟩
  · next forward =>
    rw [if_neg forward] at counts otherCounts
    refine ⟨same.capacity, same.perSignerCapacity, rfl, ?_, counts, otherCounts⟩
    have keys := same.keys
    unfold keysApart at keys ⊢
    rw [List.filter_comm, keys, List.filter_comm]

theorem SameApart.contains (same : SameApart noisy guard other) (key : Key) (apart : key.signerId ≠ noisy) :
    guard.contains key = other.contains key := by
  have inApart (guard : InMemoryReplayGuard) :
      guard.contains key = true ↔ key ∈ (keysApart noisy guard).map Prod.fst := by
    rw [contains_iff, keysApart, List.mem_map, List.mem_map]
    constructor
    · intro ⟨entry, listed, isKey⟩
      refine ⟨entry, List.mem_filter.mpr ⟨listed, ?_⟩, isKey⟩
      rw [isKey]
      exact decide_eq_true apart
    · intro ⟨entry, listed, isKey⟩
      exact ⟨entry, (List.mem_filter.mp listed).1, isKey⟩
  rw [Bool.eq_iff_iff, inApart guard, inApart other, same.keys]

theorem SameApart.signerUsage (same : SameApart noisy guard other) (apart : signerId ≠ noisy) :
    guard.signerUsage signerId = other.signerUsage signerId := by
  have inApart (guard : InMemoryReplayGuard) : guard.seen.filter (·.1.signerId = signerId) =
      (keysApart noisy guard).filter (·.1.signerId = signerId) := by
    rw [keysApart, List.filter_filter]
    apply List.filter_congr
    intro entry _
    by_cases own : entry.1.signerId = signerId
    · simp [own, apart]
    · simp [own]
  rw [same.counts signerId, same.otherCounts signerId, inApart guard, inApart other, same.keys]

/-- Another signer gets the same answer from both. -/
theorem SameApart.call_of_room (same : SameApart noisy guard other) {asked : GuardCall}
    (asks : asked.asker = some signerId) (apart : signerId ≠ noisy) (room : guard.seen.length < guard.capacity)
    (otherRoom : other.seen.length < other.capacity) :
    (guard.call asked).1 = (other.call asked).1 ∧ SameApart noisy (guard.call asked).2 (other.call asked).2 := by
  cases asked with
  | gc nowUnixMs => cases asks
  | checkAndRecord asker domain nonce retainUntilMs =>
      obtain rfl : asker = signerId := Option.some.inj asks
      have counts := checkAndRecord_countsAgree same.counts asker domain nonce retainUntilMs
      have otherCounts := checkAndRecord_countsAgree same.otherCounts asker domain nonce retainUntilMs
      have known := same.contains ⟨asker, domain, nonce⟩ apart
      have usage := same.signerUsage apart
      simp only [InMemoryReplayGuard.call]
      unfold InMemoryReplayGuard.checkAndRecord at counts otherCounts ⊢
      rw [known, usage, same.perSignerCapacity] at counts ⊢
      split
      · exact ⟨rfl, same⟩
      split
      · exact ⟨rfl, same⟩
      split
      · exact ⟨rfl, same⟩
      · next length unseen quota =>
        have notFull : ¬ guard.seen.length ≥ guard.capacity := by omega
        have otherNotFull : ¬ other.seen.length ≥ other.capacity := by omega
        rw [if_neg length, if_neg unseen, if_neg quota] at counts otherCounts
        rw [if_neg notFull] at counts ⊢
        rw [if_neg otherNotFull] at otherCounts ⊢
        refine ⟨rfl, same.capacity, rfl, same.lastSeenMs, ?_, counts, otherCounts⟩
        rw [keysApart, keysApart, keysApart_append, keysApart_append, same.keys]

/-- What `noisy` asks before `rest` is as if it had not been asked. -/
theorem SameApart.noisy_calls (same : SameApart noisy guard other) (apart : signerId ≠ noisy)
    (calls rest : List GuardCall) (asks : ∀ asked ∈ calls, asked.asker = some noisy)
    (roomy : Roomy noisy guard (calls ++ rest)) :
    SameApart noisy (guard.run calls) other ∧ Roomy noisy (guard.run calls) rest ∧
      answersTo signerId guard (calls ++ rest) = answersTo signerId (guard.run calls) rest := by
  induction calls generalizing guard with
  | nil => exact ⟨same, roomy, rfl⟩
  | cons asked calls ih =>
      have own := asks asked (List.mem_cons_self ..)
      have unasked : asked.asker ≠ some signerId := by
        rw [own]
        exact fun equal => apart (Option.some.inj equal).symm
      rw [List.cons_append, answersTo, if_neg unasked]
      exact ih (same.noisy_call own) (fun later listed => asks later (List.mem_cons_of_mem _ listed)) roomy.2

theorem apart_of_asker {asked : GuardCall} {noisy : String} (quiet : asked.asker ≠ some noisy) :
    asked.asker = none ∨ ∃ signerId, asked.asker = some signerId ∧ signerId ≠ noisy := by
  cases asks : asked.asker with
  | none => exact .inl rfl
  | some signerId =>
      refine .inr ⟨signerId, rfl, ?_⟩
      rintro rfl
      exact quiet asks

/-- One call that is not of `noisy`, made on both. -/
theorem SameApart.quiet_call (same : SameApart noisy guard other) (signerId : String) {asked : GuardCall}
    {rest otherRest : List GuardCall} (quiet : asked.asker ≠ some noisy) (roomy : Roomy noisy guard (asked :: rest))
    (otherRoomy : Roomy noisy other (asked :: otherRest)) :
    (asked.asker = some signerId → (guard.call asked).1 = (other.call asked).1) ∧
      SameApart noisy (guard.call asked).2 (other.call asked).2 := by
  rcases apart_of_asker quiet with collection | ⟨asker, asks, apart⟩
  · cases asked with
    | checkAndRecord signerId domain nonce retainUntilMs => cases collection
    | gc nowUnixMs =>
        refine ⟨fun asks => ?_, same.gc nowUnixMs⟩
        cases asks
  · have both := same.call_of_room asks apart (roomy.1 asker asks apart) (otherRoomy.1 asker asks apart)
    exact ⟨fun _ => both.1, both.2⟩

/-- Two runs that differ in the calls of `noisy` only, with room for all others, answer all others the same. -/
theorem SameApart.answersTo_eq (same : SameApart noisy guard other) (apart : signerId ≠ noisy)
    {calls otherCalls : List GuardCall}
    (alike : calls.filter (·.asker ≠ some noisy) = otherCalls.filter (·.asker ≠ some noisy))
    (roomy : Roomy noisy guard calls) (otherRoomy : Roomy noisy other otherCalls) :
    answersTo signerId guard calls = answersTo signerId other otherCalls := by
  induction calls generalizing guard other otherCalls with
  | nil =>
      have asks : ∀ asked ∈ otherCalls, asked.asker = some noisy := by
        intro asked listed
        have dropped := List.filter_eq_nil_iff.mp alike.symm asked listed
        simpa using dropped
      have nothing := (same.symm.noisy_calls apart otherCalls [] asks (by simpa using otherRoomy)).2.2
      rw [List.append_nil] at nothing
      rw [nothing]
      rfl
  | cons asked calls ih =>
      by_cases own : asked.asker = some noisy
      · rw [List.filter_cons_of_neg (by simpa using own)] at alike
        have first := same.noisy_calls apart [asked] calls (by simpa using own) roomy
        rw [← ih first.1 alike first.2.1 otherRoomy]
        exact first.2.2
      · rw [List.filter_cons_of_pos (by simpa using own)] at alike
        obtain ⟨before, after, isOther, ownBefore, _, alikeAfter⟩ := List.filter_eq_cons_iff.mp alike.symm
        have asks : ∀ earlier ∈ before, earlier.asker = some noisy := by
          intro earlier listed
          simpa using ownBefore earlier listed
        rw [isOther] at otherRoomy ⊢
        have skipped := same.symm.noisy_calls apart before (asked :: after) asks otherRoomy
        have both := skipped.1.symm.quiet_call signerId own roomy skipped.2.1
        rw [skipped.2.2, answersTo, answersTo, ih both.2 alikeAfter.symm roomy.2 skipped.2.1.2]
        split
        · next asks => rw [both.1 asks]
        · rfl

end Fairness

end InMemoryReplayGuard

open InMemoryReplayGuard

/-- Whatever is asked of a new guard, the entry of a signer is the number of its keys, with none for zero; neither
limit is passed; the last seen time does not go back; a collection on an earlier clock removes nothing and any other
the keys up to its time, at most five minutes after the last seen time once that is not zero; a call that is refused
changes nothing; and with room for the others, what one signer asks does not tell in their answers. -/
theorem in_memory_guard_keeps_count {capacity perSignerCapacity : Nat} {opened : InMemoryReplayGuard}
    (isOpened : tryWithCapacities capacity perSignerCapacity = .ok opened) (calls : List GuardCall) :
    (((opened.run calls).seen.map Prod.fst).Nodup ∧ ∀ signerId, (opened.run calls).perSigner[signerId]? =
      if (opened.run calls).remembered signerId = 0 then none else some ((opened.run calls).remembered signerId)) ∧
    ((opened.run calls).seen.length ≤ capacity ∧
      ∀ signerId, (opened.run calls).remembered signerId ≤ perSignerCapacity) ∧
    (∀ asked, (opened.run calls).lastSeenMs ≤ (opened.run (calls ++ [asked])).lastSeenMs) ∧
    (∀ nowUnixMs, (opened.run calls).Collects nowUnixMs) ∧
    (∀ signerId domain nonce retainUntilMs,
      ((opened.run calls).checkAndRecord signerId domain nonce retainUntilMs).1 ≠ .ok .fresh →
      ((opened.run calls).checkAndRecord signerId domain nonce retainUntilMs).2 = opened.run calls) ∧
    ∀ noisy signerId later otherLater, signerId ≠ noisy →
      later.filter (·.asker ≠ some noisy) = otherLater.filter (·.asker ≠ some noisy) →
      Roomy noisy (opened.run calls) later → Roomy noisy (opened.run calls) otherLater →
      answersTo signerId (opened.run calls) later = answersTo signerId (opened.run calls) otherLater := by
  have counted := (counted_of_opened isOpened).run calls
  have limits := (limits_of_opened isOpened).run calls
  refine ⟨⟨counted.distinct, counted.perSigner_eq⟩, ⟨?_, ?_⟩, ?_, ?_, ?_, ?_⟩
  · exact counted.total.trans_eq limits.1
  · intro signerId
    exact (counted.quota signerId).trans_eq limits.2
  · intro asked
    rw [InMemoryReplayGuard.run, InMemoryReplayGuard.run, Trace.run_snoc]
    exact lastSeen_le_call _ asked
  · exact collects (opened.run calls)
  · intro signerId domain nonce retainUntilMs refused
    exact checkAndRecord_error refused
  · intro noisy signerId later otherLater apart alike roomy otherRoomy
    exact (sameApart_refl counted.counts).answersTo_eq apart alike roomy otherRoomy

def askedOnce : List GuardCall := [.checkAndRecord "node" .nodeHeartbeat (List.replicate 16 7) 1000]

def askedAmongNoise : List GuardCall :=
  [.checkAndRecord "noisy" .nodeHeartbeat (List.replicate 16 7) 1000,
   .checkAndRecord "node" .nodeHeartbeat (List.replicate 16 7) 1000]

theorem emptyInMemory_keeps_count :
    (emptyInMemory.run askedAmongNoise).seen.length ≤ 4 ∧
      answersTo "node" emptyInMemory askedAmongNoise = answersTo "node" emptyInMemory askedOnce := by
  have isOpened : tryWithCapacities 4 2 = .ok emptyInMemory := rfl
  refine ⟨(in_memory_guard_keeps_count isOpened askedAmongNoise).2.1.1, ?_⟩
  apply (in_memory_guard_keeps_count isOpened []).2.2.2.2.2 "noisy" "node" askedAmongNoise askedOnce
  · decide
  · simp [askedAmongNoise, askedOnce, GuardCall.asker]
  · exact ⟨fun _ _ _ => by decide, fun _ _ _ => by decide, trivial⟩
  · exact ⟨fun _ _ _ => by decide, trivial⟩

/-- A first collection at clock zero leaves the last seen time at zero, so that the second one removes a key that is
to be kept for longer than five minutes after it. -/
theorem second_collection_is_not_capped :
    tryWithCapacities 4 2 = .ok emptyInMemory ∧
    let before : List GuardCall :=
      [.gc 0, .checkAndRecord "node" .nodeHeartbeat (List.replicate 16 7) 1000000]
    (emptyInMemory.run before).lastSeenMs ≤ 1000000 ∧
      ((emptyInMemory.run before).gc 1000000).1.seen ≠ (emptyInMemory.run before).seen.filter (fun entry =>
        ¬ entry.2.toNat ≤ min 1000000 ((emptyInMemory.run before).lastSeenMs.toNat + 5 * 60 * 1000)) :=
  ⟨rfl, by decide, by decide⟩

end Gputeer.Replay
