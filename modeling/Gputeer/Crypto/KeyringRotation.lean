import Gputeer.Crypto.Keyring

/-! Which keys a directory offers after any sequence of keyring operations. A rotation moves
the end of validity of every version that is valid at that moment, so the grace period of a
replaced key is counted from the latest rotation that still found it valid. -/

namespace Gputeer.Keyring

variable {E : Ed25519}

open PersistentKeyring

theorem versionIsValid_iff (version : KeyVersion E) (nowMs : UInt64) :
    versionIsValid version nowMs = true ↔
      version.state = .active ∧ version.validFromMs ≤ nowMs ∧
        ∀ untilMs ∈ version.validUntilMs, nowMs < untilMs := by
  cases h : version.validUntilMs <;> simp [versionIsValid, h, and_assoc]

theorem mem_lookupCandidates {ring : PersistentKeyring E} {nowMs : UInt64} {signerId : String}
    {key : VerifyingKey E} :
    key ∈ ring.lookupCandidates nowMs signerId ↔
      ring.quarantined = false ∧ ∃ version ∈ ring.versions signerId,
        versionIsValid version nowMs = true ∧ version.publicKey = key := by
  cases h : ring.quarantined <;> simp [lookupCandidates, h, and_assoc]

@[simp] theorem supersede_publicKey (nowMs : UInt64) (version : KeyVersion E) :
    (supersede nowMs version).publicKey = version.publicKey := by
  unfold supersede
  split <;> rfl

@[simp] theorem supersede_state (nowMs : UInt64) (version : KeyVersion E) :
    (supersede nowMs version).state = version.state := by
  unfold supersede
  split <;> rfl

@[simp] theorem supersede_validFromMs (nowMs : UInt64) (version : KeyVersion E) :
    (supersede nowMs version).validFromMs = version.validFromMs := by
  unfold supersede
  split <;> rfl

/-- The checks `rotate` makes before it changes anything. -/
def PersistentKeyring.Rotates (ring : PersistentKeyring E) (signerId : String)
    (newPrivate : SigningKey) (nowMs : UInt64) : Prop :=
  ring.quarantined = false ∧
    (∃ version ∈ ring.versions signerId, versionIsValid version nowMs = true) ∧
    ∀ version ∈ ring.versions signerId, version.publicKey ≠ newPrivate.verifyingKey E

/-- Everything one operation can do to the versions of a signer. -/
inductive VersionsChange (ring : PersistentKeyring E) (op : Op E) (signerId : String) :
    List (KeyVersion E) → Prop
  | unchanged : VersionsChange ring op signerId (ring.versions signerId)
  | inserted (version : KeyVersion E) (absent : ring.versions signerId = [])
      (fromStart : version.validFromMs = 0) (openEnded : version.validUntilMs = none) :
      VersionsChange ring op signerId [version]
  | revoked : VersionsChange ring op signerId ((ring.versions signerId).map revokeVersion)
  | rotated (newPrivate : SigningKey) (nowMs : UInt64)
      (isRotate : op = .rotate signerId newPrivate nowMs)
      (rotates : ring.Rotates signerId newPrivate nowMs) :
      VersionsChange ring op signerId
        ((ring.versions signerId).map (supersede nowMs) ++ [successor E newPrivate nowMs])

theorem versions_of_insert (ring : PersistentKeyring E) (signerId other : String)
    (list : List (KeyVersion E)) :
    ({ ring with keys := ring.keys.insert signerId list } : PersistentKeyring E).versions other =
      if signerId = other then list else ring.versions other := by
  simp only [versions, Std.ExtTreeMap.getElem?_insert, Std.compare_eq_iff_eq]
  split <;> rfl

theorem versions_of_getElem? {ring : PersistentKeyring E} {signerId : String}
    {list : List (KeyVersion E)} (present : ring.keys[signerId]? = some list) :
    ring.versions signerId = list := by
  simp [versions, present]

theorem insertVersion_ok {ring next : PersistentKeyring E} {signerId : String}
    {version : KeyVersion E} (ok : ring.insertVersion signerId version = .ok next) :
    validateSignerId signerId = .ok () ∧ ring.keys[signerId]? = none ∧
      next = { ring with keys := ring.keys.insert signerId [version] } := by
  unfold insertVersion at ok
  cases valid : validateSignerId signerId with
  | error fault => simp [valid, bind, Except.bind] at ok
  | ok _ =>
      simp only [valid, bind, Except.bind] at ok
      split at ok
      · simp [throw, throwThe, MonadExceptOf.throw] at ok
      · rename_i absent
        simp only [pure, Except.pure, Except.ok.injEq] at ok
        refine ⟨rfl, ?_, ok.symm⟩
        apply Std.ExtTreeMap.getElem?_eq_none
        rwa [Std.ExtTreeMap.mem_iff_contains]

theorem revoke_ok {ring next : PersistentKeyring E} {signerId : String}
    (ok : Prod.fst <$> ring.revoke signerId = .ok next) :
    ∃ list, ring.keys[signerId]? = some list ∧
      next = { ring with keys := ring.keys.insert signerId (list.map revokeVersion) } := by
  unfold revoke at ok
  cases present : ring.keys[signerId]? with
  | none => simp [present] at ok
  | some list =>
      simp only [present, Except.map_ok, Except.ok.injEq] at ok
      exact ⟨list, rfl, ok.symm⟩

theorem rotate_ok {ring next : PersistentKeyring E} {signerId : String} {newPrivate : SigningKey}
    {nowMs : UInt64} :
    ring.rotate signerId newPrivate nowMs = .ok next ↔
      ring.Rotates signerId newPrivate nowMs ∧
      next = { ring with
        keys := ring.keys.insert signerId
          ((ring.versions signerId).map (supersede nowMs) ++
            [successor E newPrivate nowMs]) } := by
  unfold rotate statusAt Rotates
  cases present : ring.keys[signerId]? with
  | none => simp [versions, present]
  | some list =>
      rw [versions_of_getElem? present]
      cases ring.quarantined with
      | true => simp
      | false =>
          by_cases active : ∃ version ∈ list, versionIsValid version nowMs = true
          · by_cases reused : ∃ version ∈ list, version.publicKey = newPrivate.verifyingKey E
            · have refused : list.any (·.publicKey == newPrivate.verifyingKey E) = true := by
                simpa using reused
              simp only [refused, List.any_eq_true.mpr active]
              simp [reused]
            · have accepted : list.any (·.publicKey == newPrivate.verifyingKey E) = false := by
                simpa using reused
              push Not at reused
              simp only [accepted, List.any_eq_true.mpr active]
              constructor
              · intro ok
                exact ⟨⟨trivial, active, reused⟩, by simpa using ok.symm⟩
              · rintro ⟨-, rfl⟩
                rfl
          · have inactive : list.any (versionIsValid · nowMs) = false := by simpa using active
            simp only [inactive, active]
            simp

theorem step_versions (ring : PersistentKeyring E) (op : Op E) (signerId : String) :
    VersionsChange ring op signerId ((step ring op).versions signerId) := by
  unfold step
  cases applied : apply ring op with
  | error fault => exact .unchanged
  | ok next =>
      cases op with
      | insertPrivate target key | insertPublic target key =>
          obtain ⟨-, absent, rfl⟩ := insertVersion_ok applied
          simp only [versions_of_insert]
          split
          · rename_i same
            subst same
            exact .inserted _ (by simp [versions, absent]) rfl rfl
          · exact .unchanged
      | revoke target =>
          obtain ⟨list, present, rfl⟩ := revoke_ok applied
          simp only [versions_of_insert]
          split
          · rename_i same
            subst same
            rw [← versions_of_getElem? present]
            exact .revoked
          · exact .unchanged
      | quarantine target =>
          simp only [apply, quarantine] at applied
          split at applied
          · simp only [Except.map_ok, Except.ok.injEq] at applied
            subst applied
            exact .unchanged
          · simp at applied
      | releaseQuarantine target =>
          simp only [apply, releaseQuarantine] at applied
          split at applied
          · simp only [Except.map_ok, Except.ok.injEq] at applied
            subst applied
            exact .unchanged
          · simp at applied
      | rotate target newPrivate nowMs =>
          obtain ⟨rotates, rfl⟩ := rotate_ok.mp applied
          simp only [versions_of_insert]
          split
          · rename_i same
            subst same
            exact .rotated newPrivate nowMs rfl rotates
          · exact .unchanged

/-- At this step a rotation at `replacedAt` replaces the version with key `key`: the
version is valid at that moment and the rotation goes through. -/
def Replaces (ring : PersistentKeyring E) (op : Op E) (signerId : String)
    (key : VerifyingKey E) (replacedAt : UInt64) : Prop :=
  ∃ newPrivate, op = .rotate signerId newPrivate replacedAt ∧
    ring.Rotates signerId newPrivate replacedAt ∧
    ∃ version ∈ ring.versions signerId,
      versionIsValid version replacedAt = true ∧ version.publicKey = key

/-- Somewhere in the run a rotation at `replacedAt` replaced `key`. -/
def Superseded (start : PersistentKeyring E) (ops : List (Op E)) (signerId : String)
    (key : VerifyingKey E) (replacedAt : UInt64) : Prop :=
  ∃ before op, Trace.Took ops before op ∧
    Replaces (run start before) op signerId key replacedAt

/-- From the end of the grace period on, no replaced key is offered. -/
def SupersededKeysExpire (start : PersistentKeyring E) (ops : List (Op E)) : Prop :=
  ∀ signerId key replacedAt, Superseded start ops signerId key replacedAt →
    ∀ nowMs : UInt64, replacedAt.toNat + rotationGracePeriodMs.toNat ≤ nowMs.toNat →
      key ∉ (run start ops).lookupCandidates nowMs signerId

/-- A key that was revoked at some point of the run is not offered at its end. -/
def RevokedKeysStayOut (start : PersistentKeyring E) (ops : List (Op E)) : Prop :=
  ∀ before after, ops = before ++ after → ∀ signerId,
    ∀ version ∈ (run start before).versions signerId, version.state = .revoked →
      ∀ nowMs, version.publicKey ∉ (run start ops).lookupCandidates nowMs signerId

/-- No rotation moves the end of a version's validity to a later time. -/
def GraceNotExtended (ring : PersistentKeyring E) (op : Op E) : Prop :=
  ∀ signerId newPrivate nowMs, op = .rotate signerId newPrivate nowMs →
    ring.Rotates signerId newPrivate nowMs →
    ∀ version ∈ ring.versions signerId, versionIsValid version nowMs = true →
      ∀ untilMs ∈ version.validUntilMs,
        nowMs.saturatingAdd rotationGracePeriodMs ≤ untilMs

theorem superseded_snoc {start : PersistentKeyring E} {ops : List (Op E)} {op : Op E}
    {signerId : String} {key : VerifyingKey E} {replacedAt : UInt64} :
    Superseded start (ops ++ [op]) signerId key replacedAt ↔
      Superseded start ops signerId key replacedAt ∨
      Replaces (run start ops) op signerId key replacedAt := by
  constructor
  · rintro ⟨before, taken, took, replaces⟩
    rcases Trace.took_snoc.mp took with earlier | ⟨rfl, rfl⟩
    · exact Or.inl ⟨before, taken, earlier, replaces⟩
    · exact Or.inr replaces
  · rintro (⟨before, taken, took, replaces⟩ | replaces)
    · exact ⟨before, taken, Trace.took_snoc.mpr (Or.inl took), replaces⟩
    · exact ⟨ops, op, Trace.took_snoc.mpr (Or.inr ⟨rfl, rfl⟩), replaces⟩

/-- The versions of one signer have pairwise different keys. -/
def DistinctKeys (ring : PersistentKeyring E) : Prop :=
  ∀ signerId, ((ring.versions signerId).map (·.publicKey)).Nodup

theorem step_distinctKeys (ring : PersistentKeyring E) (op : Op E) (distinct : DistinctKeys ring) :
    DistinctKeys (step ring op) := by
  intro signerId
  have change := step_versions ring op signerId
  generalize (step ring op).versions signerId = after at change ⊢
  cases change with
  | unchanged => exact distinct signerId
  | inserted version => simp
  | revoked =>
      simpa [Function.comp_def, revokeVersion] using distinct signerId
  | rotated newPrivate nowMs isRotate rotates =>
      have fresh := rotates.2.2
      simp only [List.map_append, List.map_map, List.map_cons, List.map_nil]
      rw [List.nodup_append]
      refine ⟨by simpa [Function.comp_def] using distinct signerId, by simp, ?_⟩
      intro key present other last
      simp only [List.mem_map, Function.comp_apply, supersede_publicKey, List.mem_singleton]
        at present last
      obtain ⟨version, member, rfl⟩ := present
      rw [last]
      exact fresh version member

/-- With distinct keys a version is determined by its key. -/
theorem eq_of_publicKey_eq {ring : PersistentKeyring E} (distinct : DistinctKeys ring)
    {signerId : String} {first second : KeyVersion E}
    (inFirst : first ∈ ring.versions signerId) (inSecond : second ∈ ring.versions signerId)
    (same : first.publicKey = second.publicKey) : first = second :=
  List.inj_on_of_nodup_map (distinct signerId) inFirst inSecond same

/-- A step never drops a version, and it never brings a revoked one back. -/
theorem step_keeps_version {ring : PersistentKeyring E} (op : Op E) {signerId : String}
    {version : KeyVersion E} (member : version ∈ ring.versions signerId) :
    ∃ later ∈ (step ring op).versions signerId, later.publicKey = version.publicKey ∧
      (version.state = .revoked → later.state = .revoked) := by
  have change := step_versions ring op signerId
  generalize (step ring op).versions signerId = after at change ⊢
  cases change with
  | unchanged => exact ⟨version, member, rfl, id⟩
  | inserted other absent => simp [absent] at member
  | revoked => exact ⟨revokeVersion version, List.mem_map_of_mem member, rfl, fun _ => rfl⟩
  | rotated newPrivate nowMs =>
      refine ⟨supersede nowMs version, ?_, by simp, by simp⟩
      exact List.mem_append_left _ (List.mem_map_of_mem member)

/-- A version found after a step was there before, up to its state and end of validity, or
it is new and open-ended. -/
theorem step_version_origin {ring : PersistentKeyring E} {op : Op E} {signerId : String}
    {version : KeyVersion E} (member : version ∈ (step ring op).versions signerId) :
    version.validUntilMs = none ∨
    (∃ earlier ∈ ring.versions signerId, earlier.publicKey = version.publicKey ∧
      earlier.validUntilMs = version.validUntilMs) ∨
    ∃ replacedAt, Replaces ring op signerId version.publicKey replacedAt ∧
      version.validUntilMs = some (replacedAt.saturatingAdd rotationGracePeriodMs) := by
  have change := step_versions ring op signerId
  generalize (step ring op).versions signerId = after at change member
  cases change with
  | unchanged => exact Or.inr (Or.inl ⟨version, member, rfl, rfl⟩)
  | inserted other absent fromStart openEnded =>
      obtain rfl := List.mem_singleton.mp member
      exact Or.inl openEnded
  | revoked =>
      obtain ⟨earlier, present, rfl⟩ := List.mem_map.mp member
      exact Or.inr (Or.inl ⟨earlier, present, rfl, rfl⟩)
  | rotated newPrivate nowMs isRotate rotates =>
      rcases List.mem_append.mp member with old | new
      · obtain ⟨earlier, present, rfl⟩ := List.mem_map.mp old
        by_cases valid : versionIsValid earlier nowMs = true
        · refine Or.inr (Or.inr ⟨nowMs, ⟨newPrivate, isRotate, rotates, ?_⟩, ?_⟩)
          · exact ⟨earlier, present, valid, by simp⟩
          · simp [supersede, valid]
        · exact Or.inr (Or.inl ⟨earlier, present, by simp, by simp [supersede, valid]⟩)
      · obtain rfl := List.mem_singleton.mp new
        exact Or.inl rfl

/-- An end of validity always comes from a rotation that replaced the version. -/
theorem superseded_of_validUntilMs (start : PersistentKeyring E) (fresh : start.keys = ∅)
    (ops : List (Op E)) : ∀ signerId, ∀ version ∈ (run start ops).versions signerId,
      ∀ untilMs ∈ version.validUntilMs, ∃ replacedAt,
        Superseded start ops signerId version.publicKey replacedAt ∧
        untilMs = replacedAt.saturatingAdd rotationGracePeriodMs := by
  refine Trace.induction
    (fun ops (ring : PersistentKeyring E) => ∀ signerId, ∀ version ∈ ring.versions signerId,
      ∀ untilMs ∈ version.validUntilMs, ∃ replacedAt,
        Superseded start ops signerId version.publicKey replacedAt ∧
        untilMs = replacedAt.saturatingAdd rotationGracePeriodMs) ?_ ?_ ops
  · intro signerId version member
    simp [versions, fresh] at member
  · intro ops op ih signerId version member untilMs ends
    rcases step_version_origin member with openEnded | ⟨earlier, present, sameKey, sameEnd⟩ |
      ⟨replacedAt, replaces, ending⟩
    · simp [openEnded] at ends
    · obtain ⟨replacedAt, superseded, value⟩ := ih signerId earlier present untilMs
        (by rw [sameEnd]; exact ends)
      rw [← sameKey]
      exact ⟨replacedAt, superseded_snoc.mpr (Or.inl superseded), value⟩
    · refine ⟨replacedAt, superseded_snoc.mpr (Or.inr replaces), ?_⟩
      rw [ending] at ends
      exact (Option.mem_some_iff.mp ends).symm

theorem run_distinctKeys (start : PersistentKeyring E) (fresh : start.keys = ∅)
    (ops : List (Op E)) : DistinctKeys (run start ops) :=
  Trace.invariant DistinctKeys (by intro signerId; simp [versions, fresh])
    step_distinctKeys ops

/-- The version with key `key` is there and its validity ends no later than `bound`. -/
def EndsBy (ring : PersistentKeyring E) (signerId : String) (key : VerifyingKey E)
    (bound : UInt64) : Prop :=
  ∃ version ∈ ring.versions signerId, version.publicKey = key ∧
    ∃ untilMs ∈ version.validUntilMs, untilMs ≤ bound

theorem versions_of_rotates {ring : PersistentKeyring E} {signerId : String}
    {newPrivate : SigningKey} {nowMs : UInt64} (rotates : ring.Rotates signerId newPrivate nowMs) :
    (step ring (.rotate signerId newPrivate nowMs)).versions signerId =
      (ring.versions signerId).map (supersede nowMs) ++ [successor E newPrivate nowMs] := by
  simp only [step, apply, rotate_ok.mpr ⟨rotates, rfl⟩, versions_of_insert, if_true]

theorem step_endsBy_of_replaces {ring : PersistentKeyring E} {op : Op E} {signerId : String}
    {key : VerifyingKey E} {replacedAt : UInt64}
    (replaces : Replaces ring op signerId key replacedAt) :
    EndsBy (step ring op) signerId key (replacedAt.saturatingAdd rotationGracePeriodMs) := by
  obtain ⟨newPrivate, rfl, rotates, version, member, valid, rfl⟩ := replaces
  refine ⟨supersede replacedAt version, ?_, by simp, _, ?_, UInt64.le_refl _⟩
  · rw [versions_of_rotates rotates]
    exact List.mem_append_left _ (List.mem_map_of_mem member)
  · simp [supersede, valid]

theorem step_endsBy {ring : PersistentKeyring E} {op : Op E} {signerId : String}
    {key : VerifyingKey E} {bound : UInt64} (kept : GraceNotExtended ring op)
    (ends : EndsBy ring signerId key bound) : EndsBy (step ring op) signerId key bound := by
  obtain ⟨version, member, rfl, untilMs, isEnd, bounded⟩ := ends
  have change := step_versions ring op signerId
  unfold EndsBy
  generalize (step ring op).versions signerId = after at change ⊢
  cases change with
  | unchanged => exact ⟨version, member, rfl, untilMs, isEnd, bounded⟩
  | inserted other absent => simp [absent] at member
  | revoked =>
      exact ⟨revokeVersion version, List.mem_map_of_mem member, rfl, untilMs, isEnd, bounded⟩
  | rotated newPrivate nowMs isRotate rotates =>
      refine ⟨supersede nowMs version,
        List.mem_append_left _ (List.mem_map_of_mem member), by simp, ?_⟩
      by_cases valid : versionIsValid version nowMs = true
      · refine ⟨nowMs.saturatingAdd rotationGracePeriodMs, by simp [supersede, valid], ?_⟩
        have notLater := kept signerId newPrivate nowMs isRotate rotates version member valid
          untilMs isEnd
        exact UInt64.le_trans notLater bounded
      · exact ⟨untilMs, by simpa [supersede, valid] using isEnd, bounded⟩

/-- While no rotation extends a grace period, every replaced version keeps an end of
validity no later than the one its replacement gave it. -/
theorem superseded_endsBy (start : PersistentKeyring E) (ops : List (Op E))
    (kept : ∀ before op, Trace.Took ops before op → GraceNotExtended (run start before) op) :
    ∀ signerId key replacedAt, Superseded start ops signerId key replacedAt →
      EndsBy (run start ops) signerId key (replacedAt.saturatingAdd rotationGracePeriodMs) := by
  revert kept
  refine Trace.induction (fun ops ring =>
    (∀ before op, Trace.Took ops before op → GraceNotExtended (run start before) op) →
    ∀ signerId key replacedAt, Superseded start ops signerId key replacedAt →
      EndsBy ring signerId key (replacedAt.saturatingAdd rotationGracePeriodMs)) ?_ ?_ ops
  · rintro - signerId key replacedAt ⟨before, op, took, -⟩
    exact absurd took Trace.not_took_nil
  · intro ops op ih kept signerId key replacedAt superseded
    rcases superseded_snoc.mp superseded with past | replaces
    · have earlier := ih (fun before op took => kept before op (Trace.took_snoc.mpr (Or.inl took)))
      exact step_endsBy (kept ops op (Trace.took_snoc.mpr (Or.inr ⟨rfl, rfl⟩)))
        (earlier signerId key replacedAt past)
    · exact step_endsBy_of_replaces replaces

theorem revokedKeysStayOut (start : PersistentKeyring E) (fresh : start.keys = ∅)
    (ops : List (Op E)) : RevokedKeysStayOut start ops := by
  rintro before after rfl signerId version member revoked nowMs offered
  have stays : ∃ later ∈ (run start (before ++ after)).versions signerId,
      later.publicKey = version.publicKey ∧ later.state = .revoked := by
    clear offered
    induction after using List.reverseRecOn with
    | nil => exact ⟨version, by simpa using member, rfl, revoked⟩
    | append_singleton after op ih =>
        obtain ⟨later, present, sameKey, still⟩ := ih
        obtain ⟨last, found, lastKey, lastState⟩ := step_keeps_version op present
        refine ⟨last, ?_, lastKey.trans sameKey, lastState still⟩
        rw [run, ← List.append_assoc, Trace.run_snoc]
        exact found
  obtain ⟨later, present, sameKey, still⟩ := stays
  obtain ⟨-, other, found, valid, otherKey⟩ := mem_lookupCandidates.mp offered
  have same := eq_of_publicKey_eq (run_distinctKeys start fresh _) found present
    (otherKey.trans sameKey.symm)
  rw [same, versionIsValid_iff, still] at valid
  exact absurd valid.1 (by decide)

theorem supersededKeysExpire (start : PersistentKeyring E) (fresh : start.keys = ∅)
    (ops : List (Op E))
    (kept : ∀ before op, Trace.Took ops before op → GraceNotExtended (run start before) op) :
    SupersededKeysExpire start ops := by
  intro signerId key replacedAt superseded nowMs expired offered
  obtain ⟨version, member, rfl, untilMs, isEnd, bounded⟩ :=
    superseded_endsBy start ops kept signerId key replacedAt superseded
  obtain ⟨-, other, found, valid, sameKey⟩ := mem_lookupCandidates.mp offered
  have same := eq_of_publicKey_eq (run_distinctKeys start fresh ops) found member sameKey
  subst same
  have early := ((versionIsValid_iff _ _).mp valid).2.2 untilMs isEnd
  rw [UInt64.lt_iff_toNat_lt] at early
  rw [UInt64.le_iff_toNat_le, UInt64.toNat_saturatingAdd] at bounded
  omega

/-- A rotation that extends a running grace period leaves the old key on offer at the very
moment its first grace period ends. -/
theorem graceNotExtended_of_expire (start : PersistentKeyring E) (fresh : start.keys = ∅)
    (ops : List (Op E)) (op : Op E) (expire : SupersededKeysExpire start (ops ++ [op])) :
    GraceNotExtended (run start ops) op := by
  rintro signerId newPrivate nowMs rfl rotates version member valid untilMs isEnd
  by_contra extended
  rw [UInt64.not_le] at extended
  obtain ⟨replacedAt, superseded, value⟩ :=
    superseded_of_validUntilMs start fresh ops signerId version member untilMs isEnd
  have atEnd := congrArg UInt64.toNat value
  obtain ⟨isActive, started, running⟩ := (versionIsValid_iff _ _).mp valid
  have notEnded := running _ isEnd
  apply expire signerId version.publicKey replacedAt (superseded_snoc.mpr (Or.inl superseded))
    untilMs
  · simp only [UInt64.lt_iff_toNat_lt, UInt64.toNat_saturatingAdd] at extended atEnd
    omega
  · rw [mem_lookupCandidates]
    refine ⟨?_, supersede nowMs version, ?_, ?_, by simp⟩
    · simp only [run, Trace.run_snoc, step, apply, rotate_ok.mpr ⟨rotates, rfl⟩]
      exact rotates.1
    · rw [run, Trace.run_snoc, versions_of_rotates rotates]
      exact List.mem_append_left _ (List.mem_map_of_mem member)
    · rw [versionIsValid_iff]
      refine ⟨by simpa using isActive, ?_, ?_⟩
      · rw [supersede_validFromMs]
        exact UInt64.le_trans started (UInt64.le_of_lt notEnded)
      · intro later isLater
        simp only [supersede, valid, if_true, Option.mem_def, Option.some.injEq] at isLater
        rw [← isLater]
        exact extended

theorem new_ok {platform : Platform} {path : String} {protection : KeyProtection}
    {plaintextPolicy : PlaintextPolicy} {start : PersistentKeyring E}
    (created : PersistentKeyring.new platform path protection plaintextPolicy = .ok start) :
    ensureProtection platform protection plaintextPolicy = .ok () ∧
      start = { path, protection, quarantined := false, keys := ∅ } := by
  unfold PersistentKeyring.new at created
  cases allowed : ensureProtection platform protection plaintextPolicy with
  | error fault => simp [allowed, bind, Except.bind] at created
  | ok _ =>
      simp only [allowed, bind, Except.bind, pure, Except.pure, Except.ok.injEq] at created
      exact ⟨rfl, created.symm⟩

def rotatedTwiceStart : PersistentKeyring sampleEd25519 :=
  { path := "keyring", protection := .k1OsProtected, quarantined := false, keys := ∅ }

def rotatedTwice : List (Op sampleEd25519) :=
  [.insertPrivate "node" sampleFirst, .rotate "node" sampleSecond 1000,
   .rotate "node" sampleThird 2000]

end Gputeer.Keyring
