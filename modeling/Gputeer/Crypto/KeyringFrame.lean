import Gputeer.Crypto.KeyringRotation
import Gputeer.Lib.Except

/-! Whom an operation on the keyring can touch. The key versions belong to one signer each; the quarantine
is one flag of the keyring. -/

namespace Gputeer.Keyring

variable {E : Ed25519}

open PersistentKeyring

def Op.signerId : Op E → String
  | .insertPrivate signerId _ => signerId
  | .insertPublic signerId _ => signerId
  | .revoke signerId => signerId
  | .quarantine signerId => signerId
  | .releaseQuarantine signerId => signerId
  | .rotate signerId _ _ => signerId

/-! ### The operations as they write -/

/-! Each call changes the keyring in place, so what is written before an error would stay. -/

namespace InPlace

def put (ring : PersistentKeyring E) (signerId : String) (versions : List (KeyVersion E)) : PersistentKeyring E :=
  { ring with keys := ring.keys.insert signerId versions }

def insertVersion (ring : PersistentKeyring E) (signerId : String) (version : KeyVersion E) :
    Except KeyringError Unit × PersistentKeyring E :=
  match validateSignerId signerId with
  | .error fault => (.error fault, ring)
  | .ok () =>
      if ring.keys.contains signerId then (.error .duplicateSigner, ring)
      else (.ok (), put ring signerId [version])

def revoke (ring : PersistentKeyring E) (signerId : String) : Except KeyringError Bool × PersistentKeyring E :=
  match ring.keys[signerId]? with
  | none => (.error .missingSigner, ring)
  | some versions => (.ok (versions.any (·.state != .revoked)), put ring signerId (versions.map revokeVersion))

def quarantine (ring : PersistentKeyring E) (signerId : String) :
    Except KeyringError Bool × PersistentKeyring E :=
  if ring.keys.contains signerId then (.ok (!ring.quarantined), { ring with quarantined := true })
  else (.error .missingSigner, ring)

def releaseQuarantine (ring : PersistentKeyring E) (signerId : String) :
    Except KeyringError Bool × PersistentKeyring E :=
  if ring.keys.contains signerId then (.ok ring.quarantined, { ring with quarantined := false })
  else (.error .missingSigner, ring)

/-- The versions that are there get their end before the new one is pushed. -/
def rotate (ring : PersistentKeyring E) (signerId : String) (newPrivate : SigningKey) (nowMs : UInt64) :
    Except KeyringError Unit × PersistentKeyring E :=
  if ring.statusAt signerId nowMs ≠ .active then
    (.error (.invalidState "활성 키가 있는 서명자만 회전할 수 있다"), ring)
  else
    match ring.keys[signerId]? with
    | none => (.error .missingSigner, ring)
    | some versions =>
        if versions.any (·.publicKey == newPrivate.verifyingKey E) then
          (.error (.invalidState "새 키가 기존 키와 같다"), ring)
        else
          let ring := put ring signerId (versions.map (supersede nowMs))
          let ring := put ring signerId (ring.versions signerId ++ [successor E newPrivate nowMs])
          (.ok (), ring)

theorem own_key_matches (key : SigningKey) : ∀ other ∈ some key, other.verifyingKey E = key.verifyingKey E := by
  rintro _ ⟨⟩
  rfl

theorem no_key_matches (key : VerifyingKey E) :
    ∀ other ∈ (none : Option SigningKey), other.verifyingKey E = key := by
  rintro _ ⟨⟩

def operate (ring : PersistentKeyring E) : Op E → Except KeyringError Unit × PersistentKeyring E
  | .insertPrivate signerId key =>
      insertVersion ring signerId
        { publicKey := key.verifyingKey E
          privateKey := some key
          state := .active
          validFromMs := 0
          validUntilMs := none
          privateKey_matches := own_key_matches key }
  | .insertPublic signerId key =>
      insertVersion ring signerId
        { publicKey := key
          privateKey := none
          state := .active
          validFromMs := 0
          validUntilMs := none
          privateKey_matches := no_key_matches key }
  | .revoke signerId => ((revoke ring signerId).1.map fun _ => (), (revoke ring signerId).2)
  | .quarantine signerId => ((quarantine ring signerId).1.map fun _ => (), (quarantine ring signerId).2)
  | .releaseQuarantine signerId =>
      ((releaseQuarantine ring signerId).1.map fun _ => (), (releaseQuarantine ring signerId).2)
  | .rotate signerId newPrivate nowMs => rotate ring signerId newPrivate nowMs

/-- What a call answers and leaves behind when it is seen as a function of the keyring. -/
def outcome (ring : PersistentKeyring E) (result : Except KeyringError (PersistentKeyring E)) :
    Except KeyringError Unit × PersistentKeyring E :=
  match result with
  | .ok next => (.ok (), next)
  | .error fault => (.error fault, ring)

theorem put_put (ring : PersistentKeyring E) (signerId : String) (first second : List (KeyVersion E)) :
    put (put ring signerId first) signerId second = put ring signerId second := by
  have keys : (ring.keys.insert signerId first).insert signerId second = ring.keys.insert signerId second := by
    apply Std.ExtTreeMap.ext_getElem?
    intro other
    simp only [Std.ExtTreeMap.getElem?_insert]
    split <;> rfl
  exact congrArg (fun all => { ring with keys := all }) keys

theorem insertVersion_eq (ring : PersistentKeyring E) (signerId : String) (version : KeyVersion E) :
    insertVersion ring signerId version = outcome ring (ring.insertVersion signerId version) := by
  unfold insertVersion PersistentKeyring.insertVersion
  cases validateSignerId signerId with
  | error fault => rfl
  | ok done =>
      cases ring.keys.contains signerId <;> rfl

theorem rotate_eq (ring : PersistentKeyring E) (signerId : String) (newPrivate : SigningKey) (nowMs : UInt64) :
    rotate ring signerId newPrivate nowMs = outcome ring (ring.rotate signerId newPrivate nowMs) := by
  unfold rotate PersistentKeyring.rotate
  split
  · rfl
  · cases present : ring.keys[signerId]? with
    | none => rfl
    | some versions =>
        simp only
        split
        · rfl
        · have between : (put ring signerId (versions.map (supersede nowMs))).versions signerId =
              versions.map (supersede nowMs) := by
            rw [put, versions_of_insert, if_pos rfl]
          rw [between, put_put]
          rfl

/-- The call in place is the function of the keyring, and after an error nothing is left of it. -/
theorem operate_eq (ring : PersistentKeyring E) (op : Op E) : operate ring op = outcome ring (apply ring op) := by
  cases op with
  | insertPrivate signerId key => exact insertVersion_eq ring signerId _
  | insertPublic signerId key => exact insertVersion_eq ring signerId _
  | rotate signerId newPrivate nowMs => exact rotate_eq ring signerId newPrivate nowMs
  | revoke signerId =>
      simp only [operate, apply, revoke, PersistentKeyring.revoke]
      cases ring.keys[signerId]? <;> rfl
  | quarantine signerId =>
      simp only [operate, apply, quarantine, PersistentKeyring.quarantine]
      cases ring.keys.contains signerId <;> rfl
  | releaseQuarantine signerId =>
      simp only [operate, apply, releaseQuarantine, PersistentKeyring.releaseQuarantine]
      cases ring.keys.contains signerId <;> rfl

theorem operate_step (ring : PersistentKeyring E) (op : Op E) : (operate ring op).2 = step ring op := by
  rw [operate_eq, step]
  cases apply ring op <;> rfl

theorem operate_error {ring : PersistentKeyring E} {op : Op E} {fault : KeyringError}
    (refused : (operate ring op).1 = .error fault) : (operate ring op).2 = ring := by
  rw [operate_eq] at *
  cases applied : apply ring op with
  | ok next =>
      rw [applied] at refused
      cases refused
  | error fault => rfl

end InPlace

/-! ### What one signer sees -/

/-- All that a verifier can learn of a signer. -/
structure SameView (ring next : PersistentKeyring E) (signerId : String) : Prop where
  status : ∀ nowMs, next.statusAt signerId nowMs = ring.statusAt signerId nowMs
  candidates : ∀ nowMs, next.lookupCandidates nowMs signerId = ring.lookupCandidates nowMs signerId
  retired : ∀ nowMs, next.lookupRetired nowMs signerId = ring.lookupRetired nowMs signerId

variable {ring next : PersistentKeyring E} {op : Op E} {signerId : String} {nowMs : UInt64}

theorem SameView.of_keys (keys : next.keys[signerId]? = ring.keys[signerId]?)
    (flag : next.quarantined = ring.quarantined) : SameView ring next signerId := by
  have versions : next.versions signerId = ring.versions signerId := by
    rw [PersistentKeyring.versions, PersistentKeyring.versions, keys]
  constructor
  · intro nowMs
    rw [statusAt, statusAt, keys, flag]
  · intro nowMs
    rw [lookupCandidates, lookupCandidates, versions, flag]
  · intro nowMs
    rw [lookupRetired, lookupRetired, versions, flag]

/-- The flag of the keyring after an operation that went through. -/
def Op.flag (op : Op E) (before : Bool) : Bool :=
  match op with
  | .quarantine _ => true
  | .releaseQuarantine _ => false
  | _ => before

/-- What an operation that went through can have changed: the entry of its own signer, or the flag. -/
inductive Effect (ring : PersistentKeyring E) (op : Op E) : PersistentKeyring E → Prop
  | wrote (versions : List (KeyVersion E)) (keepsFlag : op.flag ring.quarantined = ring.quarantined)
      (reads : ∀ target, op ≠ .quarantine target ∧ op ≠ .releaseQuarantine target) :
      Effect ring op (InPlace.put ring op.signerId versions)
  | turned : Effect ring op { ring with quarantined := op.flag ring.quarantined }

theorem effect_of_apply (applied : apply ring op = .ok next) : Effect ring op next := by
  cases op with
  | insertPrivate target key =>
      obtain ⟨-, -, rfl⟩ := insertVersion_ok applied
      exact .wrote _ rfl (by simp)
  | insertPublic target key =>
      obtain ⟨-, -, rfl⟩ := insertVersion_ok applied
      exact .wrote _ rfl (by simp)
  | revoke target =>
      obtain ⟨list, -, rfl⟩ := revoke_ok applied
      exact .wrote _ rfl (by simp)
  | rotate target newPrivate nowMs =>
      obtain ⟨-, rfl⟩ := rotate_ok.mp applied
      exact .wrote _ rfl (by simp)
  | quarantine target =>
      obtain ⟨answer, answered, rfl⟩ := Except.map_eq_ok.mp applied
      unfold quarantine at answered
      split at answered
      · cases answered
        exact .turned
      · cases answered
  | releaseQuarantine target =>
      obtain ⟨answer, answered, rfl⟩ := Except.map_eq_ok.mp applied
      unfold releaseQuarantine at answered
      split at answered
      · cases answered
        exact .turned
      · cases answered

namespace Effect

theorem flag (effect : Effect ring op next) : next.quarantined = op.flag ring.quarantined := by
  cases effect with
  | wrote versions keepsFlag => exact keepsFlag.symm
  | turned => rfl

theorem others (effect : Effect ring op next) {other : String} (apart : other ≠ op.signerId) :
    next.keys[other]? = ring.keys[other]? := by
  cases effect with
  | wrote versions =>
      rw [InPlace.put, Std.ExtTreeMap.getElem?_insert, if_neg]
      rw [Std.compare_eq_iff_eq]
      exact apart.symm
  | turned => rfl

theorem keys_of_turn (effect : Effect ring op next) {target : String}
    (turns : op = .quarantine target ∨ op = .releaseQuarantine target) : next.keys = ring.keys := by
  cases effect with
  | wrote versions keepsFlag reads => exact absurd turns (not_or.mpr (reads target))
  | turned => rfl

end Effect

/-- Another signer can only be touched through the flag. -/
theorem step_sameView {other : String} (apart : other ≠ op.signerId)
    (flag : (step ring op).quarantined = ring.quarantined) : SameView ring (step ring op) other := by
  apply SameView.of_keys _ flag
  unfold step
  cases applied : apply ring op with
  | error fault => rfl
  | ok next => exact (effect_of_apply applied).others apart

theorem operate_flag {done : Unit} (answered : (InPlace.operate ring op).1 = .ok done) :
    (InPlace.operate ring op).2.quarantined = op.flag ring.quarantined := by
  rw [InPlace.operate_eq] at *
  cases applied : apply ring op with
  | error fault =>
      rw [applied] at answered
      cases answered
  | ok next => exact (effect_of_apply applied).flag

/-! ### What the directory offers -/

theorem lookups_of_quarantined (quarantined : ring.quarantined = true) :
    ring.lookupCandidates nowMs signerId = [] ∧ ring.lookupRetired nowMs signerId = [] ∧
      ring.statusAt signerId nowMs ≠ .active := by
  refine ⟨?_, ?_, ?_⟩
  · rw [lookupCandidates, if_pos quarantined]
  · rw [lookupRetired, if_pos quarantined]
  · unfold statusAt
    cases ring.keys[signerId]? with
    | none => simp
    | some versions => simp [quarantined]

/-- Every version is offered or retired, none both. -/
theorem lookups_perm (free : ring.quarantined = false) :
    (ring.lookupCandidates nowMs signerId ++ ring.lookupRetired nowMs signerId).Perm
      ((ring.versions signerId).map (·.publicKey)) := by
  simp only [lookupCandidates, lookupRetired, free, Bool.false_eq_true, if_false]
  rw [← List.map_append]
  exact (List.filter_append_perm _ _).map _

theorem active_iff_candidate (free : ring.quarantined = false) :
    ring.statusAt signerId nowMs = .active ↔ ring.lookupCandidates nowMs signerId ≠ [] := by
  simp only [statusAt, lookupCandidates, versions, free, Bool.false_eq_true, if_false]
  cases ring.keys[signerId]? with
  | none => simp
  | some list =>
      simp only [Option.getD_some, ne_eq, List.map_eq_nil_iff, List.filter_eq_nil_iff]
      cases offered : list.any (versionIsValid · nowMs) with
      | true =>
          obtain ⟨version, listed, valid⟩ := List.any_eq_true.mp offered
          simp only [if_true, true_iff]
          exact fun none => none version listed valid
      | false =>
          have none := List.any_eq_false.mp offered
          simp only [Bool.false_eq_true, if_false, reduceCtorEq, false_iff, not_not]
          exact none

/-- After any operations on a new keyring: an operation touches the view of another signer only by setting
or clearing the flag of the keyring, which leaves all key versions alone; without the flag the offered and
the retired keys are the keys of the signer, each once, and with it nobody has any; and an operation that
answers an error has changed nothing. -/
theorem operations_touch_only_their_signer {platform : Platform} {path : String} {protection : KeyProtection}
    {plaintextPolicy : PlaintextPolicy} {start : PersistentKeyring E}
    (created : PersistentKeyring.new platform path protection plaintextPolicy = .ok start)
    (ops : List (Op E)) (op : Op E) :
    let ring := run start ops
    let next := (InPlace.operate ring op).2
    (∀ other, other ≠ op.signerId → next.quarantined = ring.quarantined → SameView ring next other) ∧
    (∀ done, (InPlace.operate ring op).1 = .ok done → next.quarantined = op.flag ring.quarantined) ∧
    (∀ target, op = .quarantine target ∨ op = .releaseQuarantine target → next.keys = ring.keys) ∧
    (ring.quarantined = false → ∀ signerId nowMs,
      (ring.lookupCandidates nowMs signerId ++ ring.lookupRetired nowMs signerId).Perm
        ((ring.versions signerId).map (·.publicKey)) ∧
      (ring.lookupCandidates nowMs signerId ++ ring.lookupRetired nowMs signerId).Nodup ∧
      (ring.statusAt signerId nowMs = .active ↔ ring.lookupCandidates nowMs signerId ≠ [])) ∧
    (ring.quarantined = true → ∀ signerId nowMs, ring.lookupCandidates nowMs signerId = [] ∧
      ring.lookupRetired nowMs signerId = [] ∧ ring.statusAt signerId nowMs ≠ .active) ∧
    ∀ fault, (InPlace.operate ring op).1 = .error fault → next = ring := by
  intro ring next
  have after : next = step ring op := InPlace.operate_step ring op
  refine ⟨?_, ?_, ?_, ?_, ?_, ?_⟩
  · intro other apart flag
    rw [after] at flag ⊢
    exact step_sameView apart flag
  · intro done answered
    exact operate_flag answered
  · intro target turns
    rw [after, step]
    cases applied : apply ring op with
    | error fault => rfl
    | ok changed => exact (effect_of_apply applied).keys_of_turn turns
  · intro free signerId nowMs
    have same : (ring.lookupCandidates nowMs signerId ++ ring.lookupRetired nowMs signerId).Perm _ := lookups_perm free
    have distinct := run_distinctKeys start (by rw [(new_ok created).2]) ops signerId
    exact ⟨same, same.nodup_iff.mpr distinct, active_iff_candidate free⟩
  · intro quarantined signerId nowMs
    exact lookups_of_quarantined quarantined
  · intro fault refused
    exact InPlace.operate_error refused

def twoSigners : List (Op sampleEd25519) :=
  [.insertPrivate "node-a" sampleFirst, .insertPrivate "node-b" sampleSecond]

/-- The quarantine of one signer is that of the other. -/
theorem quarantine_reaches_the_other_signer :
    PersistentKeyring.new .linux "keyring" .k1OsProtected .reject = .ok rotatedTwiceStart ∧
    ¬ SameView (run rotatedTwiceStart twoSigners) (step (run rotatedTwiceStart twoSigners) (.quarantine "node-a"))
      "node-b" := by
  refine ⟨rfl, fun same => ?_⟩
  exact absurd (same.status 1000) (by decide)

theorem two_signers_touch_only_their_own :
    SameView (run rotatedTwiceStart twoSigners)
      (InPlace.operate (run rotatedTwiceStart twoSigners) (.revoke "node-a")).2 "node-b" :=
  (operations_touch_only_their_signer
    (show PersistentKeyring.new .linux "keyring" .k1OsProtected .reject = .ok rotatedTwiceStart from rfl)
    twoSigners (.revoke "node-a")).1 "node-b" (by decide) (by decide)

end Gputeer.Keyring
