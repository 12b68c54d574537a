import Gputeer.Lib.Bytes

/-! Frames on a byte stream: a type byte, the length of the body in four bytes, the body. The verifier of
the bodies is whatever the caller has: it never sees the stream. -/

namespace Gputeer.Crypto

inductive FrameType
  | manifest
  | grant
  | lease
  | leaseRenew
  | leaseRevoke
  | attemptReport
  | checkpoint
  | artifact
  | replicaAck
  | grantAck
  | leaseRenewResult
  | sessionHello
  | leaseResume
  | leaseResumeResult
  | nodeHeartbeat
  | neighborUnreachableReport
  | attemptReportAck
  | grantAckReceipt
  deriving DecidableEq, Repr

namespace FrameType

def toU8 : FrameType → UInt8
  | manifest => 1
  | grant => 2
  | lease => 3
  | leaseRenew => 4
  | leaseRevoke => 5
  | attemptReport => 6
  | checkpoint => 7
  | artifact => 8
  | replicaAck => 9
  | grantAck => 10
  | leaseRenewResult => 11
  | sessionHello => 12
  | leaseResume => 13
  | leaseResumeResult => 14
  | nodeHeartbeat => 15
  | neighborUnreachableReport => 16
  | attemptReportAck => 17
  | grantAckReceipt => 18

def fromU8 (v : UInt8) : Option FrameType :=
  match v with
  | 1 => some manifest
  | 2 => some grant
  | 3 => some lease
  | 4 => some leaseRenew
  | 5 => some leaseRevoke
  | 6 => some attemptReport
  | 7 => some checkpoint
  | 8 => some artifact
  | 9 => some replicaAck
  | 10 => some grantAck
  | 11 => some leaseRenewResult
  | 12 => some sessionHello
  | 13 => some leaseResume
  | 14 => some leaseResumeResult
  | 15 => some nodeHeartbeat
  | 16 => some neighborUnreachableReport
  | 17 => some attemptReportAck
  | 18 => some grantAckReceipt
  | _ => none

@[simp] theorem fromU8_toU8 (frameType : FrameType) : fromU8 frameType.toU8 = some frameType := by
  cases frameType <;> rfl

end FrameType

def maxIngressFrameBytes : UInt32 := 8 * 1024 * 1024

inductive FramingError (IngressError IoError : Type)
  | truncated
  | frameTooLarge (claimed max : UInt32)
  | unknownFrameType (tag : UInt8)
  | verify (fault : IngressError)
  | io (fault : IoError)
  deriving DecidableEq, Repr

/-- The bytes a reader still has before it, and the fault that stands behind them if they do not simply end. -/
structure Stream (IoError : Type) where
  bytes : List UInt8
  fault : Option IoError

/-- A message of the type that its frame named. -/
abbrev IngressMessage (Verified : FrameType → Type) := (frameType : FrameType) × Verified frameType

/-- What a call on the stream answers. -/
abbrev Answer (IngressError IoError : Type) (Verified : FrameType → Type) :=
  Except (FramingError IngressError IoError) (IngressMessage Verified)

/-- What is called on a body: the schema version and the keys are fixed in it, the replay guard and the
clock are its state. -/
abbrev DecodeAndVerify (Guard IngressError : Type) (Verified : FrameType → Type) :=
  (frameType : FrameType) → List UInt8 → Guard → Except IngressError (Verified frameType) × Guard

variable {Guard IngressError IoError : Type} {Verified : FrameType → Type}

def readExactOrTruncated (count : Nat) (stream : Stream IoError) :
    Except (FramingError IngressError IoError) (List UInt8) × Stream IoError :=
  if count ≤ stream.bytes.length then
    (.ok (stream.bytes.take count), { stream with bytes := stream.bytes.drop count })
  else
    (.error (stream.fault.elim .truncated .io), { stream with bytes := [] })

def claimedLength (header : List UInt8) : UInt32 := UInt32.ofNat (Bytes.beNat (header.drop 1))

def verifyAs (decodeAndVerify : DecodeAndVerify Guard IngressError Verified) (frameType : FrameType)
    (body : List UInt8) (guard : Guard) :
    Answer IngressError IoError Verified × Guard :=
  let (answer, guard) := decodeAndVerify frameType body guard
  ((answer.map fun verified => ⟨frameType, verified⟩).mapError .verify, guard)

/-- The answer of one call, and the stream and the guard after it. -/
structure FrameRead (Guard IngressError IoError : Type) (Verified : FrameType → Type) where
  answer : Answer IngressError IoError Verified
  stream : Stream IoError
  guard : Guard

def readFrame (decodeAndVerify : DecodeAndVerify Guard IngressError Verified) (stream : Stream IoError)
    (guard : Guard) : FrameRead Guard IngressError IoError Verified :=
  match readExactOrTruncated 5 stream with
  | (.error fault, stream) => ⟨.error fault, stream, guard⟩
  | (.ok header, stream) =>
      let claimed := claimedLength header
      if maxIngressFrameBytes < claimed then
        ⟨.error (.frameTooLarge claimed maxIngressFrameBytes), stream, guard⟩
      else
        let tag := header.headD 0
        match FrameType.fromU8 tag with
        | none =>
            match readExactOrTruncated claimed.toNat stream with
            | (.error fault, stream) => ⟨.error fault, stream, guard⟩
            | (.ok _, stream) => ⟨.error (.unknownFrameType tag), stream, guard⟩
        | some frameType =>
            match readExactOrTruncated claimed.toNat stream with
            | (.error fault, stream) => ⟨.error fault, stream, guard⟩
            | (.ok body, stream) =>
                let (answer, guard) := verifyAs decodeAndVerify frameType body guard
                ⟨answer, stream, guard⟩

/-- A frame as it stands on the stream. -/
def layout (tag : UInt8) (length : UInt32) (body : List UInt8) : List UInt8 :=
  tag :: Bytes.beBytes 4 length.toNat ++ body

/-- The length that a body has in a 32-bit word, or the largest word for a body that is too long for it. -/
def lengthWord (body : List UInt8) : UInt32 :=
  if body.length < 2 ^ 32 then UInt32.ofNat body.length else UInt32.ofNat (2 ^ 32 - 1)

def writeFrame (frameType : FrameType) (body : List UInt8) :
    Except (FramingError IngressError IoError) (List UInt8) :=
  if body.length < 2 ^ 32 then
    let length := UInt32.ofNat body.length
    if maxIngressFrameBytes < length then .error (.frameTooLarge length maxIngressFrameBytes)
    else .ok (layout frameType.toU8 length body)
  else .error (.frameTooLarge (UInt32.ofNat (2 ^ 32 - 1)) maxIngressFrameBytes)

/-! ### What one call does -/

section Header

variable {stream : Stream IoError} {count : Nat}

theorem readExact_append {taken rest : List UInt8} {fault : Option IoError} (exact : taken.length = count) :
    (readExactOrTruncated count ⟨taken ++ rest, fault⟩ :
      Except (FramingError IngressError IoError) (List UInt8) × Stream IoError) = (.ok taken, ⟨rest, fault⟩) := by
  subst exact
  simp [readExactOrTruncated]

theorem readExact_short (short : stream.bytes.length < count) :
    (readExactOrTruncated count stream : Except (FramingError IngressError IoError) (List UInt8) × Stream IoError) =
      (.error (stream.fault.elim .truncated .io), { stream with bytes := [] }) := by
  rw [readExactOrTruncated, if_neg (by omega)]

theorem claimedLength_layout (tag : UInt8) (length : UInt32) :
    claimedLength (tag :: Bytes.beBytes 4 length.toNat) = length := by
  have fits : length.toNat < 256 ^ 4 := length.toNat_lt
  rw [claimedLength, List.drop_one, List.tail_cons, Bytes.beNat_beBytes fits, UInt32.ofNat_toNat]

end Header

variable {decodeAndVerify : DecodeAndVerify Guard IngressError Verified} {guard : Guard} {stream : Stream IoError}

/-- The answer to a body that was read whole. -/
def answerTo (decodeAndVerify : DecodeAndVerify Guard IngressError Verified) (tag : UInt8) (body : List UInt8)
    (guard : Guard) : Answer IngressError IoError Verified × Guard :=
  match FrameType.fromU8 tag with
  | none => (.error (.unknownFrameType tag), guard)
  | some frameType => verifyAs decodeAndVerify frameType body guard

theorem readFrame_short_header (short : stream.bytes.length < 5) :
    readFrame decodeAndVerify stream guard =
      ⟨.error (stream.fault.elim .truncated .io), { stream with bytes := [] }, guard⟩ := by
  rw [readFrame, readExact_short short]

section Layout

variable {tag : UInt8} {length : UInt32} {after : List UInt8} {fault : Option IoError}

theorem readHeader_layout :
    (readExactOrTruncated 5 ⟨layout tag length after, fault⟩ :
      Except (FramingError IngressError IoError) (List UInt8) × Stream IoError) =
      (.ok (tag :: Bytes.beBytes 4 length.toNat), ⟨after, fault⟩) := by
  apply readExact_append
  rw [List.length_cons, Bytes.length_beBytes]

theorem readFrame_too_large (large : maxIngressFrameBytes < length) :
    readFrame decodeAndVerify ⟨layout tag length after, fault⟩ guard =
      ⟨.error (.frameTooLarge length maxIngressFrameBytes), ⟨after, fault⟩, guard⟩ := by
  simp only [readFrame, readHeader_layout, claimedLength_layout, if_pos large]

/-- Both ways through the type byte read the same bytes. -/
theorem readFrame_whole (fits : ¬ maxIngressFrameBytes < length) {body rest : List UInt8}
    (whole : body.length = length.toNat)
    {answer : Answer IngressError IoError Verified} {later : Guard}
    (answered : answerTo decodeAndVerify tag body guard = (answer, later)) :
    readFrame decodeAndVerify ⟨layout tag length (body ++ rest), fault⟩ guard = ⟨answer, ⟨rest, fault⟩, later⟩ := by
  simp only [readFrame, readHeader_layout, claimedLength_layout, if_neg fits, List.headD_cons]
  unfold answerTo at answered
  cases named : FrameType.fromU8 tag with
  | none =>
      rw [named] at answered
      cases answered
      simp only [readExact_append whole]
  | some frameType =>
      rw [named] at answered
      simp only at answered
      simp only [readExact_append whole, answered]

theorem readFrame_short_body (fits : ¬ maxIngressFrameBytes < length) (short : after.length < length.toNat) :
    readFrame decodeAndVerify ⟨layout tag length after, fault⟩ guard =
      ⟨.error (fault.elim .truncated .io), ⟨[], fault⟩, guard⟩ := by
  have body : (⟨after, fault⟩ : Stream IoError).bytes.length < length.toNat := short
  simp only [readFrame, readHeader_layout, claimedLength_layout, if_neg fits, List.headD_cons]
  cases FrameType.fromU8 tag with
  | none => simp only [readExact_short body]
  | some frameType => simp only [readExact_short body]

end Layout

/-! ### Streams of frames -/

/-- A frame that may stand on a stream, with any type byte. -/
structure Frame where
  tag : UInt8
  body : List UInt8
  fits : body.length ≤ maxIngressFrameBytes.toNat

namespace Frame

def length (frame : Frame) : UInt32 := UInt32.ofNat frame.body.length

def bytes (frame : Frame) : List UInt8 := layout frame.tag frame.length frame.body

variable (frame : Frame)

theorem toNat_length : frame.length.toNat = frame.body.length := by
  have below : frame.body.length < 2 ^ 32 := Nat.lt_of_le_of_lt frame.fits (by decide)
  rw [length, UInt32.toNat_ofNat', Nat.mod_eq_of_lt below]

theorem not_too_large : ¬ maxIngressFrameBytes < frame.length := by
  rw [UInt32.lt_iff_toNat_lt, toNat_length]
  exact Nat.not_lt.mpr frame.fits

theorem bytes_append (rest : List UInt8) : frame.bytes ++ rest = layout frame.tag frame.length (frame.body ++ rest) := by
  simp [bytes, layout]

end Frame

/-- Successive calls on one stream. -/
def readFrames (decodeAndVerify : DecodeAndVerify Guard IngressError Verified) :
    Nat → Stream IoError → Guard →
      List (Answer IngressError IoError Verified) × Stream IoError × Guard
  | 0, stream, guard => ([], stream, guard)
  | count + 1, stream, guard =>
      let first := readFrame decodeAndVerify stream guard
      let (answers, stream, guard) := readFrames decodeAndVerify count first.stream first.guard
      (first.answer :: answers, stream, guard)

/-- What the frames are answered, one by one, with no stream in sight. -/
def answersTo (decodeAndVerify : DecodeAndVerify Guard IngressError Verified) :
    List Frame → Guard → List (Answer IngressError IoError Verified) × Guard
  | [], guard => ([], guard)
  | frame :: frames, guard =>
      let (answer, guard) := answerTo decodeAndVerify frame.tag frame.body guard
      let (answers, guard) := answersTo decodeAndVerify frames guard
      (answer :: answers, guard)

variable {fault : Option IoError}

theorem readFrame_frame (frame : Frame) (rest : List UInt8)
    {answer : Answer IngressError IoError Verified} {later : Guard}
    (answered : answerTo decodeAndVerify frame.tag frame.body guard = (answer, later)) :
    readFrame decodeAndVerify ⟨frame.bytes ++ rest, fault⟩ guard = ⟨answer, ⟨rest, fault⟩, later⟩ := by
  rw [frame.bytes_append]
  exact readFrame_whole frame.not_too_large frame.toNat_length.symm answered

/-- One call for each frame: the stream stands after the last of them. -/
theorem readFrames_frames (frames : List Frame) (rest : List UInt8)
    {answers : List (Answer IngressError IoError Verified)} {later : Guard}
    (answered : answersTo decodeAndVerify frames guard = (answers, later)) :
    readFrames decodeAndVerify frames.length ⟨frames.flatMap Frame.bytes ++ rest, fault⟩ guard =
      (answers, ⟨rest, fault⟩, later) := by
  induction frames generalizing guard answers with
  | nil =>
      cases answered
      rfl
  | cons frame frames ih =>
      unfold answersTo at answered
      rcases one : (answerTo decodeAndVerify frame.tag frame.body guard :
        Answer IngressError IoError Verified × Guard) with ⟨answer, between⟩
      rcases more : (answersTo decodeAndVerify frames between :
        List (Answer IngressError IoError Verified) × Guard) with ⟨others, last⟩
      simp only [one, more] at answered
      cases answered
      rw [List.flatMap_cons, List.append_assoc, List.length_cons]
      simp only [readFrames, readFrame_frame frame _ one, ih more]

/-- The calls go on from where the ones before them stopped. -/
theorem readFrames_add {count more : Nat} :
    (readFrames decodeAndVerify (count + more) stream guard :
      List (Answer IngressError IoError Verified) × Stream IoError × Guard) =
      let first := readFrames decodeAndVerify count stream guard
      let second := readFrames decodeAndVerify more first.2.1 first.2.2
      (first.1 ++ second.1, second.2) := by
  induction count generalizing stream guard with
  | zero => simp [readFrames]
  | succ count ih =>
      rw [Nat.succ_add_eq_add_succ, Nat.add_succ, readFrames]
      simp only [ih]
      rfl

/-! ### Frames that are too large, and streams that end too early -/

theorem exists_layout {bytes : List UInt8} (enough : 5 ≤ bytes.length) :
    ∃ tag, bytes = layout tag (claimedLength (bytes.take 5)) (bytes.drop 5) := by
  match bytes, enough with
  | tag :: rest, enough =>
      refine ⟨tag, ?_⟩
      have four : (rest.take 4).length = 4 := by
        rw [List.length_take, List.length_cons] at *
        omega
      have below : Bytes.beNat (rest.take 4) < 2 ^ 32 := by
        have bound := Bytes.leNat_lt (rest.take 4).reverse
        rw [List.length_reverse, four] at bound
        exact bound
      have length : (claimedLength ((tag :: rest).take 5)).toNat = Bytes.beNat (rest.take 4) := by
        rw [claimedLength, UInt32.toNat_ofNat']
        exact Nat.mod_eq_of_lt below
      have written := Bytes.beBytes_beNat (rest.take 4)
      rw [four] at written
      rw [layout, length, written, List.cons_append, List.drop_succ_cons, List.take_append_drop]

/-- A body that is read is never called too large. -/
theorem answerTo_ne_too_large {tag : UInt8} {body : List UInt8}
    {answer : Answer IngressError IoError Verified} {later : Guard}
    (answered : answerTo decodeAndVerify tag body guard = (answer, later)) {claimed max : UInt32} :
    answer ≠ .error (.frameTooLarge claimed max) := by
  rintro rfl
  unfold answerTo at answered
  split at answered
  · cases answered
  · unfold verifyAs at answered
    split at answered
    rename_i verdict state verified
    cases verdict <;> cases answered

theorem ended_ne_too_large {fault : Option IoError} {claimed max : UInt32} :
    fault.elim (.truncated : FramingError IngressError IoError) .io ≠ .frameTooLarge claimed max := by
  cases fault <;> simp

theorem readFrame_too_large_iff {claimed max : UInt32} :
    (readFrame decodeAndVerify stream guard).answer = .error (.frameTooLarge claimed max) ↔
      5 ≤ stream.bytes.length ∧ maxIngressFrameBytes < claimedLength (stream.bytes.take 5) ∧
        claimed = claimedLength (stream.bytes.take 5) ∧ max = maxIngressFrameBytes := by
  obtain ⟨bytes, fault⟩ := stream
  by_cases enough : 5 ≤ bytes.length
  · obtain ⟨tag, laid⟩ := exists_layout enough
    generalize claimedLength (bytes.take 5) = length at laid ⊢
    generalize bytes.drop 5 = after at laid
    subst laid
    by_cases large : maxIngressFrameBytes < length
    · simp [readFrame_too_large large, enough, large, eq_comm]
    · have never : (readFrame decodeAndVerify ⟨layout tag length after, fault⟩ guard).answer ≠
          .error (.frameTooLarge claimed max) := by
        by_cases short : after.length < length.toNat
        · rw [readFrame_short_body large short]
          intro same
          exact ended_ne_too_large (Except.error.inj same)
        · rcases answered : (answerTo decodeAndVerify tag (after.take length.toNat) guard :
            Answer IngressError IoError Verified × Guard) with ⟨answer, later⟩
          have whole : (after.take length.toNat).length = length.toNat := by
            rw [List.length_take]
            omega
          have read : readFrame decodeAndVerify ⟨layout tag length (after.take length.toNat ++
              after.drop length.toNat), fault⟩ guard = ⟨answer, ⟨after.drop length.toNat, fault⟩, later⟩ :=
            readFrame_whole large whole answered
          rw [List.take_append_drop] at read
          rw [read]
          exact answerTo_ne_too_large answered
      simp [never, large]
  · have short : bytes.length < 5 := Nat.not_le.mp enough
    rw [readFrame_short_header short]
    simp only [Except.error.injEq, ended_ne_too_large, enough, false_and]

theorem readFrame_stops_after_header {claimed max : UInt32}
    (large : (readFrame decodeAndVerify stream guard).answer = .error (.frameTooLarge claimed max)) :
    (readFrame decodeAndVerify stream guard).stream = { stream with bytes := stream.bytes.drop 5 } ∧
      (readFrame decodeAndVerify stream guard).guard = guard := by
  obtain ⟨enough, above, -, -⟩ := readFrame_too_large_iff.mp large
  obtain ⟨tag, laid⟩ := exists_layout enough
  obtain ⟨bytes, fault⟩ := stream
  simp only at laid above ⊢
  rw [laid, readFrame_too_large above, ← laid]
  exact ⟨rfl, rfl⟩

theorem readFrame_truncated (frame : Frame) {count : Nat} (inside : count < frame.bytes.length) :
    readFrame decodeAndVerify (⟨frame.bytes.take count, none⟩ : Stream IoError) guard =
      ⟨.error .truncated, ⟨[], none⟩, guard⟩ := by
  by_cases header : count < 5
  · rw [readFrame_short_header]
    · rfl
    · exact Nat.lt_of_le_of_lt (List.length_take_le _ _) header
  · have cut : frame.bytes.take count = layout frame.tag frame.length (frame.body.take (count - 5)) := by
      have size : (frame.tag :: Bytes.beBytes 4 frame.length.toNat).length = 5 := by simp
      rw [Frame.bytes, layout, layout, List.take_append, size, List.take_of_length_le (by omega)]
    rw [cut, readFrame_short_body frame.not_too_large]
    · rfl
    · have size : frame.bytes.length = 5 + frame.body.length := by
        simp [Frame.bytes, layout]
        omega
      rw [frame.toNat_length, List.length_take]
      omega

/-! ### The writer -/

theorem writeFrame_eq_ok {frameType : FrameType} {body out : List UInt8} :
    (writeFrame frameType body : Except (FramingError IngressError IoError) (List UInt8)) = .ok out ↔
      body.length ≤ maxIngressFrameBytes.toNat ∧ out = layout frameType.toU8 (lengthWord body) body := by
  unfold writeFrame lengthWord
  by_cases short : body.length < 2 ^ 32
  · have length : (UInt32.ofNat body.length).toNat = body.length := by
      rw [UInt32.toNat_ofNat', Nat.mod_eq_of_lt short]
    rw [if_pos short, if_pos short]
    by_cases large : maxIngressFrameBytes < UInt32.ofNat body.length
    · have above := UInt32.lt_iff_toNat_lt.mp large
      rw [length] at above
      simp [large, Nat.not_le.mpr above]
    · have within : body.length ≤ maxIngressFrameBytes.toNat := by
        rw [UInt32.lt_iff_toNat_lt, length] at large
        exact Nat.not_lt.mp large
      simp [large, within, eq_comm]
  · have above : ¬ body.length ≤ maxIngressFrameBytes.toNat := by
      have bound : maxIngressFrameBytes.toNat < 2 ^ 32 := by decide
      omega
    rw [if_neg short]
    simp [above]

theorem too_large_lengthWord {body : List UInt8} :
    maxIngressFrameBytes < lengthWord body ↔ maxIngressFrameBytes.toNat < body.length := by
  have bound : maxIngressFrameBytes.toNat < 2 ^ 32 - 1 := by decide
  unfold lengthWord
  split
  · rename_i short
    rw [UInt32.lt_iff_toNat_lt, UInt32.toNat_ofNat', Nat.mod_eq_of_lt short]
  · rename_i long
    rw [UInt32.lt_iff_toNat_lt, UInt32.toNat_ofNat', Nat.mod_eq_of_lt (by decide)]
    omega

/-- A writer that did not look at the length would write this: it fails exactly when the reader would call
that too large. -/
theorem writeFrame_fails_iff {frameType : FrameType} {body rest : List UInt8} {fault : Option IoError} :
    (∀ out, (writeFrame frameType body : Except (FramingError IngressError IoError) (List UInt8)) ≠ .ok out) ↔
      ∃ claimed max, (readFrame decodeAndVerify
        ⟨layout frameType.toU8 (lengthWord body) (body ++ rest), fault⟩ guard).answer =
          .error (.frameTooLarge claimed max) := by
  constructor
  · intro fails
    have above : maxIngressFrameBytes < lengthWord body := by
      rw [too_large_lengthWord]
      by_contra within
      exact fails _ (writeFrame_eq_ok.mpr ⟨Nat.not_lt.mp within, rfl⟩)
    rw [readFrame_too_large above]
    exact ⟨_, _, rfl⟩
  · rintro ⟨claimed, max, called⟩ out written
    obtain ⟨within, -⟩ := writeFrame_eq_ok.mp written
    obtain ⟨-, above, -, -⟩ := readFrame_too_large_iff.mp called
    have header : (layout frameType.toU8 (lengthWord body) (body ++ rest)).take 5 =
        frameType.toU8 :: Bytes.beBytes 4 (lengthWord body).toNat := by
      rw [layout, List.take_left']
      simp
    rw [header, claimedLength_layout, too_large_lengthWord] at above
    omega

/-- Whatever the calls answer, each takes exactly one frame; only a length above the limit is called too
large, with nothing but the header read; the writer keeps the same limit; and a stream that ends inside a
frame is called truncated. -/
theorem framing_stays_in_step (decodeAndVerify : DecodeAndVerify Guard IngressError Verified) (guard : Guard) :
    (∀ (done todo : List Frame) (rest : List UInt8) (fault : Option IoError),
      let expected : List (Answer IngressError IoError Verified) × Guard := answersTo decodeAndVerify done guard
      readFrames decodeAndVerify done.length ⟨(done ++ todo).flatMap Frame.bytes ++ rest, fault⟩ guard =
        (expected.1, ⟨todo.flatMap Frame.bytes ++ rest, fault⟩, expected.2)) ∧
    (∀ (stream : Stream IoError) (claimed max : UInt32),
      ((readFrame decodeAndVerify stream guard).answer = .error (.frameTooLarge claimed max) ↔
        5 ≤ stream.bytes.length ∧ maxIngressFrameBytes < claimedLength (stream.bytes.take 5) ∧
          claimed = claimedLength (stream.bytes.take 5) ∧ max = maxIngressFrameBytes) ∧
      ((readFrame decodeAndVerify stream guard).answer = .error (.frameTooLarge claimed max) →
        (readFrame decodeAndVerify stream guard).stream = { stream with bytes := stream.bytes.drop 5 })) ∧
    (∀ (frameType : FrameType) (body rest : List UInt8) (fault : Option IoError),
      ((∀ out, (writeFrame frameType body : Except (FramingError IngressError IoError) (List UInt8)) ≠ .ok out) ↔
        ∃ claimed max, (readFrame decodeAndVerify
          ⟨layout frameType.toU8 (lengthWord body) (body ++ rest), fault⟩ guard).answer =
            .error (.frameTooLarge claimed max)) ∧
      ∀ out, (writeFrame frameType body : Except (FramingError IngressError IoError) (List UInt8)) = .ok out →
        out = layout frameType.toU8 (UInt32.ofNat body.length) body) ∧
    (∀ (frames : List Frame) (frame : Frame) (count : Nat), count < frame.bytes.length →
      let expected : List (Answer IngressError IoError Verified) × Guard := answersTo decodeAndVerify frames guard
      readFrames decodeAndVerify (frames.length + 1)
          ⟨frames.flatMap Frame.bytes ++ frame.bytes.take count, none⟩ guard =
        (expected.1 ++ [.error .truncated], ⟨[], none⟩, expected.2)) := by
  refine ⟨?_, ?_, ?_, ?_⟩
  · intro done todo rest fault expected
    rw [List.flatMap_append, List.append_assoc]
    exact readFrames_frames done _ rfl
  · intro stream claimed max
    exact ⟨readFrame_too_large_iff, fun large => (readFrame_stops_after_header large).1⟩
  · intro frameType body rest fault
    refine ⟨writeFrame_fails_iff, ?_⟩
    intro out written
    obtain ⟨within, rfl⟩ := writeFrame_eq_ok.mp written
    have short : body.length < 2 ^ 32 := Nat.lt_of_le_of_lt within (by decide)
    rw [lengthWord, if_pos short]
  · intro frames frame count inside expected
    rw [readFrames_add, readFrames_frames frames (frame.bytes.take count) rfl]
    simp only [readFrames, readFrame_truncated frame inside]
    rfl

def countCalls : DecodeAndVerify Nat Unit fun _ => List UInt8 := fun _ body count => (.ok body, count + 1)

def unknownFrame : Frame := ⟨77, [9], by decide⟩

def leaseFrame : Frame := ⟨3, [5, 6], by decide⟩

def manifestFrame : Frame := ⟨1, [8, 8, 8], by decide⟩

/-- One of two bodies is verified, and the third frame is cut off. -/
theorem unknown_verified_truncated :
    readFrames countCalls 3
        (⟨[unknownFrame, leaseFrame].flatMap Frame.bytes ++ manifestFrame.bytes.take 6, none⟩ : Stream Unit) 0 =
      ([.error (.unknownFrameType 77), .ok ⟨.lease, [5, 6]⟩, .error .truncated], ⟨[], none⟩, 1) :=
  (framing_stays_in_step countCalls 0).2.2.2 [unknownFrame, leaseFrame] manifestFrame 6 (by decide)

end Gputeer.Crypto
