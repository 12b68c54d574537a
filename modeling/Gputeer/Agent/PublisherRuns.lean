import Gputeer.Lib.Lists
import Gputeer.Agent.PublisherSteps

/-! Whole runs of the publisher, with folders that appear at any time and reads and writes that fail at any time. -/

namespace Gputeer.CheckpointPublisher

open Text

/-- The number that a folder has by its name. -/
def stepNumber (name : String) : Option Nat := (stepDigits name).map (decimalFrom 0)

theorem digits_of_stepDigits {name : String} {digits : List Char} (found : stepDigits name = some digits) :
    digits ≠ [] ∧ ∀ c ∈ digits, c.isDigit = true := by
  unfold stepDigits at found
  split at found
  · dsimp only at found
    split at found
    · cases found
    · next good =>
      rw [not_or, Bool.not_eq_false, List.all_eq_true] at good
      rw [← Option.some.inj found]
      exact good
  · cases found

/-- The publisher knows a folder by its number if that fits 64 bits. -/
theorem stepOf_eq_some {name : String} {number : Nat} :
    stepOf name = some number ↔ stepNumber name = some number ∧ number < 2 ^ 64 := by
  unfold stepOf stepNumber
  cases found : stepDigits name with
  | none => simp
  | some digits =>
      have ⟨some_, all⟩ := digits_of_stepDigits found
      rw [Option.bind_some, parseBelow_eq_some, Option.map_some, Option.some.injEq]
      constructor
      · rintro ⟨read, same | signed, _, _, below, value⟩
        · rw [same, value]
          exact ⟨rfl, value ▸ below⟩
        · rw [signed] at all
          exact absurd (all '+' List.mem_cons_self) (by decide)
      · rintro ⟨rfl, below⟩
        exact ⟨digits, .inl rfl, some_, all, below, rfl⟩

/-- What a reading of the output folder may give: the folders that are there, all of them unless some entry is
unreadable. It is only missing while there are none. -/
structure Lists (folders : List Folder) (listing : Listing) : Prop where
  there : ∀ listed ∈ listedSteps listing, ∃ folder ∈ folders, folder.name = listed.2
  whole : ∀ entries, listing = .ok entries → (∀ entry ∈ entries, entry.isOk = true) →
    ∀ folder ∈ folders, .ok ⟨folder.name, true⟩ ∈ entries
  missing : listing = .error .notFound → folders = []

/-- A folder comes under a name of its own and stays as it is. -/
def Possible (publisher : Publisher) : Event → Prop
  | .appear folder => ∀ other ∈ publisher.folders, other.name ≠ folder.name
  | .scan reads => Lists publisher.folders reads.listing
  | .finish _ => True
  | .lastScan reads => Lists publisher.folders reads.listing
  | .lastListing listing => Lists publisher.folders listing

/-- How a scan that comes now sees the folder of a number, if it looks at one. -/
def looked (publisher : Publisher) (reads : ScanReads) (number : Nat) : Option Fingerprint :=
  ((readySteps (listedSteps reads.listing) publisher.scanner.state.published).find? (·.1 = number)).bind
    (reads.fingerprint ·.2)

/-- How the last scan of the run saw the folder of a number. -/
def LookedInLastScan (ctx : PublishContext) (before : List Event) (number : Nat) (now : Fingerprint) : Prop :=
  ∃ earlier reads between, before = earlier ++ .scan reads :: between ∧ (∀ event ∈ between, ∀ other, event ≠ .scan other) ∧
    looked (run ctx earlier) reads number = some now

/-- Of the folders of a number that is not published, a listing shows all or none. -/
def ShowsWhole (publisher : Publisher) (listing : Listing) : Prop :=
  ∀ listed ∈ listedSteps listing, listed.1 ∉ publisher.scanner.state.published →
    ∀ folder ∈ publisher.folders, stepOf folder.name = some listed.1 → (listed.1, folder.name) ∈ listedSteps listing

/-- A scan that looks at a number again does so right after a scan that looked at it. -/
def KeepsSight (ctx : PublishContext) (before : List Event) (reads : ScanReads) : Prop :=
  ∀ number, (looked (run ctx before) reads number).isSome = true →
    (run ctx before).scanner.state.seen number ≠ none → ∃ now, LookedInLastScan ctx before number now

/-- The number of a new folder fits 64 bits, and if it is published already then with the same files. -/
def FitsPublished (publisher : Publisher) (folder : Folder) : Prop :=
  ∀ number, stepNumber folder.name = some number → number < 2 ^ 64 ∧
    (number ∈ publisher.scanner.state.published → publisher.scanner.store.signed number = some folder.files)

def Meets (ctx : PublishContext) (before : List Event) : Event → Prop
  | .appear folder => FitsPublished (run ctx before) folder
  | .scan reads => ShowsWhole (run ctx before) reads.listing ∧ KeepsSight ctx before reads
  | .finish _ => True
  | .lastScan reads => ShowsWhole (run ctx before) reads.listing
  | .lastListing _ => True

/-- What became of a folder is in the store or in the reports. -/
def Accounted (publisher : Publisher) : Prop :=
  ∀ folder ∈ publisher.folders, ∀ number, stepNumber folder.name = some number →
    publisher.scanner.store.signed number = some folder.files ∨ .lost number ∈ publisher.scanner.printed ∨
      ∃ detail, .lostUnknown detail ∈ publisher.scanner.printed

/-- Each signed manifest restores to the files of a folder of its number. -/
def RestoresFolders (publisher : Publisher) : Prop :=
  ∀ number files, publisher.scanner.store.signed number = some files →
    ∃ folder ∈ publisher.folders, stepNumber folder.name = some number ∧ folder.files = files

/-- Nothing is published or signed of a number that two folders have. -/
def HoldsBack (before after : Publisher) : Prop :=
  ∀ number, ∀ first ∈ before.folders, ∀ second ∈ before.folders, first.name ≠ second.name →
    stepNumber first.name = some number → stepNumber second.name = some number →
    (number ∈ after.scanner.state.published → number ∈ before.scanner.state.published) ∧
      after.scanner.store.signed number = before.scanner.store.signed number

/-- What a scan of the run publishes looks as the scan before saw it. -/
def SeenTwice (ctx : PublishContext) (before : List Event) (reads : ScanReads) : Prop :=
  ∀ number, number ∉ (run ctx before).scanner.state.published →
    number ∈ (run ctx (before ++ [.scan reads])).scanner.state.published →
    ∃ now, looked (run ctx before) reads number = some now ∧ LookedInLastScan ctx before number now

/-- Nothing is lost without a word. -/
structure Lossless (ctx : PublishContext) (events : List Event) : Prop where
  restores : RestoresFolders (run ctx events)
  holdsBack : ∀ before event, Trace.Took events before event →
    HoldsBack (run ctx before) (run ctx (before ++ [event]))
  seenTwice : ∀ before reads, Trace.Took events before (.scan reads) → SeenTwice ctx before reads
  accounted : (run ctx events).phase = .returned → Accounted (run ctx events)

variable {ctx : PublishContext} {listing : Listing} {reads : ScanReads} {after : Scanner} {number : Nat}
  {name : String} {publisher : Publisher}

section Effects

variable {folders : List Folder} {before : Scanner} {files : Files}

/-- The folders that a scan may publish. -/
abbrev ready (listing : Listing) (scanner : Scanner) : List (Nat × String) :=
  readySteps (listedSteps listing) scanner.state.published

/-- What a scan does to the published numbers and the signed manifests. -/
structure Effect (folders : List Folder) (listing : Listing) (before after : Scanner) : Prop where
  passes : ∀ number, number ∉ (ready listing before).map Prod.fst → after.cell number = before.cell number
  publishes : ∀ number ∈ after.state.published, number ∈ before.state.published ∨
    ∃ name content, (number, name) ∈ ready listing before ∧ filesOf folders name = some content ∧
      after.store.signed number = some content
  stays : before.state.published ⊆ after.state.published
  signs : ∀ number content, after.store.signed number = some content → before.store.signed number = some content ∨
    ∃ name, (number, name) ∈ ready listing before ∧ filesOf folders name = some content
  keeps : ∀ number content, before.store.signed number = some content → after.store.signed number = some content

theorem offerStep_some (ctx : PublishContext) (folders : List Folder) (reads : ScanReads) (requireStable : Bool)
    (scanner : Scanner) (entry : Nat × String) : ∃ seen, Attempted (filesOf folders entry.2)
      { scanner.cell entry.1 with seen }
      ((offerStep ctx folders reads requireStable scanner entry).cell entry.1) := by
  cases requireStable with
  | true => exact ⟨_, (offerStep_offered ctx folders reads scanner entry).attempted⟩
  | false => exact ⟨_, offerStep_attempted ctx folders reads scanner entry⟩

theorem effect_publishReadySteps (ctx : PublishContext) (folders : List Folder) (reads : ScanReads)
    (requireStable : Bool) (scanner : Scanner) :
    Effect folders reads.listing scanner (publishReadySteps ctx folders reads requireStable scanner) := by
  have cases_ := publishReadySteps_cell ctx folders reads requireStable scanner
  have attempt (number : Nat) : (publishReadySteps ctx folders reads requireStable scanner).cell number =
        scanner.cell number ∨
      ∃ name seen, (number, name) ∈ ready reads.listing scanner ∧ Attempted (filesOf folders name)
        { scanner.cell number with seen }
        ((publishReadySteps ctx folders reads requireStable scanner).cell number) := by
    rcases cases_ number with ⟨_, same⟩ | ⟨name, met, listed, same, result⟩
    · exact .inl same
    · obtain ⟨seen, attempted⟩ := offerStep_some ctx folders reads requireStable met (number, name)
      rw [same, ← result] at attempted
      exact .inr ⟨name, seen, listed, attempted⟩
  have published (number : Nat) :
      (publishReadySteps ctx folders reads requireStable scanner).cell number = scanner.cell number →
        (number ∈ (publishReadySteps ctx folders reads requireStable scanner).state.published) =
          (number ∈ scanner.state.published) := fun same => congrArg Cell.published same
  have signed (number : Nat) :
      (publishReadySteps ctx folders reads requireStable scanner).cell number = scanner.cell number →
        (publishReadySteps ctx folders reads requireStable scanner).store.signed number =
          scanner.store.signed number := fun same => congrArg Cell.signed same
  constructor
  · intro number absent
    rcases cases_ number with ⟨_, same⟩ | ⟨name, met, listed, _⟩
    · exact same
    · exact absurd (List.mem_map.mpr ⟨_, listed, rfl⟩) absent
  · intro number isPublished
    rcases attempt number with same | ⟨name, seen, listed, attempted⟩
    · exact .inl (published number same ▸ isPublished)
    · rcases attempted.publishes isPublished with already | ⟨content, isContent, isSigned⟩
      · exact .inl already
      · exact .inr ⟨name, content, listed, isContent, isSigned⟩
  · intro number isPublished
    rcases attempt number with same | ⟨name, seen, listed, attempted⟩
    · exact (published number same).symm ▸ isPublished
    · exact attempted.stays isPublished
  · intro number content isSigned
    rcases attempt number with same | ⟨name, seen, listed, attempted⟩
    · exact .inl ((signed number same) ▸ isSigned)
    · rcases attempted.signs content isSigned with already | isContent
      · exact .inl already
      · exact .inr ⟨name, listed, isContent⟩
  · intro number content isSigned
    rcases attempt number with same | ⟨name, seen, listed, attempted⟩
    · exact (signed number same).trans isSigned
    · exact attempted.keeps content isSigned

/-- A folder that is listed has its number by its name. -/
theorem stepOf_of_listed (listed : (number, name) ∈ listedSteps listing) : stepOf name = some number := by
  unfold listedSteps at listed
  split at listed
  · obtain ⟨entry, _, found⟩ := List.mem_filterMap.mp listed
    unfold listedStep at found
    split at found
    · split at found
      · obtain ⟨read, isRead, same⟩ := Option.map_eq_some_iff.mp found
        obtain ⟨rfl, rfl⟩ := Prod.mk.inj same
        exact isRead
      · cases found
    · cases found
  · cases listed

end Effects

section Keeping

variable {folder : Folder}

/-- What holds of the folders, the published numbers and the signed manifests at any time. -/
structure Kept (publisher : Publisher) : Prop where
  restores : RestoresFolders publisher
  signed : ∀ number ∈ publisher.scanner.state.published, ∀ folder ∈ publisher.folders,
    stepNumber folder.name = some number → publisher.scanner.store.signed number = some folder.files
  below : ∀ folder ∈ publisher.folders, ∀ number, stepNumber folder.name = some number → number < 2 ^ 64
  named : ∀ first ∈ publisher.folders, ∀ second ∈ publisher.folders, first.name = second.name → first = second
  accounted : publisher.phase = .returned → Accounted publisher

theorem Kept.filesOf (kept : Kept publisher) (member : folder ∈ publisher.folders) :
    filesOf publisher.folders folder.name = some folder.files := by
  unfold CheckpointPublisher.filesOf
  cases found : publisher.folders.find? (·.name = folder.name) with
  | none =>
      have apart := List.find?_eq_none.mp found folder member
      simp at apart
  | some other =>
      have same : other.name = folder.name := by simpa using List.find?_some found
      rw [Option.map_some, kept.named other (List.mem_of_find?_eq_some found) folder member same]

theorem folder_of_filesOf {folders : List Folder} {files : Files} (found : filesOf folders name = some files) :
    ∃ folder ∈ folders, folder.name = name ∧ folder.files = files := by
  obtain ⟨folder, isFound, isFiles⟩ := Option.map_eq_some_iff.mp found
  have isName : folder.name = name := by simpa using List.find?_some isFound
  exact ⟨folder, List.mem_of_find?_eq_some isFound, isName, isFiles⟩

/-- Of a number that a scan may publish there is one folder. -/
theorem Kept.name_of_ready (kept : Kept publisher) (shows_ : ShowsWhole publisher listing)
    (listed : (number, name) ∈ ready listing publisher.scanner) (member : folder ∈ publisher.folders)
    (isNumber : stepNumber folder.name = some number) : folder.name = name := by
  obtain ⟨inAll, unpublished, alone⟩ := mem_readySteps.mp listed
  have known : stepOf folder.name = some number := stepOf_eq_some.mpr ⟨isNumber, kept.below folder member number isNumber⟩
  exact eq_of_isAlone alone (shows_ _ inAll unpublished folder member known) inAll

theorem Kept.scan (kept : Kept publisher) (shows_ : ShowsWhole publisher listing)
    (effect : Effect publisher.folders listing publisher.scanner after) {phase : Phase} (open_ : phase ≠ .returned) :
    Kept { publisher with scanner := after, phase } := by
  refine ⟨?_, ?_, kept.below, kept.named, fun returned => absurd returned open_⟩
  · intro number files isSigned
    rcases effect.signs number files isSigned with before | ⟨name, listed, isContent⟩
    · exact kept.restores number files before
    · obtain ⟨folder, member, isName, isFiles⟩ := folder_of_filesOf isContent
      have known := stepOf_of_listed (mem_readySteps.mp listed).1
      rw [← isName] at known
      exact ⟨folder, member, (stepOf_eq_some.mp known).1, isFiles⟩
  · intro number isPublished folder member isNumber
    rcases effect.publishes number isPublished with before | ⟨name, content, listed, isContent, isSigned⟩
    · exact effect.keeps number folder.files (kept.signed number before folder member isNumber)
    · have isName := kept.name_of_ready shows_ listed member isNumber
      rw [← isName, kept.filesOf member] at isContent
      exact isSigned.trans isContent.symm

theorem Kept.holdsBack (kept : Kept publisher) (shows_ : ShowsWhole publisher listing)
    (effect : Effect publisher.folders listing publisher.scanner after) {phase : Phase} :
    HoldsBack publisher { publisher with scanner := after, phase } := by
  intro number first firstIn second secondIn apart firstNumber secondNumber
  have notReady : number ∉ (ready listing publisher.scanner).map Prod.fst := by
    intro isReady
    obtain ⟨⟨_, name⟩, listed, rfl⟩ := List.mem_map.mp isReady
    have firstName := kept.name_of_ready shows_ listed firstIn firstNumber
    have secondName := kept.name_of_ready shows_ listed secondIn secondNumber
    exact apart (firstName.trans secondName.symm)
  have same := effect.passes number notReady
  have published : (number ∈ after.state.published) = (number ∈ publisher.scanner.state.published) :=
    congrArg Cell.published same
  exact ⟨fun isPublished => published ▸ isPublished, congrArg Cell.signed same⟩

theorem Kept.appear (kept : Kept publisher) (new : ∀ other ∈ publisher.folders, other.name ≠ folder.name)
    (fits : FitsPublished publisher folder) (open_ : publisher.phase ≠ .returned) :
    Kept { publisher with folders := publisher.folders ++ [folder] } := by
  refine ⟨?_, ?_, ?_, ?_, fun returned => absurd returned open_⟩
  · intro number files isSigned
    obtain ⟨there, member, restored⟩ := kept.restores number files isSigned
    exact ⟨there, List.mem_append_left _ member, restored⟩
  · intro number isPublished other member isNumber
    rcases List.mem_append.mp member with before | last
    · exact kept.signed number isPublished other before isNumber
    · rw [List.mem_singleton.mp last] at isNumber ⊢
      exact (fits number isNumber).2 isPublished
  · intro other member number isNumber
    rcases List.mem_append.mp member with before | last
    · exact kept.below other before number isNumber
    · rw [List.mem_singleton.mp last] at isNumber
      exact (fits number isNumber).1
  · intro first firstIn second secondIn same
    rcases List.mem_append.mp firstIn with before | last
    · rcases List.mem_append.mp secondIn with beforeToo | lastToo
      · exact kept.named first before second beforeToo same
      · rw [List.mem_singleton.mp lastToo] at same ⊢
        exact absurd same (new first before)
    · rcases List.mem_append.mp secondIn with beforeToo | lastToo
      · rw [List.mem_singleton.mp last] at same ⊢
        exact absurd same.symm (new second beforeToo)
      · rw [List.mem_singleton.mp last, List.mem_singleton.mp lastToo]

/-- A thread that panicked leaves nothing that the last tries start from. -/
theorem Kept.finish (kept : Kept publisher) (panicked : Bool) : Kept
    { publisher with
      phase := .finishing 1 false
      scanner := if panicked then { publisher.scanner with state := .default }.say [.panicked] else publisher.scanner } := by
  refine ⟨?_, ?_, kept.below, kept.named, fun returned => by cases returned⟩
  · cases panicked
    · exact kept.restores
    · exact kept.restores
  · cases panicked
    · exact kept.signed
    · intro number isPublished
      exact absurd isPublished (Finset.notMem_empty number)

/-- A listing that could be read in whole shows every number that is not published. -/
theorem mem_left {state : PublishState} {left : List Nat} {folders : List Folder} (lists : Lists folders listing)
    (isLeft : unpublishedSteps listing state = .ok left) (member : folder ∈ folders)
    (isNumber : stepOf folder.name = some number) (unpublished : number ∉ state.published) : number ∈ left := by
  unfold unpublishedSteps at isLeft
  split at isLeft
  · rw [lists.missing rfl] at member
    cases member
  · cases isLeft
  · next entries =>
    obtain ⟨names, areNames, isLeft⟩ := Except.bind_eq_ok.mp isLeft
    rw [Except.mapM_eq_ok] at areNames
    have readable : ∀ entry ∈ entries, entry.isOk = true := by
      intro entry listed
      obtain ⟨name, _, isName⟩ := areNames.exists_right listed
      rw [show entry = .ok name from isName]
      rfl
    obtain ⟨name, isListed, isName⟩ := areNames.exists_right (lists.whole entries rfl readable folder member)
    have same : name = ⟨folder.name, true⟩ := (Except.ok.inj isName).symm
    rw [← Except.ok.inj isLeft, List.mem_dedup, List.mem_insertionSort, List.mem_filter]
    refine ⟨List.mem_map.mpr ⟨(number, folder.name), List.mem_filterMap.mpr ⟨name, isListed, ?_⟩, rfl⟩, ?_⟩
    · rw [same, listedStep, if_pos rfl, isNumber]
      rfl
    · exact decide_eq_true unpublished

/-- When the tries are over, every folder is accounted for. -/
theorem Kept.accounted_of_judged (kept : Kept publisher) (lists : Lists publisher.folders listing) {attempt : Nat}
    {reports : List Report}
    (judged : judgeTry attempt (unpublishedSteps listing publisher.scanner.state) = (true, reports)) {phase : Phase} :
    Accounted { publisher with scanner := publisher.scanner.say reports, phase } := by
  intro folder member number isNumber
  have known : stepOf folder.name = some number := stepOf_eq_some.mpr ⟨isNumber, kept.below folder member number isNumber⟩
  by_cases isPublished : number ∈ publisher.scanner.state.published
  · exact .inl (kept.signed number isPublished folder member isNumber)
  · refine .inr ?_
    cases isLeft : unpublishedSteps listing publisher.scanner.state with
    | error detail =>
        rw [isLeft, judgeTry] at judged
        split at judged
        · refine .inr ⟨detail, List.mem_append_right _ ?_⟩
          rw [← (Prod.mk.inj judged).2]
          exact List.mem_singleton_self _
        · cases (Prod.mk.inj judged).1
    | ok left =>
        have inLeft := mem_left lists isLeft member known isPublished
        cases left with
        | nil => cases inLeft
        | cons first rest =>
            rw [isLeft, judgeTry] at judged
            · split at judged
              · refine .inl (List.mem_append_right _ ?_)
                rw [← (Prod.mk.inj judged).2]
                exact List.mem_map.mpr ⟨number, inLeft, rfl⟩
              · cases (Prod.mk.inj judged).1
            · exact fun none_ => by cases none_

theorem Kept.judge (kept : Kept publisher) (lists : Lists publisher.folders listing) (attempt : Nat) :
    let judged := judgeTry attempt (unpublishedSteps listing publisher.scanner.state)
    Kept { publisher with
      phase := if judged.1 then .returned else .finishing (attempt + 1) false
      scanner := publisher.scanner.say judged.2 } := by
  intro judged
  refine ⟨kept.restores, kept.signed, kept.below, kept.named, ?_⟩
  intro returned
  cases isOver : judged.1 with
  | false =>
      rw [isOver] at returned
      cases returned
  | true => exact kept.accounted_of_judged lists (Prod.ext isOver rfl)

/-- One event. -/
theorem Kept.step (kept : Kept publisher) {before : List Event} (isRun : run ctx before = publisher) {event : Event}
    (possible : Possible publisher event) (meets : Meets ctx before event) :
    Kept (step ctx publisher event) ∧ HoldsBack publisher (step ctx publisher event) := by
  have still : HoldsBack publisher publisher := fun _ _ _ _ _ _ _ _ => ⟨id, rfl⟩
  unfold CheckpointPublisher.step
  split
  · exact ⟨kept, still⟩
  · next folder _ open_ =>
    rw [Meets, isRun] at meets
    exact ⟨kept.appear possible meets open_, fun _ _ _ _ _ _ _ _ => ⟨id, rfl⟩⟩
  · next reads phase =>
    rw [Meets, isRun] at meets
    have effect := effect_publishReadySteps ctx publisher.folders reads true publisher.scanner
    exact ⟨kept.scan meets.1 effect (by rw [phase]; exact Phase.noConfusion), kept.holdsBack meets.1 effect⟩
  · next panicked phase =>
    refine ⟨kept.finish panicked, ?_⟩
    intro number _ _ _ _ _ _ _
    cases panicked
    · exact ⟨id, rfl⟩
    · exact ⟨fun isPublished => absurd isPublished (Finset.notMem_empty number), rfl⟩
  · next reads attempt phase =>
    rw [Meets, isRun] at meets
    have effect := effect_publishReadySteps ctx publisher.folders reads false publisher.scanner
    exact ⟨kept.scan meets effect Phase.noConfusion, kept.holdsBack meets effect⟩
  · next listing attempt phase =>
    exact ⟨kept.judge possible attempt, fun _ _ _ _ _ _ _ _ => ⟨id, rfl⟩⟩
  · exact ⟨kept, still⟩

end Keeping

section Looking

variable {before : List Event} {event : Event} {now : Fingerprint}

/-- The folder that a scan may publish is the one that it looks at. -/
theorem looked_of_ready (listed : (number, name) ∈ ready reads.listing publisher.scanner) :
    looked publisher reads number = reads.fingerprint name := by
  unfold looked
  cases found : (ready reads.listing publisher.scanner).find? (·.1 = number) with
  | none =>
      have apart := List.find?_eq_none.mp found _ listed
      simp at apart
  | some entry =>
      have isNumber : entry.1 = number := by simpa using List.find?_some found
      obtain ⟨inAll, _, _⟩ := mem_readySteps.mp (List.mem_of_find?_eq_some found)
      obtain ⟨inAllToo, _, alone⟩ := mem_readySteps.mp listed
      have isEntry : entry = (number, entry.2) := Prod.ext isNumber rfl
      rw [isEntry] at inAll
      rw [Option.bind_some, eq_of_isAlone alone inAll inAllToo]

theorem ready_of_looked (isLooked : looked publisher reads number = some now) :
    ∃ name, (number, name) ∈ ready reads.listing publisher.scanner ∧ reads.fingerprint name = some now := by
  obtain ⟨entry, found, sees⟩ := Option.bind_eq_some_iff.mp isLooked
  have isNumber : entry.1 = number := by simpa using List.find?_some found
  have isEntry : entry = (number, entry.2) := Prod.ext isNumber rfl
  have listed := List.mem_of_find?_eq_some found
  rw [isEntry] at listed
  exact ⟨entry.2, listed, sees⟩

/-- What a scan of the run makes of a number that it has a folder of. -/
theorem offered_of_ready (ctx : PublishContext) (listed : (number, name) ∈ ready reads.listing publisher.scanner) :
    Offered (reads.fingerprint name) (filesOf publisher.folders name) (publisher.scanner.cell number)
      ((publishReadySteps ctx publisher.folders reads true publisher.scanner).cell number) := by
  rcases publishReadySteps_cell ctx publisher.folders reads true publisher.scanner number with
    ⟨absent, _⟩ | ⟨other, met, listedToo, same, result⟩
  · exact absurd (List.mem_map.mpr ⟨_, listed, rfl⟩) absent
  · obtain ⟨inAll, _, alone⟩ := mem_readySteps.mp listed
    have isName := eq_of_isAlone alone inAll (mem_readySteps.mp listedToo).1
    have offered := offerStep_offered ctx publisher.folders reads met (number, name)
    rw [same] at offered
    rw [result, ← isName]
    exact offered

theorem lookedInLastScan_scan (last : LookedInLastScan ctx (before ++ [.scan reads]) number now) :
    looked (run ctx before) reads number = some now := by
  obtain ⟨earlier, other, between, isSplit, noScan, isLooked⟩ := last
  rcases List.eq_nil_or_concat between with rfl | ⟨rest, final, rfl⟩
  · obtain ⟨rfl, same⟩ := List.append_inj' isSplit rfl
    obtain rfl := Event.scan.inj (List.cons.inj same).1
    exact isLooked
  · have same : before ++ [.scan reads] = (earlier ++ .scan other :: rest) ++ [final] := by simpa using isSplit
    have isFinal := (List.cons.inj (List.append_inj' same rfl).2).1
    exact absurd isFinal.symm (noScan final (by simp) reads)

theorem lookedInLastScan_other (noScan : ∀ reads, event ≠ .scan reads)
    (last : LookedInLastScan ctx (before ++ [event]) number now) : LookedInLastScan ctx before number now := by
  obtain ⟨earlier, other, between, isSplit, noScanBetween, isLooked⟩ := last
  rcases List.eq_nil_or_concat between with rfl | ⟨rest, final, rfl⟩
  · exact absurd (List.cons.inj (List.append_inj' isSplit rfl).2).1 (noScan other)
  · have same : before ++ [event] = (earlier ++ .scan other :: rest) ++ [final] := by simpa using isSplit
    refine ⟨earlier, other, rest, (List.append_inj' same rfl).1, ?_, isLooked⟩
    intro later listed
    exact noScanBetween later (by simp [listed])

/-- While the workload runs, what the last scan saw is remembered until it is published. -/
def Remembered (ctx : PublishContext) (before : List Event) : Prop :=
  (run ctx before).phase = .running → ∀ number now, LookedInLastScan ctx before number now →
    number ∈ (run ctx before).scanner.state.published ∨ (run ctx before).scanner.state.seen number = some now

theorem running_before (running : (step ctx publisher event).phase = .running) : publisher.phase = .running ∧
    ((∀ reads, event ≠ .scan reads) → (step ctx publisher event).scanner = publisher.scanner) := by
  unfold step at running ⊢
  split at running
  · exact ⟨running, fun _ => rfl⟩
  · exact ⟨running, fun _ => rfl⟩
  · next reads phase => exact ⟨phase, fun noScan => absurd rfl (noScan reads)⟩
  · cases running
  · cases running
  · next listing attempt phase =>
    simp only at running
    split at running
    · cases running
    · cases running
  · exact ⟨running, fun _ => rfl⟩

theorem Remembered.step (remembered : Remembered ctx before) (event : Event) :
    Remembered ctx (before ++ [event]) := by
  intro running number now last
  rw [run, Trace.run_snoc] at running ⊢
  obtain ⟨runningBefore, unchanged⟩ := running_before running
  by_cases isScan : ∃ reads, event = .scan reads
  · obtain ⟨reads, rfl⟩ := isScan
    obtain ⟨name, listed, sees⟩ := ready_of_looked (lookedInLastScan_scan last)
    have offered := offered_of_ready ctx listed
    have isScanned : CheckpointPublisher.step ctx (run ctx before) (.scan reads) = { run ctx before with
        scanner := publishReadySteps ctx (run ctx before).folders reads true (run ctx before).scanner } := by
      simp only [CheckpointPublisher.step, runningBefore]
    rw [isScanned]
    rcases offered.attempted.remembers with published | seen
    · exact .inl published
    · rw [sees] at seen
      exact .inr seen
  · have noScan : ∀ reads, event ≠ .scan reads := fun reads same => isScan ⟨reads, same⟩
    rw [unchanged noScan]
    exact remembered runningBefore number now (lookedInLastScan_other noScan last)

theorem remembered_run (ctx : PublishContext) (events : List Event) : Remembered ctx events := by
  induction events using List.reverseRecOn with
  | nil =>
      intro _ number now last
      obtain ⟨earlier, reads, between, isSplit, _⟩ := last
      simp at isSplit
  | append_singleton before event ih => exact ih.step event

/-- A scan publishes what it sees as the last scan saw it. -/
theorem seenTwice (keeps : KeepsSight ctx before reads) : SeenTwice ctx before reads := by
  intro number unpublished published
  rw [run, Trace.run_snoc] at published
  by_cases running : (run ctx before).phase = .running
  · have isScanned : CheckpointPublisher.step ctx (run ctx before) (.scan reads) = { run ctx before with
        scanner := publishReadySteps ctx (run ctx before).folders reads true (run ctx before).scanner } := by
      simp only [CheckpointPublisher.step, running]
    rw [isScanned] at published
    have effect := effect_publishReadySteps ctx (run ctx before).folders reads true (run ctx before).scanner
    rcases effect.publishes number published with already | ⟨name, _, listed, _⟩
    · exact absurd already unpublished
    · rcases (offered_of_ready ctx listed).twice published with already | ⟨now, sees, seen⟩
      · exact absurd already unpublished
      · have isLooked : looked (run ctx before) reads number = some now := (looked_of_ready listed).trans sees
        have seenBefore : (run ctx before).scanner.state.seen number = some now := seen
        obtain ⟨last, isLast⟩ := keeps number (by rw [isLooked]; rfl) (by rw [seenBefore]; exact Option.some_ne_none now)
        rcases remembered_run ctx before running number last isLast with already | same
        · exact absurd already unpublished
        · rw [seenBefore] at same
          exact ⟨now, isLooked, (Option.some.inj same) ▸ isLast⟩
  · have unchanged : CheckpointPublisher.step ctx (run ctx before) (.scan reads) = run ctx before := by
      cases phase : (run ctx before).phase with
      | running => exact absurd phase running
      | finishing attempt scanned => simp only [CheckpointPublisher.step, phase]
      | returned => simp only [CheckpointPublisher.step, phase]
    rw [unchanged] at published
    exact absurd published unpublished

end Looking

theorem kept_run {ctx : PublishContext} (events : List Event)
    (possible : ∀ before event, Trace.Took events before event → Possible (run ctx before) event)
    (meets : ∀ before event, Trace.Took events before event → Meets ctx before event) : Kept (run ctx events) := by
  induction events using List.reverseRecOn with
  | nil =>
      refine ⟨?_, ?_, ?_, ?_, fun returned => by cases returned⟩
      · intro number files isSigned
        cases isSigned
      · intro number isPublished
        exact absurd isPublished (Finset.notMem_empty number)
      · intro folder member
        cases member
      · intro first firstIn
        cases firstIn
  | append_singleton before event ih =>
      have kept := ih (fun earlier input took => possible earlier input (Trace.took_snoc.mpr (.inl took)))
        (fun earlier input took => meets earlier input (Trace.took_snoc.mpr (.inl took)))
      have last : Trace.Took (before ++ [event]) before event := Trace.took_snoc.mpr (.inr ⟨rfl, rfl⟩)
      rw [run, Trace.run_snoc]
      exact (kept.step rfl (possible before event last) (meets before event last)).1

/-- In every run in which a new folder has a number of 64 bits and, if that is published already, the same files, every
scan shows all folders of an unpublished number or none, and a scan of the run does not look at a folder again that the
scan before has lost sight of, nothing is lost without a word. -/
theorem nothing_is_lost_silently {ctx : PublishContext} {events : List Event}
    (possible : ∀ before event, Trace.Took events before event → Possible (run ctx before) event)
    (meets : ∀ before event, Trace.Took events before event → Meets ctx before event) : Lossless ctx events := by
  have kept := kept_run events possible meets
  have keptBefore (before : List Event) (event : Event) (took : Trace.Took events before event) :
      Kept (run ctx before) := by
    obtain ⟨after, rfl⟩ := took
    apply kept_run before
    · intro earlier input inside
      obtain ⟨between, rfl⟩ := inside
      exact possible earlier input Trace.took_append
    · intro earlier input inside
      obtain ⟨between, rfl⟩ := inside
      exact meets earlier input Trace.took_append
  refine ⟨kept.restores, ?_, ?_, kept.accounted⟩
  · intro before event took
    rw [run, run, Trace.run_snoc]
    exact ((keptBefore before event took).step rfl (possible before event took) (meets before event took)).2
  · intro before reads took
    exact seenTwice (meets before _ took).2

def attempt : PublishContext := ⟨"j", "a"⟩

def firstFolder : Folder := ⟨"step-1", [("state", [1])]⟩

/-- The same number, other files. -/
def twinFolder : Folder := ⟨"step-01", [("state", [2])]⟩

/-- A reading that shows these names. -/
def shown (names : List String) : Listing := .ok (names.map fun name => .ok ⟨name, true⟩)

/-- A scan that shows these names, with no failure. -/
def plainScan (names : List String) : ScanReads :=
  ⟨shown names, fun _ => some [("state", 1, some 0)], fun _ => none, fun _ => none⟩

theorem lists_shown {folders : List Folder} : Lists folders (shown (folders.map (·.name))) := by
  refine ⟨?_, ?_, fun missing => by cases missing⟩
  · intro listed inAll
    obtain ⟨entry, isEntry, found⟩ := List.mem_filterMap.mp inAll
    obtain ⟨name, isName, rfl⟩ := List.mem_map.mp isEntry
    obtain ⟨folder, member, rfl⟩ := List.mem_map.mp isName
    obtain ⟨_, _, rfl⟩ := Option.map_eq_some_iff.mp found
    exact ⟨folder, member, rfl⟩
  · intro entries isShown _ folder member
    rw [← Except.ok.inj isShown]
    exact List.mem_map.mpr ⟨folder.name, List.mem_map.mpr ⟨folder, member, rfl⟩, rfl⟩

def publishedRun : List Event :=
  [.appear firstFolder, .scan (plainScan ["step-1"]), .scan (plainScan ["step-1"]), .finish false,
    .lastScan (plainScan ["step-1"]), .lastListing (shown ["step-1"])]

theorem listedSteps_first : listedSteps (plainScan ["step-1"]).listing = [(1, "step-1")] := by decide

theorem showsWhole_first {publisher : Publisher} (only : publisher.folders = [firstFolder]) :
    ShowsWhole publisher (plainScan ["step-1"]).listing := by
  intro listed inAll _ folder member _
  rw [listedSteps_first, List.mem_singleton] at inAll
  rw [only, List.mem_singleton] at member
  rw [listedSteps_first, inAll, member]
  exact List.mem_singleton_self _

theorem publishedRun_possible :
    ∀ before event, Trace.Took publishedRun before event → Possible (run attempt before) event := by
  have lists : Lists [firstFolder] (shown ["step-1"]) := lists_shown
  apply Trace.forall_took_cons
  · intro other member
    cases member
  apply Trace.forall_took_cons
  · exact lists
  apply Trace.forall_took_cons
  · exact lists
  apply Trace.forall_took_cons
  · exact trivial
  apply Trace.forall_took_cons
  · exact lists
  apply Trace.forall_took_cons
  · exact lists
  exact Trace.forall_took_nil

theorem publishedRun_meets :
    ∀ before event, Trace.Took publishedRun before event → Meets attempt before event := by
  have isFirst (before : List Event) (number : Nat)
      (isLooked : (looked (run attempt before) (plainScan ["step-1"]) number).isSome = true) : number = 1 := by
    obtain ⟨now, isNow⟩ := Option.isSome_iff_exists.mp isLooked
    obtain ⟨name, listed, _⟩ := ready_of_looked isNow
    have inAll := (mem_readySteps.mp listed).1
    rw [listedSteps_first, List.mem_singleton] at inAll
    exact (Prod.mk.inj inAll).1
  apply Trace.forall_took_cons
  · intro number isNumber
    have one : stepNumber firstFolder.name = some 1 := by decide
    rw [← Option.some.inj (one.symm.trans isNumber)]
    exact ⟨by decide, fun isPublished => absurd isPublished (Finset.notMem_empty 1)⟩
  apply Trace.forall_took_cons
  · exact ⟨showsWhole_first rfl, fun number _ seen => absurd rfl seen⟩
  apply Trace.forall_took_cons
  · refine ⟨showsWhole_first rfl, ?_⟩
    intro number isLooked _
    rw [isFirst _ number isLooked]
    refine ⟨[("state", 1, some 0)], [.appear firstFolder], plainScan ["step-1"], [], rfl, ?_, by decide⟩
    intro event listed
    cases listed
  apply Trace.forall_took_cons
  · exact trivial
  apply Trace.forall_took_cons
  · exact (showsWhole_first rfl)
  apply Trace.forall_took_cons
  · exact trivial
  exact Trace.forall_took_nil

theorem publishedRun_lossless : (run attempt publishedRun).phase = .returned ∧ Lossless attempt publishedRun :=
  ⟨by decide, nothing_is_lost_silently publishedRun_possible publishedRun_meets⟩

/-- A second folder of the number comes when the first one is published. -/
def twinRun : List Event :=
  [.appear firstFolder, .scan (plainScan ["step-1"]), .scan (plainScan ["step-1"]), .appear twinFolder, .finish false,
    .lastScan (plainScan ["step-1", "step-01"]), .lastListing (shown ["step-1", "step-01"])]

/-- Its files are neither signed nor reported as lost. -/
theorem twin_folder_is_lost_silently :
    (∀ before event, Trace.Took twinRun before event → Possible (run attempt before) event) ∧
      ¬ Lossless attempt twinRun := by
  constructor
  · have lists : Lists [firstFolder] (shown ["step-1"]) := lists_shown
    have both : Lists [firstFolder, twinFolder] (shown ["step-1", "step-01"]) := lists_shown
    apply Trace.forall_took_cons
    · intro other member
      cases member
    apply Trace.forall_took_cons
    · exact lists
    apply Trace.forall_took_cons
    · exact lists
    apply Trace.forall_took_cons
    · intro other member
      rw [List.mem_singleton.mp member]
      decide
    apply Trace.forall_took_cons
    · exact trivial
    apply Trace.forall_took_cons
    · exact both
    apply Trace.forall_took_cons
    · exact both
    exact Trace.forall_took_nil
  · intro lossless
    have returned : (run attempt twinRun).phase = .returned := by decide
    have signed : (run attempt twinRun).scanner.store.signed 1 = some [("state", [1])] := by decide
    have printed : (run attempt twinRun).scanner.printed = [.published "a-step-1" 1] := by decide
    rcases lossless.accounted returned twinFolder (List.mem_cons_of_mem _ List.mem_cons_self) 1 (by decide) with
      same | lost | ⟨detail, lost⟩
    · rw [signed] at same
      revert same
      decide
    · rw [printed] at lost
      revert lost
      decide
    · rw [printed, List.mem_singleton] at lost
      cases lost

end Gputeer.CheckpointPublisher
