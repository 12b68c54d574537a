import Gputeer.Lib.Except
import Gputeer.Agent.CheckpointPublisher

/-! What a scan does to one number, whatever it does to the others. -/

namespace Gputeer.CheckpointPublisher

/-- What is known and stored of one number. -/
structure Cell where
  published : Prop
  seen : Option Fingerprint
  committed : Option Files
  signed : Option Files

def Scanner.cell (scanner : Scanner) (step : Nat) : Cell :=
  ⟨step ∈ scanner.state.published, scanner.state.seen step, scanner.store.committed step, scanner.store.signed step⟩

variable {ctx : PublishContext} {folders : List Folder} {reads : ScanReads} {requireStable : Bool}

@[simp] theorem cell_say (scanner : Scanner) (reports : List Report) (step : Nat) :
    (scanner.say reports).cell step = scanner.cell step := rfl

section Writing

variable {there : Option Files} {content files : Files} {refusal : String} {fault : Option WriteFault}

/-- What is written stays. -/
theorem writeOnce_keeps (written : there = some files) : (writeOnce there content refusal fault).2 = some files := by
  rw [written]
  cases fault with
  | none => rfl
  | some fault => rfl

theorem writeOnce_only (written : (writeOnce there content refusal fault).2 = some files) :
    there = some files ∨ files = content := by
  cases there with
  | some old =>
      cases fault with
      | none => exact .inl written
      | some fault => exact .inl written
  | none =>
      cases fault with
      | none => exact .inr (Option.some.inj written).symm
      | some fault =>
          rw [writeOnce] at written
          split at written
          · exact .inr (Option.some.inj written).symm
          · cases written

/-- A write that succeeds leaves the content there. -/
theorem writeOnce_ok (done : (writeOnce there content refusal fault).1 = .ok ()) :
    (writeOnce there content refusal fault).2 = some content := by
  cases there with
  | none =>
      cases fault with
      | none => rfl
      | some fault => cases done
  | some old =>
      cases fault with
      | some fault => cases done
      | none =>
          rw [writeOnce] at done ⊢
          split at done
          · next same => rw [same]
          · cases done

end Writing

/-- What trying to publish a folder may do to its number. -/
structure Attempted (files : Option Files) (before after : Cell) : Prop where
  publishes : after.published → before.published ∨ ∃ content, files = some content ∧ after.signed = some content
  stays : before.published → after.published
  signs : ∀ content, after.signed = some content → before.signed = some content ∨ files = some content
  keeps : ∀ content, before.signed = some content → after.signed = some content
  remembers : after.published ∨ after.seen = before.seen

/-- What a scan of the run may do to the number of a folder that it looks at. -/
structure Offered (look : Option Fingerprint) (files : Option Files) (before after : Cell) : Prop where
  attempted : Attempted files { before with seen := look.or before.seen } after
  twice : after.published → before.published ∨ ∃ now, look = some now ∧ before.seen = some now

theorem attempted_refl (files : Option Files) (cell : Cell) : Attempted files cell cell :=
  ⟨.inl, id, fun _ => .inl, fun _ => id, .inr rfl⟩

section Publishing

variable (ctx folders reads) {entry : Nat × String} {scanner : Scanner}

/-- What is committed is what the folder holds, and nothing is signed yet. -/
theorem publishOrRecover_spec (step : Nat) (name : String) (store : SharedStore) :
    (∀ files, (publishOrRecover ctx folders reads step name store).1 = .ok files → filesOf folders name = some files) ∧
      (publishOrRecover ctx folders reads step name store).2.signed = store.signed ∧
      ∀ other, other ≠ step →
        (publishOrRecover ctx folders reads step name store).2.committed other = store.committed other := by
  unfold publishOrRecover
  split
  · refine ⟨?_, rfl, fun _ _ => rfl⟩
    intro files done
    cases done
  · next content found =>
    refine ⟨?_, rfl, fun other apart => Function.update_of_ne apart _ _⟩
    intro files done
    obtain ⟨_, _, same⟩ := Except.map_eq_ok.mp done
    rw [found, same]

theorem writeSignedManifest_spec (step : Nat) (files : Files) (store : SharedStore) :
    ((writeSignedManifest reads step files store).1 = .ok () →
        (writeSignedManifest reads step files store).2.signed step = some files) ∧
      (∀ content, (writeSignedManifest reads step files store).2.signed step = some content →
        store.signed step = some content ∨ content = files) ∧
      (∀ content, store.signed step = some content →
        (writeSignedManifest reads step files store).2.signed step = some content) ∧
      ∀ other, other ≠ step → (writeSignedManifest reads step files store).2.signed other = store.signed other := by
  simp only [writeSignedManifest, Function.update_self]
  exact ⟨fun done => writeOnce_ok done, fun content => writeOnce_only, fun content => writeOnce_keeps,
    fun other apart => Function.update_of_ne apart _ _⟩

theorem publishOne_other {step other : Nat} (apart : other ≠ step) (name : String) (store : SharedStore) :
    (publishOne ctx folders reads step name store).2.committed other = store.committed other ∧
      (publishOne ctx folders reads step name store).2.signed other = store.signed other := by
  have commit := publishOrRecover_spec ctx folders reads step name store
  simp only [publishOne]
  split
  · exact ⟨commit.2.2 other apart, by rw [commit.2.1]⟩
  · next files done =>
    have sign := writeSignedManifest_spec reads step files (publishOrRecover ctx folders reads step name store).2
    exact ⟨commit.2.2 other apart, by rw [sign.2.2.2 other apart, commit.2.1]⟩

/-- What publishing does to the signed manifest of its number. -/
theorem publishOne_signed (step : Nat) (name : String) (store : SharedStore) :
    (∀ id, (publishOne ctx folders reads step name store).1 = .ok id → ∃ content, filesOf folders name = some content ∧
        (publishOne ctx folders reads step name store).2.signed step = some content) ∧
      (∀ content, (publishOne ctx folders reads step name store).2.signed step = some content →
        store.signed step = some content ∨ filesOf folders name = some content) ∧
      ∀ content, store.signed step = some content →
        (publishOne ctx folders reads step name store).2.signed step = some content := by
  have commit := publishOrRecover_spec ctx folders reads step name store
  simp only [publishOne]
  split
  · rw [commit.2.1]
    refine ⟨?_, fun content signed => .inl signed, fun content signed => signed⟩
    intro id done
    cases done
  · next files done =>
    have found := commit.1 files done
    have sign := writeSignedManifest_spec reads step files (publishOrRecover ctx folders reads step name store).2
    rw [commit.2.1] at sign
    refine ⟨?_, ?_, sign.2.2.1⟩
    · intro id signed
      obtain ⟨_, written, _⟩ := Except.map_eq_ok.mp signed
      exact ⟨files, found, sign.1 written⟩
    · intro content signed
      rcases sign.2.1 content signed with before | same
      · exact .inl before
      · exact .inr (by rw [found, same])

theorem publishStep_other {other : Nat} (apart : other ≠ entry.1) :
    (publishStep ctx folders reads scanner entry).cell other = scanner.cell other := by
  have store := publishOne_other ctx folders reads apart entry.2 scanner.store
  simp only [publishStep]
  split
  · simp only [Scanner.cell, Scanner.say, Finset.mem_insert, apart, false_or, Function.update_of_ne apart, store.1,
      store.2]
  · simp only [Scanner.cell, Scanner.say, store.1, store.2]

/-- Publishing a folder, once it may be published. -/
theorem publishStep_attempted (scanner : Scanner) (entry : Nat × String) :
    Attempted (filesOf folders entry.2) (scanner.cell entry.1)
      ((publishStep ctx folders reads scanner entry).cell entry.1) := by
  have ⟨done, signs, keeps⟩ := publishOne_signed ctx folders reads entry.1 entry.2 scanner.store
  simp only [publishStep]
  split
  · next id isDone =>
    exact ⟨fun _ => .inr (done id isDone), fun _ => Finset.mem_insert_self _ _, signs, keeps,
      .inl (Finset.mem_insert_self _ _)⟩
  · exact ⟨.inl, id, signs, keeps, .inr rfl⟩

theorem offerStep_other {other : Nat} (apart : other ≠ entry.1) :
    (offerStep ctx folders reads requireStable scanner entry).cell other = scanner.cell other := by
  have looked (now : Fingerprint) : (Scanner.mk
      { scanner.state with seen := Function.update scanner.state.seen entry.1 (some now) } scanner.store
      scanner.printed).cell other = scanner.cell other := by
    simp only [Scanner.cell, Function.update_of_ne apart]
  simp only [offerStep]
  split
  · split
    · rfl
    · next now _ =>
      split
      · rw [publishStep_other ctx folders reads apart]
        exact looked now
      · exact looked now
  · exact publishStep_other ctx folders reads apart

/-- The last scans do not wait. -/
theorem offerStep_attempted (scanner : Scanner) (entry : Nat × String) :
    Attempted (filesOf folders entry.2) (scanner.cell entry.1)
      ((offerStep ctx folders reads false scanner entry).cell entry.1) :=
  publishStep_attempted ctx folders reads scanner entry

theorem offerStep_offered (scanner : Scanner) (entry : Nat × String) :
    Offered (reads.fingerprint entry.2) (filesOf folders entry.2) (scanner.cell entry.1)
      ((offerStep ctx folders reads true scanner entry).cell entry.1) := by
  simp only [offerStep, if_true]
  cases look : reads.fingerprint entry.2 with
  | none => exact ⟨attempted_refl _ _, .inl⟩
  | some now =>
      have looked : (Scanner.mk
          { scanner.state with seen := Function.update scanner.state.seen entry.1 (some now) } scanner.store
          scanner.printed).cell entry.1 = { scanner.cell entry.1 with seen := (some now).or (scanner.cell entry.1).seen } := by
        simp only [Scanner.cell, Function.update_self, Option.some_or]
      simp only
      split
      · next same =>
        refine ⟨?_, fun _ => .inr ⟨now, rfl, same⟩⟩
        rw [← looked]
        exact publishStep_attempted ctx folders reads _ entry
      · rw [looked]
        exact ⟨attempted_refl _ _, .inl⟩

end Publishing

section Scanning

variable {all : List (Nat × String)} {published : Finset Nat} {number : Nat} {name other : String}

theorem mem_readySteps {entry : Nat × String} : entry ∈ readySteps all published ↔
    entry ∈ all ∧ entry.1 ∉ published ∧ isAlone all entry.1 = true := by
  rw [readySteps, List.mem_insertionSort, List.mem_filter, decide_eq_true_eq]

/-- Two folders of one number are not alone. -/
theorem eq_of_isAlone (alone : isAlone all number = true) (first : (number, name) ∈ all)
    (second : (number, other) ∈ all) : name = other := by
  have few : (all.filter (·.1 = number)).length ≤ 1 := by
    rw [← List.countP_eq_length_filter]
    exact of_decide_eq_true alone
  have firstIn : (number, name) ∈ all.filter (·.1 = number) := List.mem_filter.mpr ⟨first, decide_eq_true rfl⟩
  have secondIn : (number, other) ∈ all.filter (·.1 = number) := List.mem_filter.mpr ⟨second, decide_eq_true rfl⟩
  rcases Nat.le_one_iff_eq_zero_or_eq_one.mp few with none_ | one
  · rw [List.length_eq_zero_iff.mp none_] at firstIn
    cases firstIn
  · obtain ⟨only, isOnly⟩ := List.length_eq_one_iff.mp one
    rw [isOnly, List.mem_singleton] at firstIn secondIn
    exact (Prod.mk.inj (firstIn.trans secondIn.symm)).2

theorem nodup_readySteps (all : List (Nat × String)) (published : Finset Nat) :
    ((readySteps all published).map Prod.fst).Nodup := by
  rw [readySteps, ((List.perm_insertionSort _ _).map Prod.fst).nodup_iff, List.nodup_iff_count_le_one]
  intro number
  by_cases listed : number ∈ (all.filter fun entry => entry.1 ∉ published ∧ isAlone all entry.1).map Prod.fst
  · obtain ⟨entry, kept, rfl⟩ := List.mem_map.mp listed
    have alone := (of_decide_eq_true (List.mem_filter.mp kept).2).2
    rw [List.count, List.countP_map]
    refine le_trans ?_ (of_decide_eq_true alone)
    refine (List.filter_sublist.countP_le).trans (le_of_eq ?_)
    apply List.countP_congr
    intro other _
    simp
  · rw [List.count_eq_zero_of_not_mem listed]
    exact Nat.zero_le 1

variable (ctx folders reads requireStable)

theorem foldl_offerStep_other (entries : List (Nat × String)) (apart : number ∉ entries.map Prod.fst) (scanner : Scanner) :
    (entries.foldl (offerStep ctx folders reads requireStable) scanner).cell number = scanner.cell number := by
  induction entries generalizing scanner with
  | nil => rfl
  | cons entry entries ih =>
      rw [List.map_cons, List.mem_cons, not_or] at apart
      rw [List.foldl_cons, ih apart.2, offerStep_other ctx folders reads apart.1]

/-- Whatever happens to the other numbers, a folder finds its own as it was before the scan. -/
theorem foldl_offerStep_own (entries : List (Nat × String)) (distinct : (entries.map Prod.fst).Nodup)
    (listed : (number, name) ∈ entries) (scanner : Scanner) : ∃ met : Scanner, met.cell number = scanner.cell number ∧
      (entries.foldl (offerStep ctx folders reads requireStable) scanner).cell number =
        (offerStep ctx folders reads requireStable met (number, name)).cell number := by
  induction entries generalizing scanner with
  | nil => cases listed
  | cons entry entries ih =>
      rw [List.map_cons, List.nodup_cons] at distinct
      rw [List.foldl_cons]
      rcases List.mem_cons.mp listed with rfl | later
      · exact ⟨scanner, rfl, foldl_offerStep_other ctx folders reads requireStable entries distinct.1 _⟩
      · have apart : number ≠ entry.1 := by
          rintro rfl
          exact distinct.1 (List.mem_map.mpr ⟨_, later, rfl⟩)
        obtain ⟨met, same, result⟩ := ih distinct.2 later (offerStep ctx folders reads requireStable scanner entry)
        exact ⟨met, same.trans (offerStep_other ctx folders reads apart), result⟩

theorem foldl_reportConflict (all entries : List (Nat × String)) (number : Nat) (scanner : Scanner) :
    (entries.foldl (reportConflict all) scanner).cell number = scanner.cell number := by
  induction entries generalizing scanner with
  | nil => rfl
  | cons entry entries ih =>
      rw [List.foldl_cons, ih, reportConflict]
      split
      · rfl
      · rfl

/-- A scan leaves a number alone, or it offers the one folder that it lists of it. -/
theorem publishReadySteps_cell (scanner : Scanner) (number : Nat) :
    (number ∉ (readySteps (listedSteps reads.listing) scanner.state.published).map Prod.fst ∧
      (publishReadySteps ctx folders reads requireStable scanner).cell number = scanner.cell number) ∨
    ∃ name met, (number, name) ∈ readySteps (listedSteps reads.listing) scanner.state.published ∧
      Scanner.cell met number = scanner.cell number ∧
      (publishReadySteps ctx folders reads requireStable scanner).cell number =
        (offerStep ctx folders reads requireStable met (number, name)).cell number := by
  have reported := foldl_reportConflict (listedSteps reads.listing) (listedSteps reads.listing) number
    (scanner.say (scanErrors reads.listing))
  rw [cell_say] at reported
  simp only [publishReadySteps]
  by_cases ready : number ∈ (readySteps (listedSteps reads.listing) scanner.state.published).map Prod.fst
  · obtain ⟨⟨_, name⟩, listed, rfl⟩ := List.mem_map.mp ready
    obtain ⟨met, same, result⟩ := foldl_offerStep_own ctx folders reads requireStable _ (nodup_readySteps _ _) listed
      ((listedSteps reads.listing).foldl (reportConflict (listedSteps reads.listing))
        (scanner.say (scanErrors reads.listing)))
    exact .inr ⟨name, met, listed, same.trans reported, result⟩
  · refine .inl ⟨ready, ?_⟩
    rw [foldl_offerStep_other ctx folders reads requireStable _ ready, reported]

end Scanning

end Gputeer.CheckpointPublisher
