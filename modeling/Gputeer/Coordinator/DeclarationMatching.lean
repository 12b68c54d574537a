import Gputeer.Coordinator.GpuAttestation
import Gputeer.Lib.Matching

/-! A declaration is accepted exactly when its GPUs can be assigned to different observed ones. -/

namespace Gputeer.Coordinator

open Matching Protocol

/-- What a declaration asks of the observed GPU that stands for it. -/
structure Suits (gpu : GpuInventory) (other : ObservedGpu) : Prop where
  uuid : declaredAsUuid gpu.gpuId = true → other.uuid = gpu.gpuId
  model : ∀ model ∈ gpu.model, model = other.model
  vram : ∀ vram ∈ gpu.availableVramBytes, vram ≤ other.totalVramBytes

theorem fits_iff {gpu : GpuInventory} {other : ObservedGpu} : fits gpu other = true ↔ Suits gpu other := by
  have shape : (declaredAsUuid gpu.gpuId = false ∨ other.uuid = gpu.gpuId) ↔
      (declaredAsUuid gpu.gpuId = true → other.uuid = gpu.gpuId) := by
    cases declaredAsUuid gpu.gpuId <;> simp
  simp only [fits, Bool.decide_and, Bool.and_eq_true, decide_eq_true_eq, Option.all_eq_true, shape]
  constructor
  · rintro ⟨uuid, model, vram⟩
    exact ⟨uuid, model, vram⟩
  · rintro ⟨uuid, model, vram⟩
    exact ⟨uuid, model, vram⟩

section Search

variable {declared : List GpuInventory} {observed : List ObservedGpu} {start pairing after : Pairing}
  {fuel i j k : Nat} {done : List Nat} {state : Bool × Pairing} {owner : Nat → Option Nat}

variable (declared observed) in
/-- One turn of the loop of `augment`. -/
def turn (fuel i : Nat) : Bool × Pairing → Nat → Bool × Pairing := fun (found, pairing) j =>
  if found = true ∨ j ∈ pairing.seen ∨ fitsAt declared observed i j = false then
    (found, pairing)
  else
    let looked : Pairing := { pairing with seen := insert j pairing.seen }
    let (free, moved) := match looked.owner j with
      | none => (true, looked)
      | some k => augment declared observed fuel k looked
    if free then (true, { moved with owner := Function.update moved.owner j (some i) })
    else (false, moved)

theorem augment_succ : augment declared observed (fuel + 1) i pairing =
    (List.range observed.length).foldl (turn declared observed fuel i) (false, pairing) := rfl

theorem turn_found : turn declared observed fuel i (true, pairing) j = (true, pairing) := by
  simp [turn]

theorem turn_skip (skipped : j ∈ pairing.seen ∨ fitsAt declared observed i j = false) :
    turn declared observed fuel i (false, pairing) j = (false, pairing) := by
  simp [turn, skipped]

section Taken

variable (unseen : j ∉ pairing.seen) (allowed : fitsAt declared observed i j = true)

include unseen allowed

theorem turn_free (isFree : pairing.owner j = none) : turn declared observed fuel i (false, pairing) j =
    (true, ⟨insert j pairing.seen, Function.update pairing.owner j (some i)⟩) := by
  simp [turn, unseen, allowed, isFree]

theorem turn_held (held : pairing.owner j = some k) : turn declared observed fuel i (false, pairing) j =
    if (augment declared observed fuel k ⟨insert j pairing.seen, pairing.owner⟩).1 = true then
      (true, { (augment declared observed fuel k ⟨insert j pairing.seen, pairing.owner⟩).2 with
        owner := Function.update
          (augment declared observed fuel k ⟨insert j pairing.seen, pairing.owner⟩).2.owner j (some i) })
    else (false, (augment declared observed fuel k ⟨insert j pairing.seen, pairing.owner⟩).2) := by
  simp [turn, unseen, allowed, held]

end Taken

theorem lt_of_fitsAt (allowed : fitsAt declared observed i j = true) :
    i < declared.length ∧ j < observed.length := by
  unfold fitsAt at allowed
  split at allowed
  · next gpu other found foundOther =>
    exact ⟨(List.getElem?_eq_some_iff.mp found).1, (List.getElem?_eq_some_iff.mp foundOther).1⟩
  · cases allowed

variable (declared observed) in
def Fits (i j : Nat) : Prop := fitsAt declared observed i j = true

variable (declared observed) in
/-- What a search that found nothing leaves behind: the owners as they were, and a dead end. -/
structure Missed (start after : Pairing) : Prop where
  owner : after.owner = start.owner
  kept : start.seen ⊆ after.seen
  within : after.seen ⊆ Finset.range observed.length
  deadEnd : DeadEnd (Fits declared observed) start.owner start.seen after.seen

variable (declared observed) in
/-- Where the loop for `i` stands after these turns. -/
structure Reaches (i : Nat) (start : Pairing) (done : List Nat) (state : Bool × Pairing) : Prop where
  found : state.1 = true → Augments (Fits declared observed) start.owner start.seen i state.2.owner
  missed : state.1 = false → Missed declared observed start state.2 ∧
    ∀ j ∈ done, Fits declared observed i j → j ∈ state.2.seen

variable (observed) in
/-- Each level of the search sees one more observation, so this much fuel is enough. -/
def Enough (fuel : Nat) (pairing : Pairing) : Prop :=
  observed.length < fuel + pairing.seen.card ∧ pairing.seen ⊆ Finset.range observed.length

theorem not_enough_zero : ¬ Enough observed 0 pairing := by
  rintro ⟨more, within⟩
  have few := Finset.card_le_card within
  rw [Finset.card_range] at few
  omega

theorem Enough.looked (enough : Enough observed (fuel + 1) start) (kept : start.seen ⊆ pairing.seen)
    (within : pairing.seen ⊆ Finset.range observed.length) (unseen : j ∉ pairing.seen)
    (allowed : fitsAt declared observed i j = true) :
    Enough observed fuel ⟨insert j pairing.seen, owner⟩ := by
  have counted := Finset.card_le_card kept
  have more := enough.1
  refine ⟨?_, Finset.insert_subset (Finset.mem_range.mpr (lt_of_fitsAt allowed).2) within⟩
  rw [Finset.card_insert_of_notMem unseen]
  omega

/-- The owner of the place that was looked at has a dead end before it, too. -/
theorem Missed.trans (missed : Missed declared observed start pairing) (held : pairing.owner j = some k)
    (rest : Missed declared observed ⟨insert j pairing.seen, pairing.owner⟩ after)
    (leads : ∀ other, Fits declared observed k other → other ∈ after.seen) :
    Missed declared observed start after where
  owner := rest.owner.trans missed.owner
  kept := (missed.kept.trans (Finset.subset_insert j _)).trans rest.kept
  within := rest.within
  deadEnd := by
    intro other inside unseen
    rw [← missed.owner]
    by_cases looked : other ∈ insert j pairing.seen
    · rcases Finset.mem_insert.mp looked with rfl | earlier
      · exact ⟨k, held, leads⟩
      · obtain ⟨holder, holds, within⟩ := missed.deadEnd other earlier unseen
        exact ⟨holder, missed.owner ▸ holds, fun next allowed =>
          rest.kept (Finset.mem_insert_of_mem (within next allowed))⟩
    · exact rest.deadEnd other inside looked

/-- What one turn keeps, when the search below it is right. -/
theorem Reaches.turn (reaches : Reaches declared observed i start done state)
    (below : ∀ k pairing, Enough observed fuel pairing → Reaches declared observed k pairing
      (List.range observed.length) (augment declared observed fuel k pairing))
    (enough : Enough observed (fuel + 1) start) :
    Reaches declared observed i start (done ++ [j]) (turn declared observed fuel i state j) := by
  obtain ⟨found, pairing⟩ := state
  cases found with
  | true =>
      rw [turn_found]
      exact ⟨fun _ => reaches.found rfl, fun never => (by cases never)⟩
  | false =>
      obtain ⟨missed, covered⟩ := reaches.missed rfl
      have coveredNext {after : Pairing} (kept : pairing.seen ⊆ after.seen)
          (here : Fits declared observed i j → j ∈ after.seen) :
          ∀ other ∈ done ++ [j], Fits declared observed i other → other ∈ after.seen := by
        intro other listed allowed
        rcases List.mem_append.mp listed with earlier | last
        · exact kept (covered other earlier allowed)
        · obtain rfl := List.mem_singleton.mp last
          exact here allowed
      by_cases seen : j ∈ pairing.seen
      · rw [turn_skip (Or.inl seen)]
        exact ⟨fun never => (by cases never), fun _ => ⟨missed, coveredNext subset_rfl fun _ => seen⟩⟩
      · cases allowed : fitsAt declared observed i j with
        | false =>
            rw [turn_skip (Or.inr allowed)]
            refine ⟨fun never => (by cases never), fun _ => ⟨missed, coveredNext subset_rfl fun fits => ?_⟩⟩
            exact absurd (fits.symm.trans allowed) (by decide)
        | true =>
            have unseen : j ∉ start.seen := fun inside => seen (missed.kept inside)
            cases held : pairing.owner j with
            | none =>
                rw [turn_free seen allowed held, missed.owner]
                exact ⟨fun _ => .free unseen allowed (missed.owner ▸ held), fun never => by cases never⟩
            | some k =>
                rw [turn_held seen allowed held]
                have rest := below k ⟨insert j pairing.seen, pairing.owner⟩
                  (enough.looked missed.kept missed.within seen allowed)
                generalize augment declared observed fuel k ⟨insert j pairing.seen, pairing.owner⟩ = result at rest
                split
                · next moves =>
                  have path := (rest.found moves).of_subset (Finset.insert_subset_insert j missed.kept)
                  have heldBefore : start.owner j = some k := missed.owner ▸ held
                  refine ⟨fun _ => ?_, fun never => by cases never⟩
                  exact .move unseen allowed heldBefore (missed.owner ▸ path)
                · next stays =>
                  obtain ⟨missedBelow, coveredBelow⟩ := rest.missed (Bool.eq_false_iff.mpr stays)
                  have leads : ∀ other, Fits declared observed k other → other ∈ result.2.seen :=
                    fun other fits => coveredBelow other (List.mem_range.mpr (lt_of_fitsAt fits).2) fits
                  refine ⟨fun never => (by cases never), fun _ => ⟨missed.trans held missedBelow leads, ?_⟩⟩
                  exact coveredNext ((Finset.subset_insert j _).trans missedBelow.kept) fun _ =>
                    missedBelow.kept (Finset.mem_insert_self j _)

theorem Reaches.foldl {turns : List Nat} (reaches : Reaches declared observed i start done state)
    (below : ∀ k pairing, Enough observed fuel pairing → Reaches declared observed k pairing
      (List.range observed.length) (augment declared observed fuel k pairing))
    (enough : Enough observed (fuel + 1) start) :
    Reaches declared observed i start (done ++ turns)
      (turns.foldl (Coordinator.turn declared observed fuel i) state) := by
  induction turns generalizing done state with
  | nil => rwa [List.append_nil]
  | cons j rest ih =>
      have next := ih (reaches.turn (j := j) below enough)
      rwa [List.append_assoc, List.singleton_append] at next

theorem Reaches.at_start (within : start.seen ⊆ Finset.range observed.length) :
    Reaches declared observed i start [] (false, start) where
  found := fun never => by cases never
  missed := fun _ => ⟨⟨rfl, subset_rfl, within, fun _ inside unseen => absurd inside unseen⟩,
    fun _ listed => absurd listed List.not_mem_nil⟩

theorem augment_reaches (enough : Enough observed fuel pairing) :
    Reaches declared observed i pairing (List.range observed.length)
      (augment declared observed fuel i pairing) := by
  induction fuel generalizing i pairing with
  | zero => exact absurd enough not_enough_zero
  | succ fuel ih =>
      rw [augment_succ]
      exact (Reaches.at_start enough.2).foldl (fun _ _ => ih) enough

theorem turn_stable (reaches : Reaches declared observed i start done state)
    (enough : Enough observed (fuel + 1) start)
    (below : ∀ k pairing, Enough observed fuel pairing →
      augment declared observed (fuel + 1) k pairing = augment declared observed fuel k pairing) :
    turn declared observed (fuel + 1) i state j = turn declared observed fuel i state j := by
  obtain ⟨found, pairing⟩ := state
  cases found with
  | true => rw [turn_found, turn_found]
  | false =>
      by_cases skipped : j ∈ pairing.seen ∨ fitsAt declared observed i j = false
      · rw [turn_skip skipped, turn_skip skipped]
      · rw [not_or, Bool.not_eq_false] at skipped
        obtain ⟨missed, _⟩ := reaches.missed rfl
        cases held : pairing.owner j with
        | none => rw [turn_free skipped.1 skipped.2 held, turn_free skipped.1 skipped.2 held]
        | some k =>
            rw [turn_held skipped.1 skipped.2 held, turn_held skipped.1 skipped.2 held,
              below k _ (enough.looked missed.kept missed.within skipped.1 skipped.2)]

/-- One more unit of fuel changes nothing. -/
theorem augment_stable (enough : Enough observed fuel pairing) :
    augment declared observed (fuel + 1) i pairing = augment declared observed fuel i pairing := by
  induction fuel generalizing i pairing with
  | zero => exact absurd enough not_enough_zero
  | succ fuel ih =>
      have turns (js done : List Nat) (state : Bool × Pairing)
          (reaches : Reaches declared observed i pairing done state) :
          js.foldl (Coordinator.turn declared observed (fuel + 1) i) state =
            js.foldl (Coordinator.turn declared observed fuel i) state := by
        induction js generalizing done state with
        | nil => rfl
        | cons j rest ihTurns =>
            rw [List.foldl_cons, List.foldl_cons, turn_stable reaches enough fun _ _ => ih]
            exact ihTurns _ _ (reaches.turn (fun _ _ => augment_reaches) enough)
      rw [augment_succ, augment_succ]
      exact turns _ [] _ (Reaches.at_start enough.2)

theorem augment_eq_of_le (enough : Enough observed fuel pairing) {more : Nat} (le : fuel ≤ more) :
    augment declared observed more i pairing = augment declared observed fuel i pairing := by
  induction more, le using Nat.le_induction with
  | base => rfl
  | succ more le ih =>
      have enoughMore : Enough observed more pairing := ⟨by have := enough.1; omega, enough.2⟩
      rw [augment_stable enoughMore, ih]

theorem enough_at_start : Enough observed (observed.length + 1) ⟨∅, owner⟩ :=
  ⟨by simp, by simp⟩

/-- The declarations that were gone through are served, or one of them stands in the way of every
assignment. -/
theorem firstUnmatched_spec {rest : List Nat} (serves : Serves (Fits declared observed) owner ∅ {k | k ∈ done})
    (distinct : (done ++ rest).Nodup) :
    (firstUnmatched declared observed owner rest = none →
      ∃ last, Serves (Fits declared observed) last ∅ {k | k ∈ done ++ rest}) ∧
    (firstUnmatched declared observed owner rest ≠ none →
      ¬ ∃ assignment : Nat → Nat, Set.InjOn assignment {k | k ∈ done ++ rest} ∧
        ∀ k ∈ done ++ rest, Fits declared observed k (assignment k)) := by
  induction rest generalizing done owner with
  | nil => exact ⟨fun _ => ⟨owner, by rwa [List.append_nil]⟩, fun never => absurd rfl never⟩
  | cons i rest ih =>
      have unserved : i ∉ {k | k ∈ done} := fun listed =>
        (List.nodup_append.mp distinct).2.2 i listed i List.mem_cons_self rfl
      have reaches := @augment_reaches declared observed ⟨∅, owner⟩ _ i enough_at_start
      have onward : done ++ i :: rest = (done ++ [i]) ++ rest := by simp
      unfold firstUnmatched
      generalize augment declared observed (observed.length + 1) i ⟨∅, owner⟩ = result at reaches
      obtain ⟨found, after⟩ := result
      cases found with
      | true =>
          have served := (reaches.found rfl).serves serves unserved
          have same : insert i {k | k ∈ done} = {k | k ∈ done ++ [i]} := by
            ext k
            simp [or_comm]
          rw [same] at served
          rw [onward] at distinct ⊢
          exact ih served distinct
      | false =>
          obtain ⟨missed, covered⟩ := reaches.missed rfl
          refine ⟨fun never => (by cases never), fun _ => ?_⟩
          rintro ⟨assignment, injective, allowed⟩
          have among : insert i {k | k ∈ done} ⊆ {k | k ∈ done ++ i :: rest} := by
            rintro k (rfl | listed)
            · exact List.mem_append_right _ List.mem_cons_self
            · exact List.mem_append_left _ listed
          refine serves.no_assignment unserved missed.deadEnd (fun j fits => ?_)
            ⟨assignment, injective.mono among, fun k listed => allowed k (among listed)⟩
          exact covered j (List.mem_range.mpr (lt_of_fitsAt fits).2) fits

theorem fitsAt_iff : Fits declared observed i j ↔
    ∃ (inside : i < declared.length) (insideOther : j < observed.length), Suits declared[i] observed[j] := by
  constructor
  · intro fits
    obtain ⟨inside, insideOther⟩ := lt_of_fitsAt fits
    refine ⟨inside, insideOther, fits_iff.mp ?_⟩
    simpa [Fits, fitsAt, inside, insideOther] using fits
  · rintro ⟨inside, insideOther, suits⟩
    simpa [Fits, fitsAt, inside, insideOther] using fits_iff.mpr suits

theorem matchDeclaration_eq_ok {done : Unit} : matchDeclaration declared observed = .ok done ↔
    firstUnmatched declared observed (fun _ => none) (List.range declared.length) = none := by
  unfold matchDeclaration
  cases firstUnmatched declared observed (fun _ => none) (List.range declared.length) <;> simp

theorem assignable_of_serves (serves : Serves (Fits declared observed) owner ∅ {k | k ∈ List.range declared.length}) :
    Assignable Suits declared observed := by
  have served (i : Fin declared.length) : ∃ j, owner j = some i.val ∧ Fits declared observed i j := by
    obtain ⟨j, unseen, owns⟩ := (serves.served i).mp (List.mem_range.mpr i.isLt)
    exact ⟨j, owns, serves.allowed j unseen i owns⟩
  choose place owns fits using served
  refine ⟨fun i => ⟨place i, (lt_of_fitsAt (fits i)).2⟩, ?_, fun i => ?_⟩
  · intro one other same
    have samePlace : place one = place other := congrArg Fin.val same
    have sameOwner := (owns one).symm.trans (samePlace ▸ owns other)
    exact Fin.ext (Option.some.inj sameOwner)
  · obtain ⟨_, _, suits⟩ := fitsAt_iff.mp (fits i)
    exact suits

theorem assignment_of_assignable (assignable : Assignable Suits declared observed) :
    ∃ assignment : Nat → Nat, Set.InjOn assignment {k | k ∈ List.range declared.length} ∧
      ∀ k ∈ List.range declared.length, Fits declared observed k (assignment k) := by
  obtain ⟨assignment, distinct, suits⟩ := assignable
  refine ⟨fun k => if inside : k < declared.length then assignment ⟨k, inside⟩ else 0, ?_, ?_⟩
  · intro one listed other alsoListed same
    have inside := List.mem_range.mp listed
    have insideOther := List.mem_range.mp alsoListed
    simp only [inside, insideOther, dite_true] at same
    exact congrArg Fin.val (distinct (Fin.ext same))
  · intro k listed
    have inside := List.mem_range.mp listed
    simp only [inside, dite_true]
    exact fitsAt_iff.mpr ⟨inside, (assignment _).isLt, suits ⟨k, inside⟩⟩

/-- A declaration is accepted exactly when its GPUs can be assigned to different observed ones. -/
theorem matchDeclaration_iff {done : Unit} :
    matchDeclaration declared observed = .ok done ↔ Assignable Suits declared observed := by
  have start : Serves (Fits declared observed) (fun _ => none) ∅ {k | k ∈ ([] : List Nat)} :=
    ⟨fun _ _ _ never => (by cases never), fun _ _ _ _ _ never => (by cases never), fun k => by simp⟩
  have distinct : ([] ++ List.range declared.length).Nodup := List.nodup_range
  obtain ⟨serves, stands⟩ := firstUnmatched_spec start distinct
  rw [List.nil_append] at serves stands
  rw [matchDeclaration_eq_ok]
  constructor
  · intro matched
    obtain ⟨last, served⟩ := serves matched
    exact assignable_of_serves served
  · intro assignable
    by_contra unmatched
    exact stands unmatched (assignment_of_assignable assignable)

/-- The search finds an assignment when there is one, in whatever order the GPUs are listed. It never sees an
observation twice, so that it comes to its end. -/
theorem match_declaration_decides_matching :
    (matchDeclaration declared observed = .ok () ↔ Assignable Suits declared observed) ∧
    (∀ fuel, observed.length < fuel → ∀ i owner, augment declared observed fuel i ⟨∅, owner⟩ =
      augment declared observed (observed.length + 1) i ⟨∅, owner⟩) ∧
    ∀ others places, declared.Perm others → observed.Perm places →
      (matchDeclaration others places = .ok () ↔ matchDeclaration declared observed = .ok ()) := by
  refine ⟨matchDeclaration_iff, fun fuel more i owner => augment_eq_of_le enough_at_start more, ?_⟩
  intro others places same samePlaces
  rw [matchDeclaration_iff, matchDeclaration_iff]
  exact ⟨fun assignable => assignable.of_perm same.symm samePlaces.symm,
    fun assignable => assignable.of_perm same samePlaces⟩

end Search

end Gputeer.Coordinator
