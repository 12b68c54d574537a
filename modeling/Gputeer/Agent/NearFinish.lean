import Gputeer.Agent.OwnerPanel
import Mathlib.Algebra.Order.Group.Nat
import Mathlib.Algebra.Order.Ring.Nat
import Mathlib.Tactic.Common

/-! The expected end of a workload on the words of the source: 64-bit inputs, 128-bit products. -/

namespace Gputeer.Agent

/-- An operation that its word cannot hold. -/
inductive WordFault
  | mul128
  | sub64
  deriving DecidableEq, Repr

def mul128 (a b : Nat) : Except WordFault Nat :=
  if a * b < 2 ^ 128 then .ok (a * b) else .error .mul128

def sub64 (a b : UInt64) : Except WordFault UInt64 :=
  if b ≤ a then .ok (a - b) else .error .sub64

/-- `near_finish_expected_by` with every product and difference checked, and the casts as they are. -/
def nearFinishExpectedByOnWords (progress : WorkloadProgress) (startedAtUnixMs nowUnixMs : UInt64) :
    Except WordFault (Option UInt64) :=
  match progress.totalSteps with
  | none => .ok none
  | some total =>
      let current := progress.currentStep
      if total = 0 ∨ current = 0 ∨ total < current then .ok none
      else do
        let scaled ← mul128 current.toNat 1000000
        let progressPpm := UInt64.ofNat (scaled / total.toNat)
        if progressPpm.toNat < nearFinishMinProgressPpm then .ok none
        else if nowUnixMs < startedAtUnixMs then .ok none
        else do
          let elapsed ← sub64 nowUnixMs startedAtUnixMs
          let left ← sub64 total current
          let rated ← mul128 elapsed.toNat left.toNat
          let byRate := rated / current.toNat
          let byEta ← mul128 (progress.etaSeconds.getD 0).toNat 1000
          let product ← mul128 (max byRate byEta) nearFinishMultiplierPpm
          let padded := product / 1000000
          .ok (some (nowUnixMs.saturatingAdd (if padded < 2 ^ 64 then UInt64.ofNat padded else .maxValue)))

/-! ### What is expected -/

/-- There is ground for an expectation: a twentieth at least is done, and the clock did not go back. -/
structure Ground (progress : WorkloadProgress) (total startedAtUnixMs nowUnixMs : UInt64) : Prop where
  total_pos : total ≠ 0
  current_pos : progress.currentStep ≠ 0
  within : progress.currentStep ≤ total
  gate : nearFinishMinProgressPpm ≤ progress.currentStep.toNat * 1000000 / total.toNat
  started : startedAtUnixMs ≤ nowUnixMs

def rateMs (current total startedAtUnixMs nowUnixMs : UInt64) : Nat :=
  (nowUnixMs.toNat - startedAtUnixMs.toNat) * (total.toNat - current.toNat) / current.toNat

def remainingMs (progress : WorkloadProgress) (total startedAtUnixMs nowUnixMs : UInt64) : Nat :=
  max (rateMs progress.currentStep total startedAtUnixMs nowUnixMs) ((progress.etaSeconds.getD 0).toNat * 1000)

/-- A duration multiplied by 2.21 and rounded down. -/
def paddedMs (durationMs : Nat) : Nat := durationMs * nearFinishMultiplierPpm / 1000000

variable {progress : WorkloadProgress} {total startedAtUnixMs nowUnixMs expected : UInt64}

/-- A duration that no word holds counts as the longest. -/
def afterMs (nowUnixMs : UInt64) (durationMs : Nat) : UInt64 :=
  nowUnixMs.saturatingAdd (if durationMs < 2 ^ 64 then UInt64.ofNat durationMs else .maxValue)

theorem toNat_afterMs (nowUnixMs : UInt64) (durationMs : Nat) :
    (afterMs nowUnixMs durationMs).toNat = min (nowUnixMs.toNat + durationMs) (2 ^ 64 - 1) := by
  rw [afterMs, UInt64.toNat_saturatingAdd]
  split
  · rename_i fits
    rw [UInt64.toNat_ofNat', Nat.mod_eq_of_lt fits]
  · rename_i large
    rw [UInt64.toNat_maxValue]
    omega

theorem nearFinishExpectedBy_of_ground (declared : progress.totalSteps = some total)
    (ground : Ground progress total startedAtUnixMs nowUnixMs) :
    nearFinishExpectedBy progress startedAtUnixMs nowUnixMs =
      some (afterMs nowUnixMs (paddedMs (remainingMs progress total startedAtUnixMs nowUnixMs))) := by
  have counted : ¬ (total = 0 ∨ progress.currentStep = 0 ∨ total < progress.currentStep) := by
    rintro (none | none | above)
    · exact ground.total_pos none
    · exact ground.current_pos none
    · exact UInt64.not_lt.mpr ground.within above
  simp only [nearFinishExpectedBy, declared, Option.bind_eq_bind, Option.bind_some, if_neg counted,
    if_neg (Nat.not_lt.mpr ground.gate), if_neg (UInt64.not_lt.mpr ground.started)]
  rfl

theorem ground_of_expected (answered : nearFinishExpectedBy progress startedAtUnixMs nowUnixMs = some expected) :
    ∃ total, progress.totalSteps = some total ∧ Ground progress total startedAtUnixMs nowUnixMs := by
  unfold nearFinishExpectedBy at answered
  cases declared : progress.totalSteps with
  | none =>
      rw [declared] at answered
      cases answered
  | some total =>
      rw [declared] at answered
      simp only [Option.bind_eq_bind, Option.bind_some] at answered
      split at answered
      · cases answered
      · rename_i counted
        split at answered
        · cases answered
        · rename_i gate
          split at answered
          · cases answered
          · rename_i started
            simp only [not_or] at counted
            exact ⟨total, rfl, counted.1, counted.2.1, UInt64.not_lt.mp counted.2.2, Nat.not_lt.mp gate,
              UInt64.not_lt.mp started⟩

/-! ### No word overflows -/

/-- Through the gate at most nineteen steps are left for each that is done. -/
theorem rateMs_le (ground : Ground progress total startedAtUnixMs nowUnixMs) :
    rateMs progress.currentStep total startedAtUnixMs nowUnixMs ≤ 19 * nowUnixMs.toNat := by
  have done : 0 < progress.currentStep.toNat := by
    have apart := ground.current_pos
    rw [ne_eq, ← UInt64.toNat_inj, UInt64.toNat_zero] at apart
    omega
  have positive : 0 < total.toNat := by
    have apart := ground.total_pos
    rw [ne_eq, ← UInt64.toNat_inj, UInt64.toNat_zero] at apart
    omega
  have twentieth : total.toNat ≤ 20 * progress.currentStep.toNat := by
    have gate := (Nat.le_div_iff_mul_le positive).mp ground.gate
    unfold nearFinishMinProgressPpm at gate
    omega
  have left : total.toNat - progress.currentStep.toNat ≤ 19 * progress.currentStep.toNat := by omega
  rw [rateMs]
  calc
    (nowUnixMs.toNat - startedAtUnixMs.toNat) * (total.toNat - progress.currentStep.toNat) /
        progress.currentStep.toNat ≤ nowUnixMs.toNat * (19 * progress.currentStep.toNat) /
          progress.currentStep.toNat := by
      apply Nat.div_le_div_right
      exact Nat.mul_le_mul (Nat.sub_le _ _) left
    _ = 19 * nowUnixMs.toNat := by
      rw [← Nat.mul_assoc, Nat.mul_div_cancel _ done, Nat.mul_comm]

theorem mul128_eq_ok {a b : Nat} (fits : a * b < 2 ^ 128) : mul128 a b = .ok (a * b) := if_pos fits

theorem sub64_eq_ok {a b : UInt64} (below : b ≤ a) : sub64 a b = .ok (a - b) := if_pos below

theorem remainingMs_lt (ground : Ground progress total startedAtUnixMs nowUnixMs) :
    remainingMs progress total startedAtUnixMs nowUnixMs < 1000 * 2 ^ 64 := by
  have rate := rateMs_le ground
  have now := nowUnixMs.toNat_lt
  have eta := (progress.etaSeconds.getD 0).toNat_lt
  rw [remainingMs]
  omega

/-- The share of done steps fits its 64-bit word. -/
theorem toNat_progressPpm (within : progress.currentStep ≤ total) :
    (UInt64.ofNat (progress.currentStep.toNat * 1000000 / total.toNat)).toNat =
      progress.currentStep.toNat * 1000000 / total.toNat := by
  have below : progress.currentStep.toNat * 1000000 / total.toNat ≤ 1000000 := by
    apply Nat.div_le_of_le_mul
    exact Nat.mul_le_mul_right _ (UInt64.le_iff_toNat_le.mp within)
  rw [UInt64.toNat_ofNat', Nat.mod_eq_of_lt (by omega)]

/-- The products and differences after the gate. -/
theorem words_of_ground (ground : Ground progress total startedAtUnixMs nowUnixMs) :
    sub64 nowUnixMs startedAtUnixMs = .ok (nowUnixMs - startedAtUnixMs) ∧
    sub64 total progress.currentStep = .ok (total - progress.currentStep) ∧
    mul128 (nowUnixMs - startedAtUnixMs).toNat (total - progress.currentStep).toNat =
      .ok ((nowUnixMs.toNat - startedAtUnixMs.toNat) * (total.toNat - progress.currentStep.toNat)) ∧
    mul128 (progress.etaSeconds.getD 0).toNat 1000 = .ok ((progress.etaSeconds.getD 0).toNat * 1000) ∧
    mul128 (remainingMs progress total startedAtUnixMs nowUnixMs) nearFinishMultiplierPpm =
      .ok (remainingMs progress total startedAtUnixMs nowUnixMs * nearFinishMultiplierPpm) := by
  have elapsed := UInt64.toNat_sub_of_le _ _ ground.started
  have left := UInt64.toNat_sub_of_le _ _ ground.within
  refine ⟨sub64_eq_ok ground.started, sub64_eq_ok ground.within, ?_, ?_, ?_⟩
  · have elapsedLt := (nowUnixMs - startedAtUnixMs).toNat_lt
    have leftLt := (total - progress.currentStep).toNat_lt
    have product : (nowUnixMs - startedAtUnixMs).toNat * (total - progress.currentStep).toNat < 2 ^ 64 * 2 ^ 64 :=
      Nat.mul_lt_mul'' elapsedLt leftLt
    rw [mul128_eq_ok (by omega), elapsed, left]
  · have etaLt := (progress.etaSeconds.getD 0).toNat_lt
    exact mul128_eq_ok (by omega)
  · have remaining := remainingMs_lt ground
    apply mul128_eq_ok
    rw [nearFinishMultiplierPpm]
    omega

theorem ok_bind {α β : Type} (a : α) (next : α → Except WordFault β) : (Except.ok a >>= next) = next a := rfl

/-- The words of the source hold everything: the checked computation is the one on numbers. -/
theorem nearFinishExpectedByOnWords_eq (progress : WorkloadProgress) (startedAtUnixMs nowUnixMs : UInt64) :
    nearFinishExpectedByOnWords progress startedAtUnixMs nowUnixMs =
      .ok (nearFinishExpectedBy progress startedAtUnixMs nowUnixMs) := by
  cases declared : progress.totalSteps with
  | none => simp [nearFinishExpectedByOnWords, nearFinishExpectedBy, declared]
  | some total =>
      simp only [nearFinishExpectedByOnWords, nearFinishExpectedBy, declared, Option.bind_eq_bind, Option.bind_some]
      by_cases uncounted : total = 0 ∨ progress.currentStep = 0 ∨ total < progress.currentStep
      · rw [if_pos uncounted, if_pos uncounted]
      · rw [if_neg uncounted, if_neg uncounted]
        simp only [not_or, UInt64.not_lt] at uncounted
        obtain ⟨totalPos, currentPos, within⟩ := uncounted
        have currentLt := progress.currentStep.toNat_lt
        have scaled : mul128 progress.currentStep.toNat 1000000 = .ok (progress.currentStep.toNat * 1000000) :=
          mul128_eq_ok (by omega)
        rw [scaled, ok_bind, toNat_progressPpm within]
        by_cases early : progress.currentStep.toNat * 1000000 / total.toNat < nearFinishMinProgressPpm
        · rw [if_pos early, if_pos early]
        · rw [if_neg early, if_neg early]
          by_cases back : nowUnixMs < startedAtUnixMs
          · rw [if_pos back, if_pos back]
          · rw [if_neg back, if_neg back]
            have ground : Ground progress total startedAtUnixMs nowUnixMs :=
              ⟨totalPos, currentPos, within, Nat.not_lt.mp early, UInt64.not_lt.mp back⟩
            obtain ⟨elapsed, left, rated, eta, product⟩ := words_of_ground ground
            rw [remainingMs, rateMs] at product
            rw [elapsed, ok_bind, left, ok_bind, rated, ok_bind, eta, ok_bind, product, ok_bind]

/-! ### What the expectation promises -/

theorem afterMs_mono {first second : Nat} (longer : first ≤ second) :
    afterMs nowUnixMs first ≤ afterMs nowUnixMs second := by
  rw [UInt64.le_iff_toNat_le, toNat_afterMs, toNat_afterMs]
  omega

theorem paddedMs_mono {first second : Nat} (longer : first ≤ second) : paddedMs first ≤ paddedMs second :=
  Nat.div_le_div_right (Nat.mul_le_mul_right _ longer)

theorem rateMs_anti_current {current further : UInt64} (grown : current ≤ further) (some_ : current ≠ 0) :
    rateMs further total startedAtUnixMs nowUnixMs ≤ rateMs current total startedAtUnixMs nowUnixMs := by
  have grownNat := UInt64.le_iff_toNat_le.mp grown
  have positive : 0 < current.toNat := by
    rw [ne_eq, ← UInt64.toNat_inj, UInt64.toNat_zero] at some_
    omega
  exact Nat.div_le_div (Nat.mul_le_mul_left _ (Nat.sub_le_sub_left grownNat _)) grownNat (by omega)

theorem rateMs_anti_started {current earlier : UInt64} (back : earlier ≤ startedAtUnixMs) :
    rateMs current total startedAtUnixMs nowUnixMs ≤ rateMs current total earlier nowUnixMs :=
  Nat.div_le_div_right (Nat.mul_le_mul_right _ (Nat.sub_le_sub_left (UInt64.le_iff_toNat_le.mp back) _))

/-- More done steps leave the ground. -/
theorem Ground.further (ground : Ground progress total startedAtUnixMs nowUnixMs) {further : UInt64}
    (grown : progress.currentStep ≤ further) (within : further ≤ total) :
    Ground { progress with currentStep := further } total startedAtUnixMs nowUnixMs := by
  refine ⟨ground.total_pos, ?_, within, ?_, ground.started⟩
  · rintro none
    apply ground.current_pos
    rw [UInt64.le_iff_toNat_le, show further = 0 from none, UInt64.toNat_zero] at grown
    rw [← UInt64.toNat_inj, UInt64.toNat_zero]
    omega
  · refine ground.gate.trans (Nat.div_le_div_right ?_)
    exact Nat.mul_le_mul_right _ (UInt64.le_iff_toNat_le.mp grown)

theorem nearFinishExpectedBy_eq_none :
    nearFinishExpectedBy progress startedAtUnixMs nowUnixMs = none ↔
      ∀ total ∈ progress.totalSteps, ¬ Ground progress total startedAtUnixMs nowUnixMs := by
  constructor
  · intro unknown total declared ground
    rw [nearFinishExpectedBy_of_ground declared ground] at unknown
    cases unknown
  · intro none
    cases answered : nearFinishExpectedBy progress startedAtUnixMs nowUnixMs with
    | none => rfl
    | some expected =>
        obtain ⟨total, declared, ground⟩ := ground_of_expected answered
        exact absurd ground (none total declared)

theorem not_ground_iff : ¬ Ground progress total startedAtUnixMs nowUnixMs ↔
    total = 0 ∨ progress.currentStep = 0 ∨ total < progress.currentStep ∨
      progress.currentStep.toNat * 1000000 / total.toNat < 50000 ∨ nowUnixMs < startedAtUnixMs := by
  constructor
  · intro none
    by_contra no
    simp only [not_or, UInt64.not_lt, Nat.not_lt] at no
    exact none ⟨no.1, no.2.1, no.2.2.1, no.2.2.2.1, no.2.2.2.2⟩
  · rintro (uncounted | uncounted | above | early | back) ground
    · exact ground.total_pos uncounted
    · exact ground.current_pos uncounted
    · exact UInt64.not_lt.mpr ground.within above
    · exact Nat.not_lt.mpr ground.gate early
    · exact UInt64.not_lt.mpr ground.started back

/-- No product overflows; an answer is withheld exactly without ground; what is answered is not before now
nor before the padded rate, and more steps done, a smaller estimate or a later start never put it off. -/
theorem near_finish_is_safe_and_conservative (progress : WorkloadProgress) (startedAtUnixMs nowUnixMs : UInt64) :
    nearFinishExpectedByOnWords progress startedAtUnixMs nowUnixMs =
      .ok (nearFinishExpectedBy progress startedAtUnixMs nowUnixMs) ∧
    (nearFinishExpectedBy progress startedAtUnixMs nowUnixMs = none ↔
      ∀ total ∈ progress.totalSteps, total = 0 ∨ progress.currentStep = 0 ∨ total < progress.currentStep ∨
        progress.currentStep.toNat * 1000000 / total.toNat < 50000 ∨ nowUnixMs < startedAtUnixMs) ∧
    ∀ total ∈ progress.totalSteps, ∀ expected,
      nearFinishExpectedBy progress startedAtUnixMs nowUnixMs = some expected →
      nowUnixMs ≤ expected ∧
      min (nowUnixMs.toNat + 2210000 * ((nowUnixMs.toNat - startedAtUnixMs.toNat) *
        (total.toNat - progress.currentStep.toNat) / progress.currentStep.toNat) / 1000000) (2 ^ 64 - 1) ≤
          expected.toNat ∧
      (∀ further, progress.currentStep ≤ further → further ≤ total → ∃ next,
        nearFinishExpectedBy { progress with currentStep := further } startedAtUnixMs nowUnixMs = some next ∧
          next ≤ expected) ∧
      (∀ etaSeconds, progress.etaSeconds.getD 0 ≤ etaSeconds.getD 0 → ∃ next,
        nearFinishExpectedBy { progress with etaSeconds := etaSeconds } startedAtUnixMs nowUnixMs = some next ∧
          expected ≤ next) ∧
      ∀ earlier, earlier ≤ startedAtUnixMs → ∃ next,
        nearFinishExpectedBy progress earlier nowUnixMs = some next ∧ expected ≤ next := by
  refine ⟨nearFinishExpectedByOnWords_eq progress startedAtUnixMs nowUnixMs, ?_, ?_⟩
  · simp only [nearFinishExpectedBy_eq_none, not_ground_iff]
  · intro total declared expected answered
    obtain ⟨same, declaredSame, ground⟩ := ground_of_expected answered
    obtain rfl : total = same := Option.some.inj ((Option.mem_def.mp declared).symm.trans declaredSame)
    rw [nearFinishExpectedBy_of_ground declared ground] at answered
    obtain rfl := Option.some.inj answered
    refine ⟨?_, ?_, ?_, ?_, ?_⟩
    · have now := nowUnixMs.toNat_lt
      rw [UInt64.le_iff_toNat_le, toNat_afterMs]
      omega
    · rw [toNat_afterMs, Nat.mul_comm 2210000]
      have padded : paddedMs (rateMs progress.currentStep total startedAtUnixMs nowUnixMs) ≤
          paddedMs (remainingMs progress total startedAtUnixMs nowUnixMs) := paddedMs_mono (Nat.le_max_left _ _)
      exact min_le_min_right _ (Nat.add_le_add_left padded _)
    · intro further grown within
      refine ⟨_, nearFinishExpectedBy_of_ground declared (ground.further grown within), ?_⟩
      exact afterMs_mono (paddedMs_mono (max_le_max_right _ (rateMs_anti_current grown ground.current_pos)))
    · intro etaSeconds longer
      have kept : Ground { progress with etaSeconds := etaSeconds } total startedAtUnixMs nowUnixMs :=
        ⟨ground.total_pos, ground.current_pos, ground.within, ground.gate, ground.started⟩
      refine ⟨_, nearFinishExpectedBy_of_ground declared kept, ?_⟩
      exact afterMs_mono (paddedMs_mono (max_le_max_left _ (Nat.mul_le_mul_right _ (UInt64.le_iff_toNat_le.mp longer))))
    · intro earlier back
      have kept : Ground progress total earlier nowUnixMs :=
        ⟨ground.total_pos, ground.current_pos, ground.within, ground.gate, UInt64.le_trans back ground.started⟩
      refine ⟨_, nearFinishExpectedBy_of_ground declared kept, ?_⟩
      exact afterMs_mono (paddedMs_mono (max_le_max_right _ (rateMs_anti_started back)))

/-- Half done after ten seconds: 22.1 seconds more are expected, and less with more done. -/
theorem half_done_is_expected :
    nearFinishExpectedBy ⟨50, some 100, none⟩ 1000 11000 = some 33100 ∧
    ∃ next, nearFinishExpectedBy ⟨60, some 100, none⟩ 1000 11000 = some next ∧ next ≤ 33100 := by
  have expected : nearFinishExpectedBy ⟨50, some 100, none⟩ 1000 11000 = some 33100 := by decide
  exact ⟨expected, ((near_finish_is_safe_and_conservative ⟨50, some 100, none⟩ 1000 11000).2.2 100 rfl 33100
    expected).2.2.1 60 (by decide) (by decide)⟩

end Gputeer.Agent
