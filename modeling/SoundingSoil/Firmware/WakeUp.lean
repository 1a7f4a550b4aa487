import SoundingSoil.Firmware.Commands

/-!
# Going to sleep

The main loop tests the enable flag and the request, and only later masks interrupts and executes WFI; a
request that an interrupt sets in between is not tested again.

* `Overtaken` — the record of such a request: an accepted READ(10) or WRITE(10) sets it between the
  failed test and WFI, a reset clears it.
* `overtaken_step` — on the way to sleep the record is the pending request.
* **`sleepsIdle_iff`** — a run never sleeps on a request iff WFI is never executed, with nothing pending,
  after the loop was overtaken.
* `transfer_slept_on` — a READ(10) accepted right after the test is slept on.
-/

namespace SoundingSoil
namespace Firmware

open Support

/-- The test has failed and WFI has not been executed. -/
def Pc.entersSleep : Pc → Bool
  | .irqDisable => true
  | .chooseMode => true
  | .setMode _ => true
  | .irqEnable => true
  | .dsb => true
  | .wfi => true
  | _ => false

/-- The processor does not sleep on a transfer that the main loop is to run. -/
def SleepsIdle (s : Sys) : Prop :=
  s.pc = .asleep → ¬ (s.dev.app.mainBMscEnable = true ∧ s.dev.msc.bTransReq = true)

/-- The record of a transfer accepted after the test that sends the loop to sleep. -/
def overtaken (record : Bool) (s : Sys) : Label → Bool
  | .main _ => s.pc.entersSleep && record
  | .raise _ => record
  | .serve =>
      s.served.elim record fun irq =>
        !cancelsTransfer irq s.dev && (record || s.pc.entersSleep && acceptsTransfer lunDesc irq s.dev)

/-- WFI is not executed, with nothing pending, after the loop was overtaken. -/
def WaitsUnasked (p : Sys × Bool) (l : Label) : Prop :=
  ∀ answer, l = .main answer → p.1.pc = .wfi → p.1.pending = [] → p.2 = false

/-! ## The way to sleep -/

/-- The position belongs to `sleepmgr_enter_sleep`. -/
def Pc.idle (pc : Pc) : Bool :=
  pc.entersSleep || pc == .asleep

theorem idle_denied (r : RunFor) : r.denied.idle = false := by
  cases r <;> rfl

theorem idle_runStep (stage : RunPc) (r : RunFor) (s : Sys) : (runStep stage r s).pc.idle = false := by
  have haccepted : r.accepted.idle = false := by cases r <;> rfl
  cases stage with
  | halted =>
      unfold runStep
      dsimp only
      split_ifs
      · exact idle_denied r
      · rfl
  | claim =>
      unfold runStep
      dsimp only
      split_ifs
      · rfl
      · exact idle_denied r
  | buffer | callback | flags => rfl
  | start =>
      unfold runStep
      dsimp only
      split_ifs
      · exact haccepted
      · exact idle_denied r

theorem idle_memoryStep (answer : SdMmcErr) {m : MemoryPc} {s : Sys} (hpc : s.pc = .memory m) :
    (memoryStep answer m s).pc.idle = false := by
  have hstay : s.pc.idle = false := by
    rw [hpc]
    rfl
  cases m with
  | ackClear t | runDenied t | residue t | blockFailed t | exit t => rfl
  | ackWait t =>
      unfold memoryStep
      dsimp only
      split_ifs
      · rfl
      · exact hstay
  | _ =>
      unfold memoryStep
      dsimp only
      split_ifs <;> rfl

/-- The loop goes to sleep only after a failed test. -/
theorem idle_mainStep (answer : SdMmcErr) {s : Sys} (hpc : s.pc.idle = false)
    (hidle : (mainStep answer s).pc.idle = true) :
    (mainStep answer s).pc = .irqDisable
      ∧ (s.pc = .loop ∧ s.dev.app.mainBMscEnable = false
        ∨ s.pc = .testReq ∧ s.dev.msc.bTransReq = false) := by
  cases h : s.pc with
  | loop =>
      simp only [mainStep, h] at hidle ⊢
      by_cases hflag : s.dev.app.mainBMscEnable = true
      · rw [if_pos hflag] at hidle
        exact absurd hidle Bool.noConfusion
      · rw [if_neg hflag]
        exact ⟨rfl, .inl ⟨trivial, Bool.eq_false_of_not_eq_true hflag⟩⟩
  | testReq =>
      simp only [mainStep, h] at hidle ⊢
      by_cases hreq : s.dev.msc.bTransReq = true
      · rw [if_pos hreq] at hidle
        exact absurd hidle Bool.noConfusion
      · rw [if_neg hreq]
        exact ⟨rfl, .inr ⟨trivial, Bool.eq_false_of_not_eq_true hreq⟩⟩
  | memory m =>
      simp only [mainStep, h] at hidle
      exact absurd ((idle_memoryStep answer h).symm.trans hidle) Bool.noConfusion
  | run stage r =>
      simp only [mainStep, h] at hidle
      exact absurd ((idle_runStep stage r s).symm.trans hidle) Bool.noConfusion
  | irqDisable | chooseMode | setMode _ | irqEnable | dsb | wfi | asleep =>
      rw [h] at hpc
      exact absurd hpc Bool.noConfusion
  | sense stage status =>
      simp only [mainStep, h] at hidle
      have hnext : (stage.next status).idle = true := hidle
      rcases next_sense stage status with ⟨stage', hpc'⟩ | hpc' <;>
        exact absurd hnext (by rw [hpc']; exact Bool.noConfusion)
  | cswResidue =>
      simp only [mainStep, h] at hidle
      revert hidle
      cases s.dev.msc.residueEp <;> exact fun h => Bool.noConfusion h
  | resetTest _ | haltBusy _ | stallBusy | stallHalted | stallConfigured =>
      simp only [mainStep, h] at hidle
      split_ifs at hidle <;> exact absurd hidle Bool.noConfusion
  | _ =>
      simp only [mainStep, h] at hidle
      exact absurd hidle Bool.noConfusion

/-- On the way to sleep the loop touches no shared state. -/
theorem dev_mainStep_idle (answer : SdMmcErr) {s : Sys} (hpc : s.pc.idle = true) :
    (mainStep answer s).dev = s.dev := by
  cases h : s.pc with
  | irqDisable | setMode _ | irqEnable | dsb | asleep => simp only [mainStep, h, Sys.goto]
  | chooseMode | wfi =>
      simp only [mainStep, h]
      split_ifs <;> rfl
  | _ =>
      rw [h] at hpc
      exact absurd hpc Bool.noConfusion

/-- The loop falls asleep at WFI, with nothing pending. -/
theorem asleep_mainStep (answer : SdMmcErr) {s : Sys} (hpc : s.pc ≠ .asleep) :
    (mainStep answer s).pc = .asleep ↔ s.pc = .wfi ∧ s.pending = [] := by
  by_cases hidle : s.pc.idle = true
  · cases h : s.pc with
    | irqDisable | setMode _ | irqEnable | dsb => simp [mainStep, h, Sys.goto]
    | chooseMode =>
        simp only [mainStep, h]
        split_ifs <;> simp [Sys.goto]
    | wfi =>
        simp only [mainStep, h, true_and]
        split_ifs with hpending
        · exact ⟨fun _ => hpending, fun _ => rfl⟩
        · exact ⟨fun h => Pc.noConfusion h, fun hnil => absurd hnil hpending⟩
    | asleep => exact absurd h hpc
    | _ =>
        rw [h] at hidle
        exact absurd hidle Bool.noConfusion
  · constructor
    · intro hasleep
      have hfrom := idle_mainStep answer (Bool.eq_false_of_not_eq_true hidle)
        (by rw [hasleep]; rfl)
      exact absurd (hfrom.1.symm.trans hasleep) Pc.noConfusion
    · rintro ⟨hwfi, -⟩
      rw [hwfi] at hidle
      exact absurd rfl hidle

/-! ## The record is the request -/

/-- On the way to sleep the record is the pending request, and nothing is pending once asleep. -/
structure Overtaken (p : Sys × Bool) : Prop extends RequestBound p.1.dev where
  record : p.1.pc.entersSleep = true → p.2 = p.1.dev.msc.bTransReq
  asleep : p.1.pc = .asleep → p.1.pending = []

theorem overtaken_main (answer : SdMmcErr) {p : Sys × Bool} (h : Overtaken p) :
    Overtaken (observed (step lunDesc) overtaken p (.main answer)) := by
  obtain ⟨s, record⟩ := p
  refine ⟨requestBound_step lunDesc s (.main answer) h.toRequestBound, ?_, ?_⟩
  · change (mainStep answer s).pc.entersSleep = true →
      (s.pc.entersSleep && record) = (mainStep answer s).dev.msc.bTransReq
    intro hnext
    by_cases hpc : s.pc.idle = true
    · rw [dev_mainStep_idle answer hpc]
      have henters : s.pc.entersSleep = true := by
        refine (Bool.or_eq_true_iff.mp hpc).resolve_right fun hasleep => ?_
        have hstays : (mainStep answer s).pc = .asleep := by
          simp only [mainStep, beq_iff_eq.mp hasleep]
        rw [hstays] at hnext
        exact absurd hnext Bool.noConfusion
      rw [henters, Bool.true_and]
      exact h.record henters
    · have hfrom := idle_mainStep answer (Bool.eq_false_of_not_eq_true hpc)
        (Bool.or_eq_true_iff.mpr (.inl hnext))
      have hreq : s.dev.msc.bTransReq = false := by
        obtain ⟨-, ⟨-, hflag⟩ | ⟨-, hreq⟩⟩ := hfrom
        · refine Bool.eq_false_of_not_eq_true fun hreq => ?_
          exact absurd (hflag.symm.trans (h.request hreq)) Bool.noConfusion
        · exact hreq
      have henters : s.pc.entersSleep = false := by
        refine Bool.eq_false_of_not_eq_true fun henters => hpc ?_
        exact Bool.or_eq_true_iff.mpr (.inl henters)
      rw [transReq_mainStep, hreq, henters, Bool.and_false, Bool.false_and]
  · change (mainStep answer s).pc = .asleep → (mainStep answer s).pending = []
    intro hnext
    by_cases hpc : s.pc = .asleep
    · simp only [mainStep, hpc]
      exact h.asleep hpc
    · obtain ⟨hwfi, hpending⟩ := (asleep_mainStep answer hpc).mp hnext
      simp only [mainStep, hwfi, hpending, if_true, Sys.goto]

theorem overtaken_serve {p : Sys × Bool} (h : Overtaken p) :
    Overtaken (observed (step lunDesc) overtaken p .serve) := by
  obtain ⟨s, record⟩ := p
  cases hserved : s.served with
  | none =>
      have hsame : observed (step lunDesc) overtaken (s, record) .serve = (s, record) := by
        refine Prod.ext (serveStep_none hserved) ?_
        change s.served.elim record _ = record
        rw [hserved, Option.elim_none]
      rw [hsame]
      exact h
  | some irq =>
      refine ⟨requestBound_step lunDesc s .serve h.toRequestBound, ?_, ?_⟩
      · change (serveStep lunDesc s).pc.entersSleep = true →
          s.served.elim record _ = (serveStep lunDesc s).dev.msc.bTransReq
        rw [serveStep_some hserved, hserved, Option.elim_some]
        intro henters
        have hrecord : record = s.dev.msc.bTransReq := h.record henters
        have hpc : s.pc.entersSleep = true := henters
        dsimp only
        rw [transReq_serveIrq lunDesc irq h.toRequestBound, hpc, hrecord, Bool.true_and]
      · -- An interrupt is served, so one was pending and the processor is awake.
        intro hasleep
        have hpc : (serveStep lunDesc s).pc = .asleep := hasleep
        rw [serveStep_some hserved] at hpc
        have hnil : s.pending = [] := h.asleep hpc
        rw [Sys.served, hnil, List.head?_nil, ite_self] at hserved
        exact absurd hserved nofun

/-- **On the way to sleep the record is the pending request.** -/
theorem overtaken_step (p : Sys × Bool) (l : Label) (h : Overtaken p) :
    Overtaken (observed (step lunDesc) overtaken p l) := by
  cases l with
  | main answer => exact overtaken_main answer h
  | serve => exact overtaken_serve h
  | raise irq =>
      obtain ⟨s, record⟩ := p
      have hwakes : (raiseIrq irq s).pc = if s.hears irq ∧ s.pc = .asleep then .loop else s.pc := rfl
      have hpending : (raiseIrq irq s).pending =
          if s.hears irq then s.pending ++ [irq] else s.pending := rfl
      refine ⟨requestBound_step lunDesc s (.raise irq) h.toRequestBound, ?_, ?_⟩
      · change (raiseIrq irq s).pc.entersSleep = true → record = s.dev.msc.bTransReq
        rw [hwakes]
        split_ifs
        · exact nofun
        · exact h.record
      · change (raiseIrq irq s).pc = .asleep → (raiseIrq irq s).pending = []
        rw [hwakes, hpending]
        split_ifs with hwake hhears hhears
        · exact nofun
        · exact nofun
        · exact fun hasleep => absurd ⟨hhears, hasleep⟩ hwake
        · exact h.asleep

/-! ## Runs -/

theorem sleepsIdle_step_iff (p : Sys × Bool) (l : Label) (h : Overtaken p)
    (hidle : SleepsIdle p.1) :
    SleepsIdle (observed (step lunDesc) overtaken p l).1 ↔ WaitsUnasked p l := by
  obtain ⟨s, record⟩ := p
  cases l with
  | raise irq =>
      refine ⟨fun _ _ h => Label.noConfusion h, fun _ => ?_⟩
      change (if s.hears irq ∧ s.pc = .asleep then .loop else s.pc) = .asleep → _
      split_ifs
      · exact fun h => h.elim
      · exact hidle
  | serve =>
      refine ⟨fun _ _ h => Label.noConfusion h, fun _ hasleep => ?_⟩
      have hpc : s.pc = .asleep := by
        have hserve : (serveStep lunDesc s).pc = .asleep := hasleep
        cases hserved : s.served with
        | none => rwa [serveStep_none hserved] at hserve
        | some irq => rwa [serveStep_some hserved] at hserve
      have hserved : s.served = none := by
        rw [Sys.served, h.asleep hpc, List.head?_nil, ite_self]
      change ¬ ((serveStep lunDesc s).dev.app.mainBMscEnable = true
        ∧ (serveStep lunDesc s).dev.msc.bTransReq = true)
      rw [serveStep_none hserved]
      exact hidle hpc
  | main answer =>
      by_cases hpc : s.pc = .asleep
      · have hstays : mainStep answer s = s := by simp only [mainStep, hpc]
        constructor
        · rintro - _ - hwfi -
          exact absurd (hpc.symm.trans hwfi) Pc.noConfusion
        · rintro -
          change SleepsIdle (mainStep answer s)
          rwa [hstays]
      · -- Only WFI falls asleep, and there the record says whether a request has overtaken the test.
        have hwfi (hwfi : s.pc = .wfi) :
            (mainStep answer s).dev = s.dev ∧ record = s.dev.msc.bTransReq := by
          refine ⟨dev_mainStep_idle answer ?_, h.record ?_⟩
          · rw [hwfi]
            rfl
          · change s.pc.entersSleep = true
            rw [hwfi]
            rfl
        change ((mainStep answer s).pc = .asleep →
          ¬ ((mainStep answer s).dev.app.mainBMscEnable = true
            ∧ (mainStep answer s).dev.msc.bTransReq = true)) ↔ _
        rw [asleep_mainStep answer hpc]
        constructor
        · intro hsafe answer' _ hpc' hpending
          obtain ⟨hdev, hrecord⟩ := hwfi hpc'
          refine hrecord.trans (Bool.eq_false_of_not_eq_true fun hreq => ?_)
          refine hsafe ⟨hpc', hpending⟩ ?_
          rw [hdev]
          exact ⟨h.request hreq, hreq⟩
        · rintro hunasked ⟨hpc', hpending⟩ ⟨-, hreq⟩
          obtain ⟨hdev, hrecord⟩ := hwfi hpc'
          rw [hdev, ← hrecord] at hreq
          exact absurd (hreq.symm.trans (hunasked answer rfl hpc' hpending)) Bool.noConfusion

theorem overtaken_boot (vbusHigh : Bool) : Overtaken (boot vbusHigh, false) :=
  ⟨requestBound_boot vbusHigh, nofun, nofun⟩

/-- **When the firmware never sleeps on a transfer.**  A run never sleeps at WFI on an accepted
transfer iff in none of its steps WFI is executed, with nothing pending, while the last READ(10),
WRITE(10) or reset served since the failed test is an accepted READ(10) or WRITE(10). -/
theorem sleepsIdle_iff (vbusHigh : Bool) (ls : List Label) :
    EveryState (step lunDesc) SleepsIdle (boot vbusHigh) ls ↔
      EveryStep (observed (step lunDesc) overtaken) WaitsUnasked (boot vbusHigh, false) ls := by
  rw [← everyState_observed overtaken false]
  exact everyState_iff_everyStep overtaken_step sleepsIdle_step_iff (overtaken_boot vbusHigh) nofun

/-- The loop tests the request, the READ(10) is accepted, and the loop goes to sleep. -/
theorem transfer_slept_on :
    ¬ ∀ (vbusHigh : Bool) (ls : List Label),
      EveryState (step lunDesc) SleepsIdle (boot vbusHigh) ls := by
  intro hall
  have hlast := hall true
    (serveAll enumeration ++ List.replicate 2 (.main .ok)
      ++ serveAll [.transferOut 31 readBlock presentCard]
      ++ List.replicate 6 (.main .ok)) _ (List.prefix_refl _)
  exact hlast (by decide) (by decide)

end Firmware
end SoundingSoil
