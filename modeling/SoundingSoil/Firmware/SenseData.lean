import SoundingSoil.Firmware.Exclusive
import SoundingSoil.Firmware.Replies

/-!
# The sense data explain the status

A REQUEST SENSE explains the last CSW.  A command of an interrupt sets the status with the sense data in one
interrupt; the main loop stores them one after the other with interrupts enabled, so that they disagree for a
while, and a command that came in between would leave them so.

* `Pc.Explains` — what the stores of the main loop have reached.
* **`explains_step`** — every step keeps it, as the stores are in the turn of the main loop.
* **`explained_of_sparesTransfer`** — in a run without such requests the status is FAIL exactly when the sense
  key is not zero, in every state outside of these stores.
-/

namespace SoundingSoil
namespace Firmware

open Support

/-- The main loop is inside `udi_msc_sense_pass` or `udi_msc_sense_fail`. -/
def Pc.setsSense : Pc → Bool
  | .sense _ _ => true
  | _ => false

/-- The status and the sense key between the stores: first the key is cleared, then the status is set, and
then the key of a failure. -/
def Pc.Explains (pc : Pc) (b : Blocks) : Prop :=
  match pc with
  | .sense .clearInformation _ | .sense .clearAddSense _ | .sense .status _ => b.sense.senseFlagKey = 0
  | .sense .key status => status ≠ .good ∧ b.csw.bCSWStatus = .fail
  | _ => b.Agrees

theorem explains_of_agrees {pc : Pc} {b : Blocks} (h : pc.setsSense = false) :
    pc.Explains b ↔ b.Agrees := by
  cases pc with
  | sense stage status => exact absurd h Bool.noConfusion
  | _ => exact Iff.rfl

/-! ## The stores -/

/-- A failure has a sense key. -/
theorem report_fail {status : CtrlStatus} (h : status ≠ .good) :
    status.report.1 = .fail ∧ status.report.2.senseFlagKey ≠ 0 := by
  cases status with
  | good => exact absurd rfl h
  | busy | noPresent | fail => exact ⟨rfl, show (_ : BitVec 8) ≠ 0 by decide⟩

/-- A store of the main loop. -/
theorem explains_sense {stage : SensePc} {status : CtrlStatus} {b : Blocks}
    (h : (Pc.sense stage status).Explains b) :
    (stage.next status).Explains (mainBlocks (.sense stage status) b) := by
  cases stage with
  | clearKey => exact rfl
  | clearInformation | clearAddSense => exact h
  | status =>
      have hkey : b.sense.senseFlagKey = 0 := h
      by_cases hgood : status = .good
      · subst hgood
        -- The status is PASS, and the cleared key stays.
        exact ⟨fun hfail => CswStatus.noConfusion hfail, fun hne => absurd hkey hne⟩
      · have hnext : SensePc.next status .status = .sense .key status := if_neg hgood
        rw [hnext]
        exact ⟨hgood, (report_fail hgood).1⟩
  | key =>
      obtain ⟨hgood, hfail⟩ := h
      exact ⟨fun _ => (report_fail hgood).2, fun _ => hfail⟩
  | information | addSense => exact h

/-- Before the stores the main loop writes neither the status nor the key. -/
theorem agrees_mainBlocks {pc : Pc} {b : Blocks} (hpc : pc.setsSense = false) (h : b.Agrees) :
    (mainBlocks pc b).Agrees := by
  cases pc with
  | sense stage status => exact absurd hpc Bool.noConfusion
  | memory p => cases p <;> exact h
  | _ => exact h

theorem setsSense_split {c : Prop} [Decidable c] {s s' : Sys} (h : s.pc.setsSense = false)
    (h' : s'.pc.setsSense = false) : (if c then s else s').pc.setsSense = false := by
  split_ifs
  · exact h
  · exact h'

/-- The main loop comes to the stores at the first one, from the test for a reset. -/
theorem setsSense_mainStep (answer : SdMmcErr) {s : Sys} (hpc : s.pc.setsSense = false) :
    (mainStep answer s).pc.setsSense = false ∨
      ∃ status, s.pc = .resetTest status ∧ (mainStep answer s).pc = .sense .clearKey status := by
  cases h : s.pc with
  | sense stage status =>
      rw [h] at hpc
      exact Bool.noConfusion hpc
  | resetTest status =>
      simp only [mainStep, h]
      split_ifs with hreset
      · exact Or.inl rfl
      · exact Or.inr ⟨status, rfl, rfl⟩
  | memory p =>
      rw [mainStep_memory answer h]
      dsimp only
      rcases next_cases answer s.dev.msc p with ⟨q, hq⟩ | ⟨t, -, hq⟩ | ⟨status, hq⟩ <;> rw [hq] <;>
        exact Or.inl rfl
  | run stage r =>
      simp only [mainStep, h]
      rcases pc_runStep stage r s with hrun | hrun | ⟨stage', hrun⟩ <;> rw [hrun] <;>
        cases r <;> exact Or.inl rfl
  | cswResidue =>
      simp only [mainStep, h]
      cases s.dev.msc.residueEp <;> exact Or.inl rfl
  | loop | testReq | stallBusy | haltBusy | chooseMode | wfi | stallHalted | stallConfigured =>
      simp only [mainStep, h]
      exact Or.inl (setsSense_split rfl rfl)
  | _ =>
      simp only [mainStep, h]
      exact Or.inl rfl

theorem explains_mainStep (answer : SdMmcErr) {s : Sys} (h : s.pc.Explains s.dev.blocks) :
    (mainStep answer s).pc.Explains (mainStep answer s).dev.blocks := by
  rw [blocks_mainStep]
  cases hpc : s.pc.setsSense with
  | true =>
      cases hs : s.pc with
      | sense stage status =>
          rw [hs] at h
          have hnext : (mainStep answer s).pc = stage.next status := by
            simp only [mainStep, hs]
            rfl
          rw [hnext]
          exact explains_sense h
      | _ =>
          rw [hs] at hpc
          exact Bool.noConfusion hpc
  | false =>
      have hagrees := agrees_mainBlocks hpc ((explains_of_agrees hpc).mp h)
      rcases setsSense_mainStep answer hpc with hout | ⟨status, -, hfirst⟩
      · exact (explains_of_agrees hout).mpr hagrees
      · rw [hfirst]
        exact hagrees

/-! ## Runs -/

/-- The stores are in the turn of the main loop. -/
theorem owner_of_setsSense {pc : Pc} (h : pc.setsSense = true) (m : Msc) : pc.owner m = true := by
  cases pc <;> first | rfl | exact Bool.noConfusion h

/-- **Every step keeps what the stores have reached**: interrupts leave it alone in the turn of the main loop,
and set the status with the sense data out of it. -/
theorem explains_step {s : Sys} {l : Label} (hturn : Turn s) (h : s.pc.Explains s.dev.blocks) :
    (step lunDesc s l).pc.Explains (step lunDesc s l).dev.blocks := by
  cases l with
  | main answer => exact explains_mainStep answer h
  | raise irq =>
      change (raiseIrq irq s).pc.Explains s.dev.blocks
      rcases pc_raiseIrq irq s with hstays | ⟨hasleep, hwakes⟩
      · rw [hstays]
        exact h
      · rw [hasleep] at h
        rw [hwakes]
        exact h
  | serve =>
      change (serveStep lunDesc s).pc.Explains (serveStep lunDesc s).dev.blocks
      cases hserved : s.served with
      | none =>
          rw [serveStep_none hserved]
          exact h
      | some irq =>
          rw [serveStep_some hserved]
          cases howner : s.pc.owner s.dev.msc with
          | true =>
              rw [(hturn.own howner).blocks lunDesc irq hturn.bound.toBound]
              exact h
          | false =>
              have hout : s.pc.setsSense = false := Bool.eq_false_of_not_eq_true fun hsets =>
                Bool.noConfusion (howner.symm.trans (owner_of_setsSense hsets s.dev.msc))
              exact (explains_of_agrees hout).mpr
                (agrees_serveIrq lunDesc irq ((explains_of_agrees hout).mp h))

/-- Outside of the stores the status is FAIL exactly when there are sense data. -/
def Explained (s : Sys) : Prop :=
  s.pc.setsSense = false → s.dev.blocks.Agrees

theorem explains_boot (vbusHigh : Bool) : (boot vbusHigh).pc.Explains (boot vbusHigh).dev.blocks := by
  have hboot : (boot vbusHigh).dev.blocks = ⟨mscReset.cbw, mscReset.csw, mscReset.sense⟩ := by
    cases vbusHigh <;> rfl
  rw [hboot]
  exact ⟨fun hstatus => CswStatus.noConfusion hstatus, fun hkey => absurd rfl hkey⟩

/-- **The sense data explain the status.**  In every run in which no request starts the reception of a CBW
beside a transfer of the main loop or an open status phase, the status is FAIL exactly when the sense key is
not zero, in every state in which the main loop is not storing the two. -/
theorem explained_of_sparesTransfer (vbusHigh : Bool) (ls : List Label)
    (h : EveryStep (step lunDesc) SparesTransfer (boot vbusHigh) ls) :
    EveryState (step lunDesc) Explained (boot vbusHigh) ls := by
  intro pre hpre hout
  have hspares : EveryStep (step lunDesc) SparesTransfer (boot vbusHigh) pre := by
    obtain ⟨post, rfl⟩ := hpre
    exact (everyStep_append.mp h).1
  have hinv := @invariant_run _ _ (step lunDesc) (fun s => Turn s ∧ s.pc.Explains s.dev.blocks) SparesTransfer
    (fun s l hs hl => ⟨turn_step s l hs.1 hl, explains_step hs.1 hs.2⟩) (boot vbusHigh)
    ⟨turn_boot vbusHigh, explains_boot vbusHigh⟩ pre hspares
  exact (explains_of_agrees hout).mp hinv.2

/-- A READ(10) fails as the card is gone, and its CSW is registered on the halt. -/
theorem explained_readTaken :
    EveryState (step lunDesc) Explained (boot true)
      (readTaken ++ [.main .ok, .main .noCard] ++ List.replicate 19 (.main .ok)) :=
  explained_of_sparesTransfer true _ (by decide)

end Firmware
end SoundingSoil
