import SoundingSoil.Firmware.Budget
import SoundingSoil.Firmware.Steps

/-!
# Inside and outside of a transfer

The main loop is inside a transfer at the positions of `memory_2_usb` and `usb_2_memory` and while
`udd_ep_run` starts a block.  It enters a transfer at `select` only, and leaves it at `exit` only.

* `Pc.Outside` — the other positions.
* `Transfer.Runs` — what the loops keep of their counters.
* `outside_mainStep` / `pc_runStep` — how the main loop enters a transfer, and where a step of `udd_ep_run`
  leads to.
* **`transfer_step`** — the rule for properties of the positions of a transfer.
* `Pc.Resting` / `resting_step` — the positions without a command to the card under way.
-/

namespace SoundingSoil
namespace Firmware

/-- The main loop is not inside `memory_2_usb` or `usb_2_memory`. -/
def Pc.Outside : Pc → Prop
  | .memory _ | .run _ (.block _) => False
  | _ => True

instance : DecidablePred Pc.Outside := fun pc => by
  cases pc with
  | run stage r => cases r <;> unfold Pc.Outside <;> infer_instance
  | _ => unfold Pc.Outside; infer_instance

theorem outside_split {c : Prop} [Decidable c] {s s' : Sys} (h : s.pc.Outside) (h' : s'.pc.Outside) :
    (if c then s else s').pc.Outside := by
  split_ifs
  · exact h
  · exact h'

/-! ## The steps of a transfer -/

namespace Transfer

/-- The step is one of a transfer that did not wrap, and the first flag tells the first one. -/
structure Runs (t : Transfer) : Prop where
  bound : t.nbSector.toNat < 65535
  step : t.nbStep.toNat ≤ t.nbSector.toNat
  first : t.bFirstStep = true ↔ t.nbStep.toNat = t.nbSector.toNat

/-- The sectors before this step. -/
def before (t : Transfer) : Nat :=
  t.nbSector.toNat - t.nbStep.toNat

theorem toNat_ne_zero {t : Transfer} (h : t.nbStep ≠ 0) : t.nbStep.toNat ≠ 0 :=
  fun hzero => h (BitVec.eq_of_toNat_eq hzero)

theorem toNat_pred {t : Transfer} (h : t.nbStep ≠ 0) :
    (t.nbStep - 1).toNat = t.nbStep.toNat - 1 := by
  refine BitVec.toNat_sub_of_le (BitVec.le_def.mpr ?_)
  have hpos := toNat_ne_zero h
  have hone : (1 : BitVec 16).toNat = 1 := rfl
  omega

/-- The first step. -/
theorem runs_first {t : Transfer} (hnb : t.nbStep = t.nbSector + 1) (hfirst : t.bFirstStep = true)
    (hstep : t.nbStep ≠ 0) : Runs { t with nbStep := t.nbStep - 1 } := by
  have hpos := toNat_ne_zero hstep
  have hpred := toNat_pred hstep
  -- `nb_sector + 1` is not zero, so it did not wrap.
  have hwrap : t.nbStep.toNat = (t.nbSector.toNat + 1) % 65536 := by
    rw [hnb]
    exact BitVec.toNat_add t.nbSector 1
  have hlt := t.nbSector.isLt
  have hsucc : t.nbStep.toNat = t.nbSector.toNat + 1 := by omega
  refine ⟨?_, ?_, ?_⟩
  · dsimp only
    omega
  · dsimp only
    omega
  · dsimp only
    refine ⟨fun _ => ?_, fun _ => hfirst⟩
    omega

/-- Every other step. -/
theorem runs_next {t : Transfer} (hbound : t.nbSector.toNat < 65535)
    (hle : t.nbStep.toNat ≤ t.nbSector.toNat) (hfirst : t.bFirstStep = false)
    (hstep : t.nbStep ≠ 0) : Runs { t with nbStep := t.nbStep - 1 } := by
  have hpos := toNat_ne_zero hstep
  have hpred := toNat_pred hstep
  refine ⟨hbound, ?_, ?_⟩
  · dsimp only
    omega
  · dsimp only
    rw [hfirst]
    refine ⟨nofun, fun hsame => ?_⟩
    omega

/-- A transfer of 65535 sectors ends before its first step. -/
theorem nbSector_of_wrapped {t : Transfer} (hnb : t.nbStep = t.nbSector + 1) (hstep : t.nbStep = 0) :
    t.nbSector.toNat = 65535 := by
  have hwrap : 0 = (t.nbSector.toNat + 1) % 65536 := by
    have hnat : t.nbStep.toNat = (t.nbSector.toNat + 1) % 65536 := by
      rw [hnb]
      exact BitVec.toNat_add t.nbSector 1
    rw [hstep] at hnat
    exact hnat
  have hlt := t.nbSector.isLt
  omega

theorem Runs.lt_of_not_first {t : Transfer} (h : t.Runs) (hfirst : t.bFirstStep = false) :
    t.nbStep.toNat < t.nbSector.toNat := by
  have hne : t.nbStep.toNat ≠ t.nbSector.toNat := fun hsame =>
    Bool.noConfusion (hfirst.symm.trans (h.first.mpr hsame))
  have hle := h.step
  omega

end Transfer

/-! ## Steps of the main loop -/

/-- A step of `udd_ep_run` goes on, or returns. -/
theorem pc_runStep (stage : RunPc) (r : RunFor) (s : Sys) :
    (runStep stage r s).pc = r.accepted ∨ (runStep stage r s).pc = r.denied ∨
      ∃ stage', (runStep stage r s).pc = .run stage' r := by
  cases stage with
  | halted =>
      unfold runStep
      dsimp only
      split_ifs
      · exact Or.inr (Or.inl rfl)
      · exact Or.inr (Or.inr ⟨.claim, rfl⟩)
  | claim =>
      unfold runStep
      dsimp only
      split_ifs
      · exact Or.inr (Or.inr ⟨.buffer, rfl⟩)
      · exact Or.inr (Or.inl rfl)
  | buffer => exact Or.inr (Or.inr ⟨.callback, rfl⟩)
  | callback => exact Or.inr (Or.inr ⟨.flags, rfl⟩)
  | flags => exact Or.inr (Or.inr ⟨.start, rfl⟩)
  | start =>
      unfold runStep
      dsimp only
      split_ifs
      · exact Or.inl rfl
      · exact Or.inr (Or.inl rfl)

/-- **A transfer begins with `select`.** -/
theorem outside_mainStep (answer : SdMmcErr) {s : Sys} (h : s.pc.Outside) :
    (mainStep answer s).pc.Outside ∨
      ∃ read lun addr nbSector,
        (mainStep answer s).pc = .memory (.select read lun addr nbSector) := by
  cases hpc : s.pc with
  | readArguments read =>
      simp only [mainStep, hpc]
      exact Or.inr ⟨read, _, _, _, rfl⟩
  | memory p =>
      rw [hpc] at h
      exact h.elim
  | run stage r =>
      cases r with
      | block t =>
          rw [hpc] at h
          exact h.elim
      | csw =>
          simp only [mainStep, hpc]
          rcases pc_runStep stage .csw s with hrun | hrun | ⟨stage', hrun⟩ <;> rw [hrun] <;>
            exact Or.inl trivial
  | sense stage status =>
      simp only [mainStep, hpc]
      have hnext : (stage.next status).Outside := by
        rcases next_sense stage status with ⟨stage', hpc'⟩ | hpc' <;> rw [hpc'] <;> exact trivial
      exact Or.inl hnext
  | cswResidue =>
      simp only [mainStep, hpc]
      cases s.dev.msc.residueEp <;> exact Or.inl trivial
  | loop | testReq | resetTest | stallBusy | haltBusy | chooseMode | wfi =>
      simp only [mainStep, hpc]
      exact Or.inl (outside_split trivial trivial)
  | stallHalted | stallConfigured =>
      simp only [mainStep, hpc]
      exact Or.inl (outside_split trivial trivial)
  | _ =>
      simp only [mainStep, hpc]
      exact Or.inl trivial

/-- Raising an interrupt wakes the processor at most. -/
theorem pc_raiseIrq (irq : Irq) (s : Sys) :
    (raiseIrq irq s).pc = s.pc ∨ s.pc = .asleep ∧ (raiseIrq irq s).pc = .loop := by
  unfold raiseIrq
  dsimp only
  split_ifs with hasleep
  · exact Or.inr ⟨hasleep.2, rfl⟩
  · exact Or.inl rfl

theorem pc_serveStep (desc : LunDesc) (s : Sys) : (serveStep desc s).pc = s.pc := by
  cases h : s.served with
  | none => rw [serveStep_none h]
  | some irq => rw [serveStep_some h]

/-- **The rule of transfers.**  What holds outside of a transfer and at its beginning holds after a step if
it is kept inside of a transfer. -/
theorem transfer_step (desc : LunDesc) (s : Sys) (l : Label) {P : Pc → Prop}
    (houtside : ∀ pc, pc.Outside → P pc)
    (hselect : ∀ read lun addr nbSector, P (.memory (.select read lun addr nbSector)))
    (hstay : (∀ answer, l ≠ .main answer) → P s.pc)
    (hmemory : ∀ answer p, l = .main answer → s.pc = .memory p → P (p.next answer s.dev.msc))
    (hrun : ∀ answer stage t, l = .main answer → s.pc = .run stage (.block t) →
      P (.memory (.ackWait t)) ∧ P (.memory (.runDenied t)) ∧ ∀ stage', P (.run stage' (.block t))) :
    P (step desc s l).pc := by
  cases l with
  | raise irq =>
      change P (raiseIrq irq s).pc
      rcases pc_raiseIrq irq s with hpc | ⟨-, hpc⟩ <;> rw [hpc]
      · exact hstay fun answer hl => Label.noConfusion hl
      · exact houtside .loop trivial
  | serve =>
      change P (serveStep desc s).pc
      rw [pc_serveStep]
      exact hstay fun answer hl => Label.noConfusion hl
  | main answer =>
      change P (mainStep answer s).pc
      by_cases hout : s.pc.Outside
      · rcases outside_mainStep answer hout with hpc | ⟨read, lun, addr, nbSector, hpc⟩
        · exact houtside _ hpc
        · rw [hpc]
          exact hselect read lun addr nbSector
      · -- Inside of a transfer: its own loop, or `udd_ep_run` for one of its sectors.
        cases hpc : s.pc with
        | memory p =>
            rw [mainStep_memory answer hpc]
            exact hmemory answer p rfl hpc
        | run stage r =>
            cases r with
            | csw =>
                rw [hpc] at hout
                exact (hout trivial).elim
            | block t =>
                obtain ⟨haccepted, hdenied, hgoes⟩ := hrun answer stage t rfl hpc
                simp only [mainStep, hpc]
                rcases pc_runStep stage (.block t) s with hnext | hnext | ⟨stage', hnext⟩ <;> rw [hnext]
                · exact haccepted
                · exact hdenied
                · exact hgoes stage'
        | _ =>
            rw [hpc] at hout
            exact (hout trivial).elim

/-! ## Before the first and after the last command of a transfer -/

/-- The main loop has given no command to the card, or no more commands. -/
def Pc.Resting : Pc → Prop
  | .memory (.select _ _ _ _) | .memory (.initBlocks _) | .memory (.exit _) => True
  | .memory _ | .run _ (.block _) => False
  | _ => True

/-- **Only a step inside of a transfer ends it.** -/
theorem resting_step (desc : LunDesc) {s : Sys} {l : Label}
    (hother : ∀ answer p, l = .main answer → s.pc ≠ .memory p)
    (h : (step desc s l).pc.Resting) : s.pc.Resting := by
  cases l with
  | raise irq =>
      rcases pc_raiseIrq irq s with hpc | ⟨hasleep, -⟩
      · change (raiseIrq irq s).pc.Resting at h
        rw [hpc] at h
        exact h
      · rw [hasleep]
        trivial
  | serve =>
      change (serveStep desc s).pc.Resting at h
      rw [pc_serveStep] at h
      exact h
  | main answer =>
      cases hpc : s.pc with
      | memory p => exact (hother answer p rfl hpc).elim
      | run stage r =>
          cases r with
          | csw => trivial
          | block t =>
              change (mainStep answer s).pc.Resting at h
              simp only [mainStep, hpc] at h
              rcases pc_runStep stage (.block t) s with hnext | hnext | ⟨stage', hnext⟩ <;>
                rw [hnext] at h <;> exact h
      | _ => trivial

end Firmware
end SoundingSoil
