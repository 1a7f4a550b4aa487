import SoundingSoil.Firmware.MainLoop
import SoundingSoil.Firmware.Requests

/-!
# What the steps of the firmware leave alone

The main loop works on the transfers and on the globals of the class driver only: `core_mainStep`.
`Sys.served` is the interrupt that would be served next, and `step_dev` splits the effect of a step on
the shared state accordingly.
-/

namespace SoundingSoil
namespace Firmware

/-- The interrupt that is served if interrupts come next. -/
def Sys.served (s : Sys) : Option Irq :=
  if s.irqMasked then none else s.pending.head?

theorem serveStep_none {desc : LunDesc} {s : Sys} (h : s.served = none) :
    serveStep desc s = s := by
  unfold Sys.served at h
  unfold serveStep
  split_ifs with hmask
  · rfl
  · rw [if_neg hmask] at h
    rw [List.head?_eq_none_iff.mp h]

theorem serveStep_some {desc : LunDesc} {s : Sys} {irq : Irq} (h : s.served = some irq) :
    serveStep desc s = { s with pending := s.pending.tail, dev := serveIrq desc irq s.dev } := by
  unfold Sys.served at h
  unfold serveStep
  split_ifs at h ⊢ with hmask
  obtain ⟨rest, hrest⟩ := List.head?_eq_some_iff.mp h
  rw [hrest]
  rfl

/-- The shared state after a step. -/
theorem step_dev (desc : LunDesc) (s : Sys) (l : Label) :
    (step desc s l).dev =
      match l with
      | .main answer => (mainStep answer s).dev
      | .raise _ => s.dev
      | .serve => (s.served.map fun irq => serveIrq desc irq s.dev).getD s.dev := by
  cases l with
  | main answer => rfl
  | raise irq => rfl
  | serve =>
      cases h : s.served with
      | none => exact congrArg Sys.dev (serveStep_none h)
      | some irq => exact congrArg Sys.dev (serveStep_some h)

/-! ## The main loop -/

theorem core_runStep (stage : RunPc) (r : RunFor) (s : Sys) :
    (runStep stage r s).dev.core = s.dev.core := by
  cases stage with
  | halted =>
      unfold runStep
      split_ifs <;> rfl
  | claim => exact core_of_rest (rest_uddEpRunClaim _ s.dev)
  | buffer => exact core_of_rest (rest_onJob _ _ s.dev)
  | callback => exact core_of_rest (rest_onJob _ _ s.dev)
  | flags => exact core_of_rest (rest_onJob _ _ s.dev)
  | start => exact core_of_rest (rest_uddEpRunStart _ s.dev)

theorem core_memoryStep (answer : SdMmcErr) (m : MemoryPc) (s : Sys) :
    (memoryStep answer m s).dev.core = s.dev.core := by
  cases m with
  | ackClear t | runDenied t | residue t | blockFailed t | exit t => rfl
  | _ =>
      unfold memoryStep
      dsimp only
      split_ifs <;> rfl

/-- What a step of the main loop does besides transfers and the CSW: it takes the requests of the
interrupts. -/
def mainEffect (pc : Pc) (d : Dev) : Dev :=
  match pc with
  | .clearReq => { d with msc := { d.msc with bTransReq := false } }
  | .clearReset => { d with msc := { d.msc with bResetTrans := false } }
  | .resetAck => { d with msc := { d.msc with bResetTrans := false } }
  | _ => d

/-- After a store the next one follows, or the CSW. -/
theorem next_sense (stage : SensePc) (status : CtrlStatus) :
    (∃ stage', stage.next status = .sense stage' status) ∨ stage.next status = .cswResidue := by
  cases stage with
  | status =>
      unfold SensePc.next
      split_ifs
      · exact .inr rfl
      · exact .inl ⟨.key, rfl⟩
  | addSense => exact .inr rfl
  | _ => exact .inl ⟨_, rfl⟩

/-- **The effect of a step of the main loop.** -/
theorem core_mainStep (answer : SdMmcErr) (s : Sys) :
    (mainStep answer s).dev.core = (mainEffect s.pc s.dev).core := by
  cases hpc : s.pc with
  | memory m =>
      simp only [mainStep, hpc]
      exact core_memoryStep answer m s
  | run stage r =>
      simp only [mainStep, hpc]
      exact core_runStep stage r s
  | haltSet e =>
      simp only [mainStep, hpc]
      exact core_of_rest (rest_setHalted e true s.dev)
  | haltAbort e =>
      simp only [mainStep, hpc]
      exact core_of_rest (rest_abortJob e s.dev)
  | haltBusy e =>
      simp only [mainStep, hpc]
      split_ifs
      · exact core_of_rest (rest_onJob e _ s.dev)
      · rfl
  | haltCall e =>
      simp only [mainStep, hpc]
      exact core_of_rest (rest_callJob rest_uddCall _ s.dev)
  | cswResidue =>
      simp only [mainStep, hpc]
      cases s.dev.msc.residueEp <;> rfl
  | loop | testReq | resetTest | stallBusy | stallHalted | stallConfigured | chooseMode | wfi =>
      simp only [mainStep, hpc]
      split_ifs <;> rfl
  | _ =>
      simp only [mainStep, hpc]
      rfl

/-- The main loop leaves the connection, the sleep locks and the memory alone. -/
theorem link_mainStep (answer : SdMmcErr) (s : Sys) : (mainStep answer s).dev.link = s.dev.link := by
  have heffect : (mainEffect s.pc s.dev).link = s.dev.link := by
    cases s.pc <;> rfl
  exact (link_of_core (core_mainStep answer s)).trans heffect

/-- Only one step of the main loop touches the request: it takes it. -/
theorem transReq_mainStep (answer : SdMmcErr) (s : Sys) :
    (mainStep answer s).dev.msc.bTransReq = (s.pc != .clearReq && s.dev.msc.bTransReq) := by
  rw [transReq_of_core (core_mainStep answer s)]
  cases s.pc <;> rfl

/-! ## Invariants of the shared state -/

/-- A property of the shared state that the rest of the state does not touch, and that interrupts
keep, is kept by every step. -/
theorem dev_invariant {desc : LunDesc} (P : Dev → Prop)
    (hlink : ∀ d d' : Dev, d'.link = d.link → P d → P d')
    (hirq : ∀ irq d, P d → P (serveIrq desc irq d)) (s : Sys) (l : Label) (h : P s.dev) :
    P (step desc s l).dev := by
  rw [step_dev]
  cases l with
  | main answer => exact hlink _ _ (link_mainStep answer s) h
  | raise irq => exact h
  | serve =>
      dsimp only
      cases s.served with
      | none => exact h
      | some irq => exact hirq irq s.dev h

end Firmware
end SoundingSoil
