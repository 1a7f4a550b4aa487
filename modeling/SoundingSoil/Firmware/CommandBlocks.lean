import SoundingSoil.Firmware.Connection
import SoundingSoil.Firmware.Settle

/-!
# The command block, the status block and the sense data

`udi_msc_cbw`, `udi_msc_csw` and `udi_msc_sense` are written by few functions.  Control requests write none
of them, the main loop writes the residue, the status with the sense data, and the tag, and a command ends by
setting the status with the sense data, and the tag.

* `blocks_action` / `blocks_serveIrq` — control requests, and interrupts that complete no transfer.
* `blocks_udiMscCswProcess` / `blocks_endCommand` — the end of a command.
* **`blocks_mainStep`** — the main loop.
-/

namespace SoundingSoil
namespace Firmware

/-- The command block, the status block and the sense data. -/
structure Blocks where
  cbw : UsbMscCbw
  csw : UsbMscCsw
  sense : ScsiSense

def Dev.blocks (d : Dev) : Blocks :=
  ⟨d.msc.cbw, d.msc.csw, d.msc.sense⟩

theorem blocks_of_rest {d d' : Dev} (h : d'.rest = d.rest) : d'.blocks = d.blocks :=
  congrArg (fun d => (⟨d.msc.cbw, d.msc.csw, d.msc.sense⟩ : Blocks)) h

theorem blocks_onEp (e : Ep) (f : Endpoint → Endpoint) (d : Dev) : (d.onEp e f).blocks = d.blocks := by
  unfold Dev.blocks
  rw [Dev.msc_onEp]

/-! ## Control requests -/

section Action

variable {call : Callback → Dev → Dev} (hcall : ∀ cb d, (call cb d).rest = d.rest)
include hcall

theorem blocks_uddEpFree (e : Ep) (d : Dev) : (uddEpFree call e d).blocks = d.blocks := by
  unfold uddEpFree
  rw [blocks_onEp]
  exact blocks_of_rest (rest_uddEpAbort hcall e d)

theorem blocks_udcIfaceDisable (ifaceNum : BitVec 8) (d : Dev) :
    (udcIfaceDisable call ifaceNum d).2.blocks = d.blocks := by
  unfold udcIfaceDisable
  split_ifs
  · exact (blocks_uddEpFree hcall .out _).trans (blocks_uddEpFree hcall .inn d)
  · rfl

omit hcall in
theorem blocks_uddEpAlloc (e : Ep) (d : Dev) : (uddEpAlloc e d).2.blocks = d.blocks := by
  unfold uddEpAlloc
  dsimp only
  split_ifs
  · exact blocks_onEp e _ d
  · rw [blocks_onEp]
    exact blocks_onEp e _ d

theorem blocks_udiMscEnable (desc : LunDesc) (d : Dev) : (udiMscEnable call desc d).blocks = d.blocks :=
  (blocks_of_rest (rest_udiMscCbwWait hcall (udiMscEnableReset desc d))).trans rfl

theorem blocks_udcIfaceEnable (desc : LunDesc) (ifaceNum settingNum : BitVec 8) (d : Dev) :
    (udcIfaceEnable call desc ifaceNum settingNum d).2.blocks = d.blocks := by
  have hinn := blocks_uddEpAlloc .inn d
  have hout := (blocks_uddEpAlloc .out (uddEpAlloc .inn d).2).trans hinn
  unfold udcIfaceEnable
  dsimp only
  split_ifs
  · exact (blocks_udiMscEnable hcall desc _).trans hout
  · exact hout
  · exact hinn
  · rfl

theorem blocks_udcReset (d : Dev) : (udcReset call d).blocks = d.blocks := by
  unfold udcReset
  dsimp only
  split_ifs
  · exact blocks_udcIfaceDisable hcall 0 d
  · rfl

/-- **Control requests leave the blocks alone.** -/
theorem blocks_action (desc : LunDesc) (action : SetupAction) (d : Dev) :
    (action.run call desc d).blocks = d.blocks := by
  cases action with
  | none | address wValue => rfl
  | configuration n =>
      have hreset := blocks_udcReset hcall d
      change (setConfiguration call desc n d).blocks = d.blocks
      unfold setConfiguration
      dsimp only
      split_ifs
      · exact hreset
      · exact (blocks_udcIfaceEnable hcall desc 0 0 _).trans hreset
  | interface settingNum =>
      exact (blocks_udcIfaceEnable hcall desc 0 settingNum _).trans (blocks_udcIfaceDisable hcall 0 d)
  | clearHalt e => exact blocks_of_rest (rest_uddEpClearHalt hcall e d)
  | setHalt e =>
      exact blocks_of_rest ((rest_uddEpSetHalt hcall e _).trans (rest_uddEpAbort hcall e d))
  | bulkReset =>
      have haborts := (rest_udiMscCbwWait hcall _).trans ((rest_uddEpAbort hcall .inn _).trans
        (rest_uddEpAbort hcall .out
          { d with msc := { d.msc with bCbwInvalid := false, bTransReq := false } }))
      exact (blocks_of_rest haborts).trans rfl

end Action

/-- An interrupt that completes no transfer leaves the blocks alone. -/
theorem blocks_serveIrq (desc : LunDesc) {irq : Irq} (d : Dev)
    (hirq : ∀ card, irq ≠ .transferIn card)
    (hirq' : ∀ received cbw card, irq ≠ .transferOut received cbw card) :
    (serveIrq desc irq d).blocks = d.blocks := by
  have hother := serveIrq_frame desc irq d
  cases irq with
  | busReset => exact blocks_udcReset rest_uddCall d
  | setup r =>
      obtain ⟨state, hsetup⟩ := usbEp0OnSetup_eq uddCall desc r d
      obtain ⟨address, hframe⟩ := beginSetup_frame d
      change (usbEp0OnSetup uddCall desc r d).blocks = d.blocks
      rw [hsetup]
      refine (blocks_action rest_uddCall desc _ _).trans ?_
      rw [hframe]
      rfl
  | transferIn card => exact absurd rfl (hirq card)
  | transferOut received cbw card => exact absurd rfl (hirq' received cbw card)
  | vbus _ | suspend | wakeup | sof _ | ep0TransferOk _ | ep0TransferFail _ =>
      obtain ⟨port, address, state, sleep, hframe⟩ := hother rfl
      rw [hframe]
      rfl

/-! ## The end of a command -/

/-- The tag of the CSW is the tag of the CBW. -/
def Blocks.tagged (b : Blocks) : Blocks :=
  { b with csw := { b.csw with dCSWTag := b.cbw.dCBWTag } }

section Call

variable {call : Callback → Dev → Dev} (hcall : ∀ cb d, (call cb d).rest = d.rest)
include hcall

theorem blocks_udiMscCswProcess (d : Dev) : (udiMscCswProcess call d).blocks = d.blocks.tagged := by
  have htag (d : Dev) : (udiMscCswTag d).blocks = d.blocks.tagged := rfl
  unfold udiMscCswProcess
  dsimp only
  rw [blocks_of_rest (rest_udiMscCswSend hcall _), htag]
  split
  · rw [blocks_of_rest (rest_uddEpSetHalt hcall _ d)]
  · rfl

theorem blocks_endCommand (setSense : Dev → Dev) (d : Dev) :
    (endCommand call setSense d).blocks = (setSense d).blocks.tagged :=
  blocks_udiMscCswProcess hcall (setSense d)

end Call

/-! ## The main loop -/

/-- What a step of the main loop writes. -/
def mainBlocks (pc : Pc) (b : Blocks) : Blocks :=
  match pc with
  | .memory (.residue _) => { b with csw := { b.csw with dCSWDataResidue := b.csw.dCSWDataResidue - 512 } }
  | .sense stage status =>
      { b with csw := stage.storeCsw status b.csw, sense := stage.storeSense status b.sense }
  | .cswTag => { b with csw := { b.csw with dCSWTag := b.cbw.dCBWTag } }
  | _ => b

theorem rest_runStep (stage : RunPc) (r : RunFor) (s : Sys) :
    (runStep stage r s).dev.rest = s.dev.rest := by
  cases stage with
  | halted =>
      unfold runStep
      split_ifs <;> rfl
  | claim => exact rest_uddEpRunClaim _ s.dev
  | buffer => exact rest_onJob _ _ s.dev
  | callback => exact rest_onJob _ _ s.dev
  | flags => exact rest_onJob _ _ s.dev
  | start => exact rest_uddEpRunStart _ s.dev

theorem blocks_memoryStep (answer : SdMmcErr) (m : MemoryPc) (s : Sys) :
    (memoryStep answer m s).dev.blocks = mainBlocks (.memory m) s.dev.blocks := by
  cases m with
  | ackClear t | runDenied t | residue t | blockFailed t | exit t => rfl
  | _ =>
      unfold memoryStep
      dsimp only
      split_ifs <;> rfl

/-- **What a step of the main loop writes to the blocks.** -/
theorem blocks_mainStep (answer : SdMmcErr) (s : Sys) :
    (mainStep answer s).dev.blocks = mainBlocks s.pc s.dev.blocks := by
  cases hpc : s.pc with
  | memory m =>
      simp only [mainStep, hpc]
      exact blocks_memoryStep answer m s
  | run stage r =>
      simp only [mainStep, hpc]
      exact blocks_of_rest (rest_runStep stage r s)
  | haltSet e =>
      simp only [mainStep, hpc]
      exact blocks_onEp e _ s.dev
  | haltAbort e =>
      simp only [mainStep, hpc]
      exact blocks_onEp e _ s.dev
  | haltBusy e =>
      simp only [mainStep, hpc]
      split_ifs
      · exact blocks_onEp e _ s.dev
      · rfl
  | haltCall e =>
      simp only [mainStep, hpc]
      exact blocks_of_rest (rest_callJob rest_uddCall _ s.dev)
  | cswResidue =>
      simp only [mainStep, hpc]
      cases s.dev.msc.residueEp <;> rfl
  | loop | testReq | resetTest | stallBusy | stallHalted | stallConfigured | chooseMode | wfi =>
      simp only [mainStep, hpc]
      split_ifs <;> rfl
  | _ =>
      simp only [mainStep, hpc]
      rfl

end Firmware
end SoundingSoil
