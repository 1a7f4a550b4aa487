import SoundingSoil.Firmware.MainLoop

/-!
# The blocks a transfer still owes

The pipelined loops move one block less, or one later, than they make steps.  At every position of the
main loop the blocks that are still to be moved fit into the residue of the command, so the subtraction
in `udi_msc_trans_block` never wraps, and the CSW of a failed transfer has a residue to report.

* `Transfer.later` / `blocks` / `ahead` — the blocks after the current step, from its USB half on, and at
  the loop test.
* **`budget_memory`** — every step inside `memory_2_usb` and `usb_2_memory` keeps within the residue.
-/

namespace SoundingSoil
namespace Firmware

/-- This many blocks, in this direction, fit into the residue of the command. -/
structure Msc.Owes (m : Msc) (read : Bool) (n : Nat) : Prop where
  direction : m.cbw.directionIn = read
  length : n * 512 ≤ m.csw.dCSWDataResidue.toNat

theorem Msc.Owes.mono {m : Msc} {read : Bool} {k n : Nat} (h : m.Owes read n) (hk : k ≤ n) :
    m.Owes read k :=
  ⟨h.direction, (Nat.mul_le_mul_right 512 hk).trans h.length⟩

theorem Msc.Owes.of_eq {m m' : Msc} {read : Bool} {n : Nat} (h : m.Owes read n)
    (hcbw : m'.cbw = m.cbw) (hcsw : m'.csw = m.csw) : m'.Owes read n := by
  refine ⟨?_, ?_⟩
  · rw [hcbw]
    exact h.direction
  · rw [hcsw]
    exact h.length

/-- A transfer that owes a block reports a residue on its endpoint. -/
theorem Msc.Owes.residueEp {m : Msc} {read : Bool} {n : Nat} (h : m.Owes read (n + 1)) :
    m.residueEp = some (blockReq read).ep := by
  have hpos : m.csw.dCSWDataResidue ≠ 0 := by
    intro hzero
    have hlength := h.length
    have hnone : m.csw.dCSWDataResidue.toNat = 0 := by
      rw [hzero]
      rfl
    omega
  rw [Msc.residueEp, if_pos hpos, h.direction]
  rfl

/-- The globals after `udi_msc_trans_block` has counted a block. -/
def Msc.countBlock (m : Msc) : Msc :=
  { m with csw := { m.csw with dCSWDataResidue := m.csw.dCSWDataResidue - 512 } }

/-- Counting an owed block does not wrap. -/
theorem Msc.Owes.countBlock {m : Msc} {read : Bool} {n : Nat} (h : m.Owes read (n + 1)) :
    m.countBlock.Owes read n := by
  refine ⟨h.direction, ?_⟩
  have hlength : n * 512 + 512 ≤ m.csw.dCSWDataResidue.toNat := by
    rw [← Nat.succ_mul]
    exact h.length
  have hle : (512 : BitVec 32) ≤ m.csw.dCSWDataResidue :=
    BitVec.le_def.mpr ((Nat.le_add_left 512 (n * 512)).trans hlength)
  have hsub : m.countBlock.csw.dCSWDataResidue.toNat = m.csw.dCSWDataResidue.toNat - 512 :=
    BitVec.toNat_sub_of_le hle
  rw [hsub]
  exact Nat.le_sub_of_add_le hlength

/-! ## The steps of a transfer -/

namespace Transfer

/-- This step has a USB half. -/
def transfers (t : Transfer) : Bool :=
  if t.read then !t.bFirstStep else t.nbStep != 0

/-- The blocks after this step: reading moves one in each of them, writing in all but the last. -/
def later (t : Transfer) : Nat :=
  if t.read then t.nbStep.toNat else t.nbStep.toNat - 1

/-- The blocks from this step on. -/
def blocks (t : Transfer) : Nat :=
  t.later + t.transfers.toNat

/-- The blocks at the loop test. -/
def ahead (t : Transfer) : Nat :=
  if t.read then t.nbStep.toNat - t.bFirstStep.toNat else t.nbStep.toNat - 1

theorem blocks_of_transfers {t : Transfer} (h : t.transfers = true) : t.blocks = t.later + 1 := by
  rw [blocks, h]
  rfl

theorem blocks_of_not_transfers {t : Transfer} (h : t.transfers = false) : t.blocks = t.later := by
  rw [blocks, h]
  rfl

/-- The loop test takes the step. -/
theorem blocks_begin {t : Transfer} (h : t.nbStep ≠ 0) :
    Transfer.blocks { t with nbStep := t.nbStep - 1 } = t.ahead := by
  have hpos : t.nbStep.toNat ≠ 0 := fun hzero => h (BitVec.eq_of_toNat_eq hzero)
  have hpred : (t.nbStep - 1).toNat = t.nbStep.toNat - 1 := by
    have hone : (1 : BitVec 16).toNat = 1 := rfl
    have hle : (1 : BitVec 16) ≤ t.nbStep := by
      rw [BitVec.le_def, hone]
      omega
    exact BitVec.toNat_sub_of_le hle
  unfold blocks later transfers ahead
  dsimp only
  cases t.read with
  | true =>
      rw [if_pos rfl, if_pos rfl, if_pos rfl, hpred]
      cases t.bFirstStep with
      | true => rfl
      | false =>
          change t.nbStep.toNat - 1 + 1 = t.nbStep.toNat - 0
          omega
  | false =>
      rw [if_neg Bool.false_ne_true, if_neg Bool.false_ne_true, if_neg Bool.false_ne_true, hpred]
      by_cases hlast : t.nbStep - 1 = 0
      · have hone : t.nbStep.toNat - 1 = 0 := by
          rw [← hpred, hlast]
          rfl
        rw [hlast, hone]
        rfl
      · have hne : t.nbStep.toNat - 1 ≠ 0 := fun hzero =>
          hlast (BitVec.eq_of_toNat_eq (hpred.trans hzero))
        rw [bne_iff_ne.mpr hlast]
        change t.nbStep.toNat - 1 - 1 + 1 = t.nbStep.toNat - 1
        omega

/-- The loop body is over. -/
theorem ahead_next (t : Transfer) : Transfer.ahead { t with bFirstStep := false } = t.later := by
  unfold ahead later
  dsimp only
  split_ifs <;> rfl

/-- Both loops start one step early. -/
theorem ahead_first_le (t : Transfer) :
    Transfer.ahead { t with nbStep := t.nbSector + 1, bFirstStep := true } ≤ t.nbSector.toNat := by
  have hsucc : (t.nbSector + 1).toNat ≤ t.nbSector.toNat + 1 := by
    rw [BitVec.toNat_add]
    exact (Nat.mod_le _ _).trans (by simp)
  unfold ahead
  dsimp only
  split_ifs
  · change (t.nbSector + 1).toNat - 1 ≤ t.nbSector.toNat
    omega
  · omega

end Transfer

/-! ## Positions -/

/-- The blocks that are owed at a position inside `memory_2_usb` or `usb_2_memory`. -/
def MemoryPc.Budget (m : Msc) : MemoryPc → Prop
  | .select read _ _ nbSector => m.Owes read nbSector.toNat
  | .initBlocks t => m.Owes t.read t.nbSector.toNat
  | .loop t => m.Owes t.read t.ahead
  | .startBlocks t => m.Owes t.read t.blocks
  | .ackTest t | .ackClear t | .runDenied t | .ackWait t | .abortTest t | .residue t =>
      t.transfers = true ∧ m.Owes t.read t.blocks
  | .abortResult t | .waitEnd t => m.Owes t.read t.later
  | .blockFailed _ | .exit _ => True

/-- The blocks that are owed at a position of the main loop. -/
def Pc.Budget (m : Msc) : Pc → Prop
  | .clearReq | .clearReset | .readDirection => m.Owes m.bRead m.nbBlock.toNat
  | .readArguments read => m.Owes read m.nbBlock.toNat
  | .memory p => p.Budget m
  | .run _ (.block t) => t.transfers = true ∧ m.Owes t.read t.blocks
  | _ => True

theorem Pc.Budget.of_eq {m m' : Msc} {pc : Pc} (h : pc.Budget m) (hcbw : m'.cbw = m.cbw)
    (hcsw : m'.csw = m.csw) (hread : m'.bRead = m.bRead) (hblock : m'.nbBlock = m.nbBlock) :
    pc.Budget m' := by
  have howes {read : Bool} {n : Nat} (h : m.Owes read n) : m'.Owes read n := h.of_eq hcbw hcsw
  cases pc with
  | clearReq | clearReset | readDirection =>
      unfold Pc.Budget
      rw [hread, hblock]
      exact howes h
  | readArguments read =>
      unfold Pc.Budget
      rw [hblock]
      exact howes h
  | memory p =>
      cases p with
      | ackTest t | ackClear t | runDenied t | ackWait t | abortTest t | residue t =>
          exact ⟨h.1, howes h.2⟩
      | blockFailed t | exit status => trivial
      | _ => exact howes h
  | run stage r =>
      cases r with
      | block t => exact ⟨h.1, howes h.2⟩
      | csw => trivial
  | _ => trivial

/-! ## The loops -/

theorem budget_nextStep {m : Msc} {t : Transfer} (h : m.Owes t.read t.later) :
    t.nextStep.Budget m := by
  change m.Owes t.read (Transfer.ahead { t with bFirstStep := false })
  rw [Transfer.ahead_next]
  exact h

theorem budget_afterBlock {m : Msc} {t : Transfer} (h : m.Owes t.read t.later) :
    t.afterBlock.Budget m := by
  unfold Transfer.afterBlock
  dsimp only
  split_ifs
  · exact h
  · exact h
  · exact budget_nextStep h
  · exact budget_nextStep h

theorem budget_afterStart {m : Msc} {t : Transfer} (h : m.Owes t.read t.blocks) :
    t.afterStart.Budget m := by
  change MemoryPc.Budget m (if t.transfers then .ackTest t else t.afterBlock)
  split_ifs with htransfers
  · exact ⟨htransfers, h⟩
  · rw [Transfer.blocks_of_not_transfers (Bool.eq_false_of_not_eq_true htransfers)] at h
    exact budget_afterBlock h

theorem budget_beginStep {m : Msc} {t : Transfer} (h : m.Owes t.read t.blocks) :
    t.beginStep.Budget m := by
  unfold Transfer.beginStep
  dsimp only
  generalize (if t.read = true then t.nbStep != 0 else !t.bFirstStep) = starts
  cases starts with
  | true => exact h
  | false => exact budget_afterStart h

/-! ## Steps inside a transfer -/

/-- The globals after a step inside `memory_2_usb` or `usb_2_memory`. -/
def MemoryPc.after (m : Msc) : MemoryPc → Msc
  | .ackClear _ => { m with bAckTrans := false }
  | .runDenied _ => { m with bAckTrans := true }
  | .residue _ => m.countBlock
  | _ => m

/-- The position after a step inside `memory_2_usb` or `usb_2_memory`. -/
def MemoryPc.next (answer : SdMmcErr) (m : Msc) : MemoryPc → Pc
  | .select read lun addr nbSector =>
      if lun < maxLun then .memory (.initBlocks ⟨read, addr, nbSector, 0, true⟩)
      else .memory (.exit .fail)
  | .initBlocks t =>
      if answer = .ok then .memory (.loop { t with nbStep := t.nbSector + 1, bFirstStep := true })
      else .memory (.exit (initStatus answer))
  | .loop t =>
      if t.nbStep = 0 then .memory (.exit .good)
      else .memory { t with nbStep := t.nbStep - 1 }.beginStep
  | .startBlocks t => if answer = .ok then .memory t.afterStart else .memory (.exit .fail)
  | .ackTest t => if m.bAckTrans then .memory (.ackClear t) else .memory (.blockFailed t)
  | .ackClear t => .run .halted (.block t)
  | .runDenied t => .memory (.blockFailed t)
  | .ackWait t => if m.bAckTrans then .memory (.abortTest t) else .memory (.ackWait t)
  | .abortTest t => if m.bAbortTrans then .memory (.blockFailed t) else .memory (.residue t)
  | .residue t => .memory (.abortResult t)
  | .abortResult t => if m.bAbortTrans then .memory (.blockFailed t) else .memory t.afterBlock
  | .blockFailed _ => .memory (.exit .fail)
  | .waitEnd t => if answer = .ok then .memory t.nextStep else .memory (.exit .fail)
  | .exit status => .resetTest status

/-- **A step inside a transfer touches the globals of the class driver only.** -/
theorem mainStep_memory (answer : SdMmcErr) {p : MemoryPc} {s : Sys} (hpc : s.pc = .memory p) :
    mainStep answer s =
      { s with pc := p.next answer s.dev.msc, dev := { s.dev with msc := p.after s.dev.msc } } := by
  cases p with
  | ackWait t =>
      simp only [mainStep, hpc, memoryStep, MemoryPc.next, MemoryPc.after]
      split_ifs
      · rfl
      · rw [← hpc]
  | ackClear t | runDenied t | residue t | blockFailed t | exit t =>
      simp only [mainStep, hpc]
      rfl
  | _ =>
      simp only [mainStep, hpc, memoryStep, MemoryPc.next]
      split_ifs <;> rfl

theorem budget_memory (answer : SdMmcErr) {m : Msc} {p : MemoryPc} (h : p.Budget m) :
    (p.next answer m).Budget (p.after m) := by
  have hsplit {c : Prop} [Decidable c] {p p' : MemoryPc} (h : p.Budget m) (h' : p'.Budget m) :
      Pc.Budget m (if c then .memory p else .memory p') := by
    split_ifs
    · exact h
    · exact h'
  cases p with
  | select read lun addr nbSector => exact hsplit h trivial
  | initBlocks t => exact hsplit (h.mono (Transfer.ahead_first_le t)) trivial
  | loop t =>
      unfold MemoryPc.next
      dsimp only
      split_ifs with hzero
      · trivial
      · refine budget_beginStep ?_
        rw [Transfer.blocks_begin hzero]
        exact h
  | startBlocks t => exact hsplit (budget_afterStart h) trivial
  | ackTest t => exact hsplit h trivial
  | ackClear t => exact ⟨h.1, h.2.of_eq rfl rfl⟩
  | runDenied t => trivial
  | ackWait t => exact hsplit h h
  | abortTest t => exact hsplit trivial h
  | residue t =>
      obtain ⟨htransfers, howes⟩ := h
      rw [Transfer.blocks_of_transfers htransfers] at howes
      exact howes.countBlock
  | abortResult t => exact hsplit trivial (budget_afterBlock h)
  | blockFailed t => trivial
  | waitEnd t => exact hsplit (budget_nextStep h) trivial
  | exit status => trivial

end Firmware
end SoundingSoil
