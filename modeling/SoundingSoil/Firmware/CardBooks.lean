import SoundingSoil.Firmware.Exclusive

/-!
# The card's side of a transfer

`sd_mmc.c` and `sd_mmc_spi.c` keep books of a transfer in global variables: how many blocks are still to
come, and where in the transfer the SPI driver is.  `CardBooks` adds what the card itself was told: a
command for one block ends with that block, a command for several ends with CMD12 or with the stop token.

* `watchCard` / `watchBus` — the books that the main loop keeps, alone and beside the interrupts that check the
  card.
* `Transfer.Started` / **`booked_step`** — the books at every position of the loops.
* **`asserts_hold`** — while no interrupt checks the card during a transfer, the books give the position of the
  next block whenever one is started, and the assertions of the two drivers hold.
-/

namespace SoundingSoil
namespace Firmware

open Support

/-! ## The books -/

/-- The operation that the commands and the blocks on the bus leave a card in.  A read that fails counts as
unfinished. -/
inductive CardOp
  | none
  | single
  | multi
  deriving DecidableEq, Repr

/-- A data block goes over the bus. -/
def CardOp.block : CardOp → CardOp
  | .single => .none
  | op => op

/-- The globals of `sd_mmc.c` and `sd_mmc_spi.c`, and the operation of the card. -/
structure CardBooks where
  nbBlockToTransfer : BitVec 16
  nbBlockRemaining : BitVec 16
  spiNbBlock : BitVec 16
  spiBlockSize : BitVec 16
  spiTransfertPos : BitVec 32
  op : CardOp

namespace CardBooks

def empty : CardBooks where
  nbBlockToTransfer := 0
  nbBlockRemaining := 0
  spiNbBlock := 0
  spiBlockSize := 0
  spiTransfertPos := 0
  op := .none

/-- `sd_mmc_spi_adtc_start`, with the operation that the command begins or ends. -/
def sdMmcSpiAdtcStart (op : CardOp) (blockSize nbBlock : BitVec 16) (b : CardBooks) : CardBooks :=
  { b with spiBlockSize := blockSize, spiNbBlock := nbBlock, spiTransfertPos := 0, op := op }

/-- `sd_mmc_init_read_blocks` and `sd_mmc_init_write_blocks`, when they succeed. -/
def sdMmcInitBlocks (nbBlock : BitVec 16) (b : CardBooks) : CardBooks :=
  { b.sdMmcSpiAdtcStart (if 1 < nbBlock then .multi else .single) 512 nbBlock with
    nbBlockRemaining := nbBlock, nbBlockToTransfer := nbBlock }

/-- The body of the loops of `sd_mmc_spi_start_read_blocks` and `sd_mmc_spi_start_write_blocks`, up to the
end of the block. -/
def sdMmcSpiBlock (b : CardBooks) : CardBooks :=
  { b with spiTransfertPos := b.spiTransfertPos + b.spiBlockSize.zeroExtend 32, op := b.op.block }

/-- `sd_mmc_start_read_blocks` and `sd_mmc_start_write_blocks` for one block.  A read fails before the
block, a write after it. -/
def sdMmcStartBlocks (read ok : Bool) (b : CardBooks) : CardBooks :=
  if ok then
    { b.sdMmcSpiBlock with nbBlockRemaining := b.nbBlockRemaining - 1 }
  else
    { (if read then b else b.sdMmcSpiBlock) with nbBlockRemaining := 0 }

/-- `sd_mmc_spi_stop_multiwrite_block`. -/
def sdMmcSpiStopMultiwriteBlock (b : CardBooks) : CardBooks :=
  if b.spiNbBlock = 1 then b
  else if b.spiNbBlock.toNat > b.spiTransfertPos.toNat / b.spiBlockSize.toNat then b
  else { b with op := .none }

/-- `sd_mmc_wait_end_of_read_blocks` and `sd_mmc_wait_end_of_write_blocks`.  A wait that fails counts as one
that sent nothing. -/
def sdMmcWaitEndOfBlocks (read abort ok : Bool) (b : CardBooks) : CardBooks :=
  if ok then
    let b := if read then b else b.sdMmcSpiStopMultiwriteBlock
    let b := if abort then { b with nbBlockRemaining := 0 } else b
    if b.nbBlockRemaining ≠ 0 then b
    else if b.nbBlockToTransfer = 1 then b
    -- The SPI driver has ended a write by its token; a read is ended by CMD12.
    else if read then b.sdMmcSpiAdtcStart .none 0 0
    else b
  else b

end CardBooks

/-- What a step inside `memory_2_usb` or `usb_2_memory` makes the card drivers do. -/
def CardBooks.memory (answer : SdMmcErr) (p : MemoryPc) (b : CardBooks) : CardBooks :=
  match p with
  | .initBlocks t => if answer = .ok then b.sdMmcInitBlocks t.nbSector else b
  | .startBlocks t => b.sdMmcStartBlocks t.read (answer = .ok)
  | .waitEnd t => b.sdMmcWaitEndOfBlocks t.read false (answer = .ok)
  | .blockFailed t => if t.bFirstStep then b else b.sdMmcWaitEndOfBlocks t.read true (answer = .ok)
  | _ => b

/-- Note what the main loop makes the card drivers do, and nothing of the interrupts. -/
def watchCard (b : CardBooks) (s : Sys) (l : Label) : CardBooks :=
  match l, s.pc with
  | .main answer, .memory p => b.memory answer p
  | _, _ => b

/-- The next interrupt to be served checks the card. -/
def Sys.checksCard (s : Sys) : Prop :=
  (step lunDesc s .serve).dev.store.checks ≠ s.dev.store.checks

instance (s : Sys) : Decidable s.checksCard :=
  inferInstanceAs (Decidable (_ ≠ _))

/-- Note also that an interrupt checked the card: `sd_mmc_check` may install it again, and leaves the books
as `check` says. -/
def watchBus (check : Sys → CardBooks → CardBooks) (b : CardBooks) (s : Sys) (l : Label) : CardBooks :=
  if l = .serve ∧ s.checksCard then check s b else watchCard b s l

/-! ## The books during a transfer -/

namespace CardBooks

/-- The operation of the card when `r` of `n` blocks are still to come. -/
def opOf (n r : Nat) : CardOp :=
  if 1 < n then .multi else if r = n then .single else .none

/-- A transfer of `n` blocks with `r` blocks to come. -/
structure Open (b : CardBooks) (n r : Nat) : Prop where
  toTransfer : b.nbBlockToTransfer.toNat = n
  remaining : b.nbBlockRemaining.toNat = r
  le : r ≤ n
  spiNbBlock : b.spiNbBlock.toNat = n
  spiBlockSize : b.spiBlockSize = 512
  spiTransfertPos : b.spiTransfertPos.toNat = 512 * (n - r)
  op : b.op = opOf n r

/-- A transfer of `n` blocks after its last one. -/
structure Over (b : CardBooks) (n : Nat) : Prop where
  toTransfer : b.nbBlockToTransfer.toNat = n
  remaining : b.nbBlockRemaining.toNat = 0
  op : b.op = if n = 0 then .single else .none

theorem open_init (b : CardBooks) (nbBlock : BitVec 16) :
    (b.sdMmcInitBlocks nbBlock).Open nbBlock.toNat nbBlock.toNat := by
  refine ⟨rfl, rfl, le_refl _, rfl, rfl, ?_, ?_⟩
  · rw [Nat.sub_self]
    rfl
  · change (if 1 < nbBlock then CardOp.multi else .single) = opOf nbBlock.toNat nbBlock.toNat
    have hlt : (1 < nbBlock) ↔ 1 < nbBlock.toNat := BitVec.lt_def
    unfold opOf
    rw [if_pos rfl]
    simp only [hlt]

/-- Nothing was to be moved. -/
theorem Open.over_zero {b : CardBooks} (h : b.Open 0 0) : b.Over 0 :=
  ⟨h.toTransfer, h.remaining, h.op⟩

theorem toNat_pred_of {v : BitVec 16} {r : Nat} (h : v.toNat = r + 1) : (v - 1).toNat = r := by
  have hle : (1 : BitVec 16) ≤ v := by
    have hone : (1 : BitVec 16).toNat = 1 := rfl
    rw [BitVec.le_def]
    omega
  have hsub : (v - 1).toNat = v.toNat - 1 := BitVec.toNat_sub_of_le hle
  omega

theorem opOf_block {n r : Nat} (h : r + 1 ≤ n) : (opOf n (r + 1)).block = opOf n r := by
  unfold opOf
  by_cases hmulti : 1 < n
  · rw [if_pos hmulti, if_pos hmulti]
    rfl
  · have hsame : r + 1 = n := by omega
    have hother : r ≠ n := by omega
    rw [if_neg hmulti, if_neg hmulti, if_pos hsame, if_neg hother]
    rfl

/-- A block is moved. -/
theorem Open.start {b : CardBooks} {n r : Nat} (h : b.Open n (r + 1)) (read : Bool) :
    (b.sdMmcStartBlocks read true).Open n r := by
  have hle := h.le
  have hn : n < 65536 := by
    rw [← h.toTransfer]
    exact b.nbBlockToTransfer.isLt
  refine ⟨h.toTransfer, toNat_pred_of h.remaining, by omega, h.spiNbBlock, h.spiBlockSize, ?_, ?_⟩
  · change (b.spiTransfertPos + b.spiBlockSize.zeroExtend 32).toNat = 512 * (n - r)
    rw [h.spiBlockSize, BitVec.toNat_add, h.spiTransfertPos]
    change (512 * (n - (r + 1)) + 512) % 4294967296 = 512 * (n - r)
    omega
  · change b.op.block = opOf n r
    rw [h.op, opOf_block hle]

/-- The stop token is sent after the last block. -/
theorem Open.stop {b : CardBooks} {n r : Nat} (h : b.Open n r) (hn : n ≠ 1) :
    b.sdMmcSpiStopMultiwriteBlock = if r = 0 then { b with op := .none } else b := by
  have hnb : b.spiNbBlock ≠ 1 := by
    intro hone
    refine hn ?_
    rw [← h.spiNbBlock, hone]
    rfl
  have hblocks : b.spiTransfertPos.toNat / b.spiBlockSize.toNat = n - r := by
    rw [h.spiTransfertPos, h.spiBlockSize]
    exact Nat.mul_div_cancel_left (n - r) (by decide)
  have hle := h.le
  unfold sdMmcSpiStopMultiwriteBlock
  rw [if_neg hnb, hblocks, h.spiNbBlock]
  by_cases hr : r = 0
  · rw [if_pos hr, if_neg (by omega)]
  · rw [if_neg hr, if_pos (by omega)]

/-- The end of a block that is not the last one changes nothing. -/
theorem Open.wait_of_remaining {b : CardBooks} {n r : Nat} (h : b.Open n r) (hr : r ≠ 0)
    (read : Bool) : b.sdMmcWaitEndOfBlocks read false true = b := by
  have hremaining : b.nbBlockRemaining ≠ 0 := by
    intro hzero
    refine hr ?_
    rw [← h.remaining, hzero]
    rfl
  have hstop : b.sdMmcSpiStopMultiwriteBlock = b := by
    by_cases hn : n = 1
    · unfold sdMmcSpiStopMultiwriteBlock
      have hone : b.spiNbBlock = 1 := BitVec.eq_of_toNat_eq (h.spiNbBlock.trans hn)
      rw [if_pos hone]
    · rw [h.stop hn, if_neg hr]
  unfold sdMmcWaitEndOfBlocks
  dsimp only
  rw [if_pos rfl, hstop, ite_self, if_neg Bool.false_ne_true, if_pos hremaining]

theorem stop_eq (b : CardBooks) :
    b.sdMmcSpiStopMultiwriteBlock = { b with op := b.sdMmcSpiStopMultiwriteBlock.op } := by
  unfold sdMmcSpiStopMultiwriteBlock
  split_ifs <;> rfl

/-- The books after the last wait of a transfer, or after an abort. -/
theorem wait_ended {b : CardBooks} {read abort : Bool}
    (hend : abort = true ∨ b.nbBlockRemaining = 0) :
    let b' := { b with
      op := if read then b.op else b.sdMmcSpiStopMultiwriteBlock.op, nbBlockRemaining := 0 }
    b.sdMmcWaitEndOfBlocks read abort true =
      if b.nbBlockToTransfer = 1 then b' else if read then b'.sdMmcSpiAdtcStart .none 0 0 else b' := by
  have hzero : ∀ op, (if abort then { b with op := op, nbBlockRemaining := 0 } else { b with op := op })
      = { b with op := op, nbBlockRemaining := 0 } := by
    intro op
    rcases hend with habort | hremaining
    · rw [if_pos habort]
    · rw [← hremaining]
      exact ite_self _
  have hstop : (if read then b else b.sdMmcSpiStopMultiwriteBlock) =
      { b with op := if read then b.op else b.sdMmcSpiStopMultiwriteBlock.op } := by
    cases read with
    | true => rfl
    | false => exact stop_eq b
  unfold sdMmcWaitEndOfBlocks
  dsimp only
  rw [if_pos rfl, hstop, hzero]
  rfl

/-- The end of the last block ends the operation of the card. -/
theorem Open.wait_last {b : CardBooks} {n : Nat} (h : b.Open n 0) (hn : n ≠ 0) (read : Bool) :
    (b.sdMmcWaitEndOfBlocks read false true).Over n := by
  have hremaining : b.nbBlockRemaining = 0 := BitVec.eq_of_toNat_eq h.remaining
  rw [wait_ended (Or.inr hremaining)]
  by_cases hone : n = 1
  · have hto : b.nbBlockToTransfer = 1 := BitVec.eq_of_toNat_eq (h.toTransfer.trans hone)
    have hnb : b.spiNbBlock = 1 := BitVec.eq_of_toNat_eq (h.spiNbBlock.trans hone)
    have hop : b.op = .none := by
      rw [h.op, hone]
      rfl
    have hsame : b.sdMmcSpiStopMultiwriteBlock = b := if_pos hnb
    rw [if_pos hto, hsame, ite_self]
    refine ⟨h.toTransfer, rfl, ?_⟩
    rw [if_neg hn]
    exact hop
  · have hto : b.nbBlockToTransfer ≠ 1 := by
      intro heq
      refine hone ?_
      rw [← h.toTransfer, heq]
      rfl
    rw [if_neg hto]
    cases read with
    | true =>
        rw [if_pos rfl]
        exact ⟨h.toTransfer, rfl, (if_neg hn).symm⟩
    | false =>
        rw [if_neg Bool.false_ne_true, h.stop hone, if_pos rfl]
        exact ⟨h.toTransfer, rfl, (if_neg hn).symm⟩

end CardBooks

/-! ## Positions -/

namespace Transfer

/-- The blocks that the card still has to move after the card half of a step. -/
def left (t : Transfer) : Nat :=
  if t.read then t.nbStep.toNat - 1 else t.nbStep.toNat

/-- This step has a card half. -/
def starts (t : Transfer) : Bool :=
  if t.read then t.nbStep != 0 else !t.bFirstStep

/-- After the card half of a step. -/
def Started (b : CardBooks) (t : Transfer) : Prop :=
  if t.read = true ∧ t.nbStep = 0 then b.Over t.nbSector.toNat
  else b.Open t.nbSector.toNat t.left

/-- At the end of a step. -/
def Finished (b : CardBooks) (t : Transfer) : Prop :=
  if t.left = 0 then b.Over t.nbSector.toNat else b.Open t.nbSector.toNat t.left

/-- At the loop test. -/
def TestBooks (b : CardBooks) (t : Transfer) : Prop :=
  if t.bFirstStep then t.nbStep = t.nbSector + 1 ∧ b.Open t.nbSector.toNat t.nbSector.toNat
  else t.nbSector.toNat < 65535 ∧ t.nbStep.toNat ≤ t.nbSector.toNat ∧ t.Finished b

end Transfer

/-- The books at a position inside `memory_2_usb` or `usb_2_memory`. -/
def MemoryPc.Booked (b : CardBooks) : MemoryPc → Prop
  | .loop t => t.TestBooks b
  | .startBlocks t => t.Runs ∧ t.starts = true ∧ b.Open t.nbSector.toNat (t.left + 1)
  | .ackTest t | .ackClear t | .runDenied t | .ackWait t | .abortTest t | .residue t
  | .abortResult t | .blockFailed t => t.Runs ∧ t.transfers = true ∧ t.Started b
  | .waitEnd t => t.Runs ∧ t.starts = true ∧ b.Open t.nbSector.toNat t.left
  | _ => True

/-- The books at a position of the main loop. -/
def Pc.Booked (b : CardBooks) : Pc → Prop
  | .memory p => p.Booked b
  | .run _ (.block t) => t.Runs ∧ t.transfers = true ∧ t.Started b
  | _ => True

namespace Transfer

theorem left_of_read {t : Transfer} (h : t.read = true) : t.left = t.nbStep.toNat - 1 :=
  if_pos h

theorem left_of_write {t : Transfer} (h : t.read = false) : t.left = t.nbStep.toNat :=
  if_neg (ne_true_of_eq_false h)

/-- The card half of a step moves a block. -/
theorem Runs.left_lt {t : Transfer} (h : t.Runs) (hstarts : t.starts = true) :
    t.left < t.nbSector.toNat := by
  have hle := h.step
  unfold starts at hstarts
  rcases Bool.eq_false_or_eq_true t.read with hread | hread
  · rw [if_pos hread] at hstarts
    have hpos := toNat_ne_zero (bne_iff_ne.mp hstarts)
    rw [left_of_read hread]
    omega
  · rw [if_neg (ne_true_of_eq_false hread)] at hstarts
    rw [left_of_write hread]
    exact h.lt_of_not_first ((Bool.not_eq_true' t.bFirstStep).mp hstarts)

/-- The step is over. -/
theorem Finished.next {b : CardBooks} {t : Transfer} (hruns : t.Runs) (h : t.Finished b) :
    TestBooks b { t with bFirstStep := false } :=
  ⟨hruns.bound, hruns.step, h⟩

/-- A step without a card half leaves the books as they are. -/
theorem Started.finished {b : CardBooks} {t : Transfer} (hruns : t.Runs) (hstarts : t.starts = false)
    (h : t.Started b) : t.Finished b := by
  unfold Started at h
  unfold starts at hstarts
  unfold Finished
  rcases Bool.eq_false_or_eq_true t.read with hread | hread
  · rw [if_pos hread, bne_eq_false_iff_eq] at hstarts
    have hleft : t.left = 0 := by
      unfold left
      rw [if_pos hread, hstarts]
      rfl
    rw [if_pos ⟨hread, hstarts⟩] at h
    rw [if_pos hleft]
    exact h
  · have hnot : ¬ (t.read = true ∧ t.nbStep = 0) := fun hboth =>
      ne_true_of_eq_false hread hboth.1
    rw [if_neg (ne_true_of_eq_false hread), Bool.not_eq_false'] at hstarts
    have hleft : t.left = t.nbSector.toNat := by
      unfold left
      rw [if_neg (ne_true_of_eq_false hread)]
      exact hruns.first.mp hstarts
    rw [if_neg hnot] at h
    split_ifs with hzero
    · -- The first step of a write of no blocks.
      have hnone : t.nbSector.toNat = 0 := hleft.symm.trans hzero
      rw [hleft, hnone] at h
      rw [hnone]
      exact h.over_zero
    · exact h

/-- The end of the block. -/
theorem finished_wait {b : CardBooks} {t : Transfer} (hruns : t.Runs) (hstarts : t.starts = true)
    (h : b.Open t.nbSector.toNat t.left) :
    t.Finished (b.sdMmcWaitEndOfBlocks t.read false true) := by
  unfold Finished
  split_ifs with hleft
  · rw [hleft] at h
    have hlt := hruns.left_lt hstarts
    exact h.wait_last (by omega) t.read
  · rw [h.wait_of_remaining hleft]
    exact h

/-- The card half of the step. -/
theorem started_start {b : CardBooks} {t : Transfer} (hstarts : t.starts = true)
    (h : b.Open t.nbSector.toNat (t.left + 1)) : t.Started (b.sdMmcStartBlocks t.read true) := by
  have hnot : ¬ (t.read = true ∧ t.nbStep = 0) := by
    rintro ⟨hread, hstep⟩
    unfold starts at hstarts
    rw [if_pos hread] at hstarts
    exact bne_iff_ne.mp hstarts hstep
  unfold Started
  rw [if_neg hnot]
  exact h.start t.read

/-- What the loop test leaves to a step of a READ(10). -/
theorem begun_read {b : CardBooks} {t : Transfer} (hread : t.read = true)
    (hover : t.nbStep = 0 → b.Over t.nbSector.toNat)
    (hopen : t.nbStep ≠ 0 → b.Open t.nbSector.toNat t.nbStep.toNat) :
    if t.starts then b.Open t.nbSector.toNat (t.left + 1) else t.Started b := by
  unfold starts Started
  rw [if_pos hread]
  by_cases hstep : t.nbStep = 0
  · rw [hstep, if_neg (by decide), if_pos ⟨hread, rfl⟩]
    exact hover hstep
  · have hpos := toNat_ne_zero hstep
    have hleft : t.left + 1 = t.nbStep.toNat := by
      rw [left_of_read hread]
      omega
    rw [if_pos (bne_iff_ne.mpr hstep), hleft]
    exact hopen hstep

/-- What the loop test leaves to a step of a WRITE(10). -/
theorem begun_write {b : CardBooks} {t : Transfer} (hread : t.read = false) {r : Nat}
    (hopen : b.Open t.nbSector.toNat r)
    (hr : if t.bFirstStep then r = t.nbStep.toNat else r = t.nbStep.toNat + 1) :
    if t.starts then b.Open t.nbSector.toNat (t.left + 1) else t.Started b := by
  have hnot : ¬ (t.read = true ∧ t.nbStep = 0) := fun hboth => ne_true_of_eq_false hread hboth.1
  have hleft := left_of_write hread
  unfold starts Started
  rw [if_neg (ne_true_of_eq_false hread)]
  cases hfirst : t.bFirstStep with
  | true =>
      rw [hfirst, if_pos rfl] at hr
      rw [Bool.not_true, if_neg Bool.false_ne_true, if_neg hnot, hleft, ← hr]
      exact hopen
  | false =>
      rw [hfirst, if_neg Bool.false_ne_true] at hr
      rw [Bool.not_false, if_pos rfl, hleft, ← hr]
      exact hopen

/-- The loop test takes a step. -/
theorem TestBooks.begin {b : CardBooks} {t : Transfer} (h : t.TestBooks b) (hstep : t.nbStep ≠ 0) :
    let t' := { t with nbStep := t.nbStep - 1 }
    t'.Runs ∧ if t'.starts then b.Open t.nbSector.toNat (t'.left + 1) else t'.Started b := by
  have hpos := toNat_ne_zero hstep
  have hpred := toNat_pred hstep
  unfold TestBooks at h
  rcases Bool.eq_false_or_eq_true t.bFirstStep with hfirst | hfirst
  · -- The first step: the card has all sectors before it.
    rw [if_pos hfirst] at h
    obtain ⟨hnb, hopen⟩ := h
    have hruns := runs_first hnb hfirst hstep
    have hall : (t.nbStep - 1).toNat = t.nbSector.toNat := hruns.first.mp hfirst
    refine ⟨hruns, ?_⟩
    rcases Bool.eq_false_or_eq_true t.read with hread | hread
    · refine begun_read hread (fun hlast => ?_) (fun _ => ?_)
      · have hzero : (t.nbStep - 1).toNat = 0 := congrArg BitVec.toNat hlast
        have hnone : t.nbSector.toNat = 0 := hall.symm.trans hzero
        rw [hnone] at hopen
        change b.Over t.nbSector.toNat
        rw [hnone]
        exact hopen.over_zero
      · change b.Open t.nbSector.toNat (t.nbStep - 1).toNat
        rw [hall]
        exact hopen
    · refine begun_write hread hopen ?_
      rw [if_pos hfirst]
      exact hall.symm
  · -- A later step: a read is one sector ahead of the USB side, a write one behind.
    rw [if_neg (ne_true_of_eq_false hfirst)] at h
    obtain ⟨hbound, hle, hfinished⟩ := h
    unfold Finished at hfinished
    refine ⟨runs_next hbound hle hfirst hstep, ?_⟩
    rcases Bool.eq_false_or_eq_true t.read with hread | hread
    · have hleft : t.left = (t.nbStep - 1).toNat := by
        rw [left_of_read hread, hpred]
      rw [hleft] at hfinished
      refine begun_read hread (fun hlast => ?_) (fun hmore => ?_)
      · have hzero : (t.nbStep - 1).toNat = 0 := congrArg BitVec.toNat hlast
        rw [if_pos hzero] at hfinished
        exact hfinished
      · have hnot : (t.nbStep - 1).toNat ≠ 0 := fun hzero => hmore (BitVec.eq_of_toNat_eq hzero)
        rw [if_neg hnot] at hfinished
        exact hfinished
    · have hleft := left_of_write hread
      rw [hleft, if_neg hpos] at hfinished
      refine begun_write hread hfinished ?_
      rw [if_neg (ne_true_of_eq_false hfirst)]
      change t.nbStep.toNat = (t.nbStep - 1).toNat + 1
      omega

end Transfer

/-! ## One step of the loops -/

section Positions

variable {b : CardBooks} {t : Transfer}

theorem booked_nextStep (hruns : t.Runs) (h : t.Finished b) : t.nextStep.Booked b :=
  h.next hruns

theorem booked_afterBlock (hruns : t.Runs) (h : t.Started b) : t.afterBlock.Booked b := by
  change MemoryPc.Booked b (if t.starts then .waitEnd t else t.nextStep)
  split_ifs with hstarts
  · refine ⟨hruns, hstarts, ?_⟩
    have hnot : ¬ (t.read = true ∧ t.nbStep = 0) := by
      rintro ⟨hread, hstep⟩
      unfold Transfer.starts at hstarts
      rw [if_pos hread] at hstarts
      exact bne_iff_ne.mp hstarts hstep
    unfold Transfer.Started at h
    rw [if_neg hnot] at h
    exact h
  · exact booked_nextStep hruns (h.finished hruns (Bool.eq_false_of_not_eq_true hstarts))

theorem booked_afterStart (hruns : t.Runs) (h : t.Started b) : t.afterStart.Booked b := by
  change MemoryPc.Booked b (if t.transfers then .ackTest t else t.afterBlock)
  split_ifs with htransfers
  · exact ⟨hruns, htransfers, h⟩
  · exact booked_afterBlock hruns h

theorem booked_beginStep (hruns : t.Runs)
    (h : if t.starts then b.Open t.nbSector.toNat (t.left + 1) else t.Started b) :
    t.beginStep.Booked b := by
  change MemoryPc.Booked b (if t.starts then .startBlocks t else t.afterStart)
  split_ifs at h ⊢ with hstarts
  · exact ⟨hruns, hstarts, h⟩
  · exact booked_afterStart hruns h

end Positions

/-- **The books over one step inside a transfer.** -/
theorem booked_memory {answer : SdMmcErr} {m : Msc} {b : CardBooks} {p : MemoryPc}
    (h : p.Booked b) : (p.next answer m).Booked (b.memory answer p) := by
  have hsplit {c : Prop} [Decidable c] {b : CardBooks} {p p' : MemoryPc} (h : p.Booked b)
      (h' : p'.Booked b) : Pc.Booked b (if c then .memory p else .memory p') := by
    split_ifs
    · exact h
    · exact h'
  cases p with
  | select read lun addr nbSector => exact hsplit trivial trivial
  | initBlocks t =>
      unfold MemoryPc.next CardBooks.memory
      dsimp only
      split_ifs
      · exact ⟨rfl, CardBooks.open_init b t.nbSector⟩
      · trivial
  | loop t =>
      unfold MemoryPc.next
      dsimp only
      split_ifs with hstep
      · trivial
      · obtain ⟨hruns, hbegun⟩ := h.begin hstep
        exact booked_beginStep hruns hbegun
  | startBlocks t =>
      obtain ⟨hruns, hstarts, hopen⟩ := h
      unfold MemoryPc.next CardBooks.memory
      dsimp only
      split_ifs with hok
      · rw [hok]
        exact booked_afterStart hruns (Transfer.started_start hstarts hopen)
      · trivial
  | ackTest t => exact hsplit h h
  | ackClear t => exact h
  | runDenied t => exact h
  | ackWait t => exact hsplit h h
  | abortTest t => exact hsplit h h
  | residue t => exact h
  | abortResult t => exact hsplit h (booked_afterBlock h.1 h.2.2)
  | blockFailed t => trivial
  | waitEnd t =>
      obtain ⟨hruns, hstarts, hopen⟩ := h
      unfold MemoryPc.next CardBooks.memory
      dsimp only
      split_ifs with hok
      · rw [hok]
        exact booked_nextStep hruns (Transfer.finished_wait hruns hstarts hopen)
      · trivial
  | exit status => trivial

/-! ## Every step of the firmware -/

theorem booked_outside {b : CardBooks} {pc : Pc} (h : pc.Outside) : pc.Booked b := by
  cases pc with
  | memory p => exact h.elim
  | run stage r =>
      cases r with
      | block t => exact h.elim
      | csw => trivial
  | _ => trivial

/-- **A step of the firmware keeps the books.** -/
theorem booked_step (desc : LunDesc) {b : CardBooks} {s : Sys} (l : Label) (h : s.pc.Booked b) :
    (step desc s l).pc.Booked (watchCard b s l) := by
  refine transfer_step desc s l (fun pc => booked_outside) (fun _ _ _ _ => trivial) ?_ ?_ ?_
  · intro hother
    cases l with
    | main answer => exact (hother answer rfl).elim
    | raise irq => exact h
    | serve => exact h
  · rintro answer p rfl hpc
    rw [hpc] at h
    simp only [watchCard, hpc]
    exact booked_memory h
  · rintro answer stage t rfl hpc
    rw [hpc] at h
    simp only [watchCard, hpc]
    exact ⟨h, h, fun _ => h⟩

/-! ## The assertions of the drivers -/

/-- What `sd_mmc_start_read_blocks`, `sd_mmc_start_write_blocks` and the functions below them assert. -/
structure CardBooks.StartAsserts (b : CardBooks) : Prop where
  remaining : 1 ≤ b.nbBlockRemaining.toNat
  aligned : b.spiTransfertPos.toNat % b.spiBlockSize.toNat = 0
  within : b.spiTransfertPos.toNat / b.spiBlockSize.toNat < b.spiNbBlock.toNat

theorem CardBooks.Open.asserts {b : CardBooks} {n r : Nat} (h : b.Open n (r + 1)) :
    b.StartAsserts := by
  have hle := h.le
  have hsize : b.spiBlockSize.toNat = 512 := by
    rw [h.spiBlockSize]
    rfl
  refine ⟨?_, ?_, ?_⟩
  · rw [h.remaining]
    exact Nat.le_add_left 1 r
  · rw [h.spiTransfertPos, hsize]
    exact Nat.mul_mod_right 512 (n - (r + 1))
  · rw [h.spiTransfertPos, hsize, h.spiNbBlock, Nat.mul_div_cancel_left _ (by decide)]
    omega

/-- When a block is started the books give its position in the transfer, and the assertions hold. -/
def AssertsAtStart (p : Sys × CardBooks) : Prop :=
  ∀ t, p.1.pc = .memory (.startBlocks t) →
    p.2.Open t.nbSector.toNat (t.left + 1) ∧ p.2.StartAsserts

theorem outside_of_not_transferring {pc : Pc} (h : pc.transferring = false) : pc.Outside := by
  cases pc with
  | memory p => exact Bool.noConfusion h
  | run stage r =>
      cases r with
      | block t => exact Bool.noConfusion h
      | csw => trivial
  | _ => trivial

/-- **A step keeps the books beside the interrupts**, whatever a check of the card leaves of them. -/
theorem booked_bus (check : Sys → CardBooks → CardBooks) {b : CardBooks} {s : Sys} {l : Label} (hturn : Turn s)
    (hspares : SparesTransfer s l) (h : s.pc.Booked b) :
    (step lunDesc s l).pc.Booked (watchBus check b s l) := by
  unfold watchBus
  split_ifs with hcheck
  · obtain ⟨rfl, hchecks⟩ := hcheck
    have hout : s.pc.transferring = false := Bool.eq_false_of_not_eq_true fun htransferring =>
      hchecks (congrArg Store.checks (hturn.store htransferring hspares))
    have hpc : (step lunDesc s .serve).pc = s.pc := pc_serveStep lunDesc s
    rw [hpc]
    exact booked_outside (outside_of_not_transferring hout)
  · exact booked_step lunDesc l h

/-- **No block is started against an assertion of the drivers**, in every run in which no request starts the
reception of a CBW beside a transfer of the main loop or an open status phase. -/
theorem asserts_hold (check : Sys → CardBooks → CardBooks) (vbusHigh : Bool) (ls : List Label)
    (h : EveryStep (step lunDesc) SparesTransfer (boot vbusHigh) ls) :
    EveryState (observed (step lunDesc) (watchBus check)) AssertsAtStart (boot vbusHigh, .empty) ls := by
  rintro pre ⟨post, rfl⟩ t hpc
  have hspares := everyStep_observed (watchBus check) CardBooks.empty (everyStep_append.mp h).1
  have hinv := @invariant_run _ _ (observed (step lunDesc) (watchBus check))
    (fun p => Turn p.1 ∧ p.1.pc.Booked p.2) (fun p l => SparesTransfer p.1 l)
    (fun p l hp hl => ⟨turn_step p.1 l hp.1 hl, booked_bus check hp.1 hl hp.2⟩) (boot vbusHigh, .empty)
    ⟨turn_boot vbusHigh, trivial⟩ pre hspares
  have hbooked := hinv.2
  rw [hpc] at hbooked
  exact ⟨hbooked.2.2, hbooked.2.2.asserts⟩

/-- A check of the card that empties the books before a READ(10) of one block. -/
theorem asserts_hold_readTaken :
    EveryState (observed (step lunDesc) (watchBus fun _ _ => .empty)) AssertsAtStart (boot true, .empty)
      (serveAll (enumeration ++ [testUnitReady, .transferIn presentCard, .transferOut 31 readBlock presentCard])
        ++ List.replicate 9 (.main .ok)) :=
  asserts_hold (fun _ _ => .empty) true _ (by decide)

end Firmware
end SoundingSoil
