import SoundingSoil.Firmware.Commands
import SoundingSoil.Firmware.Connection
import SoundingSoil.Firmware.Transfers
import SoundingSoil.Support.DoubleBuffer
import SoundingSoil.Support.TransitionSystem

/-!
# The sectors of a transfer

The loops of `sd_mmc_usb_read_10` and `sd_mmc_usb_write_10` overlap the card and the USB by means of the
buffers `sector_buf_0` and `sector_buf_1`.  `watchSectors` is an observer of the loops that keeps their
books: a sector is filled into a buffer, or passed on from it, when the call that works on the buffer
reports it.  For the card this is a call that returned without an error, for the USB a call of
`udi_msc_trans_block` that subtracted the block from the residue.  The bytes on the bus are not seen here:
the code counts a block whole also when the host ended it with a short packet, and when a reset of the
interface has set `udi_msc_b_ack_trans` before the hardware was done.

* `Pc.Pipelined` / **`watched_step`** — the buffers work as a double buffer at every position of the loops.
* **`sectors_inOrder`** — in every run, whatever the host, the card and the interrupts do, the sectors are
  counted in order, without a gap or a repetition, and each is passed on from the buffer that was last
  reported to be filled with it.
* **`sectors_complete`** — a transfer that ends well has counted all its sectors, unless it is 65535 sectors
  long: then `nb_step` wraps to zero and it counts none.
-/

namespace SoundingSoil
namespace Firmware

open Support

/-! ## The observer -/

namespace Transfer

/-- The sector buffer that the card works on in this step: `sector_buf_1` in the odd ones. -/
def cardBuffer (t : Transfer) : Bool :=
  t.nbStep.toNat % 2 == 1

/-- The sector buffer that the USB works on in this step. -/
def usbBuffer (t : Transfer) : Bool :=
  !t.cardBuffer

/-- The sector buffer that is filled in this step, from the card or from the host. -/
def fillBuffer (t : Transfer) : Bool :=
  if t.read then t.cardBuffer else t.usbBuffer

end Transfer

/-- The books of the current command: its length, and what the two buffers were last reported to hold. -/
structure SectorWatch where
  nbSector : Nat
  buffers : DoubleBuffer

namespace SectorWatch

def empty : SectorWatch where
  nbSector := 0
  buffers := .empty

def onBuffers (f : DoubleBuffer → DoubleBuffer) (w : SectorWatch) : SectorWatch :=
  { w with buffers := f w.buffers }

/-- The card half of a step.  A reception that fails leaves anything in the buffer. -/
def cardHalf (answer : SdMmcErr) (t : Transfer) (w : SectorWatch) : SectorWatch :=
  if t.read then
    if answer = .ok then w.onBuffers (.fill t.cardBuffer) else w.onBuffers (.spoil t.cardBuffer)
  else if answer = .ok then w.onBuffers (.drain t.cardBuffer) else w

/-- The USB half of a step, at the place where `udi_msc_trans_block` subtracts the block from the residue.
`udi_msc_trans_ack` has ignored the number of bytes, so a short packet counts as a block, too. -/
def usbHalf (t : Transfer) (w : SectorWatch) : SectorWatch :=
  if t.read then w.onBuffers (.drain t.usbBuffer) else w.onBuffers (.fill t.usbBuffer)

/-- The hardware is started: a buffer that is being received is not what it was. -/
def usbStart (t : Transfer) (w : SectorWatch) : SectorWatch :=
  if t.read then w else w.onBuffers (.spoil t.usbBuffer)

/-- A step inside `memory_2_usb` or `usb_2_memory`. -/
def memory (answer : SdMmcErr) (p : MemoryPc) (w : SectorWatch) : SectorWatch :=
  match p with
  | .select _ _ _ nbSector => ⟨nbSector.toNat, .empty⟩
  | .startBlocks t => w.cardHalf answer t
  | .residue t => w.usbHalf t
  | _ => w

end SectorWatch

/-- Enter into the books what the calls of the main loop report about the sector buffers. -/
def watchSectors (w : SectorWatch) (s : Sys) (l : Label) : SectorWatch :=
  match l, s.pc with
  | .main answer, .memory p => w.memory answer p
  | .main _, .run .start (.block t) => w.usbStart t
  | _, _ => w

/-! ## Positions -/

namespace Transfer

/-- At the beginning of a step the other buffer holds the next sector, except in the first step. -/
def Begun (b : DoubleBuffer) (t : Transfer) : Prop :=
  t.Runs ∧ if t.bFirstStep then b.Idle 0 else b.Loaded (!t.fillBuffer) (t.before - 1)

/-- Before the USB half of a step. -/
def Half (b : DoubleBuffer) (t : Transfer) : Prop :=
  t.Runs ∧
    if t.read then
      t.bFirstStep = false ∧
        if t.nbStep = 0 then b.Loaded (!t.fillBuffer) (t.before - 1)
        else b.Full (!t.fillBuffer) (t.before - 1)
    else t.nbStep ≠ 0 ∧ b.Idle t.before

/-- At the end of a step its buffer holds the next sector, except in the last step. -/
def Ended (b : DoubleBuffer) (t : Transfer) : Prop :=
  t.nbSector.toNat < 65535 ∧ t.nbStep.toNat ≤ t.nbSector.toNat ∧
    if t.nbStep = 0 then b.Idle t.nbSector.toNat else b.Loaded t.fillBuffer t.before

/-- At the loop test the first step is still ahead, or a step has ended. -/
def AtTest (b : DoubleBuffer) (t : Transfer) : Prop :=
  if t.bFirstStep then t.nbStep = t.nbSector + 1 ∧ b.Idle 0 else t.Ended b

end Transfer

/-- The number of sectors the loop of a command of this length goes through: `nb_step` starts with zero at the longest one. -/
def movedSectors (nbSector : Nat) : Nat :=
  if nbSector = 65535 then 0 else nbSector

theorem movedSectors_eq {n : Nat} (h : movedSectors n ≠ 0) : movedSectors n = n := by
  unfold movedSectors at h ⊢
  split_ifs at h ⊢ with hlong
  · exact absurd rfl h
  · rfl

/-- The buffers at a position inside `memory_2_usb` or `usb_2_memory`. -/
def MemoryPc.Pipelined (w : SectorWatch) : MemoryPc → Prop
  | .initBlocks t => w.nbSector = t.nbSector.toNat ∧ w.buffers.Idle 0
  | .loop t => w.nbSector = t.nbSector.toNat ∧ t.AtTest w.buffers
  | .startBlocks t => w.nbSector = t.nbSector.toNat ∧ t.Begun w.buffers ∧
      if t.read then t.nbStep ≠ 0 else t.bFirstStep = false
  | .ackTest t | .ackClear t | .runDenied t | .ackWait t | .abortTest t | .residue t =>
      w.nbSector = t.nbSector.toNat ∧ t.Half w.buffers
  | .abortResult t | .waitEnd t => w.nbSector = t.nbSector.toNat ∧ t.Ended w.buffers
  | .exit .good => w.buffers.delivered.length = movedSectors w.nbSector
  | _ => True

/-- The buffers at a position of the main loop. -/
def Pc.Pipelined (w : SectorWatch) : Pc → Prop
  | .memory p => p.Pipelined w
  | .run _ (.block t) => w.nbSector = t.nbSector.toNat ∧ t.Half w.buffers
  | _ => True

/-! ## One step of the loops -/

namespace Transfer

/-- The buffers of successive steps alternate. -/
theorem fillBuffer_pred {t : Transfer} (h : t.nbStep ≠ 0) :
    fillBuffer { t with nbStep := t.nbStep - 1 } = !t.fillBuffer := by
  have hcard : cardBuffer { t with nbStep := t.nbStep - 1 } = !t.cardBuffer := by
    have hpos := toNat_ne_zero h
    unfold cardBuffer
    dsimp only
    rw [toNat_pred h]
    rcases Nat.mod_two_eq_zero_or_one t.nbStep.toNat with hmod | hmod
    · have hpred : (t.nbStep.toNat - 1) % 2 = 1 := by omega
      rw [hmod, hpred]
      rfl
    · have hpred : (t.nbStep.toNat - 1) % 2 = 0 := by omega
      rw [hmod, hpred]
      rfl
  unfold fillBuffer usbBuffer
  dsimp only
  rw [hcard]
  cases t.read <;> rfl

/-- The loop test takes a step. -/
theorem AtTest.begin {b : DoubleBuffer} {t : Transfer} (h : t.AtTest b) (hstep : t.nbStep ≠ 0) :
    Begun b { t with nbStep := t.nbStep - 1 } := by
  unfold AtTest at h
  rcases Bool.eq_false_or_eq_true t.bFirstStep with hfirst | hfirst
  · rw [if_pos hfirst] at h
    obtain ⟨hnb, hidle⟩ := h
    refine ⟨runs_first hnb hfirst hstep, ?_⟩
    dsimp only
    rw [if_pos hfirst]
    exact hidle
  · rw [if_neg (ne_true_of_eq_false hfirst)] at h
    obtain ⟨hbound, hle, hloaded⟩ := h
    rw [if_neg hstep] at hloaded
    refine ⟨runs_next hbound hle hfirst hstep, ?_⟩
    dsimp only
    have hbefore : before { t with nbStep := t.nbStep - 1 } - 1 = t.before := by
      have hpos := toNat_ne_zero hstep
      unfold before
      dsimp only
      rw [toNat_pred hstep]
      omega
    rw [if_neg (ne_true_of_eq_false hfirst), fillBuffer_pred hstep, Bool.not_not, hbefore]
    exact hloaded

/-- The step is over. -/
theorem Ended.next {b : DoubleBuffer} {t : Transfer} (h : t.Ended b) :
    AtTest b { t with bFirstStep := false } :=
  h

/-- A step of a WRITE(10) with a USB half, and the last step of a READ(10), have no other half before. -/
theorem Begun.half {b : DoubleBuffer} {t : Transfer} (h : t.Begun b) (htransfers : t.transfers = true)
    (hskip : if t.read then t.nbStep = 0 else t.bFirstStep = true) : t.Half b := by
  obtain ⟨hruns, hbuffer⟩ := h
  refine ⟨hruns, ?_⟩
  unfold transfers at htransfers
  cases hread : t.read with
  | true =>
      simp only [hread, if_true, Bool.not_eq_true'] at htransfers hskip ⊢
      rw [htransfers, if_neg Bool.false_ne_true] at hbuffer
      rw [if_pos hskip]
      exact ⟨htransfers, hbuffer⟩
  | false =>
      simp only [hread, Bool.false_eq_true, if_false, bne_iff_ne] at htransfers hskip ⊢
      rw [hskip, if_pos rfl] at hbuffer
      have hbefore : t.before = 0 := by
        unfold before
        rw [hruns.first.mp hskip, Nat.sub_self]
      rw [hbefore]
      exact ⟨htransfers, hbuffer⟩

/-- A transfer of no sectors has one step without halves. -/
theorem Begun.ended {b : DoubleBuffer} {t : Transfer} (h : t.Begun b)
    (htransfers : t.transfers = false)
    (hskip : if t.read then t.nbStep = 0 else t.bFirstStep = true) : t.Ended b := by
  obtain ⟨hruns, hbuffer⟩ := h
  have hboth : t.bFirstStep = true ∧ t.nbStep = 0 := by
    unfold transfers at htransfers
    cases hread : t.read with
    | true =>
        simp only [hread, if_true, Bool.not_eq_false'] at htransfers hskip
        exact ⟨htransfers, hskip⟩
    | false =>
        simp only [hread, Bool.false_eq_true, if_false, bne_eq_false_iff_eq] at htransfers hskip
        exact ⟨hskip, htransfers⟩
  have hzero : t.nbSector.toNat = 0 := by
    rw [← hruns.first.mp hboth.1, hboth.2]
    rfl
  rw [hboth.1, if_pos rfl] at hbuffer
  refine ⟨hruns.bound, hruns.step, ?_⟩
  rw [if_pos hboth.2, hzero]
  exact hbuffer

/-- The card half of a READ(10) fills the buffer of the step. -/
theorem Begun.fill {b : DoubleBuffer} {t : Transfer} (h : t.Begun b) (hread : t.read = true)
    (hstep : t.nbStep ≠ 0) :
    if t.transfers then t.Half (b.fill t.cardBuffer) else t.Ended (b.fill t.cardBuffer) := by
  obtain ⟨hruns, hbuffer⟩ := h
  have hfill : t.fillBuffer = t.cardBuffer := if_pos hread
  have htransfers : t.transfers = !t.bFirstStep := if_pos hread
  rw [htransfers]
  cases hfirst : t.bFirstStep with
  | true =>
      rw [hfirst, if_pos rfl] at hbuffer
      have hbefore : t.before = 0 := by
        unfold before
        rw [hruns.first.mp hfirst, Nat.sub_self]
      refine ⟨hruns.bound, hruns.step, ?_⟩
      rw [if_neg hstep, hfill, hbefore]
      exact hbuffer.fill t.cardBuffer
  | false =>
      rw [hfirst, if_neg Bool.false_ne_true] at hbuffer
      refine ⟨hruns, ?_⟩
      rw [hread, if_pos rfl, if_neg hstep]
      have hfull := hbuffer.fill
      rw [Bool.not_not, hfill] at hfull
      rw [hfill]
      exact ⟨hfirst, hfull⟩

/-- A step that is not the first has sectors before it. -/
theorem Runs.before_pos {t : Transfer} (h : t.Runs) (hfirst : t.bFirstStep = false) :
    t.before - 1 + 1 = t.before := by
  have hlt := h.lt_of_not_first hfirst
  unfold before
  omega

/-- The card half of a WRITE(10) empties the other buffer. -/
theorem Begun.drain {b : DoubleBuffer} {t : Transfer} (h : t.Begun b) (hread : t.read = false)
    (hfirst : t.bFirstStep = false) :
    if t.transfers then t.Half (b.drain t.cardBuffer) else t.Ended (b.drain t.cardBuffer) := by
  obtain ⟨hruns, hbuffer⟩ := h
  have hfill : (!t.fillBuffer) = t.cardBuffer := by
    unfold fillBuffer usbBuffer
    rw [hread, if_neg Bool.false_ne_true, Bool.not_not]
  have htransfers : t.transfers = (t.nbStep != 0) := by
    unfold transfers
    rw [hread, if_neg Bool.false_ne_true]
  rw [hfirst, if_neg Bool.false_ne_true, hfill] at hbuffer
  have hidle := hbuffer.drain
  have hbefore := hruns.before_pos hfirst
  rw [hbefore] at hidle
  rw [htransfers]
  by_cases hstep : t.nbStep = 0
  · have hall : t.before = t.nbSector.toNat := by
      unfold before
      rw [hstep]
      exact Nat.sub_zero t.nbSector.toNat
    rw [hall] at hidle
    rw [hstep]
    refine ⟨hruns.bound, hruns.step, ?_⟩
    rw [if_pos hstep]
    exact hidle
  · rw [bne_iff_ne.mpr hstep, if_pos rfl]
    refine ⟨hruns, ?_⟩
    rw [hread, if_neg Bool.false_ne_true]
    exact ⟨hstep, hidle⟩

/-- The USB half of a step. -/
theorem Half.usb {b : DoubleBuffer} {t : Transfer} (h : t.Half b) :
    t.Ended (if t.read then b.drain t.usbBuffer else b.fill t.usbBuffer) := by
  obtain ⟨hruns, hbuffer⟩ := h
  refine ⟨hruns.bound, hruns.step, ?_⟩
  cases hread : t.read with
  | true =>
      rw [hread, if_pos rfl] at hbuffer
      obtain ⟨hfirst, hbuffer⟩ := hbuffer
      have hbefore := hruns.before_pos hfirst
      have husb : (!t.fillBuffer) = t.usbBuffer := by
        unfold fillBuffer usbBuffer
        rw [hread, if_pos rfl]
      rw [if_pos rfl]
      split_ifs at hbuffer ⊢ with hstep
      · have hidle := hbuffer.drain
        have hall : t.before = t.nbSector.toNat := by
          unfold before
          rw [hstep]
          exact Nat.sub_zero t.nbSector.toNat
        rw [hbefore, hall, husb] at hidle
        exact hidle
      · have hloaded := hbuffer.drain
        rw [hbefore, Bool.not_not, husb] at hloaded
        exact hloaded
  | false =>
      rw [hread, if_neg Bool.false_ne_true] at hbuffer
      obtain ⟨hstep, hidle⟩ := hbuffer
      have hfill : t.fillBuffer = t.usbBuffer := by
        unfold fillBuffer
        rw [hread, if_neg Bool.false_ne_true]
      rw [if_neg Bool.false_ne_true, if_neg hstep, hfill]
      exact hidle.fill t.usbBuffer

/-- The hardware receives into a buffer that is not in use. -/
theorem Half.start {b : DoubleBuffer} {t : Transfer} (h : t.Half b) :
    t.Half (if t.read then b else b.spoil t.usbBuffer) := by
  rcases Bool.eq_false_or_eq_true t.read with hread | hread
  · rw [if_pos hread]
    exact h
  · rw [if_neg (ne_true_of_eq_false hread)]
    obtain ⟨hruns, hbuffer⟩ := h
    refine ⟨hruns, ?_⟩
    rw [if_neg (ne_true_of_eq_false hread)] at hbuffer ⊢
    exact ⟨hbuffer.1, hbuffer.2.spoil t.usbBuffer⟩

/-- A transfer that has ended well. -/
theorem AtTest.passed {b : DoubleBuffer} {t : Transfer} (h : t.AtTest b) (hstep : t.nbStep = 0) :
    b.delivered.length = movedSectors t.nbSector.toNat := by
  unfold AtTest at h
  rcases Bool.eq_false_or_eq_true t.bFirstStep with hfirst | hfirst
  · rw [if_pos hfirst] at h
    obtain ⟨hnb, hidle⟩ := h
    have hlong := nbSector_of_wrapped hnb hstep
    rw [movedSectors, if_pos hlong, hidle.delivered, DoubleBuffer.length_firstItems]
  · rw [if_neg (ne_true_of_eq_false hfirst)] at h
    obtain ⟨hbound, -, hbuffer⟩ := h
    rw [if_pos hstep] at hbuffer
    have hshort : t.nbSector.toNat ≠ 65535 := by omega
    rw [movedSectors, if_neg hshort, hbuffer.delivered, DoubleBuffer.length_firstItems]

end Transfer

/-! ## Positions of one step -/

section Positions

variable {w : SectorWatch} {t : Transfer}

theorem pipelined_nextStep (hnb : w.nbSector = t.nbSector.toNat) (h : t.Ended w.buffers) :
    t.nextStep.Pipelined w :=
  ⟨hnb, h.next⟩

theorem pipelined_afterBlock (hnb : w.nbSector = t.nbSector.toNat) (h : t.Ended w.buffers) :
    t.afterBlock.Pipelined w := by
  unfold Transfer.afterBlock
  dsimp only
  split_ifs
  · exact ⟨hnb, h⟩
  · exact ⟨hnb, h⟩
  · exact pipelined_nextStep hnb h
  · exact pipelined_nextStep hnb h

theorem pipelined_afterStart (hnb : w.nbSector = t.nbSector.toNat)
    (h : if t.transfers then t.Half w.buffers else t.Ended w.buffers) :
    t.afterStart.Pipelined w := by
  change MemoryPc.Pipelined w (if t.transfers then .ackTest t else t.afterBlock)
  split_ifs at h ⊢
  · exact ⟨hnb, h⟩
  · exact pipelined_afterBlock hnb h

theorem pipelined_beginStep (hnb : w.nbSector = t.nbSector.toNat) (h : t.Begun w.buffers) :
    t.beginStep.Pipelined w := by
  have hsplit : (if t.read then t.nbStep = 0 else t.bFirstStep = true) →
      t.afterStart.Pipelined w := by
    intro hskip
    refine pipelined_afterStart hnb ?_
    split_ifs with htransfers
    · exact h.half htransfers hskip
    · exact h.ended (Bool.eq_false_of_not_eq_true htransfers) hskip
  unfold Transfer.beginStep
  dsimp only
  rcases Bool.eq_false_or_eq_true t.read with hread | hread
  · rw [if_pos hread] at hsplit
    simp only [hread, if_true, bne_iff_ne, ne_eq]
    split_ifs with hstep
    · exact hsplit hstep
    · refine ⟨hnb, h, ?_⟩
      rw [if_pos hread]
      exact hstep
  · rw [if_neg (ne_true_of_eq_false hread)] at hsplit
    simp only [hread, Bool.false_eq_true, if_false, Bool.not_eq_true']
    split_ifs with hfirst
    · refine ⟨hnb, h, ?_⟩
      rw [if_neg (ne_true_of_eq_false hread)]
      exact hfirst
    · exact hsplit (Bool.eq_true_of_not_eq_false hfirst)

end Positions

/-- The card half of a step succeeded. -/
theorem pipelined_startBlocks {w : SectorWatch} {t : Transfer}
    (h : MemoryPc.Pipelined w (.startBlocks t)) : t.afterStart.Pipelined (w.cardHalf .ok t) := by
  obtain ⟨hnb, hbegun, hstarts⟩ := h
  unfold SectorWatch.cardHalf
  rcases Bool.eq_false_or_eq_true t.read with hread | hread
  · rw [if_pos hread] at hstarts ⊢
    exact pipelined_afterStart hnb (hbegun.fill hread hstarts)
  · rw [if_neg (ne_true_of_eq_false hread)] at hstarts ⊢
    exact pipelined_afterStart hnb (hbegun.drain hread hstarts)

/-- **The buffers over one step inside a transfer.** -/
theorem pipelined_memory {answer : SdMmcErr} {m : Msc} {w : SectorWatch} {p : MemoryPc}
    (h : p.Pipelined w) : (p.next answer m).Pipelined (w.memory answer p) := by
  have hsplit {c : Prop} [Decidable c] {w : SectorWatch} {p p' : MemoryPc} (h : p.Pipelined w)
      (h' : p'.Pipelined w) : Pc.Pipelined w (if c then .memory p else .memory p') := by
    split_ifs
    · exact h
    · exact h'
  cases p with
  | select read lun addr nbSector => exact hsplit ⟨rfl, DoubleBuffer.idle_empty⟩ trivial
  | initBlocks t =>
      refine hsplit ⟨h.1, rfl, h.2⟩ ?_
      cases answer <;> trivial
  | loop t =>
      unfold MemoryPc.next
      dsimp only
      split_ifs with hstep
      · change w.buffers.delivered.length = movedSectors w.nbSector
        rw [h.1]
        exact h.2.passed hstep
      · exact pipelined_beginStep h.1 (h.2.begin hstep)
  | startBlocks t =>
      unfold MemoryPc.next
      dsimp only
      split_ifs with hok
      · rw [hok]
        exact pipelined_startBlocks h
      · trivial
  | ackTest t => exact hsplit h trivial
  | ackClear t => exact h
  | runDenied t => trivial
  | ackWait t => exact hsplit h h
  | abortTest t => exact hsplit trivial h
  | residue t =>
      obtain ⟨hnb, hhalf⟩ := h
      have hended := hhalf.usb
      change MemoryPc.Pipelined (w.usbHalf t) (.abortResult t)
      unfold SectorWatch.usbHalf
      rcases Bool.eq_false_or_eq_true t.read with hread | hread
      · rw [if_pos hread] at hended ⊢
        exact ⟨hnb, hended⟩
      · rw [if_neg (ne_true_of_eq_false hread)] at hended ⊢
        exact ⟨hnb, hended⟩
  | abortResult t => exact hsplit trivial (pipelined_afterBlock h.1 h.2)
  | blockFailed t => trivial
  | waitEnd t => exact hsplit (pipelined_nextStep h.1 h.2) trivial
  | exit status => trivial

/-! ## Every step of the firmware -/

/-- The buffers while the main loop is outside of a transfer. -/
theorem pipelined_outside {w : SectorWatch} {pc : Pc} (h : pc.Outside) : pc.Pipelined w := by
  cases pc with
  | memory p => exact h.elim
  | run stage r =>
      cases r with
      | block t => exact h.elim
      | csw => trivial
  | _ => trivial

/-- While `udd_ep_run` starts a block nothing but the start touches a buffer. -/
theorem pipelined_runBlock {stage : RunPc} {w : SectorWatch} {t : Transfer} {s : Sys}
    (answer : SdMmcErr) (hpc : s.pc = .run stage (.block t)) (h : s.pc.Pipelined w) :
    w.nbSector = t.nbSector.toNat ∧ t.Half (watchSectors w s (.main answer)).buffers ∧
      (watchSectors w s (.main answer)).nbSector = w.nbSector := by
  rw [hpc] at h
  obtain ⟨hnb, hhalf⟩ := h
  cases stage with
  | start =>
      have hstart := hhalf.start
      simp only [watchSectors, hpc]
      unfold SectorWatch.usbStart
      split_ifs at hstart ⊢
      · exact ⟨hnb, hstart, rfl⟩
      · exact ⟨hnb, hstart, rfl⟩
  | _ =>
      simp only [watchSectors, hpc]
      exact ⟨hnb, hhalf, trivial⟩

/-- **A step of the firmware keeps the double buffer, whatever the card and the host do.** -/
theorem watched_step (desc : LunDesc) {w : SectorWatch} {s : Sys} (l : Label) (h : s.pc.Pipelined w) :
    (step desc s l).pc.Pipelined (watchSectors w s l) := by
  refine transfer_step desc s l (fun pc => pipelined_outside) (fun _ _ _ _ => trivial) ?_ ?_ ?_
  · intro hother
    cases l with
    | main answer => exact (hother answer rfl).elim
    | raise irq => exact h
    | serve => exact h
  · rintro answer p rfl hpc
    rw [hpc] at h
    simp only [watchSectors, hpc]
    exact pipelined_memory h
  · rintro answer stage t rfl hpc
    obtain ⟨hnb, hhalf, hsame⟩ := pipelined_runBlock answer hpc h
    rw [← hsame] at hnb
    exact ⟨⟨hnb, hhalf⟩, ⟨hnb, hhalf⟩, fun _ => ⟨hnb, hhalf⟩⟩

/-! ## What is passed on -/

theorem Transfer.Ended.inOrder {b : DoubleBuffer} {t : Transfer} (h : t.Ended b) : b.InOrder := by
  obtain ⟨-, -, hbuffer⟩ := h
  split_ifs at hbuffer
  · exact DoubleBuffer.inOrder_of_delivered hbuffer.delivered
  · exact DoubleBuffer.inOrder_of_delivered hbuffer.delivered

theorem Transfer.Half.inOrder {b : DoubleBuffer} {t : Transfer} (h : t.Half b) : b.InOrder := by
  obtain ⟨-, hbuffer⟩ := h
  split_ifs at hbuffer
  · exact DoubleBuffer.inOrder_of_delivered hbuffer.2.delivered
  · exact DoubleBuffer.inOrder_of_delivered hbuffer.2.delivered
  · exact DoubleBuffer.inOrder_of_delivered hbuffer.2.delivered

theorem inOrder_cardHalf {answer : SdMmcErr} {w : SectorWatch} {t : Transfer}
    (h : MemoryPc.Pipelined w (.startBlocks t)) (horder : w.buffers.InOrder) :
    (w.cardHalf answer t).buffers.InOrder := by
  obtain ⟨-, hbegun, hstarts⟩ := h
  unfold SectorWatch.cardHalf
  rcases Bool.eq_false_or_eq_true t.read with hread | hread
  · -- Nothing is passed on by the card half of a READ(10).
    rw [if_pos hread]
    split_ifs
    · exact horder
    · exact horder
  · rw [if_neg (ne_true_of_eq_false hread)] at hstarts ⊢
    split_ifs
    · have hdrain := hbegun.drain hread hstarts
      split_ifs at hdrain
      · exact hdrain.inOrder
      · exact hdrain.inOrder
    · exact horder

theorem inOrder_memory {answer : SdMmcErr} {w : SectorWatch} {p : MemoryPc} (h : p.Pipelined w)
    (horder : w.buffers.InOrder) : (w.memory answer p).buffers.InOrder := by
  cases p with
  | select read lun addr nbSector => exact DoubleBuffer.inOrder_of_delivered DoubleBuffer.idle_empty.delivered
  | startBlocks t => exact inOrder_cardHalf h horder
  | residue t =>
      have hended := h.2.usb
      change (w.usbHalf t).buffers.InOrder
      unfold SectorWatch.usbHalf
      split_ifs at hended ⊢
      · exact hended.inOrder
      · exact hended.inOrder
  | _ => exact horder

/-- **Every step of the firmware keeps the order.** -/
theorem inOrder_step {w : SectorWatch} {s : Sys} (l : Label) (h : s.pc.Pipelined w)
    (horder : w.buffers.InOrder) : (watchSectors w s l).buffers.InOrder := by
  unfold watchSectors
  split
  · rename_i hpc
    rw [hpc] at h
    exact inOrder_memory h horder
  · unfold SectorWatch.usbStart
    split_ifs
    · exact horder
    · exact horder.spoil _
  · exact horder

/-- The firmware and the books of the sectors, after a run from the reset. -/
def sectorRun (vbusHigh : Bool) (ls : List Label) : Sys × SectorWatch :=
  run (observed (step lunDesc) watchSectors) (boot vbusHigh, .empty) ls

/-- The buffers after any run. -/
theorem pipelined_run (vbusHigh : Bool) (ls : List Label) :
    (sectorRun vbusHigh ls).1.pc.Pipelined (sectorRun vbusHigh ls).2 ∧
      (sectorRun vbusHigh ls).2.buffers.InOrder := by
  refine @invariant_run_all _ _ (observed (step lunDesc) watchSectors)
    (fun p => p.1.pc.Pipelined p.2 ∧ p.2.buffers.InOrder) (fun p l h => ?_) (boot vbusHigh, .empty) ?_ ls
  · exact ⟨watched_step lunDesc l h.1, inOrder_step l h.1 h.2⟩
  · exact ⟨trivial, DoubleBuffer.inOrder_of_delivered DoubleBuffer.idle_empty.delivered⟩

/-- **In every run the loops count the sectors of a command in order.**  None is left out or counted twice,
and none is passed on from a buffer that was not reported filled with it, or into which another reception
was started since. -/
theorem sectors_inOrder (vbusHigh : Bool) (ls : List Label) :
    (sectorRun vbusHigh ls).2.buffers.InOrder :=
  (pipelined_run vbusHigh ls).2

/-- **A transfer that ends well has counted the sectors of its command, all of them, unless it has 65535.** -/
theorem sectors_complete (vbusHigh : Bool) (ls : List Label)
    (h : (sectorRun vbusHigh ls).1.pc = .memory (.exit .good)) :
    (sectorRun vbusHigh ls).2.buffers.delivered =
      DoubleBuffer.firstItems (movedSectors (sectorRun vbusHigh ls).2.nbSector) := by
  obtain ⟨hpipelined, horder⟩ := pipelined_run vbusHigh ls
  rw [h] at hpipelined
  have hlength : (sectorRun vbusHigh ls).2.buffers.delivered.length =
      movedSectors (sectorRun vbusHigh ls).2.nbSector := hpipelined
  rw [← hlength]
  exact horder

/-- A READ(10) of two sectors, which the host takes one after the other. -/
theorem sectors_complete_readTwo :
    (sectorRun true (serveAll (enumeration ++ [.transferOut 31 readBlocks presentCard]) ++
      List.replicate 21 (.main .ok) ++ serveAll [.transferIn presentCard] ++
      List.replicate 14 (.main .ok) ++ serveAll [.transferIn presentCard] ++
      List.replicate 5 (.main .ok))).2.buffers.delivered = [some 0, some 1] :=
  (sectors_complete true _ (by decide)).trans (by decide)

end Firmware
end SoundingSoil
