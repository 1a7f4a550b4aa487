import SoundingSoil.Card.Wired
import SoundingSoil.Firmware.Sectors

/-!
# Sectors between the card and the USB host

`sd_mmc_usb_read_10` and `sd_mmc_usb_write_10` with the functions of `sd_mmc.c` they call, as sessions with the board:
the driver of the card on one side, `udi_msc_trans_block` on the other.

* `sdMmcInitReadBlocks`, `sdMmcStartReadBlocks`, `sdMmcWaitEndOfReadBlocks`, and the same for writing — `sd_mmc.c`.
* `OutData.onto` — what a transfer from the host leaves in a buffer, also when it was a short one.
* `readLoop`, `writeLoop` — the loops of `sd_mmc_mem.c` with their two buffers.
-/

namespace SoundingSoil
namespace Card

open Support Support.Session Firmware

/-- `sector_buf_0` or `sector_buf_1`. -/
abbrev Block := Vector (BitVec 8) 512

/-- The slot, `sd_mmc_nb_block_remaining` and `sd_mmc_nb_block_to_tranfer`. -/
structure Memory where
  slot : Slot
  nbBlockRemaining : BitVec 16
  nbBlockToTranfer : BitVec 16

/-! ## `sd_mmc.c` -/

def deselectThen (err : SdMmcErr) (m : Memory) : Driver (SdMmcErr × Memory) :=
  (sdMmcDeselectSlot m.slot).bind fun _ => .done (err, m)

/-- The command that starts a transfer, and the end of `sd_mmc_init_read_blocks` and `sd_mmc_init_write_blocks`. -/
def startTransfer (cmd : SdmmcCmd) (start : BitVec 32) (nbBlock : BitVec 16) (m : Memory) :
    Driver (SdMmcErr × Memory) :=
  (driverAdtcStart cmd (blockAddress m.slot.card.cardType start) 512 nbBlock.toNat).bind fun ok =>
    if !ok then deselectThen .comm m
    else .done (.ok, { m with nbBlockRemaining := nbBlock, nbBlockToTranfer := nbBlock })

def sdMmcInitReadBlocks (start : BitVec 32) (nbBlock : BitVec 16) (m : Memory) : Driver (SdMmcErr × Memory) :=
  (sdMmcSelectSlot 0 m.slot).bind fun r =>
    let m := { m with slot := r.2 }
    if r.1 ≠ .ok then .done (r.1, m)
    else
      sdMmcCmd13.bind fun ok =>
        if !ok then deselectThen .comm m
        else
          startTransfer (if nbBlock > 1 then .cmd18ReadMultipleBlock else .cmd17ReadSingleBlock) start nbBlock m

/-- `sd_mmc_start_read_blocks` for one block. -/
def sdMmcStartReadBlocks (m : Memory) : Driver (Option Block × Memory) :=
  (driverReadBlock 512).bind fun block =>
    match block with
    | none => .done (none, { m with nbBlockRemaining := 0 })
    | some block => .done (some block, { m with nbBlockRemaining := m.nbBlockRemaining - 1 })

/-- The end of `sd_mmc_wait_end_of_read_blocks`: CMD12 is tried twice, and its errors are ignored. -/
def stopReading (m : Memory) : Driver (SdMmcErr × Memory) :=
  if m.nbBlockToTranfer = 1 then deselectThen .ok m
  else
    (driverSendCmdOk .cmd12StopTransmission 0).bind fun ok =>
      if !ok then
        (driverSendCmdOk .cmd12StopTransmission 0).bind fun _ => deselectThen .ok m
      else deselectThen .ok m

/-- `sd_mmc_wait_end_of_read_blocks`. -/
def sdMmcWaitEndOfReadBlocks (abort : Bool) (m : Memory) : Driver (SdMmcErr × Memory) :=
  if abort then stopReading { m with nbBlockRemaining := 0 }
  else if m.nbBlockRemaining ≠ 0 then .done (.ok, m)
  else stopReading m

/-- `sd_mmc_init_write_blocks`: the board has no write-protect pin. -/
def sdMmcInitWriteBlocks (start : BitVec 32) (nbBlock : BitVec 16) (m : Memory) : Driver (SdMmcErr × Memory) :=
  (sdMmcSelectSlot 0 m.slot).bind fun r =>
    let m := { m with slot := r.2 }
    if r.1 ≠ .ok then .done (r.1, m)
    else if sdMmcWrProtect then deselectThen .wp m
    else startTransfer (if nbBlock > 1 then .cmd25WriteMultipleBlock else .cmd24WriteBlock) start nbBlock m

/-- The memory a block is in. -/
def Block.at (block : Block) (i : Nat) : BitVec 8 :=
  block.toList.getD i 0

/-- `sd_mmc_start_write_blocks` for one block. -/
def sdMmcStartWriteBlocks (block : Block) (m : Memory) : Driver (Bool × Memory) :=
  (Session.request (Request.startWriteBlocks block.at)).bind fun ok : Bool =>
    if !ok then .done (false, { m with nbBlockRemaining := 0 })
    else .done (true, { m with nbBlockRemaining := m.nbBlockRemaining - 1 })

/-- `sd_mmc_wait_end_of_write_blocks`.  In SPI mode a write is ended by the driver, not by CMD12. -/
def sdMmcWaitEndOfWriteBlocks (abort : Bool) (m : Memory) : Driver (SdMmcErr × Memory) :=
  (Session.request Request.waitEndOfWriteBlocks).bind fun ok : Bool =>
    if !ok then .done (.comm, m)
    else if abort then deselectThen .ok { m with nbBlockRemaining := 0 }
    else if m.nbBlockRemaining ≠ 0 then .done (.ok, m)
    else deselectThen .ok m

/-! ## `sd_mmc_mem.c` -/

/-- The two sector buffers. -/
abbrev SectorBufs := Bool → Block

/-- The buffer of the card in a step: `sector_buf_1` in an odd one. -/
def cardBuf (nbStep : Nat) : Bool := nbStep % 2 != 0

/-- The buffer of the USB side in a step. -/
def usbBuf (nbStep : Nat) : Bool := nbStep % 2 == 0

def usbSend (block : Block) : Driver Bool :=
  Session.request (Request.usbSend block)

def usbReceive : Driver (Option OutData) :=
  Session.request Request.usbReceive

/-- The buffer after a transfer from the host: `udi_msc_trans_ack` does not look at the number of bytes, and beyond
them the buffer keeps what it held. -/
def OutData.onto (data : OutData) (old : Block) : Block :=
  Vector.ofFn fun i => data.bytes.getD i old[i]

/-- The loop of `sd_mmc_usb_read_10`, from a test of `nb_step` on. -/
def readLoop : Nat → Bool → SectorBufs → Memory → Driver (CtrlStatus × Memory)
  | 0, _, _, m => .done (.good, m)
  | nbStep + 1, bFirstStep, bufs, m =>
      (if nbStep ≠ 0 then
        (sdMmcStartReadBlocks m).map fun r => (r.1.map (Function.update bufs (cardBuf nbStep)), r.2)
      else .done (some bufs, m)).bind fun read =>
        match read.1 with
        -- A card that fails is not waited for.
        | none => .done (.fail, read.2)
        | some bufs =>
            (if !bFirstStep then usbSend (bufs (usbBuf nbStep)) else .done true).bind fun ok =>
              if !ok then
                (if !bFirstStep then sdMmcWaitEndOfReadBlocks true read.2 else .done (.ok, read.2)).bind fun ended =>
                  .done (.fail, ended.2)
              else
                (if nbStep ≠ 0 then sdMmcWaitEndOfReadBlocks false read.2 else .done (.ok, read.2)).bind fun ended =>
                  if ended.1 ≠ .ok then .done (.fail, ended.2) else readLoop nbStep false bufs ended.2

/-- The loop of `sd_mmc_usb_write_10`, from a test of `nb_step` on. -/
def writeLoop : Nat → Bool → SectorBufs → Memory → Driver (CtrlStatus × Memory)
  | 0, _, _, m => .done (.good, m)
  | nbStep + 1, bFirstStep, bufs, m =>
      (if !bFirstStep then sdMmcStartWriteBlocks (bufs (cardBuf nbStep)) m else .done (true, m)).bind fun written =>
        if !written.1 then .done (.fail, written.2)
        else
          (if nbStep ≠ 0 then
            usbReceive.map fun data =>
              data.map fun data => Function.update bufs (usbBuf nbStep) (data.onto (bufs (usbBuf nbStep)))
          else .done (some bufs)).bind fun received =>
              match received with
              -- In the first step the card has nothing to end.
              | none =>
                  (if !bFirstStep then sdMmcWaitEndOfWriteBlocks true written.2
                    else .done (.ok, written.2)).bind fun ended => .done (.fail, ended.2)
              | some bufs =>
                  (if !bFirstStep then sdMmcWaitEndOfWriteBlocks false written.2
                    else .done (.ok, written.2)).bind fun ended =>
                      if ended.1 ≠ .ok then .done (.fail, ended.2) else writeLoop nbStep false bufs ended.2

/-- `nb_step` at the first test of the loops: sixteen bits. -/
def firstStep (nbSector : BitVec 16) : Nat :=
  (nbSector + 1).toNat

/-- `sd_mmc_usb_read_10`. -/
def sdMmcUsbRead10 (addr : BitVec 32) (nbSector : BitVec 16) (bufs : SectorBufs) (m : Memory) :
    Driver (CtrlStatus × Memory) :=
  (sdMmcInitReadBlocks addr nbSector m).bind fun r =>
    if r.1 = .ok then readLoop (firstStep nbSector) true bufs r.2 else .done (initStatus r.1, r.2)

/-- `sd_mmc_usb_write_10`. -/
def sdMmcUsbWrite10 (addr : BitVec 32) (nbSector : BitVec 16) (bufs : SectorBufs) (m : Memory) :
    Driver (CtrlStatus × Memory) :=
  (sdMmcInitWriteBlocks addr nbSector m).bind fun r =>
    if r.1 = .ok then writeLoop (firstStep nbSector) true bufs r.2 else .done (initStatus r.1, r.2)

end Card
end SoundingSoil
