import SoundingSoil.Support.Conversation
import SoundingSoil.Card.Clock
import SoundingSoil.Card.Command
import SoundingSoil.Card.Install

/-!
# The SPI driver of the card

`sd_mmc_spi.c` byte by byte.  The interface is a master: each byte that is sent brings one back, so a read sends the
dummy `0xFF` and a write throws away what it gets.

* `Hardware` — a byte each way, the clock divider and the chip select of the interface.
* `SpiState` — the variables of the module.
* `driver` — the requests of `sd_mmc.c` as sessions with the hardware.
-/

namespace SoundingSoil
namespace Card

open Support

/-! ## Hardware -/

/-- What the driver does with the hardware.  What is no business of `sd_mmc_spi.c` is left to the board. -/
inductive Hardware where
  | exchange (mosi : BitVec 8)
  | setBaud (divider : BitVec 8)
  | selectSlave (active : Bool)
  | board (q : Request)

def Hardware.Reply : Hardware → Type
  | .exchange _ => BitVec 8
  | .setBaud _ => Unit
  | .selectSlave _ => Unit
  | .board q => Card.Reply q

abbrev Bus := Session Hardware Hardware.Reply

def exchange (mosi : BitVec 8) : Bus (BitVec 8) :=
  Session.request (Hardware.exchange mosi)

/-- `spi_write_buffer_wait`. -/
def spiWriteBufferWait : List (BitVec 8) → Bus Unit
  | [] => .done ()
  | byte :: bytes => (exchange byte).bind fun _ => spiWriteBufferWait bytes

/-- The loop of `spi_read_buffer_wait`, with the bytes it has put to `rx_data`, the last one first. -/
def spiReadLoop : Nat → List (BitVec 8) → Bus (List (BitVec 8))
  | 0, rxData => .done rxData.reverse
  | length + 1, rxData => (exchange 0xFF).bind fun byte => spiReadLoop length (byte :: rxData)

/-- `spi_read_buffer_wait` with the dummy of the driver. -/
def spiReadBufferWait (length : Nat) : Bus (List (BitVec 8)) :=
  spiReadLoop length []

/-! ## Definitions of commands -/

/-- `SDMMC_RESP_PRESENT`. -/
def sdmmcRespPresent : BitVec 32 := 1#32 <<< 8

/-- `SDMMC_RESP_8`. -/
def sdmmcResp8 : BitVec 32 := 1#32 <<< 9

/-- `SDMMC_RESP_32`. -/
def sdmmcResp32 : BitVec 32 := 1#32 <<< 10

/-- `SDMMC_RESP_136`. -/
def sdmmcResp136 : BitVec 32 := 1#32 <<< 11

/-- `SDMMC_RESP_CRC`. -/
def sdmmcRespCrc : BitVec 32 := 1#32 <<< 12

/-- `SDMMC_RESP_BUSY`. -/
def sdmmcRespBusy : BitVec 32 := 1#32 <<< 13

/-- `SDMMC_CMD_OPENDRAIN`. -/
def sdmmcCmdOpendrain : BitVec 32 := 1#32 <<< 14

/-- `SDMMC_CMD_WRITE`. -/
def sdmmcCmdWrite : BitVec 32 := 1#32 <<< 15

/-- `SDMMC_CMD_SINGLE_BLOCK`. -/
def sdmmcCmdSingleBlock : BitVec 32 := 1#32 <<< 19

/-- `SDMMC_CMD_MULTI_BLOCK`. -/
def sdmmcCmdMultiBlock : BitVec 32 := 1#32 <<< 20

def sdmmcCmdR1 : BitVec 32 := sdmmcRespPresent ||| sdmmcRespCrc

def sdmmcCmdR1b : BitVec 32 := sdmmcRespPresent ||| sdmmcRespCrc ||| sdmmcRespBusy

def sdmmcCmdR2 : BitVec 32 := sdmmcRespPresent ||| sdmmcResp8 ||| sdmmcResp136 ||| sdmmcRespCrc

def sdmmcCmdR3 : BitVec 32 := sdmmcRespPresent ||| sdmmcResp32

def sdmmcCmdR7 : BitVec 32 := sdmmcRespPresent ||| sdmmcResp32 ||| sdmmcRespCrc

/-- The definition of a command: its index, and what belongs to it. -/
def SdmmcCmd.code : SdmmcCmd → BitVec 32
  | .spiCmd0GoIdleState => 0 ||| sdmmcCmdR1
  | .mmcSpiCmd1SendOpCond => 1 ||| sdmmcCmdR1
  | .sdCmd8SendIfCond => 8 ||| sdmmcCmdR7 ||| sdmmcCmdOpendrain
  | .mmcCmd8SendExtCsd => 8 ||| sdmmcCmdR1 ||| sdmmcCmdSingleBlock
  | .spiCmd9SendCsd => 9 ||| sdmmcCmdR1 ||| sdmmcCmdSingleBlock
  | .cmd12StopTransmission => 12 ||| sdmmcCmdR1b
  | .spiCmd13SendStatus => 13 ||| sdmmcCmdR2
  | .cmd16SetBlocklen => 16 ||| sdmmcCmdR1
  | .cmd17ReadSingleBlock => 17 ||| sdmmcCmdR1 ||| sdmmcCmdSingleBlock
  | .cmd18ReadMultipleBlock => 18 ||| sdmmcCmdR1 ||| sdmmcCmdMultiBlock
  | .cmd24WriteBlock => 24 ||| sdmmcCmdR1 ||| sdmmcCmdWrite ||| sdmmcCmdSingleBlock
  | .cmd25WriteMultipleBlock => 25 ||| sdmmcCmdR1 ||| sdmmcCmdWrite ||| sdmmcCmdMultiBlock
  | .sdSpiAcmd41SdSendOpCond => 41 ||| sdmmcCmdR1
  | .sdAcmd51SendScr => 51 ||| sdmmcCmdR1 ||| sdmmcCmdSingleBlock
  | .cmd55AppCmd => 55 ||| sdmmcCmdR1
  | .spiCmd58ReadOcr => 58 ||| sdmmcCmdR3
  | .spiCmd59CrcOnOff => 59 ||| sdmmcCmdR1

/-! ## The module -/

/-- `sd_mmc_spi_errno_t`. -/
inductive SpiErrno where
  | noErr
  | err
  | errRespTimeout
  | errRespBusyTimeout
  | errReadTimeout
  | errWriteTimeout
  | errRespCrc
  | errReadCrc
  | errWriteCrc
  | errIllegalCommand
  | errWrite
  | errOutOfRange
  deriving DecidableEq, Repr

/-- The variables of `sd_mmc_spi.c`. -/
structure SpiState where
  err : SpiErrno
  response32 : BitVec 32
  transfertPos : Nat
  blockSize : Nat
  nbBlock : Nat

def SpiState.setErr (s : SpiState) (errno : SpiErrno) : SpiState :=
  { s with err := errno }

/-- The loop of `sd_mmc_spi_wait_busy`.  The line is read once more when `nec_timeout` has run out, and not looked
at. -/
def busyLoop : Nat → Bus Bool
  | 0 => (exchange 0xFF).bind fun _ => .done false
  | necTimeout + 1 =>
      (exchange 0xFF).bind fun line => if line = 0xFF then .done true else busyLoop necTimeout

def sdMmcSpiWaitBusy : Bus Bool :=
  (spiReadBufferWait 2).bind fun _ => busyLoop 200000

/-- The loop of `sd_mmc_spi_start_read_block`. -/
def tokenLoop (s : SpiState) : Nat → Bus (Bool × SpiState)
  | 0 => .done (false, s.setErr .errReadTimeout)
  | i + 1 =>
      (exchange 0xFF).bind fun token =>
        -- An error token has a clear upper half.
        if token &&& 0xF0 = 0 then
          .done (false, s.setErr (if token &&& 0x07 ≠ 0 then .errReadCrc else .errOutOfRange))
        else if token ≠ 0xFE then tokenLoop s i
        else .done (true, s)

def sdMmcSpiStartReadBlock (s : SpiState) : Bus (Bool × SpiState) :=
  tokenLoop s 500000

/-- `sd_mmc_spi_stop_read_block`: the check bytes are not looked at. -/
def sdMmcSpiStopReadBlock : Bus Unit :=
  (spiReadBufferWait 2).bind fun _ => .done ()

/-- `SPI_TOKEN_SINGLE_WRITE`. -/
def spiTokenSingleWrite : BitVec 8 := 0xFE

/-- `SPI_TOKEN_MULTI_WRITE`. -/
def spiTokenMultiWrite : BitVec 8 := 0xFC

/-- `SPI_TOKEN_STOP_TRAN`. -/
def spiTokenStopTran : BitVec 8 := 0xFD

def sdMmcSpiStartWriteBlock (s : SpiState) : Bus Unit :=
  (spiWriteBufferWait [0xFF]).bind fun _ =>
    spiWriteBufferWait [if 1 = s.nbBlock then spiTokenSingleWrite else spiTokenMultiWrite]

/-- The check of the data response token. -/
def dataResponse (resp : BitVec 8) : Option SpiErrno :=
  if ¬(resp &&& 1#8 <<< 4 = 0 ∧ resp &&& 1#8 <<< 0 = 1) then some .err
  else if resp &&& 0x1E = 2#8 <<< 1 then none
  else if resp &&& 0x1E = 5#8 <<< 1 then some .errWriteCrc
  else some .errWrite

def sdMmcSpiStopWriteBlock (s : SpiState) : Bus (Bool × SpiState) :=
  (spiWriteBufferWait [0xFF, 0xFF]).bind fun _ =>
    (exchange 0xFF).bind fun resp =>
      match dataResponse resp with
      | none => .done (true, s)
      | some errno => .done (false, s.setErr errno)

def sdMmcSpiStopMultiwriteBlock (s : SpiState) : Bus (Bool × SpiState) :=
  if 1 = s.nbBlock then .done (true, s)
  -- More blocks are to be written.
  else if s.nbBlock > s.transfertPos / s.blockSize then .done (true, s)
  else
    (spiWriteBufferWait [0xFF]).bind fun _ =>
      (spiWriteBufferWait [spiTokenStopTran]).bind fun _ =>
        sdMmcSpiWaitBusy.bind fun ok =>
          if !ok then .done (false, s.setErr .errWriteTimeout) else .done (true, s)

/-! ## Commands -/

/-- The loop for the response R1. -/
def r1Loop : Nat → Bus (Option (BitVec 8))
  | 0 => .done none
  | ncrTimeout + 1 =>
      (exchange 0xFF).bind fun r1 => if r1 &&& 0x80 = 0 then .done (some r1) else r1Loop ncrTimeout

/-- The check of R1: what is wrong with the command. -/
def r1Error (r1 : BitVec 8) : Option SpiErrno :=
  if r1 &&& 1#8 <<< 3 ≠ 0 then some .errRespCrc
  else if r1 &&& 1#8 <<< 2 ≠ 0 then some .errIllegalCommand
  else if r1 &&& ~~~1#8 ≠ 0 then some .err
  else none

/-- `be32_to_cpu` of four bytes. -/
def be32 : List (BitVec 8) → BitVec 32
  | [b₁, b₂, b₃, b₄] => argOf b₁ b₂ b₃ b₄
  | _ => 0

/-- The response that follows R1. -/
def readResponse (cmd : BitVec 32) (s : SpiState) : Bus SpiState :=
  (if cmd &&& sdmmcResp8 ≠ 0 then
    (exchange 0xFF).bind fun byte => .done { s with response32 := byte.setWidth 32 }
  else .done s).bind fun s =>
    if cmd &&& sdmmcResp32 ≠ 0 then
      (spiReadBufferWait 4).bind fun bytes => .done { s with response32 := be32 bytes }
    else .done s

/-- `sd_mmc_spi_adtc_start` from the response on. -/
def adtcResponse (cmd : BitVec 32) (blockSize nbBlock : Nat) (r1 : BitVec 8) (s : SpiState) : Bus (Bool × SpiState) :=
  let s := { s with response32 := r1.setWidth 32 }
  match r1Error r1 with
  | some errno => .done (false, s.setErr errno)
  | none =>
      (if cmd &&& sdmmcRespBusy ≠ 0 then sdMmcSpiWaitBusy else .done true).bind fun ok =>
        if !ok then .done (false, s.setErr .errRespBusyTimeout)
        else
          (readResponse cmd s).bind fun s =>
            .done (true, { s with blockSize := blockSize, nbBlock := nbBlock, transfertPos := 0 })

def sdMmcSpiAdtcStart (cmd arg : BitVec 32) (blockSize nbBlock : Nat) (s : SpiState) : Bus (Bool × SpiState) :=
  let s := s.setErr .noErr
  (spiWriteBufferWait [0xFF]).bind fun _ =>
    (spiWriteBufferWait (cmdToken cmd arg)).bind fun _ =>
      -- The first byte is never a response.
      (exchange 0xFF).bind fun _ =>
        (r1Loop 7).bind fun r1 =>
          match r1 with
          | none => .done (false, s.setErr .errRespTimeout)
          | some r1 => adtcResponse cmd blockSize nbBlock r1 s

def sdMmcSpiSendCmd (cmd arg : BitVec 32) (s : SpiState) : Bus (Bool × SpiState) :=
  sdMmcSpiAdtcStart cmd arg 0 0 s

/-! ## Blocks -/

/-- The loop of `sd_mmc_spi_start_read_blocks`, with the bytes it has put to `dest`. -/
def sdMmcSpiReadBlocks : Nat → SpiState → Bus ((Bool × List (BitVec 8)) × SpiState)
  | 0, s => .done ((true, []), s)
  | nbBlock + 1, s =>
      (sdMmcSpiStartReadBlock s).bind fun (ok, s) =>
        if !ok then .done ((false, []), s)
        else
          (spiReadBufferWait s.blockSize).bind fun bytes =>
            sdMmcSpiStopReadBlock.bind fun _ =>
              (sdMmcSpiReadBlocks nbBlock { s with transfertPos := s.transfertPos + s.blockSize }).bind
                fun ((ok, rest), s) => .done ((ok, bytes ++ rest), s)

def sdMmcSpiStartReadBlocks (nbBlock : Nat) (s : SpiState) : Bus ((Bool × List (BitVec 8)) × SpiState) :=
  sdMmcSpiReadBlocks nbBlock (s.setErr .noErr)

/-- The bytes from an address on. -/
def bytesAt (src : Nat → BitVec 8) (n : Nat) : List (BitVec 8) :=
  (List.range n).map src

/-- The loop of `sd_mmc_spi_start_write_blocks`. -/
def sdMmcSpiWriteBlocks : Nat → (Nat → BitVec 8) → SpiState → Bus (Bool × SpiState)
  | 0, _, s => .done (true, s)
  | nbBlock + 1, src, s =>
      (sdMmcSpiStartWriteBlock s).bind fun _ =>
        (spiWriteBufferWait (bytesAt src s.blockSize)).bind fun _ =>
          (sdMmcSpiStopWriteBlock { s with transfertPos := s.transfertPos + s.blockSize }).bind fun (ok, s) =>
            if !ok then .done (false, s)
            -- The wait after the last block is left to `sd_mmc_spi_wait_end_of_write_blocks`.
            else if nbBlock = 0 then .done (true, s)
            else
              sdMmcSpiWaitBusy.bind fun ok =>
                if !ok then .done (false, s.setErr .errWriteTimeout)
                else sdMmcSpiWriteBlocks nbBlock (fun i => src (s.blockSize + i)) s

def sdMmcSpiStartWriteBlocks (nbBlock : Nat) (src : Nat → BitVec 8) (s : SpiState) : Bus (Bool × SpiState) :=
  sdMmcSpiWriteBlocks nbBlock src (s.setErr .noErr)

def sdMmcSpiWaitEndOfWriteBlocks (s : SpiState) : Bus (Bool × SpiState) :=
  sdMmcSpiWaitBusy.bind fun ok =>
    if !ok then .done (false, s.setErr .errWriteTimeout) else sdMmcSpiStopMultiwriteBlock s

/-- `sd_mmc_spi_read_word` up to the bytes of the word. -/
def sdMmcSpiReadFour (s : SpiState) : Bus (Option (BitVec 32) × SpiState) :=
  let s := s.setErr .noErr
  (if s.transfertPos % s.blockSize = 0 then sdMmcSpiStartReadBlock s else .done (true, s)).bind fun (ok, s) =>
    if !ok then .done (none, s)
    else (spiReadBufferWait 4).bind fun bytes => .done (some (be32 bytes.reverse), s)

/-- The rest of `sd_mmc_spi_read_word`. -/
def sdMmcSpiEndWord (s : SpiState) : Bus SpiState :=
  let s := { s with transfertPos := s.transfertPos + 4 }
  (if s.transfertPos % s.blockSize = 0 then sdMmcSpiStopReadBlock else .done ()).bind fun _ => .done s

/-! ## The requests of `sd_mmc.c` -/

/-- `sd_mmc_spi_send_clock`. -/
def sdMmcSpiSendClock (s : SpiState) : Bus SpiState :=
  (spiWriteBufferWait (List.replicate 10 0xFF)).bind fun _ => .done (s.setErr .noErr)

/-- `sd_mmc_spi_select_device`: `fuel` bounds the time its loops may take. -/
def sdMmcSpiSelectDevice (fuel : Nat) (clock : BitVec 32) (s : SpiState) : Bus SpiState :=
  match selectDevice fuel gclk0Hz clock with
  | none => .stop
  | some baud =>
      (Session.request (Hardware.setBaud baud)).bind fun _ =>
        (Session.request (Hardware.selectSlave true)).bind fun _ => .done (s.setErr .noErr)

def sdMmcSpiDeselectDevice (s : SpiState) : Bus SpiState :=
  (Session.request (Hardware.selectSlave false)).bind fun _ => .done (s.setErr .noErr)

/-- What does not concern the driver. -/
def onBoard (q : Request) (s : SpiState) : Bus (Reply q × SpiState) :=
  (Session.request (Hardware.board q)).map fun r => (r, s)

/-- The word at an address, and the rest of `sd_mmc_spi_read_word` unless that is a fault. -/
def accessAndEnd (address : BitVec 32) (s : SpiState) : Bus (Bool × SpiState) :=
  (Session.request (Hardware.board (.access address))).bind fun ok : Bool =>
    if ok then (sdMmcSpiEndWord s).map fun s => (true, s) else .done (false, s)

/-- Each request by the function that carries it out. -/
def driver (fuel : Nat) : (q : Request) → SpiState → Bus (Reply q × SpiState)
  | .sendClock, s => (sdMmcSpiSendClock s).map fun s => ((), s)
  | .sendCmd cmd arg, s =>
      (sdMmcSpiSendCmd cmd.code arg s).map fun r => (if r.1 then some r.2.response32 else none, r.2)
  | .adtcStart cmd arg blockSize nbBlock, s => sdMmcSpiAdtcStart cmd.code arg blockSize nbBlock s
  | .startReadBlocks, s =>
      (sdMmcSpiStartReadBlocks 1 s).map fun r => (if r.1.1 then some fun i => r.1.2.getD i 0 else none, r.2)
  | .startWriteBlocks src, s => sdMmcSpiStartWriteBlocks 1 src s
  | .waitEndOfWriteBlocks, s => sdMmcSpiWaitEndOfWriteBlocks s
  | .readWord, s => sdMmcSpiReadFour s
  | .access address, s => accessAndEnd address s
  | .selectDevice clock _ _, s => (sdMmcSpiSelectDevice fuel clock s).map fun s => (true, s)
  | .deselectDevice, s => (sdMmcSpiDeselectDevice s).map fun s => ((), s)
  | q, s => onBoard q s

end Card
end SoundingSoil
