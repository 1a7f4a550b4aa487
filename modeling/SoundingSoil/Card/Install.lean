import SoundingSoil.Support.Session
import SoundingSoil.Card.Registers

/-!
# Installing a card

`sd_mmc_spi_card_init` of `sd_mmc.c` in the configuration of the board (SPI mode, without `SDIO_SUPPORT_ENABLE`): the
commands the driver sends to a card it has just detected, and what it keeps of the answers.

The driver functions of `sd_mmc_spi.c` are the requests of a session, and their results are the replies.  So the card
is any device that answers by all that was said before.
-/

namespace SoundingSoil
namespace Card

open Support

/-! ## Requests -/

/-- The commands of `sd_mmc_protocol.h` that the driver sends. -/
inductive SdmmcCmd where
  | spiCmd0GoIdleState
  | mmcSpiCmd1SendOpCond
  | sdCmd8SendIfCond
  | mmcCmd8SendExtCsd
  | spiCmd9SendCsd
  | cmd12StopTransmission
  | spiCmd13SendStatus
  | cmd16SetBlocklen
  | cmd17ReadSingleBlock
  | cmd18ReadMultipleBlock
  | cmd24WriteBlock
  | cmd25WriteMultipleBlock
  | sdSpiAcmd41SdSendOpCond
  | sdAcmd51SendScr
  | cmd55AppCmd
  | spiCmd58ReadOcr
  | spiCmd59CrcOnOff
  deriving DecidableEq, Repr

/-- What comes from the USB host into a sector buffer.  A short packet ends the transfer before the buffer is full. -/
structure OutData where
  bytes : List (BitVec 8)
  fits : bytes.length ≤ 512

/-- What the board does for the driver: the functions of `sd_mmc_spi.c`, a word of memory that is read and written
back, the card-detect pin, the SysTick timer, and the blocks of the USB side. -/
inductive Request where
  | sendClock
  | sendCmd (cmd : SdmmcCmd) (arg : BitVec 32)
  | adtcStart (cmd : SdmmcCmd) (arg : BitVec 32) (blockSize nbBlock : Nat)
  | startReadBlocks
  | startWriteBlocks (src : Nat → BitVec 8)
  | waitEndOfWriteBlocks
  | readWord
  | access (address : BitVec 32)
  | selectDevice (clock : BitVec 32) (busWidth highSpeed : BitVec 8)
  | deselectDevice
  | cardDetect
  | systickCtrl
  | systickStart
  | systickFlag
  | systickStop
  | delay
  | usbSend (block : Vector (BitVec 8) 512)
  | usbReceive

/-- A command is answered by `sd_mmc_spi_response_32`, or not at all.  The bytes of a block come without end, the
driver takes as many as the block has.  An access may fault, and the clock may never be set.  The pin says whether a
card is in the slot, the timer whether it runs and whether it has counted down.  A transfer over USB fails, or it is
acknowledged: then the host was sent the block, or it has sent as many bytes as it liked. -/
def Reply : Request → Type
  | .sendClock => Unit
  | .sendCmd _ _ => Option (BitVec 32)
  | .adtcStart _ _ _ _ => Bool
  | .startReadBlocks => Option (Nat → BitVec 8)
  | .startWriteBlocks _ => Bool
  | .waitEndOfWriteBlocks => Bool
  | .readWord => Option (BitVec 32)
  | .access _ => Bool
  | .selectDevice _ _ _ => Bool
  | .deselectDevice => Unit
  | .cardDetect => Bool
  | .systickCtrl => Bool
  | .systickStart => Unit
  | .systickFlag => Bool
  | .systickStop => Unit
  | .delay => Unit
  | .usbSend _ => Bool
  | .usbReceive => Option OutData

abbrev Driver := Session Request Reply

def driverSendClock : Driver Unit :=
  Session.request Request.sendClock

def driverSendCmd (cmd : SdmmcCmd) (arg : BitVec 32) : Driver (Option (BitVec 32)) :=
  Session.request (Request.sendCmd cmd arg)

/-- `driver_send_cmd` where the response is of no interest. -/
def driverSendCmdOk (cmd : SdmmcCmd) (arg : BitVec 32) : Driver Bool :=
  (driverSendCmd cmd arg).bind fun resp => .done resp.isSome

def driverAdtcStart (cmd : SdmmcCmd) (arg : BitVec 32) (blockSize nbBlock : Nat) : Driver Bool :=
  Session.request (Request.adtcStart cmd arg blockSize nbBlock)

def driverStartReadBlocks : Driver (Option (Nat → BitVec 8)) :=
  Session.request Request.startReadBlocks

/-- One block, and `driver_wait_end_of_read_blocks`, which always succeeds. -/
def driverReadBlock (n : Nat) : Driver (Option (Vector (BitVec 8) n)) :=
  driverStartReadBlocks.bind fun bytes => .done (bytes.map fun line => Vector.ofFn fun i => line i)

/-- The four bytes `sd_mmc_spi_read_word` reads, as a word. -/
def readFourBytes : Driver (Option (BitVec 32)) :=
  Session.request Request.readWord

/-- Read the word at an address and write it back. -/
def accessWord (address : BitVec 32) : Driver Bool :=
  Session.request (Request.access address)

/-- `sd_mmc_spi_read_word`.  The four bytes are read into the pointer instead of the word it points to, so what is
converted in place is the word at the address they make. -/
def sdMmcSpiReadWord : Driver Bool :=
  readFourBytes.bind fun word =>
    match word with
    | none => .done false
    | some address => (accessWord address).bind fun ok => if ok then .done true else .stop

def driverSelectDevice (clock : BitVec 32) (busWidth highSpeed : BitVec 8) : Driver Bool :=
  Session.request (Request.selectDevice clock busWidth highSpeed)

/-- `sd_mmc_configure_slot`. -/
def sdMmcConfigureSlot (card : SdMmcCard) : Driver Unit :=
  (driverSelectDevice card.clock card.busWidth card.highSpeed).bind fun ok => if ok then .done () else .stop

/-! ## Operating conditions -/

/-- `R1_SPI_IDLE`. -/
def r1SpiIdle : BitVec 32 := 1

def ocrCcs : BitVec 32 := 1#32 <<< 30

def ocrAccessModeMask : BitVec 32 := 3#32 <<< 29

def ocrAccessModeSector : BitVec 32 := 2#32 <<< 29

/-- `SD_ACMD41_HCS`. -/
def sdAcmd41Hcs : BitVec 32 := 1#32 <<< 30

/-- One turn of the loop of `sd_spi_op_cond`. -/
def acmd41 (v2 : Bool) : Driver (Option Bool) :=
  (driverSendCmdOk .cmd55AppCmd 0).guard none <|
    (driverSendCmd .sdSpiAcmd41SdSendOpCond (if v2 then sdAcmd41Hcs else 0)).bind fun resp =>
      .done (resp.map fun r1 => r1 &&& r1SpiIdle == 0)

def sdSpiOpCond (v2 : Bool) (card : SdMmcCard) : Driver (Bool × SdMmcCard) :=
  (Session.poll (acmd41 v2) 7150).guard (false, card) <|
    (driverSendCmd .spiCmd58ReadOcr 0).bind fun resp =>
      match resp with
      | none => .done (false, card)
      | some ocr =>
          .done (true, if ocr &&& ocrCcs ≠ 0 then { card with cardType := card.cardType ||| cardTypeHc } else card)

/-- One turn of the loop of `mmc_spi_op_cond`. -/
def cmd1 : Driver (Option Bool) :=
  (driverSendCmd .mmcSpiCmd1SendOpCond 0).bind fun resp =>
    .done (resp.map fun r1 => r1 &&& r1SpiIdle == 0)

def mmcSpiOpCond (card : SdMmcCard) : Driver (Bool × SdMmcCard) :=
  (Session.poll cmd1 7150).guard (false, card) <|
    (driverSendCmd .spiCmd58ReadOcr 0).bind fun resp =>
      match resp with
      | none => .done (false, card)
      | some ocr =>
          .done (true,
            if ocr &&& ocrAccessModeMask = ocrAccessModeSector then
              { card with cardType := card.cardType ||| cardTypeHc }
            else card)

/-- `SD_CMD8_PATTERN`. -/
def sdCmd8Pattern : BitVec 32 := 0xAA

/-- `SD_CMD8_HIGH_VOLTAGE`. -/
def sdCmd8HighVoltage : BitVec 32 := 0x100

/-- `sd_cmd8`: the result, and the flag `v2`. -/
def sdCmd8 : Driver (Bool × Bool) :=
  (driverSendCmd .sdCmd8SendIfCond (sdCmd8Pattern ||| sdCmd8HighVoltage)).bind fun resp =>
    match resp with
    | none => .done (true, false)
    | some resp =>
        if resp = 0xFFFFFFFF then .done (true, false)
        else if resp &&& (0xFF ||| 0xF00) ≠ sdCmd8Pattern ||| sdCmd8HighVoltage then .done (false, false)
        else .done (true, true)

/-! ## Registers -/

def sdMmcCmd9Spi (card : SdMmcCard) : Driver (Bool × SdMmcCard) :=
  (driverAdtcStart .spiCmd9SendCsd (card.rca.setWidth 32 <<< 16) 16 1).guard (false, card) <|
    (driverReadBlock 16).bind fun csd =>
      match csd with
      | none => .done (false, card)
      | some csd => .done (true, { card with csd := csd })

/-- The version `sd_acmd51` reads off the SCR register. -/
def sdVersion (scr : Vector (BitVec 8) 8) : BitVec 8 :=
  let sdSpec := unstuffBits scr.toList 64 56 4
  if sdSpec = 1 then 0x1A
  else if sdSpec = 2 then if unstuffBits scr.toList 64 47 1 = 1 then 0x30 else 0x20
  else 0x10

def sdAcmd51 (card : SdMmcCard) : Driver (Bool × SdMmcCard) :=
  (driverSendCmdOk .cmd55AppCmd (card.rca.setWidth 32 <<< 16)).guard (false, card) <|
    (driverAdtcStart .sdAcmd51SendScr 0 8 1).guard (false, card) <|
      (driverReadBlock 8).bind fun scr =>
        match scr with
        | none => .done (false, card)
        | some scr => .done (true, { card with version := sdVersion scr })

/-- `mmc_cmd8`: no read ever sets the variable `sec_count`. -/
def mmcCmd8 (stray : Stray) (card : SdMmcCard) : Driver (Bool × SdMmcCard) :=
  (driverAdtcStart .mmcCmd8SendExtCsd 0 512 1).guard (false, card) <|
    (Session.times sdMmcSpiReadWord 50).guard (false, card) <|
      if csdStructure card.csd 62 12 = 0xFFF then
        (Session.times sdMmcSpiReadWord 4).guard (false, card) <|
          (Session.times sdMmcSpiReadWord 74).guard (false, { card with capacity := stray.secCount / 2 }) <|
            .done (true, { card with capacity := stray.secCount / 2 })
      else
        (Session.times sdMmcSpiReadWord 78).guard (false, card) <|
          .done (true, card)

/-- One turn of the loop of `sd_mmc_cmd13`. -/
def cmd13 : Driver (Option Bool) :=
  (driverSendCmd .spiCmd13SendStatus 0).bind fun resp =>
    .done (resp.map fun r2 => r2 &&& 0xFF == 0)

def sdMmcCmd13 : Driver Bool :=
  Session.poll cmd13 200000

/-! ## Installing -/

/-- `SD_MMC_BLOCK_SIZE`. -/
def sdMmcBlockSize : BitVec 32 := 512

def sdMmcSpiInstallMmc (stray : Stray) (card : SdMmcCard) : Driver (Bool × SdMmcCard) :=
  (driverSendCmdOk .spiCmd0GoIdleState 0).guard (false, card) <|
    (mmcSpiOpCond card).thenWith fun card =>
      (driverSendCmdOk .spiCmd59CrcOnOff 0).guard (false, card) <|
        (sdMmcCmd9Spi card).thenWith fun card =>
          let card := mmcDecodeCsd stray card
          (if card.version ≥ cardVerMmc4 then mmcCmd8 stray card else .done (true, card)).thenWith fun card =>
            (driverSendCmdOk .cmd16SetBlocklen sdMmcBlockSize).guard (false, card) <|
              sdMmcCmd13.guard (false, card) <|
                (sdMmcConfigureSlot card).bind fun _ => .done (true, card)

/-- The part of `sd_mmc_spi_card_init` that is for an SD card whose operating conditions are known. -/
def sdMmcSpiInstallSd (stray : Stray) (card : SdMmcCard) : Driver (Bool × SdMmcCard) :=
  (driverSendCmdOk .spiCmd59CrcOnOff 0).guard (false, card) <|
    (sdMmcCmd9Spi card).thenWith fun card =>
      (sdAcmd51 (sdDecodeCsd stray card)).thenWith fun card =>
        (if card.cardType &&& cardTypeHc = 0 then driverSendCmdOk .cmd16SetBlocklen sdMmcBlockSize
          else .done true).guard (false, card) <|
          sdMmcCmd13.guard (false, card) <|
            (sdMmcConfigureSlot card).bind fun _ => .done (true, card)

/-- `sd_mmc_spi_card_init`.  Without SDIO the type has `CARD_TYPE_SD` at every test of it. -/
def sdMmcSpiCardInit (stray : Stray) (card : SdMmcCard) : Driver (Bool × SdMmcCard) :=
  let card := { card with cardType := cardTypeSd, version := cardVerUnknown, rca := 0 }
  driverSendClock.bind fun _ =>
    (driverSendCmdOk .spiCmd0GoIdleState 0).guard (false, card) <|
      sdCmd8.bind fun (ok, v2) => if !ok then .done (false, card) else
        (sdSpiOpCond v2 card).bind fun (ok, card) =>
          if !ok then sdMmcSpiInstallMmc stray { card with cardType := cardTypeMmc }
          else sdMmcSpiInstallSd stray card

end Card
end SoundingSoil
