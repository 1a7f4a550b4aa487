import SoundingSoil.Firmware.SdMmcMem
import SoundingSoil.Firmware.Udd

/-!
# The mass-storage class driver

The functions of `udi_msc.c` that run with interrupts masked: the command and status phases of the
bulk-only transport, the SCSI commands, and the interface functions the device core calls.  The
transfer of sectors runs in the main loop and is modelled there.

The functions a job can register call the driver, which calls them back on an abort or when a halt
ends.  `abortedCallback` is one level of that recursion and `callback n` is `n` levels of it; every
level that calls further first releases a busy job, and there are two jobs, so `callback 3` is exact
(`callback_depth`).
-/

namespace SoundingSoil
namespace Firmware

/-! ## Sense data -/

/-- `udi_msc_sense_fail`. -/
def udiMscSenseFail (senseKey : BitVec 8) (addSense : BitVec 16) (lba : BitVec 32) (d : Dev) : Dev :=
  { d with msc := { d.msc with
      csw := { d.msc.csw with bCSWStatus := .fail }
      sense := ⟨senseKey, lba, addSense⟩ } }

def udiMscSensePass (d : Dev) : Dev :=
  { d with msc := { d.msc with
      csw := { d.msc.csw with bCSWStatus := .pass }
      sense := ⟨0, 0, 0⟩ } }

def udiMscSenseFailNotPresent : Dev → Dev := udiMscSenseFail 0x2 0x3A00 0

def udiMscSenseFailBusyOrChange : Dev → Dev := udiMscSenseFail 0x6 0x2800 0

def udiMscSenseFailHardware : Dev → Dev := udiMscSenseFail 0x4 0x0000 0

def udiMscSenseFailProtected : Dev → Dev := udiMscSenseFail 0x7 0x2700 0

def udiMscSenseFailCdbInvalid : Dev → Dev := udiMscSenseFail 0x5 0x2400 0

def udiMscSenseCommandInvalid : Dev → Dev := udiMscSenseFail 0x5 0x2000 0

/-! ## The transfers of the class driver -/

/-- The reception of a CBW. -/
def cbwReq : TransferReq where
  ep := .out
  bShortpacket := true
  buf := .cbw
  bufSize := 31
  callback := .cbwReceived
  notEmpty := .inl (by decide)

/-- The answer to a command with a short data phase. -/
def dataReq (bufSize : Nat) : TransferReq where
  ep := .inn
  bShortpacket := true
  buf := .answer
  bufSize := bufSize
  callback := .dataSent
  notEmpty := .inr ⟨rfl, rfl⟩

/-- The emission of the CSW. -/
def cswReq : TransferReq where
  ep := .inn
  bShortpacket := false
  buf := .csw
  bufSize := 13
  callback := .cswSent
  notEmpty := .inl (by decide)

/-- One sector between the sector buffer and the host. -/
def blockReq (bRead : Bool) : TransferReq where
  ep := if bRead then .inn else .out
  bShortpacket := false
  buf := .sector
  bufSize := 512
  callback := .transAck
  notEmpty := .inl (by decide)

/-! ## Callbacks -/

section Call

variable (call : Callback → Dev → Dev)

def udiMscCbwWait (d : Dev) : Dev :=
  let run := uddEpRun cbwReq d
  if run.1 then run.2 else uddEpWaitStallClear call .out .cbwWait run.2

def udiMscCswSend (d : Dev) : Dev :=
  let run := uddEpRun cswReq d
  if run.1 then run.2 else uddEpWaitStallClear call .inn .cswSend run.2

/-- Stall an endpoint and stall it again when the host clears the halt, until a mass-storage reset
clears `udi_msc_b_cbw_invalid`. -/
def stallUntilReset (e : Ep) (cb : Callback) (d : Dev) : Dev :=
  if d.msc.bCbwInvalid then uddEpWaitStallClear call e cb (uddEpSetHalt call e d) else d

def udiMscCbwInvalid : Dev → Dev := stallUntilReset call .out .cbwInvalid

def udiMscCswInvalid : Dev → Dev := stallUntilReset call .inn .cswInvalid

def udiMscTransAck (status : UddEpStatus) (d : Dev) : Dev :=
  { d with msc := { d.msc with bAbortTrans := decide (status ≠ .ok), bAckTrans := true } }

def udiMscCswSent : Dev → Dev := udiMscCbwWait call

/-- The registered functions when their job is aborted or their halt ends.  `udi_msc_cbw_received` and
`udi_msc_data_sent` return at once on an abort. -/
def abortedCallback (cb : Callback) (d : Dev) : Dev :=
  match cb with
  | .cbwReceived => d
  | .dataSent => d
  | .cswSent => udiMscCswSent call d
  | .transAck => udiMscTransAck .abort d
  | .cbwWait => udiMscCbwWait call d
  | .cswSend => udiMscCswSend call d
  | .cbwInvalid => udiMscCbwInvalid call d
  | .cswInvalid => udiMscCswInvalid call d

end Call

/-- `n` levels of calls from the driver. -/
def callback : Nat → Callback → Dev → Dev
  | 0 => fun _ d => d
  | n + 1 => abortedCallback (callback n)

/-- Calls from the driver. -/
def uddCall : Callback → Dev → Dev := callback 3

/-! ## Command blocks -/

section Scsi

variable (call : Callback → Dev → Dev)

/-- The data phase of the command goes to the host. -/
def UsbMscCbw.directionIn (cbw : UsbMscCbw) : Bool :=
  cbw.bmCBWFlags &&& 0x80 != 0

/-- The endpoint that `udi_msc_csw_process` stalls, when a residue is left. -/
def Msc.residueEp (m : Msc) : Option Ep :=
  if m.csw.dCSWDataResidue ≠ 0 then some (if m.cbw.directionIn then .inn else .out) else none

/-- The tag of the CSW is the tag of the CBW. -/
def udiMscCswTag (d : Dev) : Dev :=
  { d with msc := { d.msc with csw := { d.msc.csw with dCSWTag := d.msc.cbw.dCBWTag } } }

def udiMscCswProcess (d : Dev) : Dev :=
  let d :=
    match d.msc.residueEp with
    | some e => uddEpSetHalt call e d
    | none => d
  udiMscCswSend call (udiMscCswTag d)

/-- A command is over: its status is set and goes out in the CSW. -/
def endCommand (setSense : Dev → Dev) (d : Dev) : Dev :=
  udiMscCswProcess call (setSense d)

/-- The check of `udi_msc_cbw_validate`. -/
def Msc.cbwValid (m : Msc) (allocLen : Nat) (dirIn : Bool) : Bool :=
  m.cbw.directionIn == dirIn && allocLen ≤ m.csw.dCSWDataResidue.toNat

/-- `udi_msc_cbw_validate` with the continuation of its caller. -/
def udiMscCbwValidate (allocLen : Nat) (dirIn : Bool) (next : Dev → Dev) (d : Dev) : Dev :=
  if d.msc.cbwValid allocLen dirIn then next d else endCommand call udiMscSenseFailCdbInvalid d

def udiMscDataSend (bufSize : Nat) (d : Dev) : Dev :=
  let run := uddEpRun (dataReq bufSize) d
  if run.1 then run.2 else endCommand call udiMscSenseFailHardware run.2

/-- `udi_msc_data_sent` on a finished transfer. -/
def udiMscDataSent (nbSent : Nat) (d : Dev) : Dev :=
  let d := udiMscSensePass d
  let residue := d.msc.csw.dCSWDataResidue - BitVec.ofNat 32 nbSent
  udiMscCswProcess call { d with msc := { d.msc with
    csw := { d.msc.csw with dCSWDataResidue := residue } } }

/-! ## SCSI commands -/

/-- A byte of the command descriptor block. -/
def Dev.cdb (d : Dev) (i : Fin 16) : BitVec 8 :=
  d.msc.cbw.cdb[i]

/-- The operation code, on which `udi_msc_cbw_received` dispatches. -/
def Dev.operationCode (d : Dev) : BitVec 8 := d.cdb 0

def udiMscSpcRequestsense (d : Dev) : Dev :=
  let length := min (d.cdb 4).toNat 18
  udiMscCbwValidate call length true (udiMscDataSend call length) d

/-- `udi_msc_spc_inquiry`: only the standard inquiry data are supported. -/
def udiMscSpcInquiry (d : Dev) : Dev :=
  let length := min (d.cdb 4).toNat 36
  udiMscCbwValidate call length true (fun d =>
    if d.cdb 1 &&& 0x3 ≠ 0 ∨ d.cdb 2 ≠ 0 then endCommand call udiMscSenseFailCdbInvalid d
    else udiMscDataSend call length d) d

/-- `udi_msc_spc_mode_sense`: a header, and the page on informational exceptions when asked for. -/
def udiMscSpcModeSense (bSense10 : Bool) (d : Dev) : Dev :=
  let requestLgt := if bSense10 then (d.cdb 8).toNat else (d.cdb 4).toNat
  let headerLgt := if bSense10 then 8 else 4
  let mode := d.cdb 2 &&& 0x3F
  let dataSenseLgt := if mode = 0x1C ∨ mode = 0x3F then headerLgt + 12 else headerLgt
  let requestLgt := min requestLgt dataSenseLgt
  udiMscCbwValidate call requestLgt true (udiMscDataSend call requestLgt) d

/-- `udi_msc_spc_prevent_allow_medium_removal`. -/
def udiMscSpcPreventAllowMediumRemoval (d : Dev) : Dev :=
  endCommand call (if d.cdb 4 = 0 then udiMscSensePass else udiMscSenseFailCdbInvalid) d

/-- The sense data for an answer of the memory; a good answer leaves them to the caller. -/
def senseOf : CtrlStatus → Dev → Dev
  | .good => id
  | .busy => udiMscSenseFailBusyOrChange
  | .noPresent => udiMscSenseFailNotPresent
  | .fail => udiMscSenseFailHardware

/-- Keep the state of the memory and add to the history of the logical unit. -/
def Dev.record (store : Store) (event : LunEvent) (d : Dev) : Dev :=
  { d with store := { store with history := store.history ++ [event] } }

variable (desc : LunDesc) (card : CardAnswer)

/-- The call of `mem_test_unit_ready` in `udi_msc_spc_testunitready_global`. -/
def checkUnitReady (d : Dev) : CtrlStatus × Dev :=
  let ready := memTestUnitReady desc d.msc.cbw.bCBWLUN card d.store
  (ready.1, d.record ready.2 (.checked card ready.1))

def udiMscSpcTestunitready (d : Dev) : Dev :=
  let ready := checkUnitReady desc card d
  endCommand call (if ready.1 = .good then udiMscSensePass else senseOf ready.1) ready.2

/-- The call of `mem_read_capacity` in `udi_msc_sbc_read_capacity`. -/
def checkCapacity (d : Dev) : CtrlStatus × Dev :=
  let ready := memReadCapacity desc d.msc.cbw.bCBWLUN card d.store
  (ready.1, d.record ready.2.2 (.checked card ready.1))

def udiMscSbcReadCapacity (d : Dev) : Dev :=
  udiMscCbwValidate call 8 true (fun d =>
    let ready := checkCapacity desc card d
    if ready.1 = .good then udiMscDataSend call 8 ready.2
    else endCommand call (senseOf ready.1) ready.2) d

/-- The bits `LoEj` and `Start` of a START STOP UNIT command. -/
def Dev.loej (d : Dev) : Bool := d.cdb 4 &&& 0x2 != 0

def Dev.start (d : Dev) : Bool := d.cdb 4 &&& 0x1 != 0

/-- `udi_msc_sbc_start_stop`: the result of `mem_unload` is ignored. -/
def udiMscSbcStartStop (d : Dev) : Dev :=
  let store :=
    if d.loej then (memUnload desc d.msc.cbw.bCBWLUN (!d.start) d.store).2 else d.store
  endCommand call udiMscSensePass (d.record store (.startStop d.loej d.start .pass))

/-- The length of a READ(10) or WRITE(10) command in blocks. -/
def Dev.cdbNbBlock (d : Dev) : BitVec 16 := d.cdb 7 ++ d.cdb 8

/-- The address of a READ(10) or WRITE(10) command. -/
def Dev.cdbAddr (d : Dev) : BitVec 32 := d.cdb 2 ++ d.cdb 3 ++ d.cdb 4 ++ d.cdb 5

/-- `udi_msc_sbc_trans`: the transfer is left to the main loop. -/
def udiMscSbcTrans (bRead : Bool) (d : Dev) : Dev :=
  if !bRead && memWrProtect desc d.msc.cbw.bCBWLUN then
    endCommand call udiMscSenseFailProtected d
  else
    let d := { d with msc := { d.msc with addr := d.cdbAddr, nbBlock := d.cdbNbBlock } }
    udiMscCbwValidate call (d.msc.nbBlock.toNat * 512) bRead (fun d =>
      { d with msc := { d.msc with bRead := bRead, bTransReq := true } }) d

/-- The dispatch on the operation code in `udi_msc_cbw_received`. -/
def scsiCommand (d : Dev) : Dev :=
  if d.operationCode = 0x03 then udiMscSpcRequestsense call d
  else if d.operationCode = 0x12 then udiMscSpcInquiry call d
  else if d.operationCode = 0x1A then udiMscSpcModeSense call false d
  else if d.operationCode = 0x5A then udiMscSpcModeSense call true d
  else if d.operationCode = 0x00 then udiMscSpcTestunitready call desc card d
  else if d.operationCode = 0x25 then udiMscSbcReadCapacity call desc card d
  else if d.operationCode = 0x1B then udiMscSbcStartStop call desc d
  else if d.operationCode = 0x1E then udiMscSpcPreventAllowMediumRemoval call d
  else if d.operationCode = 0x2F then endCommand call udiMscSensePass d
  else if d.operationCode = 0x28 then udiMscSbcTrans call desc true d
  else if d.operationCode = 0x2A then udiMscSbcTrans call desc false d
  else endCommand call udiMscSenseCommandInvalid d

/-- `CPU_TO_BE32(USB_CBW_SIGNATURE)` on this little-endian core. -/
def usbCbwSignature : BitVec 32 := 0x43425355

/-- The command block has the length and the signature of a CBW. -/
def Msc.cbwIntact (m : Msc) (nbReceived : Nat) : Bool :=
  nbReceived == 31 && m.cbw.dCBWSignature == usbCbwSignature

/-- `udi_msc_cbw_received` on a finished transfer. -/
def udiMscCbwReceived (nbReceived : Nat) (d : Dev) : Dev :=
  if !d.msc.cbwIntact nbReceived then
    udiMscCswInvalid call (udiMscCbwInvalid call
      { d with msc := { d.msc with bCbwInvalid := true } })
  else
    let d := { d with msc := { d.msc with
      cbw := { d.msc.cbw with bCBWLUN := d.msc.cbw.bCBWLUN &&& 0x0F } } }
    if d.msc.nbLun < d.msc.cbw.bCBWLUN then endCommand call udiMscSenseFailCdbInvalid d
    else scsiCommand call desc card { d with msc := { d.msc with
      csw := { d.msc.csw with dCSWDataResidue := d.msc.cbw.dCBWDataTransferLength } } }

/-- The registered functions when their transfer is complete. -/
def completedCallback (cb : Callback) (nbTrans : Nat) (d : Dev) : Dev :=
  match cb with
  | .cbwReceived => udiMscCbwReceived call desc card nbTrans d
  | .dataSent => udiMscDataSent call nbTrans d
  | .cswSent => udiMscCswSent call d
  | .transAck => udiMscTransAck .ok d
  | .cbwWait => udiMscCbwWait call d
  | .cswSend => udiMscCswSend call d
  | .cbwInvalid => udiMscCbwInvalid call d
  | .cswInvalid => udiMscCswInvalid call d

end Scsi

/-! ## Interface functions -/

section Interface

variable (call : Callback → Dev → Dev) (desc : LunDesc)

/-- `main_msc_enable`, which is `UDI_MSC_ENABLE_EXT`; it always agrees. -/
def mainMscEnable (a : App) : App :=
  { a with mainBMscEnable := true }

/-- `main_msc_disable`, which is `UDI_MSC_DISABLE_EXT`. -/
def mainMscDisable (a : App) : App :=
  { a with mainBMscEnable := false }

/-- `udi_msc_enable` up to the first CBW: with one logical unit nothing can fail. -/
def udiMscEnableReset (d : Dev) : Dev :=
  let msc := { d.msc with
    bTransReq := false
    bCbwInvalid := false
    bAckTrans := true
    bResetTrans := true
    nbLun := maxLun - 1 }
  let d := { d with msc := msc, app := mainMscEnable d.app }
  d.record (memUnload desc 0 false d.store).2 .enabled

def udiMscEnable (d : Dev) : Dev :=
  udiMscCbwWait call (udiMscEnableReset desc d)

def udiMscDisable (d : Dev) : Dev :=
  { d with
    msc := { d.msc with bTransReq := false, bAckTrans := true, bResetTrans := true }
    app := mainMscDisable d.app }

/-- The Bulk-Only Mass Storage Reset of `udi_msc_setup`. -/
def udiMscBulkReset (d : Dev) : Dev :=
  let d := { d with msc := { d.msc with bCbwInvalid := false, bTransReq := false } }
  udiMscCbwWait call (uddEpAbort call .inn (uddEpAbort call .out d))

end Interface

end Firmware
end SoundingSoil
