import SoundingSoil.Board.UserInterface

/-!
# The state of the firmware

Everything the interrupt handlers and the main loop share, grouped by the file that owns it:

* `App` — `main.c`: the flag `main_b_msc_enable`, and the port the user interface writes.
* `Bus` — `udc.c` and `usb_device_udd.c`: attachment, address, configuration, control endpoint.
* `Sleep` — `sleepmgr` and the USB state behind `udd_sleep_mode`.
* `Endpoint` — one bulk endpoint: its hardware state and the `udd_ep_job_t` registered on it.
* `Msc` — the globals of `udi_msc.c`.
* `Store` — `sd_mmc_mem.c`: the ejected flag of the slot, and the history of what the logical unit was
  asked and answered.

The two bulk endpoints have different endpoint numbers, so nothing of one is shared with the other.
Buffer contents are not modelled, except for the command block that `udi_msc_cbw` receives.
-/

namespace SoundingSoil
namespace Firmware

/-! ## Command and status blocks -/

/-- `struct usb_msc_cbw`. -/
structure UsbMscCbw where
  dCBWSignature : BitVec 32
  dCBWTag : BitVec 32
  dCBWDataTransferLength : BitVec 32
  bmCBWFlags : BitVec 8
  bCBWLUN : BitVec 8
  bCBWCBLength : BitVec 8
  cdb : Vector (BitVec 8) 16
  deriving DecidableEq, Repr

/-- The status byte of a CSW: `USB_CSW_STATUS_PASS` or `USB_CSW_STATUS_FAIL`. -/
inductive CswStatus
  | pass
  | fail
  deriving DecidableEq, Repr

/-- `struct usb_msc_csw`; the signature is constant. -/
structure UsbMscCsw where
  dCSWTag : BitVec 32
  dCSWDataResidue : BitVec 32
  bCSWStatus : CswStatus
  deriving DecidableEq, Repr

/-- The fields of `struct scsi_request_sense_data` that the firmware varies. -/
structure ScsiSense where
  senseFlagKey : BitVec 8
  information : BitVec 32
  addSense : BitVec 16
  deriving DecidableEq, Repr

/-! ## Endpoints -/

/-- The bulk endpoints `UDI_MSC_EP_IN` and `UDI_MSC_EP_OUT`. -/
inductive Ep
  | inn
  | out
  deriving DecidableEq, Repr

/-- The functions that `udi_msc.c` registers on an endpoint job.  The union of `call_trans` and
`call_nohalt` is one field, as in `udd_ep_job_t`. -/
inductive Callback
  | cbwReceived
  | dataSent
  | cswSent
  | transAck
  | cbwWait
  | cswSend
  | cbwInvalid
  | cswInvalid
  deriving DecidableEq, Repr

/-- What the `buf` of a job points to: `udi_msc_cbw`, `udi_msc_csw`, the data of a short answer, or a
sector buffer of `sd_mmc_mem.c`. -/
inductive JobBuffer
  | cbw
  | csw
  | answer
  | sector
  deriving DecidableEq, Repr

/-- `udd_ep_job_t`. -/
structure UddEpJob where
  call : Option Callback
  buf : JobBuffer
  bufSize : Nat
  nbTrans : Nat
  epSize : Nat
  busy : Bool
  bShortpacket : Bool
  bUseOutCacheBuffer : Bool
  deriving DecidableEq, Repr

/-- A bulk endpoint: enabled by `EPCFG`, stalled by `STALLRQ`, its bank handed to the hardware for
`hwSize` bytes while `armed`, and its job. -/
structure Endpoint where
  configured : Bool
  halted : Bool
  armed : Bool
  hwSize : Nat
  job : UddEpJob
  deriving DecidableEq, Repr

/-! ## The globals of each file -/

/-- `main.c`. -/
structure App where
  mainBMscEnable : Bool
  port : Board.Port

/-- `udd_ctrl_ep_state_t`.  No accepted request has an OUT data stage. -/
inductive UddCtrlEpState
  | setup
  | dataIn
  | handshakeWaitInZlp
  | handshakeWaitOutZlp
  | stallReq
  deriving DecidableEq, Repr

/-- The USB device stack.  `addressCallback` holds the `wValue` of a SET_ADDRESS request whose
callback `udc_valid_address` has not run; `ctrlEnabled` tells that `udd_ctrl_ep_enable` has. -/
structure Bus where
  attached : Bool
  address : BitVec 7
  ctrlEnabled : Bool
  ctrlState : UddCtrlEpState
  addressCallback : Option (BitVec 16)
  udcNumConfiguration : BitVec 8
  deriving DecidableEq, Repr

/-- `enum sleepmgr_mode`. -/
inductive SleepmgrMode
  | active
  | idle0
  | idle1
  | idle2
  | standby
  deriving DecidableEq, Repr

/-- `enum udd_usb_state_enum`. -/
inductive UddUsbState
  | off
  | suspend
  | suspendLpm
  | idle
  deriving DecidableEq, Repr

/-- `sleepmgr_locks` and the static `udd_state` of `udd_sleep_mode`. -/
structure Sleep where
  sleepmgrLocks : SleepmgrMode → Nat
  uddState : UddUsbState

/-- `udi_msc.c`. -/
structure Msc where
  cbw : UsbMscCbw
  csw : UsbMscCsw
  nbLun : BitVec 8
  sense : ScsiSense
  bCbwInvalid : Bool
  bTransReq : Bool
  bRead : Bool
  addr : BitVec 32
  nbBlock : BitVec 16
  bAckTrans : Bool
  bAbortTrans : Bool
  bResetTrans : Bool
  deriving DecidableEq, Repr

/-! ## The memory behind the logical unit -/

/-- `sd_mmc_err_t`. -/
inductive SdMmcErr
  | ok
  | initOngoing
  | noCard
  | unusable
  | slot
  | comm
  | param
  | wp
  deriving DecidableEq, Repr

/-- `Ctrl_status`. -/
inductive CtrlStatus
  | good
  | fail
  | noPresent
  | busy
  deriving DecidableEq, Repr

/-- What the card driver answers to one readiness check: the result of `sd_mmc_check`, the flags of
`sd_mmc_get_type` and the size that `sd_mmc_get_capacity` reports. -/
structure CardAnswer where
  check : SdMmcErr
  cardType : BitVec 8
  capacity : BitVec 32
  deriving DecidableEq, Repr

/-- The history of the logical unit. -/
inductive LunEvent
  /-- A START STOP UNIT command was answered with this status. -/
  | startStop (loej start : Bool) (status : CswStatus)
  /-- A TEST UNIT READY or READ CAPACITY(10) command checked the card and got this answer. -/
  | checked (card : CardAnswer) (answer : CtrlStatus)
  /-- `udi_msc_enable` loaded the medium. -/
  | enabled
  deriving DecidableEq, Repr

/-- `sd_mmc_mem.c` for the slot of the logical unit. -/
structure Store where
  sdMmcEjected : Bool
  history : List LunEvent
  deriving DecidableEq, Repr

/-- The state shared by the interrupt handlers and the main loop. -/
structure Dev where
  app : App
  bus : Bus
  sleep : Sleep
  inn : Endpoint
  out : Endpoint
  msc : Msc
  store : Store

/-! ## After the start-up code -/

def endpointReset : Endpoint where
  configured := false
  halted := false
  armed := false
  hwSize := 0
  job := ⟨none, .cbw, 0, 0, 0, false, false, false⟩

def mscReset : Msc where
  cbw := ⟨0, 0, 0, 0, 0, 0, Vector.replicate 16 0⟩
  csw := ⟨0, 0, .pass⟩
  nbLun := 0
  sense := ⟨0, 0, 0⟩
  bCbwInvalid := false
  bTransReq := false
  bRead := false
  addr := 0
  nbBlock := 0
  bAckTrans := true
  bAbortTrans := false
  bResetTrans := true

/-! ## Access to the endpoints -/

namespace Dev

/-- The endpoint at an address. -/
def ep (d : Dev) : Ep → Endpoint
  | .inn => d.inn
  | .out => d.out

/-- Change one endpoint. -/
def onEp (e : Ep) (f : Endpoint → Endpoint) (d : Dev) : Dev :=
  match e with
  | .inn => { d with inn := f d.inn }
  | .out => { d with out := f d.out }

/-- Change the job of one endpoint. -/
def onJob (e : Ep) (f : UddEpJob → UddEpJob) (d : Dev) : Dev :=
  d.onEp e fun x => { x with job := f x.job }

@[simp] theorem ep_inn (d : Dev) : d.ep .inn = d.inn := rfl

@[simp] theorem ep_out (d : Dev) : d.ep .out = d.out := rfl

@[simp] theorem onEp_inn (f : Endpoint → Endpoint) (d : Dev) :
    d.onEp .inn f = { d with inn := f d.inn } := rfl

end Dev

end Firmware
end SoundingSoil
