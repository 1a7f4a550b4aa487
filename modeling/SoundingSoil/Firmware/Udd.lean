import SoundingSoil.Firmware.State

/-!
# Bulk transfers of the USB device driver

The functions of `usb_device_udd.c` on the two bulk endpoints, as they run with interrupts masked.

A job is ended early by `udd_ep_abort` (status `UDD_EP_TRANSFER_ABORT`) or by `udd_ep_clear_halt`, and
either calls the registered function from inside the driver.  The functions take that call as the
argument `call`; the class driver closes the recursion.  `udd_ep_clear_halt` calls through
`call_nohalt` without arguments; when the job is a transfer, its callback sees the value 1 that the
driver left in the status register, which is `UDD_EP_TRANSFER_ABORT`, so both calls are one `call`.

An empty transfer that asks for no short packet would complete inside `udd_ep_run`.  No request of this
firmware is one, and `TransferReq` carries that fact.
-/

namespace SoundingSoil
namespace Firmware

/-- `udd_ep_status_t`. -/
inductive UddEpStatus
  | ok
  | abort
  deriving DecidableEq, Repr

/-- The arguments of `udd_ep_run`. -/
structure TransferReq where
  ep : Ep
  bShortpacket : Bool
  buf : JobBuffer
  bufSize : Nat
  callback : Callback
  notEmpty : bufSize ≠ 0 ∨ ep = .inn ∧ bShortpacket = true

/-- `UDD_ENDPOINT_MAX_TRANS`. -/
def uddEndpointMaxTrans : Nat := 8191

/-- Subtraction into a `uint16_t`. -/
def uint16Sub (a b : Nat) : Nat :=
  (a + 65536 - b % 65536) % 65536

/-- The part of a transfer that one hardware job carries. -/
def clipTrans (epSize n : Nat) : Nat :=
  if uddEndpointMaxTrans < n then uddEndpointMaxTrans - uddEndpointMaxTrans % epSize else n

/-! ## The endpoint hardware -/

namespace Endpoint

/-- `usb_device_endpoint_write_buffer_job` and `usb_device_endpoint_read_buffer_job` once the endpoint
is known to be enabled: the bank is handed to the hardware. -/
def startJob (size : Nat) (x : Endpoint) : Endpoint :=
  { x with armed := true, hwSize := size }

/-- `usb_device_endpoint_abort_job`: take the bank back and acknowledge a completion. -/
def abortJob (x : Endpoint) : Endpoint :=
  { x with armed := false }

end Endpoint

/-- `usb_device_endpoint_write_buffer_job` and `usb_device_endpoint_read_buffer_job`; the result tells
`STATUS_OK` from `STATUS_ERR_DENIED`. -/
def usbDeviceEndpointBufferJob (e : Ep) (size : Nat) (d : Dev) : Bool × Dev :=
  if (d.ep e).configured then (true, d.onEp e (Endpoint.startJob size)) else (false, d)

/-! ## Starting a transfer -/

/-- The critical section of `udd_ep_run`: claim the job unless it is busy. -/
def uddEpRunClaim (e : Ep) (d : Dev) : Bool × Dev :=
  if (d.ep e).job.busy then (false, d) else (true, d.onJob e fun j => { j with busy := true })

/-- The stores of `udd_ep_run` before the callback. -/
def uddEpRunBuffer (r : TransferReq) (d : Dev) : Dev :=
  d.onJob r.ep fun j => { j with buf := r.buf, bufSize := r.bufSize, nbTrans := 0 }

/-- The store of the callback in `udd_ep_run`. -/
def uddEpRunCallback (r : TransferReq) (d : Dev) : Dev :=
  d.onJob r.ep fun j => { j with call := some r.callback }

/-- The stores of `udd_ep_run` after the callback. -/
def uddEpRunFlags (r : TransferReq) (d : Dev) : Dev :=
  d.onJob r.ep fun j => { j with bShortpacket := r.bShortpacket, bUseOutCacheBuffer := false }

/-- The job flags at the start of an IN transfer and the size of its first hardware job. -/
def uddEpRunIn (j : UddEpJob) : UddEpJob × Nat :=
  if j.bufSize ≠ 0 then
    let nextTrans := clipTrans j.epSize j.bufSize
    ({ j with bShortpacket := j.bShortpacket && nextTrans % j.epSize == 0 }, nextTrans)
  else ({ j with bShortpacket := false }, 0)

/-- The job flags at the start of an OUT transfer and the size of its first hardware job. -/
def uddEpRunOut (j : UddEpJob) : UddEpJob × Nat :=
  let nextTrans :=
    if uddEndpointMaxTrans < j.bufSize then
      uddEndpointMaxTrans - uddEndpointMaxTrans % j.epSize
    else j.bufSize - j.bufSize % j.epSize
  if nextTrans < j.epSize then ({ j with bUseOutCacheBuffer := true }, j.epSize)
  else (j, nextTrans)

/-- The end of `udd_ep_run`: set the flags of the transfer and start the hardware.  A denied start
leaves the job busy. -/
def uddEpRunStart (e : Ep) (d : Dev) : Bool × Dev :=
  let first :=
    match e with
    | .inn => uddEpRunIn (d.ep e).job
    | .out => uddEpRunOut (d.ep e).job
  usbDeviceEndpointBufferJob e first.2 (d.onJob e fun _ => first.1)

/-- `udd_ep_run`. -/
def uddEpRun (r : TransferReq) (d : Dev) : Bool × Dev :=
  if (d.ep r.ep).halted then (false, d)
  else
    let claim := uddEpRunClaim r.ep d
    if claim.1 then
      uddEpRunStart r.ep (uddEpRunFlags r (uddEpRunCallback r (uddEpRunBuffer r claim.2)))
    else (false, d)

/-! ## Ending a transfer -/

section Call

variable (call : Callback → Dev → Dev)

/-- Call a job's function, when there is one. -/
def callJob (d : Dev) : Option Callback → Dev
  | none => d
  | some cb => call cb d

/-- `udd_ep_abort`. -/
def uddEpAbort (e : Ep) (d : Dev) : Dev :=
  let d := d.onEp e Endpoint.abortJob
  if (d.ep e).job.busy then
    callJob call (d.onJob e fun j => { j with busy := false }) (d.ep e).job.call
  else d

/-- `udd_ep_set_halt` on a bulk endpoint. -/
def uddEpSetHalt (e : Ep) (d : Dev) : Dev :=
  uddEpAbort call e (d.onEp e fun x => { x with halted := true })

/-- `udd_ep_clear_halt` on a bulk endpoint. -/
def uddEpClearHalt (e : Ep) (d : Dev) : Dev :=
  let d := d.onEp e fun x => { x with halted := false }
  if (d.ep e).job.busy then
    callJob call (d.onJob e fun j => { j with busy := false }) (d.ep e).job.call
  else d

/-- Register a function on the end of a halt. -/
def registerNohalt (e : Ep) (cb : Callback) (d : Dev) : Dev :=
  d.onJob e fun j => { j with busy := true, call := some cb }

/-- `udd_ep_wait_stall_clear`; no caller looks at its result. -/
def uddEpWaitStallClear (e : Ep) (cb : Callback) (d : Dev) : Dev :=
  if (d.ep e).job.busy then d
  else if (d.ep e).halted then registerNohalt e cb d
  else if (d.ep e).configured then call cb d
  else d

/-- `udd_ep_free`. -/
def uddEpFree (e : Ep) (d : Dev) : Dev :=
  (uddEpAbort call e d).onEp e fun x => { x with configured := false }

end Call

/-- `udd_ep_alloc` for a bulk endpoint of 64 bytes.  The job learns the size even when the endpoint is
already enabled and the request is denied. -/
def uddEpAlloc (e : Ep) (d : Dev) : Bool × Dev :=
  let d := d.onJob e fun j => { j with epSize := 64 }
  if (d.ep e).configured then (false, d)
  else (true, d.onEp e fun x => { x with configured := true, armed := false })

/-! ## Transfer complete -/

/-- What `udd_ep_trans_in_next` and `udd_ep_trans_out_next` decide: start another hardware job, or end
the transfer. -/
inductive TransNext
  | again (job : UddEpJob) (size : Nat)
  | complete (job : UddEpJob)

/-- `udd_ep_trans_in_next`, with the size of the finished hardware job. -/
def uddEpTransInNext (sent : Nat) (j : UddEpJob) : TransNext :=
  let j := { j with nbTrans := j.nbTrans + sent }
  if j.nbTrans ≠ j.bufSize then
    let nextTrans := clipTrans j.epSize (uint16Sub j.bufSize j.nbTrans)
    .again { j with bShortpacket := j.bShortpacket && nextTrans % j.epSize == 0 } nextTrans
  else if j.bShortpacket then .again { j with bShortpacket := false } 0
  else .complete { j with busy := false }

/-- `udd_ep_trans_out_next`, with the number of bytes received and the size that was offered. -/
def uddEpTransOutNext (received offered : Nat) (j : UddEpJob) : TransNext :=
  let j := { j with nbTrans := min (j.nbTrans + received) j.bufSize }
  if received = offered ∧ j.nbTrans ≠ j.bufSize then
    let remain := uint16Sub j.bufSize j.nbTrans
    let nextTrans :=
      if uddEndpointMaxTrans < remain then
        uddEndpointMaxTrans - uddEndpointMaxTrans % j.epSize
      else remain - remain % j.epSize
    if nextTrans < j.epSize then .again { j with bUseOutCacheBuffer := true } j.epSize
    else .again j nextTrans
  else .complete { j with busy := false }

end Firmware
end SoundingSoil
