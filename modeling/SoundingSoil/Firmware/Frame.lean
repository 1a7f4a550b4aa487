import SoundingSoil.Firmware.Udc

/-!
# What the driver leaves alone

The functions of the USB device driver, and the functions it calls back on an abort, work on the state
of the transfers only: the halts, banks and jobs of the endpoints, and the two flags by which
`udi_msc_trans_ack` answers the main loop.  `Dev.rest` is the state without these, and the theorems
`rest_*` say that a function keeps it.

* `rest_callback` — a call from the driver, however deep, keeps the rest of the state; `rest_uddCall`.
* `rest_uddEpAbort`, `rest_uddEpSetHalt`, `rest_uddEpClearHalt` — and so does whatever makes the driver
  call.
-/

namespace SoundingSoil
namespace Firmware

/-- An endpoint of which only the configuration is known. -/
def Endpoint.rest (x : Endpoint) : Endpoint :=
  { endpointReset with configured := x.configured }

/-- The state without the transfers. -/
def Dev.rest (d : Dev) : Dev :=
  { d with
    inn := d.inn.rest
    out := d.out.rest
    msc := { d.msc with bAckTrans := true, bAbortTrans := false } }

@[simp] theorem rest_onJob (e : Ep) (f : UddEpJob → UddEpJob) (d : Dev) :
    (d.onJob e f).rest = d.rest := by
  cases e <;> rfl

@[simp] theorem rest_abortJob (e : Ep) (d : Dev) :
    (d.onEp e Endpoint.abortJob).rest = d.rest := by
  cases e <;> rfl

@[simp] theorem rest_setHalted (e : Ep) (b : Bool) (d : Dev) :
    (d.onEp e fun x => { x with halted := b }).rest = d.rest := by
  cases e <;> rfl

@[simp] theorem rest_bufferJob (e : Ep) (size : Nat) (d : Dev) :
    (usbDeviceEndpointBufferJob e size d).2.rest = d.rest := by
  unfold usbDeviceEndpointBufferJob
  split
  · cases e <;> rfl
  · rfl

@[simp] theorem rest_uddEpRunClaim (e : Ep) (d : Dev) : (uddEpRunClaim e d).2.rest = d.rest := by
  unfold uddEpRunClaim
  split
  · rfl
  · exact rest_onJob e _ d

@[simp] theorem rest_uddEpRunStart (e : Ep) (d : Dev) : (uddEpRunStart e d).2.rest = d.rest := by
  simp [uddEpRunStart]

@[simp] theorem rest_uddEpRun (r : TransferReq) (d : Dev) : (uddEpRun r d).2.rest = d.rest := by
  unfold uddEpRun
  split
  · rfl
  · dsimp only
    split
    · simp [uddEpRunFlags, uddEpRunCallback, uddEpRunBuffer]
    · rfl

/-! ## Functions that call back -/

section Call

variable {call : Callback → Dev → Dev} (hcall : ∀ cb d, (call cb d).rest = d.rest)
include hcall

theorem rest_callJob (cb : Option Callback) (d : Dev) : (callJob call d cb).rest = d.rest := by
  cases cb with
  | none => rfl
  | some cb => exact hcall cb d

theorem rest_uddEpAbort (e : Ep) (d : Dev) : (uddEpAbort call e d).rest = d.rest := by
  unfold uddEpAbort
  dsimp only
  split
  · rw [rest_callJob hcall, rest_onJob, rest_abortJob]
  · exact rest_abortJob e d

theorem rest_uddEpSetHalt (e : Ep) (d : Dev) : (uddEpSetHalt call e d).rest = d.rest := by
  rw [uddEpSetHalt, rest_uddEpAbort hcall, rest_setHalted]

theorem rest_uddEpClearHalt (e : Ep) (d : Dev) : (uddEpClearHalt call e d).rest = d.rest := by
  unfold uddEpClearHalt
  dsimp only
  split
  · rw [rest_callJob hcall, rest_onJob, rest_setHalted]
  · exact rest_setHalted e false d

theorem rest_uddEpWaitStallClear (e : Ep) (cb : Callback) (d : Dev) :
    (uddEpWaitStallClear call e cb d).rest = d.rest := by
  unfold uddEpWaitStallClear
  split_ifs
  · rfl
  · exact rest_onJob e _ d
  · exact hcall cb d
  · rfl

theorem rest_udiMscCbwWait (d : Dev) : (udiMscCbwWait call d).rest = d.rest := by
  unfold udiMscCbwWait
  dsimp only
  split_ifs
  · exact rest_uddEpRun cbwReq d
  · rw [rest_uddEpWaitStallClear hcall, rest_uddEpRun]

theorem rest_udiMscCswSend (d : Dev) : (udiMscCswSend call d).rest = d.rest := by
  unfold udiMscCswSend
  dsimp only
  split_ifs
  · exact rest_uddEpRun cswReq d
  · rw [rest_uddEpWaitStallClear hcall, rest_uddEpRun]

theorem rest_stallUntilReset (e : Ep) (cb : Callback) (d : Dev) :
    (stallUntilReset call e cb d).rest = d.rest := by
  unfold stallUntilReset
  split_ifs
  · rw [rest_uddEpWaitStallClear hcall, rest_uddEpSetHalt hcall]
  · rfl

theorem rest_abortedCallback (cb : Callback) (d : Dev) :
    (abortedCallback call cb d).rest = d.rest := by
  cases cb with
  | cbwReceived => rfl
  | dataSent => rfl
  | cswSent => exact rest_udiMscCbwWait hcall d
  | transAck => rfl
  | cbwWait => exact rest_udiMscCbwWait hcall d
  | cswSend => exact rest_udiMscCswSend hcall d
  | cbwInvalid => exact rest_stallUntilReset hcall .out .cbwInvalid d
  | cswInvalid => exact rest_stallUntilReset hcall .inn .cswInvalid d

end Call

theorem rest_callback (n : Nat) (cb : Callback) (d : Dev) : (callback n cb d).rest = d.rest := by
  induction n generalizing cb d with
  | zero => rfl
  | succ n ih => exact rest_abortedCallback ih cb d

/-- **A call from the driver keeps the rest of the state.** -/
theorem rest_uddCall (cb : Callback) (d : Dev) : (uddCall cb d).rest = d.rest :=
  rest_callback 3 cb d

end Firmware
end SoundingSoil
