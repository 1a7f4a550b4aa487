import SoundingSoil.Firmware.UdiMsc

/-!
# The device core and the interrupt handlers

`udc.c` for the one configuration and the one interface of the device, the bus events of
`usb_device_udd.c`, and the VBUS handler.  `serveIrq` is what one interrupt does.

A SETUP packet is given by its five fields.  The data stage of a control transfer is not modelled:
`ep0TransferOk` says whether more of it follows.  Only requests without an OUT data stage are ever
accepted.

`udd_ep_get_job` does not check the endpoint number, and `udc_req_std_ep_set_feature` aborts the job
before any check: with the endpoint 0, or one above the table `udd_ep_job`, it goes through an entry that
is none.  What such a request does depends on the memory around the table, so it is left out:
`UsbSetupReq` carries the assumption that the host sends none (`reachesJob`).
-/

namespace SoundingSoil
namespace Firmware

/-- `USB_DEVICE_MAX_EP`. -/
def usbDeviceMaxEp : BitVec 8 := 2

/-- `ep & USB_EP_ADDR_MASK`. -/
def epNum (ep : BitVec 8) : BitVec 8 := ep &&& 0x0F

/-- `wIndex & 0xFF`. -/
def epOfIndex (wIndex : BitVec 16) : BitVec 8 := (wIndex &&& 0xFF).setWidth 8

/-- The request does not make `udd_ep_get_job` leave the table: CLEAR_FEATURE(ENDPOINT_HALT) names no
endpoint 0, and SET_FEATURE(ENDPOINT_HALT), which looks before the check, none above the last either. -/
def reachesJob (bmRequestType bRequest : BitVec 8) (wValue wIndex wLength : BitVec 16) : Bool :=
  let num := epNum (epOfIndex wIndex)
  !(bmRequestType &&& 0xE0 == 0 && bmRequestType &&& 0x1F == 2 && wValue == 0 && wLength == 0
    && (bRequest == 1 && num == 0 || bRequest == 3 && (num == 0 || usbDeviceMaxEp < num)))

/-- `usb_setup_req_t`. -/
structure UsbSetupReq where
  bmRequestType : BitVec 8
  bRequest : BitVec 8
  wValue : BitVec 16
  wIndex : BitVec 16
  wLength : BitVec 16
  reachesJob : reachesJob bmRequestType bRequest wValue wIndex wLength = true
  deriving DecidableEq, Repr

namespace UsbSetupReq

/-- `Udd_setup_is_in`. -/
def isIn (r : UsbSetupReq) : Bool := r.bmRequestType &&& 0x80 != 0

/-- `Udd_setup_type`. -/
def type (r : UsbSetupReq) : BitVec 8 := r.bmRequestType &&& 0x60

/-- `Udd_setup_recipient`. -/
def recipient (r : UsbSetupReq) : BitVec 8 := r.bmRequestType &&& 0x1F

/-- `wIndex & 0xFF`. -/
def wIndexLow (r : UsbSetupReq) : BitVec 8 := epOfIndex r.wIndex

/-- `wValue & 0xFF`. -/
def wValueLow (r : UsbSetupReq) : BitVec 8 := (r.wValue &&& 0xFF).setWidth 8

/-- The bulk endpoint with the number and the direction in `wIndex & 0xFF`.  The jobs of the other two
endpoints in the table are never used. -/
def wIndexEp (r : UsbSetupReq) : Option Ep :=
  if r.wIndexLow &&& 0x8F = 0x81 then some .inn
  else if r.wIndexLow &&& 0x8F = 0x02 then some .out
  else none

end UsbSetupReq

/-! ## Sleep modes -/

/-- The table of `udd_sleep_mode`. -/
def uddSleepModeOf : UddUsbState → SleepmgrMode
  | .off => .active
  | .suspend => .idle2
  | .suspendLpm => .idle1
  | .idle => .idle0

def sleepmgrLockMode (mode : SleepmgrMode) (s : Sleep) : Sleep :=
  { s with sleepmgrLocks :=
      Function.update s.sleepmgrLocks mode (s.sleepmgrLocks mode + 1) }

def sleepmgrUnlockMode (mode : SleepmgrMode) (s : Sleep) : Sleep :=
  { s with sleepmgrLocks :=
      Function.update s.sleepmgrLocks mode (s.sleepmgrLocks mode - 1) }

/-- `udd_sleep_mode`: the new limit is locked before the old one is released. -/
def uddSleepMode (newState : UddUsbState) (s : Sleep) : Sleep :=
  if s.uddState = newState then s
  else
    let old := s.uddState
    let s := if newState ≠ .off then sleepmgrLockMode (uddSleepModeOf newState) s else s
    let s := if old ≠ .off then sleepmgrUnlockMode (uddSleepModeOf old) s else s
    { s with uddState := newState }

/-! ## Attachment -/

def Dev.onSleep (f : Sleep → Sleep) (d : Dev) : Dev :=
  { d with sleep := f d.sleep }

def uddDetach (d : Dev) : Dev :=
  { d with bus := { d.bus with attached := false } }.onSleep (uddSleepMode .suspend)

def uddAttach (d : Dev) : Dev :=
  { d.onSleep (uddSleepMode .idle) with bus := { d.bus with attached := true } }

/-- `_uhd_vbus_handler`: the hook `UDC_VBUS_EVENT` is defined empty by `conf_usb.h`. -/
def uhdVbusHandler (vbusHigh : Bool) (d : Dev) : Dev :=
  if vbusHigh then uddAttach d else uddDetach d

/-! ## Configuration -/

section Device

variable (call : Callback → Dev → Dev) (desc : LunDesc)

/-- `udc_update_iface_desc`: the configuration has the interface 0 with the setting 0 only. -/
def udcUpdateIfaceDesc (ifaceNum settingNum : BitVec 8) (d : Dev) : Bool :=
  d.bus.udcNumConfiguration != 0 && ifaceNum == 0 && settingNum == 0

/-- `udc_iface_disable`: the endpoint descriptors are in the order IN, OUT. -/
def udcIfaceDisable (ifaceNum : BitVec 8) (d : Dev) : Bool × Dev :=
  if udcUpdateIfaceDesc ifaceNum 0 d then
    (true, udiMscDisable (uddEpFree call .out (uddEpFree call .inn d)))
  else (false, d)

def udcIfaceEnable (ifaceNum settingNum : BitVec 8) (d : Dev) : Bool × Dev :=
  if udcUpdateIfaceDesc ifaceNum settingNum d then
    let inn := uddEpAlloc .inn d
    if inn.1 then
      let out := uddEpAlloc .out inn.2
      if out.1 then (true, udiMscEnable call desc out.2) else (false, out.2)
    else (false, inn.2)
  else (false, d)

def Dev.setNumConfiguration (n : BitVec 8) (d : Dev) : Dev :=
  { d with bus := { d.bus with udcNumConfiguration := n } }

def udcReset (d : Dev) : Dev :=
  let d := if d.bus.udcNumConfiguration ≠ 0 then (udcIfaceDisable call 0 d).2 else d
  d.setNumConfiguration 0

/-- SET_CONFIGURATION is accepted: no data, an address, and at most one configuration. -/
def setConfigurationOk (r : UsbSetupReq) (d : Dev) : Bool :=
  r.wLength == 0 && d.bus.address != 0 && r.wValueLow.toNat ≤ 1

def udcReqStdDevSetConfiguration (r : UsbSetupReq) (d : Dev) : Bool × Dev :=
  if setConfigurationOk r d then
    let n := r.wValueLow
    let d := (udcReset call d).setNumConfiguration n
    if n = 0 then (true, d) else udcIfaceEnable call desc 0 0 d
  else (false, d)

def udcReqStdIfaceSetSetting (r : UsbSetupReq) (d : Dev) : Bool × Dev :=
  if r.wLength ≠ 0 then (false, d)
  else if d.bus.udcNumConfiguration = 0 then (false, d)
  else
    let ifaceNum := r.wIndexLow
    let settingNum := r.wValueLow
    let disable := udcIfaceDisable call ifaceNum d
    if disable.1 then udcIfaceEnable call desc ifaceNum settingNum disable.2
    else (false, disable.2)

/-- `udc_req_std_ep_clear_feature`. -/
def udcReqStdEpClearFeature (r : UsbSetupReq) (d : Dev) : Bool × Dev :=
  if r.wLength ≠ 0 ∨ r.wValue ≠ 0 then (false, d)
  else if usbDeviceMaxEp < epNum r.wIndexLow then (false, d)
  else
    match r.wIndexEp with
    | some e => (true, uddEpClearHalt call e d)
    | none => (true, d)

/-- `udc_req_std_ep_set_feature`: by `reachesJob` the number is 1 or 2 when the halt is set. -/
def udcReqStdEpSetFeature (r : UsbSetupReq) (d : Dev) : Bool × Dev :=
  if r.wLength ≠ 0 ∨ r.wValue ≠ 0 then (false, d)
  else
    match r.wIndexEp with
    | some e => (true, uddEpSetHalt call e (uddEpAbort call e d))
    | none => (true, d)

/-- The descriptors that `udc_req_std_dev_get_descriptor` can give. -/
def getDescriptorOk (r : UsbSetupReq) : Bool :=
  r.wValue >>> 8 == 1
    || r.wValue >>> 8 == 2 && r.wValueLow == 0
    || r.wValue >>> 8 == 3 && r.wValueLow.toNat ≤ 3

/-- The standard requests that return data. -/
def udcReqstdIn (r : UsbSetupReq) (d : Dev) : Bool :=
  if r.recipient = 0 then
    if r.bRequest = 0 then r.wLength == 2
    else if r.bRequest = 6 then getDescriptorOk r
    else if r.bRequest = 8 then r.wLength == 1
    else false
  else if r.recipient = 1 then
    r.bRequest == 10 && r.wLength == 1 && udcUpdateIfaceDesc r.wIndexLow 0 d
  else if r.recipient = 2 then r.bRequest == 0 && r.wLength == 2
  else false

/-- The standard requests without data.  SET_ADDRESS registers `udc_valid_address`. -/
def udcReqstdOut (r : UsbSetupReq) (d : Dev) : Bool × Dev :=
  if r.recipient = 0 then
    if r.bRequest = 5 then
      if r.wLength = 0 then
        (true, { d with bus := { d.bus with addressCallback := some r.wValue } })
      else (false, d)
    else if r.bRequest = 1 then (r.wLength == 0 && r.wValue == 1, d)
    else if r.bRequest = 9 then udcReqStdDevSetConfiguration call desc r d
    else (false, d)
  else if r.recipient = 1 then
    if r.bRequest = 11 then udcReqStdIfaceSetSetting call desc r d else (false, d)
  else if r.recipient = 2 then
    if r.bRequest = 1 then udcReqStdEpClearFeature call r d
    else if r.bRequest = 3 then udcReqStdEpSetFeature call r d
    else (false, d)
  else (false, d)

def udcReqstd (r : UsbSetupReq) (d : Dev) : Bool × Dev :=
  if r.isIn then (udcReqstdIn r d, d) else udcReqstdOut call desc r d

/-- A Bulk-Only Mass Storage Reset that `udi_msc_setup` accepts. -/
def UsbSetupReq.isBulkReset (r : UsbSetupReq) : Bool :=
  !r.isIn && r.type == 0x20 && r.bRequest == 0xFF && r.wLength == 0 && r.wValue == 0

def udiMscSetup (r : UsbSetupReq) (d : Dev) : Bool × Dev :=
  if r.isIn && r.type == 0x20 && r.bRequest == 0xFE then (r.wLength == 1 && r.wValue == 0, d)
  else if r.isBulkReset then (true, udiMscBulkReset call d)
  else (false, d)

/-- `udc_req_iface` and `udc_req_ep`: the request goes to the only interface. -/
def udcReqIface (r : UsbSetupReq) (d : Dev) : Bool × Dev :=
  if udcUpdateIfaceDesc r.wIndexLow 0 d then udiMscSetup call r d
  else (false, d)

def udcReqEp (r : UsbSetupReq) (d : Dev) : Bool × Dev :=
  if udcUpdateIfaceDesc 0 0 d then udiMscSetup call r d else (false, d)

/-- Try the next decoder when a request is not supported. -/
def orElse (first : Bool × Dev) (next : Dev → Bool × Dev) : Bool × Dev :=
  if first.1 then first else next first.2

def udcProcessSetup (r : UsbSetupReq) (d : Dev) : Bool × Dev :=
  let d := { d with bus := { d.bus with addressCallback := none } }
  if r.isIn && r.wLength == 0 then (false, d)
  else
    orElse (if r.type = 0 then udcReqstd call desc r d else (false, d)) fun d =>
      orElse (if r.recipient = 1 then udcReqIface call r d else (false, d)) fun d =>
        if r.recipient = 2 then udcReqEp call r d else (false, d)

/-! ## The control endpoint -/

/-- The callback of a control request, `udc_valid_address` when there is one. -/
def udcValidAddress (d : Dev) : Dev :=
  match d.bus.addressCallback with
  | some wValue => { d with bus := { d.bus with address := wValue.setWidth 7 } }
  | none => d

def Dev.setCtrlState (state : UddCtrlEpState) (d : Dev) : Dev :=
  { d with bus := { d.bus with ctrlState := state } }

/-- `_usb_ep0_on_setup`: a request that interrupts another first completes its callback. -/
def usbEp0OnSetup (r : UsbSetupReq) (d : Dev) : Dev :=
  let d := if d.bus.ctrlState ≠ .setup then (udcValidAddress d).setCtrlState .setup else d
  let setup := udcProcessSetup call desc r d
  if !setup.1 then setup.2.setCtrlState .stallReq
  else if r.isIn then setup.2.setCtrlState .dataIn
  else setup.2.setCtrlState .handshakeWaitInZlp

/-- `_usb_ep0_on_tansfer_ok`. -/
def usbEp0OnTransferOk (more : Bool) (d : Dev) : Dev :=
  if d.bus.ctrlState = .dataIn then
    if more then d else d.setCtrlState .handshakeWaitOutZlp
  else (udcValidAddress d).setCtrlState .setup

/-- `_usb_ep0_on_tansfer_fail`: the host may end the data stage early. -/
def usbEp0OnTransferFail (dirIn : Bool) (d : Dev) : Dev :=
  if !dirIn && d.bus.ctrlState = .dataIn then d.setCtrlState .handshakeWaitOutZlp else d

/-! ## Bus events -/

/-- `_usb_on_bus_reset`. -/
def usbOnBusReset (d : Dev) : Dev :=
  let d := udcReset call d
  { d with bus := { d.bus with address := 0, ctrlEnabled := true, ctrlState := .setup } }

def Dev.onPort (f : Board.Port → Board.Port) (d : Dev) : Dev :=
  { d with app := { d.app with port := f d.app.port } }

/-- `_usb_on_suspend` with `main_suspend_action`. -/
def usbOnSuspend (d : Dev) : Dev :=
  (d.onSleep (uddSleepMode .suspend)).onPort (Board.uiPowerdown Board.samd21XplainedPro)

/-- `_usb_on_wakeup` with `main_resume_action`. -/
def usbOnWakeup (d : Dev) : Dev :=
  (d.onSleep (uddSleepMode .idle)).onPort (Board.uiWakeup Board.samd21XplainedPro)

/-- `_usb_on_sof_notify` with `main_sof_action`; the interface has no `sof_notify`. -/
def usbOnSofNotify (framenumber : BitVec 16) (d : Dev) : Dev :=
  if d.app.mainBMscEnable then
    d.onPort (Board.uiProcess Board.samd21XplainedPro framenumber)
  else d

/-! ## Bulk endpoints -/

/-- The hardware can complete a job on this endpoint. -/
def Endpoint.running (x : Endpoint) : Bool :=
  x.configured && x.armed

/-- A completed hardware job: go on with the transfer, or end it and call its function. -/
def transferNext (e : Ep) (done : Callback → Nat → Dev → Dev) (next : TransNext) (d : Dev) : Dev :=
  let d := d.onEp e Endpoint.abortJob
  match next with
  | .again job size => (usbDeviceEndpointBufferJob e size (d.onJob e fun _ => job)).2
  | .complete job =>
      let d := d.onJob e fun _ => job
      match job.call with
      | some cb => done cb job.nbTrans d
      | none => d

/-- The transfer-complete interrupt of the IN endpoint. -/
def transferIn (card : CardAnswer) (d : Dev) : Dev :=
  if d.inn.running then
    transferNext .inn (completedCallback call desc card)
      (uddEpTransInNext d.inn.hwSize d.inn.job) d
  else d

/-- The data of a CBW reach `udi_msc_cbw` through the cache buffer. -/
def storeReceived (cbw : UsbMscCbw) (d : Dev) : Dev :=
  if d.out.job.bUseOutCacheBuffer ∧ d.out.job.buf = .cbw then
    { d with msc := { d.msc with cbw := cbw } }
  else d

/-- The transfer-complete interrupt of the OUT endpoint, with the number of bytes received and what the
cache buffer then holds. -/
def transferOut (received : Nat) (cbw : UsbMscCbw) (card : CardAnswer) (d : Dev) : Dev :=
  if d.out.running then
    transferNext .out (completedCallback call desc card)
      (uddEpTransOutNext received d.out.hwSize d.out.job) (storeReceived cbw d)
  else d

end Device

/-! ## Interrupts -/

/-- The interrupts of the USB module and of the VBUS pin.  A completed transfer comes with what the
card would answer to a readiness check. -/
inductive Irq
  | vbus (high : Bool)
  | busReset
  | suspend
  | wakeup
  | sof (framenumber : BitVec 16)
  | setup (req : UsbSetupReq)
  | ep0TransferOk (more : Bool)
  | ep0TransferFail (dirIn : Bool)
  | transferIn (card : CardAnswer)
  | transferOut (received : Nat) (cbw : UsbMscCbw) (card : CardAnswer)
  deriving DecidableEq, Repr

/-- The interrupt is one of the control endpoint. -/
def Irq.onControl : Irq → Bool
  | .setup _ | .ep0TransferOk _ | .ep0TransferFail _ => true
  | _ => false

/-- What one interrupt does; interrupts do not nest. -/
def serveIrq (desc : LunDesc) (irq : Irq) (d : Dev) : Dev :=
  match irq with
  | .vbus high => uhdVbusHandler high d
  | .busReset => usbOnBusReset uddCall d
  | .suspend => usbOnSuspend d
  | .wakeup => usbOnWakeup d
  | .sof framenumber => usbOnSofNotify framenumber d
  | .setup req => usbEp0OnSetup uddCall desc req d
  | .ep0TransferOk more => usbEp0OnTransferOk more d
  | .ep0TransferFail dirIn => usbEp0OnTransferFail dirIn d
  | .transferIn card => transferIn uddCall desc card d
  | .transferOut received cbw card => transferOut uddCall desc received cbw card d

end Firmware
end SoundingSoil
