import SoundingSoil.Firmware.Frame

/-!
# What a command and an interrupt do

One specification theorem for each function above the driver.  `Dev.core` is the state without the
transfers, the CSW and the sense data; the theorems `core_*` give the core after a function as the core
after a simple update, its *effect*; `Dev.link` also forgets the globals of the class driver.

* `commandEffect` — a SCSI command only checks the card, records an answer, or asks the main loop for
  a transfer (`core_scsiCommand`).
* `ifaceDown` / `ifaceUp` — disabling and enabling the interface (`core_udcIfaceDisable`,
  `core_udcIfaceEnable`).
* `completionEffect` — a completed transfer has an effect beyond the driver only if it was a CBW
  (`core_transferNext`).
-/

namespace SoundingSoil
namespace Firmware

/-- The state without the transfers, the CSW and the sense data. -/
def Dev.core (d : Dev) : Dev :=
  { d.rest with msc := { d.rest.msc with csw := mscReset.csw, sense := mscReset.sense } }

theorem core_of_rest {d d' : Dev} (h : d'.rest = d.rest) : d'.core = d.core := by
  simp only [Dev.core, h]

/-- The state without what the class driver works on while it is enabled. -/
def Dev.link (d : Dev) : Dev :=
  { d.core with msc := { mscReset with nbLun := d.core.msc.nbLun } }

theorem link_of_core {d d' : Dev} (h : d'.core = d.core) : d'.link = d.link := by
  simp only [Dev.link, h]

theorem link_of_rest {d d' : Dev} (h : d'.rest = d.rest) : d'.link = d.link :=
  link_of_core (core_of_rest h)

theorem app_of_link {d d' : Dev} (h : d'.link = d.link) : d'.app = d.app :=
  (congrArg Dev.app h :)

theorem bus_of_link {d d' : Dev} (h : d'.link = d.link) : d'.bus = d.bus :=
  (congrArg Dev.bus h :)

theorem store_of_link {d d' : Dev} (h : d'.link = d.link) : d'.store = d.store :=
  (congrArg Dev.store h :)

theorem nbLun_of_link {d d' : Dev} (h : d'.link = d.link) : d'.msc.nbLun = d.msc.nbLun :=
  (congrArg (fun d => (Dev.msc d).nbLun) h :)

theorem configured_of_link {d d' : Dev} (h : d'.link = d.link) (e : Ep) :
    (d'.ep e).configured = (d.ep e).configured := by
  have hep := congrArg (fun d => (Dev.ep d e).configured) h
  cases e <;> exact hep

theorem transReq_of_core {d d' : Dev} (h : d'.core = d.core) :
    d'.msc.bTransReq = d.msc.bTransReq :=
  congrArg (fun d => d.msc.bTransReq) h

/-! ## Commands -/

section Command

variable {call : Callback → Dev → Dev} (hcall : ∀ cb d, (call cb d).rest = d.rest)
include hcall

theorem core_udiMscCswProcess (d : Dev) : (udiMscCswProcess call d).core = d.core := by
  have htag (d : Dev) : (udiMscCswTag d).core = d.core := rfl
  unfold udiMscCswProcess
  dsimp only
  rw [core_of_rest (rest_udiMscCswSend hcall _), htag]
  split
  · exact core_of_rest (rest_uddEpSetHalt hcall _ d)
  · rfl

theorem core_endCommand (setSense : Dev → Dev) (hsense : ∀ d, (setSense d).core = d.core)
    (d : Dev) : (endCommand call setSense d).core = d.core := by
  rw [endCommand, core_udiMscCswProcess hcall, hsense]

theorem core_udiMscDataSend (n : Nat) (d : Dev) : (udiMscDataSend call n d).core = d.core := by
  have hrun : (uddEpRun (dataReq n) d).2.core = d.core := core_of_rest (rest_uddEpRun _ d)
  unfold udiMscDataSend
  dsimp only
  split_ifs
  · exact hrun
  · exact (core_endCommand hcall _ (fun _ => rfl) _).trans hrun

theorem core_udiMscDataSent (n : Nat) (d : Dev) : (udiMscDataSent call n d).core = d.core := by
  unfold udiMscDataSent
  dsimp only
  rw [core_udiMscCswProcess hcall]
  rfl

/-- A command that is refused for its length or direction ends without further effect. -/
theorem core_udiMscCbwValidate (n : Nat) (dirIn : Bool) (next effect : Dev → Dev) {d : Dev}
    (hnext : (next d).core = (effect d).core) :
    (udiMscCbwValidate call n dirIn next d).core =
      (if d.msc.cbwValid n dirIn then effect d else d).core := by
  unfold udiMscCbwValidate
  split_ifs
  · exact hnext
  · exact core_endCommand hcall udiMscSenseFailCdbInvalid (fun _ => rfl) d

omit hcall in
theorem core_senseOf (status : CtrlStatus) (d : Dev) : (senseOf status d).core = d.core := by
  cases status <;> rfl

theorem core_udiMscSpcRequestsense (d : Dev) : (udiMscSpcRequestsense call d).core = d.core := by
  unfold udiMscSpcRequestsense
  dsimp only
  rw [core_udiMscCbwValidate hcall _ _ _ id (core_udiMscDataSend hcall _ d), id, ite_self]

theorem core_udiMscSpcInquiry (d : Dev) : (udiMscSpcInquiry call d).core = d.core := by
  unfold udiMscSpcInquiry
  dsimp only
  rw [core_udiMscCbwValidate hcall _ _ _ id ?_, id, ite_self]
  split_ifs
  · exact core_endCommand hcall udiMscSenseFailCdbInvalid (fun _ => rfl) d
  · exact core_udiMscDataSend hcall _ d

theorem core_udiMscSpcModeSense (b : Bool) (d : Dev) :
    (udiMscSpcModeSense call b d).core = d.core := by
  unfold udiMscSpcModeSense
  dsimp only
  rw [core_udiMscCbwValidate hcall _ _ _ id (core_udiMscDataSend hcall _ d), id, ite_self]

theorem core_udiMscSpcPreventAllowMediumRemoval (d : Dev) :
    (udiMscSpcPreventAllowMediumRemoval call d).core = d.core := by
  refine core_endCommand hcall _ (fun d' => ?_) d
  split_ifs <;> rfl

/-- The START STOP UNIT command. -/
def startStopEffect (desc : LunDesc) (d : Dev) : Dev :=
  d.record
    (if d.loej then (memUnload desc d.msc.cbw.bCBWLUN (!d.start) d.store).2 else d.store)
    (.startStop d.loej d.start .pass)

/-- The READ(10) and WRITE(10) commands. -/
def transEffect (desc : LunDesc) (bRead : Bool) (d : Dev) : Dev :=
  if !bRead && memWrProtect desc d.msc.cbw.bCBWLUN then d
  else
    let d := { d with msc := { d.msc with addr := d.cdbAddr, nbBlock := d.cdbNbBlock } }
    if d.msc.cbwValid (d.msc.nbBlock.toNat * 512) bRead then
      { d with msc := { d.msc with bRead := bRead, bTransReq := true } }
    else d

/-- What a SCSI command does besides its answer. -/
def commandEffect (desc : LunDesc) (card : CardAnswer) (d : Dev) : Dev :=
  if d.operationCode = 0x00 then (checkUnitReady desc card d).2
  else if d.operationCode = 0x25 then
    if d.msc.cbwValid 8 true then (checkCapacity desc card d).2 else d
  else if d.operationCode = 0x1B then startStopEffect desc d
  else if d.operationCode = 0x28 then transEffect desc true d
  else if d.operationCode = 0x2A then transEffect desc false d
  else d

variable (desc : LunDesc) (card : CardAnswer)

theorem core_udiMscSpcTestunitready (d : Dev) :
    (udiMscSpcTestunitready call desc card d).core = (checkUnitReady desc card d).2.core := by
  refine core_endCommand hcall _ (fun d' => ?_) _
  split_ifs
  · rfl
  · exact core_senseOf _ d'

theorem core_udiMscSbcReadCapacity (d : Dev) :
    (udiMscSbcReadCapacity call desc card d).core =
      (if d.msc.cbwValid 8 true then (checkCapacity desc card d).2 else d).core := by
  refine core_udiMscCbwValidate hcall 8 true _ (fun d => (checkCapacity desc card d).2) ?_
  dsimp only
  split_ifs
  · exact core_udiMscDataSend hcall 8 _
  · exact core_endCommand hcall _ (core_senseOf _) _

theorem core_udiMscSbcStartStop (d : Dev) :
    (udiMscSbcStartStop call desc d).core = (startStopEffect desc d).core :=
  core_endCommand hcall udiMscSensePass (fun _ => rfl) _

theorem core_udiMscSbcTrans (bRead : Bool) (d : Dev) :
    (udiMscSbcTrans call desc bRead d).core = (transEffect desc bRead d).core := by
  unfold udiMscSbcTrans transEffect
  split_ifs with hwp
  · exact core_endCommand hcall udiMscSenseFailProtected (fun _ => rfl) d
  · exact core_udiMscCbwValidate hcall _ _ _
      (fun d => { d with msc := { d.msc with bRead := bRead, bTransReq := true } }) rfl

/-- **The effect of a command.** -/
theorem core_scsiCommand (d : Dev) :
    (scsiCommand call desc card d).core = (commandEffect desc card d).core := by
  unfold scsiCommand commandEffect
  by_cases h03 : d.operationCode = 0x03
  · simp only [h03, if_true]
    exact core_udiMscSpcRequestsense hcall d
  by_cases h12 : d.operationCode = 0x12
  · simp only [h12, if_true]
    exact core_udiMscSpcInquiry hcall d
  by_cases h1A : d.operationCode = 0x1A
  · simp only [h1A, if_true]
    exact core_udiMscSpcModeSense hcall false d
  by_cases h5A : d.operationCode = 0x5A
  · simp only [h5A, if_true]
    exact core_udiMscSpcModeSense hcall true d
  simp only [h03, h12, h1A, h5A, if_false]
  by_cases h00 : d.operationCode = 0x00
  · simp only [h00, if_true]
    exact core_udiMscSpcTestunitready hcall desc card d
  by_cases h25 : d.operationCode = 0x25
  · simp only [h25, if_true]
    exact core_udiMscSbcReadCapacity hcall desc card d
  by_cases h1B : d.operationCode = 0x1B
  · simp only [h1B, if_true]
    exact core_udiMscSbcStartStop hcall desc d
  simp only [h00, h25, h1B, if_false]
  by_cases h1E : d.operationCode = 0x1E
  · simp only [h1E, if_true]
    exact core_udiMscSpcPreventAllowMediumRemoval hcall d
  by_cases h2F : d.operationCode = 0x2F
  · simp only [h2F, if_true]
    exact core_endCommand hcall udiMscSensePass (fun _ => rfl) d
  simp only [h1E, h2F, if_false]
  by_cases h28 : d.operationCode = 0x28
  · simp only [h28, if_true]
    exact core_udiMscSbcTrans hcall desc true d
  by_cases h2A : d.operationCode = 0x2A
  · simp only [h2A, if_true]
    exact core_udiMscSbcTrans hcall desc false d
  simp only [h28, h2A, if_false]
  exact core_endCommand hcall udiMscSenseCommandInvalid (fun _ => rfl) d

/-! ## Completed transfers -/

/-- The reception of a command block. -/
def cbwEffect (nbReceived : Nat) (d : Dev) : Dev :=
  if !d.msc.cbwIntact nbReceived then { d with msc := { d.msc with bCbwInvalid := true } }
  else
    let d := { d with msc := { d.msc with
      cbw := { d.msc.cbw with bCBWLUN := d.msc.cbw.bCBWLUN &&& 0x0F } } }
    if d.msc.nbLun < d.msc.cbw.bCBWLUN then d
    else commandEffect desc card { d with msc := { d.msc with
      csw := { d.msc.csw with dCSWDataResidue := d.msc.cbw.dCBWDataTransferLength } } }

/-- The completion of a transfer with this callback. -/
def completionEffect (cb : Callback) (nbTrans : Nat) (d : Dev) : Dev :=
  if cb = .cbwReceived then cbwEffect desc card nbTrans d else d

theorem core_udiMscCbwReceived (n : Nat) (d : Dev) :
    (udiMscCbwReceived call desc card n d).core = (cbwEffect desc card n d).core := by
  unfold udiMscCbwReceived cbwEffect
  split_ifs with hintact
  · exact core_of_rest ((rest_stallUntilReset hcall _ _ _).trans (rest_stallUntilReset hcall _ _ _))
  · dsimp only
    split_ifs with hlun
    · exact core_endCommand hcall udiMscSenseFailCdbInvalid (fun _ => rfl) _
    · exact core_scsiCommand hcall desc card _

theorem core_completedCallback (cb : Callback) (n : Nat) (d : Dev) :
    (completedCallback call desc card cb n d).core = (completionEffect desc card cb n d).core := by
  cases cb with
  | cbwReceived => exact core_udiMscCbwReceived hcall desc card n d
  | dataSent => exact core_udiMscDataSent hcall n d
  | cswSent => exact core_of_rest (rest_udiMscCbwWait hcall d)
  | transAck => rfl
  | cbwWait => exact core_of_rest (rest_udiMscCbwWait hcall d)
  | cswSend => exact core_of_rest (rest_udiMscCswSend hcall d)
  | cbwInvalid => exact core_of_rest (rest_stallUntilReset hcall _ _ d)
  | cswInvalid => exact core_of_rest (rest_stallUntilReset hcall _ _ d)

/-- The state in which a finished transfer calls its function. -/
def released (e : Ep) (job : UddEpJob) (d : Dev) : Dev :=
  (d.onEp e Endpoint.abortJob).onJob e fun _ => job

/-- The completion of a hardware job. -/
def transferEffect (e : Ep) (next : TransNext) (d : Dev) : Dev :=
  match next with
  | .again _ _ => d
  | .complete job =>
      match job.call with
      | some cb => completionEffect desc card cb job.nbTrans (released e job d)
      | none => d

theorem core_transferNext (e : Ep) (next : TransNext) (d : Dev) :
    (transferNext e (completedCallback call desc card) next d).core =
      (transferEffect desc card e next d).core := by
  unfold transferNext transferEffect
  cases next with
  | again job size =>
      apply core_of_rest
      rw [rest_bufferJob, rest_onJob, rest_abortJob]
  | complete job =>
      cases hcb : job.call with
      | none =>
          simp only [hcb]
          apply core_of_rest
          rw [rest_onJob, rest_abortJob]
      | some cb =>
          simp only [hcb]
          exact core_completedCallback hcall desc card cb job.nbTrans (released e job d)

end Command

/-! ## The interface -/

/-- The endpoint is disabled. -/
def Endpoint.off (x : Endpoint) : Endpoint := { x with configured := false }

/-- The endpoint is enabled. -/
def Endpoint.on (x : Endpoint) : Endpoint := { x with configured := true }

/-- The interface is disabled. -/
def ifaceDown (d : Dev) : Dev :=
  udiMscDisable ((d.onEp .inn Endpoint.off).onEp .out Endpoint.off)

/-- The interface is enabled. -/
def ifaceUp (desc : LunDesc) (d : Dev) : Dev :=
  udiMscEnableReset desc ((d.onEp .inn Endpoint.on).onEp .out Endpoint.on)

section Interface

variable {call : Callback → Dev → Dev} (hcall : ∀ cb d, (call cb d).rest = d.rest)

/-- Disabling an endpoint depends on the rest of the state only. -/
theorem rest_off {d d' : Dev} (h : d'.rest = d.rest) (e : Ep) :
    (d'.onEp e Endpoint.off).rest = (d.onEp e Endpoint.off).rest := by
  have hoff (d : Dev) : (d.onEp e Endpoint.off).rest = d.rest.onEp e Endpoint.off := by
    cases e <;> rfl
  rw [hoff, hoff, h]

include hcall in
theorem rest_uddEpFree (e : Ep) (d : Dev) :
    (uddEpFree call e d).rest = (d.onEp e Endpoint.off).rest :=
  rest_off (rest_uddEpAbort hcall e d) e

include hcall in
theorem core_udcIfaceDisable (ifaceNum : BitVec 8) (d : Dev) :
    (udcIfaceDisable call ifaceNum d).2.core =
      (if udcUpdateIfaceDesc ifaceNum 0 d then ifaceDown d else d).core := by
  have hdisable (d : Dev) : (udiMscDisable d).rest = udiMscDisable d.rest := rfl
  unfold udcIfaceDisable
  split_ifs
  · apply core_of_rest
    rw [hdisable, ifaceDown, hdisable, rest_uddEpFree hcall]
    exact congrArg udiMscDisable (rest_off (rest_uddEpFree hcall .inn d) .out)
  · rfl

/-- An endpoint that `udd_ep_alloc` has enabled. -/
def Endpoint.allocated (x : Endpoint) : Endpoint :=
  { x with configured := true, armed := false, job := { x.job with epSize := 64 } }

theorem uddEpAlloc_free {e : Ep} {d : Dev} (h : (d.ep e).configured = false) :
    uddEpAlloc e d = (true, d.onEp e Endpoint.allocated) := by
  cases e with
  | inn => exact if_neg (ne_true_of_eq_false h)
  | out => exact if_neg (ne_true_of_eq_false h)

/-- Enabling the interface, when its endpoints are free, is never partial. -/
theorem udcIfaceEnable_free (desc : LunDesc) (ifaceNum settingNum : BitVec 8) {d : Dev}
    (hinn : d.inn.configured = false) (hout : d.out.configured = false) :
    udcIfaceEnable call desc ifaceNum settingNum d =
      if udcUpdateIfaceDesc ifaceNum settingNum d then
        (true, udiMscEnable call desc
          ((d.onEp .inn Endpoint.allocated).onEp .out Endpoint.allocated))
      else (false, d) := by
  have hfirst : uddEpAlloc .inn d = (true, d.onEp .inn Endpoint.allocated) :=
    uddEpAlloc_free hinn
  have hsecond : uddEpAlloc .out (d.onEp .inn Endpoint.allocated) =
      (true, (d.onEp .inn Endpoint.allocated).onEp .out Endpoint.allocated) :=
    uddEpAlloc_free hout
  unfold udcIfaceEnable
  rw [hfirst]
  dsimp only
  rw [hsecond]
  rfl

include hcall in
theorem core_udcIfaceEnable (desc : LunDesc) (ifaceNum settingNum : BitVec 8) {d : Dev}
    (hinn : d.inn.configured = false) (hout : d.out.configured = false) :
    (udcIfaceEnable call desc ifaceNum settingNum d).2.core =
      (if udcUpdateIfaceDesc ifaceNum settingNum d then ifaceUp desc d else d).core := by
  rw [udcIfaceEnable_free desc ifaceNum settingNum hinn hout]
  split_ifs
  · exact core_of_rest (rest_udiMscCbwWait hcall _)
  · rfl

end Interface

end Firmware
end SoundingSoil
