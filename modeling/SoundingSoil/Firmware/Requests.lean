import SoundingSoil.Firmware.Effect

/-!
# What a control request does

`udc_process_setup` tries several decoders in turn.  `setupAction` is what they decide together, a pure
function of the request and the state, and `SetupAction.run` is what is then done; `udcProcessSetup_eq`
is the inversion theorem for the whole decoder.

* `core_setConfiguration` / `core_setInterface` — the effect of the two requests that disable and enable
  the interface, in states where no endpoint is enabled without a configuration (`Bound`).
-/

namespace SoundingSoil
namespace Firmware

/-- What an accepted control request does to the device. -/
inductive SetupAction
  | none
  | address (wValue : BitVec 16)
  | configuration (n : BitVec 8)
  | interface (settingNum : BitVec 8)
  | clearHalt (e : Ep)
  | setHalt (e : Ep)
  | bulkReset
  deriving DecidableEq, Repr

/-- The action of an endpoint request on its endpoint. -/
def UsbSetupReq.onEp (r : UsbSetupReq) (action : Ep → SetupAction) : SetupAction :=
  if r.wLength ≠ 0 ∨ r.wValue ≠ 0 then .none
  else
    match r.wIndexEp with
    | some e => action e
    | Option.none => .none

/-- The action of a standard request without data. -/
def standardAction (r : UsbSetupReq) (d : Dev) : SetupAction :=
  if r.recipient = 0 then
    if r.bRequest = 5 then if r.wLength = 0 then .address r.wValue else .none
    else if r.bRequest = 9 then
      if setConfigurationOk r d then .configuration r.wValueLow else .none
    else .none
  else if r.recipient = 1 then
    if r.bRequest = 11 ∧ r.wLength = 0 ∧ udcUpdateIfaceDesc r.wIndexLow 0 d then
      .interface r.wValueLow
    else .none
  else if r.recipient = 2 then
    if r.bRequest = 1 then r.onEp .clearHalt
    else if r.bRequest = 3 then r.onEp .setHalt
    else .none
  else .none

/-- The action of a control request. -/
def setupAction (r : UsbSetupReq) (d : Dev) : SetupAction :=
  if r.isIn then .none
  else if r.type = 0 then standardAction r d
  else if r.isBulkReset
      ∧ (r.recipient = 1 ∧ udcUpdateIfaceDesc r.wIndexLow 0 d
        ∨ r.recipient = 2 ∧ udcUpdateIfaceDesc 0 0 d) then
    .bulkReset
  else .none

section Action

variable (call : Callback → Dev → Dev) (desc : LunDesc)

/-- An accepted SET_CONFIGURATION request. -/
def setConfiguration (n : BitVec 8) (d : Dev) : Dev :=
  let d := (udcReset call d).setNumConfiguration n
  if n = 0 then d else (udcIfaceEnable call desc 0 0 d).2

/-- A SET_INTERFACE request for the interface of the configuration. -/
def setInterface (settingNum : BitVec 8) (d : Dev) : Dev :=
  (udcIfaceEnable call desc 0 settingNum (udcIfaceDisable call 0 d).2).2

def SetupAction.run (action : SetupAction) (d : Dev) : Dev :=
  match action with
  | .none => d
  | .address wValue => { d with bus := { d.bus with addressCallback := some wValue } }
  | .configuration n => setConfiguration call desc n d
  | .interface settingNum => setInterface call desc settingNum d
  | .clearHalt e => uddEpClearHalt call e d
  | .setHalt e => uddEpSetHalt call e (uddEpAbort call e d)
  | .bulkReset => udiMscBulkReset call d

/-! ## The decoders -/

theorem ifaceNum_of_found {ifaceNum settingNum : BitVec 8} {d : Dev}
    (h : udcUpdateIfaceDesc ifaceNum settingNum d = true) :
    d.bus.udcNumConfiguration ≠ 0 ∧ ifaceNum = 0 ∧ settingNum = 0 := by
  simpa only [udcUpdateIfaceDesc, Bool.and_eq_true, bne_iff_ne, beq_iff_eq, and_assoc] using h

omit call desc in
/-- The interface 0 of a configuration is found with its only setting. -/
theorem udcUpdateIfaceDesc_zero {d : Dev} (hconf : d.bus.udcNumConfiguration ≠ 0)
    (settingNum : BitVec 8) : udcUpdateIfaceDesc 0 settingNum d = decide (settingNum = 0) := by
  have hne : (d.bus.udcNumConfiguration != 0) = true := bne_iff_ne.mpr hconf
  rw [udcUpdateIfaceDesc, hne]
  rfl

theorem udcReqStdIfaceSetSetting_eq (r : UsbSetupReq) (d : Dev) :
    (udcReqStdIfaceSetSetting call desc r d).2 =
      if r.wLength = 0 ∧ udcUpdateIfaceDesc r.wIndexLow 0 d then
        setInterface call desc r.wValueLow d
      else d := by
  unfold udcReqStdIfaceSetSetting
  by_cases hlen : r.wLength = 0
  · by_cases hfound : udcUpdateIfaceDesc r.wIndexLow 0 d = true
    · obtain ⟨hconf, hzero, -⟩ := ifaceNum_of_found hfound
      have hdisable : (udcIfaceDisable call r.wIndexLow d).1 = true := by
        rw [udcIfaceDisable, if_pos hfound]
      rw [hzero] at hfound hdisable
      simp only [hlen, ne_eq, not_true_eq_false, if_false, hconf, hzero, hdisable, if_true, hfound,
        and_self, setInterface]
    · have hdisable : udcIfaceDisable call r.wIndexLow d = (false, d) := by
        rw [udcIfaceDisable, if_neg hfound]
      simp only [hlen, ne_eq, not_true_eq_false, if_false, hdisable, hfound, and_false,
        Bool.false_eq_true, ite_self]
  · simp only [ne_eq, hlen, not_false_eq_true, if_true, false_and, if_false]

theorem onEp_run (r : UsbSetupReq) (action : Ep → SetupAction) (d : Dev) :
    (r.onEp action).run call desc d =
      if r.wLength ≠ 0 ∨ r.wValue ≠ 0 then d
      else
        match r.wIndexEp with
        | some e => (action e).run call desc d
        | Option.none => d := by
  unfold UsbSetupReq.onEp
  split_ifs
  · rfl
  · cases r.wIndexEp <;> rfl

/-- A number above the last endpoint is none of a bulk endpoint. -/
theorem wIndexEp_of_above {r : UsbSetupReq} (h : usbDeviceMaxEp < epNum r.wIndexLow) : r.wIndexEp = none := by
  have hnum : ∀ ep : BitVec 8, usbDeviceMaxEp < epNum ep → ep &&& 0x8F ≠ 0x81 ∧ ep &&& 0x8F ≠ 0x02 := by decide
  obtain ⟨hinn, hout⟩ := hnum r.wIndexLow h
  rw [UsbSetupReq.wIndexEp, if_neg hinn, if_neg hout]

theorem udcReqstdOut_eq (r : UsbSetupReq) (d : Dev) :
    (udcReqstdOut call desc r d).2 = (standardAction r d).run call desc d := by
  unfold udcReqstdOut standardAction
  by_cases hdev : r.recipient = 0
  · simp only [if_pos hdev]
    by_cases h5 : r.bRequest = 5
    · simp only [if_pos h5]
      by_cases hlen : r.wLength = 0
      · simp only [if_pos hlen, SetupAction.run]
      · simp only [if_neg hlen, SetupAction.run]
    · simp only [if_neg h5]
      by_cases h1 : r.bRequest = 1
      · have h9 : r.bRequest ≠ 9 := by
          rw [h1]
          decide
        simp only [if_pos h1, if_neg h9, SetupAction.run]
      · simp only [if_neg h1]
        by_cases h9 : r.bRequest = 9
        · simp only [if_pos h9, udcReqStdDevSetConfiguration]
          by_cases hok : setConfigurationOk r d = true
          · simp only [if_pos hok, SetupAction.run, setConfiguration]
            split_ifs <;> rfl
          · simp only [if_neg hok, SetupAction.run]
        · simp only [if_neg h9, SetupAction.run]
  · simp only [if_neg hdev]
    by_cases hif : r.recipient = 1
    · simp only [if_pos hif]
      by_cases h11 : r.bRequest = 11
      · rw [if_pos h11, udcReqStdIfaceSetSetting_eq]
        simp only [h11, true_and]
        split_ifs <;> rfl
      · simp only [h11, false_and, if_false, SetupAction.run]
    · simp only [if_neg hif]
      by_cases hep : r.recipient = 2
      · simp only [if_pos hep]
        by_cases h1 : r.bRequest = 1
        · simp only [if_pos h1, onEp_run, udcReqStdEpClearFeature]
          split_ifs with hsize hnum
          · rfl
          · rw [wIndexEp_of_above hnum]
          · cases r.wIndexEp <;> rfl
        · simp only [if_neg h1]
          by_cases h3 : r.bRequest = 3
          · simp only [if_pos h3, onEp_run, udcReqStdEpSetFeature]
            split_ifs
            · rfl
            · cases r.wIndexEp <;> rfl
          · simp only [if_neg h3, SetupAction.run]
      · simp only [if_neg hep, SetupAction.run]

theorem udiMscSetup_eq (r : UsbSetupReq) (d : Dev) :
    (udiMscSetup call r d).2 = if r.isBulkReset then udiMscBulkReset call d else d := by
  unfold udiMscSetup
  by_cases hin : r.isIn = true
  · have hreset : r.isBulkReset = false := by simp [UsbSetupReq.isBulkReset, hin]
    simp only [hreset, Bool.false_eq_true, if_false]
    split_ifs <;> rfl
  · simp only [Bool.not_eq_true] at hin
    simp only [hin, Bool.false_and, Bool.false_eq_true, if_false]
    split_ifs <;> rfl

/-- Only a request of the class reaches the class driver with an effect. -/
theorem isBulkReset_type {r : UsbSetupReq} (h : r.isBulkReset = true) :
    r.isIn = false ∧ r.type = 0x20 := by
  simp only [UsbSetupReq.isBulkReset, Bool.and_eq_true, Bool.not_eq_true', beq_iff_eq] at h
  exact ⟨h.1.1.1.1, h.1.1.1.2⟩

theorem udcReqIface_eq (r : UsbSetupReq) (d : Dev) :
    (udcReqIface call r d).2 =
      if r.isBulkReset ∧ udcUpdateIfaceDesc r.wIndexLow 0 d then udiMscBulkReset call d else d := by
  unfold udcReqIface
  by_cases hfound : udcUpdateIfaceDesc r.wIndexLow 0 d = true
  · simp only [hfound, if_true, udiMscSetup_eq, and_true]
  · simp only [hfound, if_false, and_false, Bool.false_eq_true]

theorem udcReqEp_eq (r : UsbSetupReq) (d : Dev) :
    (udcReqEp call r d).2 =
      if r.isBulkReset ∧ udcUpdateIfaceDesc 0 0 d then udiMscBulkReset call d else d := by
  unfold udcReqEp
  by_cases hfound : udcUpdateIfaceDesc 0 0 d = true
  · simp only [hfound, if_true, udiMscSetup_eq, and_true]
  · simp only [hfound, if_false, and_false, Bool.false_eq_true]

/-- The class decoders together. -/
def classDecoders (r : UsbSetupReq) (d : Dev) : Bool × Dev :=
  orElse (if r.recipient = 1 then udcReqIface call r d else (false, d)) fun d =>
    if r.recipient = 2 then udcReqEp call r d else (false, d)

theorem classDecoders_eq (r : UsbSetupReq) (d : Dev) :
    (classDecoders call r d).2 =
      if r.isBulkReset
          ∧ (r.recipient = 1 ∧ udcUpdateIfaceDesc r.wIndexLow 0 d
            ∨ r.recipient = 2 ∧ udcUpdateIfaceDesc 0 0 d) then
        udiMscBulkReset call d
      else d := by
  unfold classDecoders orElse
  by_cases h1 : r.recipient = 1
  · have h2 : r.recipient ≠ 2 := by
      rw [h1]
      decide
    simp only [h1, if_true, true_and]
    have hne : (1 : BitVec 8) ≠ 2 := by decide
    simp only [hne, if_false, ite_self, false_and, or_false, apply_ite Prod.snd]
    split_ifs with hdone <;> simp_all [udcReqIface_eq]
  · simp only [h1, if_false, Bool.false_eq_true, false_and, false_or]
    by_cases h2 : r.recipient = 2
    · simp only [h2, if_true, true_and, udcReqEp_eq]
    · simp only [h2, if_false, false_and, and_false]

/-- **Inversion of the request decoder.** -/
theorem udcProcessSetup_eq (r : UsbSetupReq) (d : Dev) :
    (udcProcessSetup call desc r d).2 =
      (setupAction r { d with bus := { d.bus with addressCallback := none } }).run call desc
        { d with bus := { d.bus with addressCallback := none } } := by
  unfold udcProcessSetup
  dsimp only
  generalize { d with bus := { d.bus with addressCallback := none } } = d
  unfold setupAction
  change Prod.snd (if _ then _ else orElse _ (classDecoders call r)) = _
  by_cases hin : r.isIn = true
  · -- A request for data changes nothing in any decoder.
    have hreset : ¬ r.isBulkReset = true := fun h => by simp [(isBulkReset_type h).1] at hin
    have hclass (d : Dev) : (classDecoders call r d).2 = d := by
      rw [classDecoders_eq, if_neg (fun h => hreset h.1)]
    have hstd : (udcReqstd call desc r d).2 = d := by
      rw [udcReqstd, if_pos hin]
    rw [if_pos hin]
    change _ = d
    split_ifs <;> simp only [orElse, apply_ite Prod.snd, hclass, hstd, ite_self]
  · have hlen : (r.isIn && r.wLength == 0) = false := by simp [hin]
    rw [if_neg hin, hlen]
    simp only [Bool.false_eq_true, if_false]
    by_cases htype : r.type = 0
    · -- A standard request that is not supported is none of the class either.
      have hreset : ¬ r.isBulkReset = true := fun h => by
        rw [(isBulkReset_type h).2] at htype
        exact absurd htype (by decide)
      have hclass (d : Dev) : (classDecoders call r d).2 = d := by
        rw [classDecoders_eq, if_neg (fun h => hreset h.1)]
      rw [if_pos htype, if_pos htype, ← udcReqstdOut_eq, udcReqstd, if_neg hin]
      simp only [orElse, apply_ite Prod.snd, hclass, ite_self]
    · rw [if_neg htype, if_neg htype]
      simp only [orElse, Bool.false_eq_true, if_false]
      rw [classDecoders_eq]
      split_ifs <;> rfl

/-- The state in which a SETUP packet is decoded: a request that was under way has completed its
callback. -/
def beginSetup (d : Dev) : Dev :=
  let d := if d.bus.ctrlState ≠ .setup then (udcValidAddress d).setCtrlState .setup else d
  { d with bus := { d.bus with addressCallback := none } }

/-- What a SETUP packet does: its action, and then the state of the control endpoint. -/
theorem usbEp0OnSetup_eq (r : UsbSetupReq) (d : Dev) :
    ∃ state, usbEp0OnSetup call desc r d =
      ((setupAction r (beginSetup d)).run call desc (beginSetup d)).setCtrlState state := by
  unfold usbEp0OnSetup beginSetup
  dsimp only
  rw [← udcProcessSetup_eq]
  split_ifs
  · exact ⟨.stallReq, rfl⟩
  · exact ⟨.dataIn, rfl⟩
  · exact ⟨.handshakeWaitInZlp, rfl⟩
  · exact ⟨.stallReq, rfl⟩
  · exact ⟨.dataIn, rfl⟩
  · exact ⟨.handshakeWaitInZlp, rfl⟩

/-- The decoding of a SETUP packet touches the control endpoint and the address only. -/
theorem beginSetup_frame (d : Dev) :
    ∃ address, beginSetup d = { d with bus :=
      ⟨d.bus.attached, address, d.bus.ctrlEnabled, .setup, none, d.bus.udcNumConfiguration⟩ } := by
  unfold beginSetup udcValidAddress
  by_cases hstate : d.bus.ctrlState = .setup
  · refine ⟨d.bus.address, ?_⟩
    simp [hstate]
  · cases hcb : d.bus.addressCallback with
    | none =>
        refine ⟨d.bus.address, ?_⟩
        simp [hstate, Dev.setCtrlState, hcb]
    | some wValue =>
        refine ⟨wValue.setWidth 7, ?_⟩
        simp [hstate, Dev.setCtrlState]

end Action

/-! ## Disabling and enabling the interface -/

/-- `udc_reset`. -/
def resetEffect (d : Dev) : Dev :=
  (if d.bus.udcNumConfiguration ≠ 0 then ifaceDown d else d).setNumConfiguration 0

/-- SET_CONFIGURATION. -/
def configurationEffect (desc : LunDesc) (n : BitVec 8) (d : Dev) : Dev :=
  let d := (resetEffect d).setNumConfiguration n
  if n = 0 then d else ifaceUp desc d

/-- SET_INTERFACE. -/
def interfaceEffect (desc : LunDesc) (settingNum : BitVec 8) (d : Dev) : Dev :=
  if settingNum = 0 then ifaceUp desc (ifaceDown d) else ifaceDown d

/-- The enable flag of the application and the two endpoints go together, none of them is set without
a configuration, and there is one logical unit. -/
structure Bound (d : Dev) : Prop where
  both : d.out.configured = d.inn.configured
  flag : d.app.mainBMscEnable = d.inn.configured
  configuration : d.inn.configured = true → d.bus.udcNumConfiguration ≠ 0
  nbLun : d.msc.nbLun = 0

theorem Bound.of_link {d d' : Dev} (h : d'.link = d.link) (hb : Bound d) : Bound d' := by
  have hinn : d'.inn.configured = d.inn.configured := configured_of_link h .inn
  have hout : d'.out.configured = d.out.configured := configured_of_link h .out
  refine ⟨?_, ?_, ?_, (nbLun_of_link h).trans hb.nbLun⟩
  · rw [hinn, hout, hb.both]
  · rw [app_of_link h, hinn, hb.flag]
  · rw [bus_of_link h, hinn]
    exact hb.configuration

theorem core_setNumConfiguration {d d' : Dev} (h : d'.core = d.core) (n : BitVec 8) :
    (d'.setNumConfiguration n).core = (d.setNumConfiguration n).core := by
  have hset (d : Dev) : (d.setNumConfiguration n).core = d.core.setNumConfiguration n := rfl
  rw [hset, hset, h]

theorem core_ifaceUp (desc : LunDesc) {d d' : Dev} (h : d'.core = d.core) :
    (ifaceUp desc d').core = (ifaceUp desc d).core := by
  have hup (d : Dev) : (ifaceUp desc d).core = ifaceUp desc d.core := rfl
  rw [hup, hup, h]

theorem resetEffect_unconfigured {d : Dev} (hb : Bound d) :
    (resetEffect d).inn.configured = false ∧ (resetEffect d).out.configured = false := by
  unfold resetEffect
  by_cases hconf : d.bus.udcNumConfiguration = 0
  · have hinn : d.inn.configured = false := by
      by_contra hne
      exact hb.configuration (Bool.eq_true_of_not_eq_false hne) hconf
    rw [if_neg (not_not_intro hconf)]
    exact ⟨hinn, hb.both.trans hinn⟩
  · rw [if_pos hconf]
    exact ⟨rfl, rfl⟩

section Effects

variable {call : Callback → Dev → Dev} (hcall : ∀ cb d, (call cb d).rest = d.rest)
include hcall

theorem core_udcReset (d : Dev) : (udcReset call d).core = (resetEffect d).core := by
  unfold udcReset resetEffect
  apply core_setNumConfiguration
  split_ifs with hconf
  · have hfound : udcUpdateIfaceDesc 0 0 d = true := by
      rw [udcUpdateIfaceDesc_zero hconf, decide_eq_true rfl]
    rw [core_udcIfaceDisable hcall, if_pos hfound]
  · rfl

theorem core_setConfiguration (desc : LunDesc) (n : BitVec 8) {d : Dev} (hb : Bound d) :
    (setConfiguration call desc n d).core = (configurationEffect desc n d).core := by
  have hreset := core_setNumConfiguration (core_udcReset hcall d) n
  unfold setConfiguration configurationEffect
  dsimp only
  split_ifs with hn
  · exact hreset
  · obtain ⟨hinn, hout⟩ := resetEffect_unconfigured hb
    have hfound : udcUpdateIfaceDesc 0 0 ((udcReset call d).setNumConfiguration n) = true := by
      rw [udcUpdateIfaceDesc_zero hn, decide_eq_true rfl]
    rw [core_udcIfaceEnable hcall desc 0 0 ((configured_of_link (link_of_core hreset) .inn).trans hinn)
      ((configured_of_link (link_of_core hreset) .out).trans hout), if_pos hfound]
    exact core_ifaceUp desc hreset

theorem core_setInterface (desc : LunDesc) (settingNum : BitVec 8) {d : Dev}
    (hconf : d.bus.udcNumConfiguration ≠ 0) :
    (setInterface call desc settingNum d).core = (interfaceEffect desc settingNum d).core := by
  have hfound : udcUpdateIfaceDesc 0 0 d = true := by
    rw [udcUpdateIfaceDesc_zero hconf, decide_eq_true rfl]
  have hdown : (udcIfaceDisable call 0 d).2.core = (ifaceDown d).core := by
    rw [core_udcIfaceDisable hcall, if_pos hfound]
  have hdesc : udcUpdateIfaceDesc 0 settingNum (udcIfaceDisable call 0 d).2 =
      decide (settingNum = 0) := by
    have hbus : (udcIfaceDisable call 0 d).2.bus = (ifaceDown d).bus := bus_of_link (link_of_core hdown)
    exact udcUpdateIfaceDesc_zero (by rw [hbus]; exact hconf) settingNum
  unfold setInterface interfaceEffect
  rw [core_udcIfaceEnable hcall desc 0 settingNum (configured_of_link (link_of_core hdown) .inn)
    (configured_of_link (link_of_core hdown) .out), hdesc]
  simp only [decide_eq_true_eq]
  split_ifs
  · exact core_ifaceUp desc hdown
  · exact hdown

theorem core_udiMscBulkReset (d : Dev) :
    (udiMscBulkReset call d).core =
      Dev.core { d with msc := { d.msc with bCbwInvalid := false, bTransReq := false } } := by
  apply core_of_rest
  rw [udiMscBulkReset, rest_udiMscCbwWait hcall, rest_uddEpAbort hcall, rest_uddEpAbort hcall]

end Effects

/-! ## The effect of an interrupt -/

/-- SET_INTERFACE is decoded only in a configuration. -/
theorem configured_of_interface {r : UsbSetupReq} {d : Dev} {settingNum : BitVec 8}
    (h : setupAction r d = .interface settingNum) : d.bus.udcNumConfiguration ≠ 0 := by
  have hep (action : Ep → SetupAction) (haction : ∀ e, action e ≠ .interface settingNum) :
      r.onEp action ≠ .interface settingNum := by
    unfold UsbSetupReq.onEp
    split_ifs
    · exact nofun
    · cases r.wIndexEp with
      | none => exact nofun
      | some e => exact haction e
  unfold setupAction standardAction at h
  split_ifs at h with _ _ _ _ _ _ _ _ hfound
  · exact (ifaceNum_of_found hfound.2.2).1
  · exact absurd h (hep _ (fun _ => nofun))
  · exact absurd h (hep _ (fun _ => nofun))

/-- The effect of a control request. -/
def SetupAction.effect (desc : LunDesc) (action : SetupAction) (d : Dev) : Dev :=
  match action with
  | .none => d
  | .address wValue => { d with bus := { d.bus with addressCallback := some wValue } }
  | .configuration n => configurationEffect desc n d
  | .interface settingNum => interfaceEffect desc settingNum d
  | .clearHalt _ => d
  | .setHalt _ => d
  | .bulkReset => { d with msc := { d.msc with bCbwInvalid := false, bTransReq := false } }

/-- What an interrupt does, up to the transfers. -/
def irqEffect (desc : LunDesc) (irq : Irq) (d : Dev) : Dev :=
  match irq with
  | .busReset =>
      let d := resetEffect d
      { d with bus := { d.bus with address := 0, ctrlEnabled := true, ctrlState := .setup } }
  | .setup r => (setupAction r (beginSetup d)).effect desc (beginSetup d)
  | .transferIn card =>
      if d.inn.running then
        transferEffect desc card .inn (uddEpTransInNext d.inn.hwSize d.inn.job) d
      else d
  | .transferOut received cbw card =>
      if d.out.running then
        transferEffect desc card .out (uddEpTransOutNext received d.out.hwSize d.out.job)
          (storeReceived cbw d)
      else d
  | irq => serveIrq desc irq d

section Effects

variable {call : Callback → Dev → Dev} (hcall : ∀ cb d, (call cb d).rest = d.rest)
include hcall

theorem core_runAction (desc : LunDesc) (r : UsbSetupReq) {d : Dev} (hb : Bound d) :
    ((setupAction r d).run call desc d).core = ((setupAction r d).effect desc d).core := by
  cases haction : setupAction r d with
  | none => rfl
  | address wValue => rfl
  | configuration n => exact core_setConfiguration hcall desc n hb
  | interface settingNum =>
      exact core_setInterface hcall desc settingNum (configured_of_interface haction)
  | clearHalt e => exact core_of_rest (rest_uddEpClearHalt hcall e d)
  | setHalt e =>
      exact core_of_rest ((rest_uddEpSetHalt hcall e _).trans (rest_uddEpAbort hcall e d))
  | bulkReset => exact core_udiMscBulkReset hcall d

end Effects

/-- Forget also the state of the control endpoint. -/
def Dev.forgetCtrl (d : Dev) : Dev :=
  { d.core with bus := { d.core.bus with ctrlState := .setup } }

theorem forgetCtrl_of_core {d d' : Dev} (h : d'.core = d.core) : d'.forgetCtrl = d.forgetCtrl := by
  simp only [Dev.forgetCtrl, h]

/-- **The effect of an interrupt.** -/
theorem forgetCtrl_serveIrq (desc : LunDesc) (irq : Irq) {d : Dev} (hb : Bound (beginSetup d)) :
    (serveIrq desc irq d).forgetCtrl = (irqEffect desc irq d).forgetCtrl := by
  cases irq with
  | busReset =>
      have haddress {d d' : Dev} (h : d'.core = d.core) :
          Dev.forgetCtrl { d' with bus := { d'.bus with address := 0, ctrlEnabled := true, ctrlState := .setup } } =
            Dev.forgetCtrl { d with bus := { d.bus with address := 0, ctrlEnabled := true, ctrlState := .setup } } := by
        have hset (d : Dev) :
            Dev.forgetCtrl { d with bus := { d.bus with address := 0, ctrlEnabled := true, ctrlState := .setup } } =
              { d.core with bus := { d.core.bus with address := 0, ctrlEnabled := true, ctrlState := .setup } } := rfl
        rw [hset, hset, h]
      exact haddress (core_udcReset rest_uddCall d)
  | setup r =>
      obtain ⟨state, hsetup⟩ := usbEp0OnSetup_eq uddCall desc r d
      have hforget (d : Dev) : (d.setCtrlState state).forgetCtrl = d.forgetCtrl := rfl
      change (usbEp0OnSetup uddCall desc r d).forgetCtrl = _
      rw [hsetup, hforget]
      exact forgetCtrl_of_core (core_runAction rest_uddCall desc r hb)
  | transferIn card =>
      apply forgetCtrl_of_core
      change (transferIn uddCall desc card d).core = (ite _ _ _ : Dev).core
      unfold transferIn
      split_ifs
      · exact core_transferNext rest_uddCall desc card _ _ d
      · rfl
  | transferOut received cbw card =>
      apply forgetCtrl_of_core
      change (transferOut uddCall desc received cbw card d).core = (ite _ _ _ : Dev).core
      unfold transferOut
      split_ifs
      · exact core_transferNext rest_uddCall desc card _ _ _
      · rfl
  | vbus _ | suspend | wakeup | sof _ | ep0TransferOk _ | ep0TransferFail _ => rfl

end Firmware
end SoundingSoil
