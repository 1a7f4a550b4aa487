import SoundingSoil.Firmware.Connection
import SoundingSoil.Firmware.LogicalUnit

/-!
# The commands that interrupts bring

An interrupt that ends the reception of a command block runs a SCSI command; which one is decided by the
block and the state before (`irqCommand`).  The module follows the two things of a command that outlive
the interrupt: its request to the logical unit, and its request to the main loop.

* `lunRequest` / **`store_step`** — the memory is the work of the requests that reach it.
* `acceptsTransfer` / `cancelsTransfer` / **`transReq_serveIrq`** — the request to the main loop is set by
  an accepted READ(10) or WRITE(10) and cleared by the resets.
* `requestBound_step` — a request is only ever pending while the interface is enabled.
* `resetTrans_serveIrq` / `resetTrans_of_enables` — the reset that the main loop tests for.
-/

namespace SoundingSoil
namespace Firmware

open Support

/-! ## Command blocks -/

/-- The state in which the command of a received block runs: the block must be intact and for an
existing unit. -/
def receivedCommand (nbReceived : Nat) (d : Dev) : Option Dev :=
  if !d.msc.cbwIntact nbReceived then none
  else
    let d := { d with msc := { d.msc with
      cbw := { d.msc.cbw with bCBWLUN := d.msc.cbw.bCBWLUN &&& 0x0F } } }
    if d.msc.nbLun < d.msc.cbw.bCBWLUN then none
    else some { d with msc := { d.msc with
      csw := { d.msc.csw with dCSWDataResidue := d.msc.cbw.dCBWDataTransferLength } } }

/-- The command that a completed hardware job brings. -/
def transferCommand (next : TransNext) (d : Dev) : Option Dev :=
  match next with
  | .again _ _ => none
  | .complete job => if job.call = some .cbwReceived then receivedCommand job.nbTrans d else none

/-- The command that an interrupt brings, and what the card would answer to it. -/
def irqCommand (irq : Irq) (d : Dev) : Option (CardAnswer × Dev) :=
  match irq with
  | .transferIn card =>
      if d.inn.running then
        (transferCommand (uddEpTransInNext d.inn.hwSize d.inn.job) d).map (Prod.mk card)
      else none
  | .transferOut received cbw card =>
      if d.out.running then
        (transferCommand (uddEpTransOutNext received d.out.hwSize d.out.job)
          (storeReceived cbw d)).map (Prod.mk card)
      else none
  | _ => none

/-- What of a command outlives the interrupt: the memory, and the request to the main loop. -/
def Dev.outcome (d : Dev) : Store × Bool :=
  (d.store, d.msc.bTransReq)

theorem outcome_of_core {d d' : Dev} (h : d'.core = d.core) : d'.outcome = d.outcome :=
  Prod.ext (store_of_link (link_of_core h)) (transReq_of_core h)

/-- The request of a command to the logical unit. -/
def commandRequest (card : CardAnswer) (d : Dev) : Option LunRequest :=
  if d.operationCode = 0x00 then some (.testUnitReady card)
  else if d.operationCode = 0x25 then
    if d.msc.cbwValid 8 true then some (.readCapacity card) else none
  else if d.operationCode = 0x1B then some (.startStop d.loej d.start)
  else none

/-- The memory after an optional request. -/
def performed (desc : LunDesc) (req : Option LunRequest) (s : Store) : Store :=
  req.elim s fun req => req.perform desc s

/-- A READ(10) or WRITE(10) command with these parameters is accepted. -/
def transAccepted (desc : LunDesc) (bRead : Bool) (d : Dev) : Bool :=
  !(!bRead && memWrProtect desc d.msc.cbw.bCBWLUN)
    && d.msc.cbwValid (d.cdbNbBlock.toNat * 512) bRead

/-- The command asks the main loop for a transfer. -/
def commandTransfers (desc : LunDesc) (d : Dev) : Bool :=
  d.operationCode == 0x28 && transAccepted desc true d || d.operationCode == 0x2A && transAccepted desc false d

theorem outcome_transEffect (desc : LunDesc) (bRead : Bool) (d : Dev) :
    (transEffect desc bRead d).outcome =
      (d.store, d.msc.bTransReq || transAccepted desc bRead d) := by
  unfold transEffect transAccepted
  dsimp only
  split_ifs with hwp hvalid
  · rw [hwp, Bool.not_true, Bool.false_and, Bool.or_false]
    rfl
  · have hkept : d.msc.cbwValid (d.cdbNbBlock.toNat * 512) bRead = true := hvalid
    rw [hkept, Bool.eq_false_of_not_eq_true hwp, Bool.not_false, Bool.true_and, Bool.or_true]
    rfl
  · have hkept : d.msc.cbwValid (d.cdbNbBlock.toNat * 512) bRead = false :=
      Bool.eq_false_of_not_eq_true hvalid
    rw [hkept, Bool.and_false, Bool.or_false]
    rfl

/-- **The outcome of a command for the unit 0.** -/
theorem outcome_commandEffect (desc : LunDesc) (card : CardAnswer) {d : Dev}
    (hlun : d.msc.cbw.bCBWLUN = 0) :
    (commandEffect desc card d).outcome =
      (performed desc (commandRequest card d) d.store,
        d.msc.bTransReq || commandTransfers desc d) := by
  have hstart : (startStopEffect desc d).outcome =
      ((LunRequest.startStop d.loej d.start).perform desc d.store, d.msc.bTransReq) := by
    unfold startStopEffect
    rw [hlun]
    rfl
  have hother (hread : d.operationCode ≠ 0x28) (hwrite : d.operationCode ≠ 0x2A) :
      (d.msc.bTransReq || commandTransfers desc d) = d.msc.bTransReq := by
    rw [commandTransfers, beq_false_of_ne hread, beq_false_of_ne hwrite]
    simp only [Bool.false_and, Bool.or_false]
  unfold commandEffect commandRequest checkUnitReady checkCapacity
  rw [hlun]
  split_ifs with hready hcapacity _ hstop hread hwrite
  · rw [hother (by rw [hready]; decide) (by rw [hready]; decide)]
    rfl
  · rw [hother (by rw [hcapacity]; decide) (by rw [hcapacity]; decide)]
    rfl
  · rw [hother (by rw [hcapacity]; decide) (by rw [hcapacity]; decide)]
    rfl
  · rw [hother (by rw [hstop]; decide) (by rw [hstop]; decide)]
    exact hstart
  · have hne : d.operationCode ≠ 0x2A := by
      rw [hread]
      decide
    rw [outcome_transEffect, commandTransfers, beq_false_of_ne hne, hread]
    simp only [BEq.rfl, Bool.true_and, Bool.false_and, Bool.or_false, performed, Option.elim_none]
  · rw [outcome_transEffect, commandTransfers, beq_false_of_ne hread, hwrite]
    simp only [BEq.rfl, Bool.true_and, Bool.false_and, Bool.false_or, performed, Option.elim_none]
  · rw [hother hread hwrite]
    rfl

/-- The outcome of an optional command. -/
def commandOutcome (desc : LunDesc) (card : CardAnswer) (command : Option Dev) (d : Dev) :
    Store × Bool :=
  (performed desc (command.bind (commandRequest card)) d.store,
    d.msc.bTransReq || command.any (commandTransfers desc))

theorem outcome_cbwEffect (desc : LunDesc) (card : CardAnswer) (n : Nat) {d : Dev}
    (hlun : d.msc.nbLun = 0) :
    (cbwEffect desc card n d).outcome = commandOutcome desc card (receivedCommand n d) d := by
  have hnone : d.outcome = commandOutcome desc card none d :=
    Prod.ext rfl (Bool.or_false d.msc.bTransReq).symm
  unfold cbwEffect receivedCommand
  dsimp only
  split_ifs with hintact hexists
  · exact hnone
  · exact hnone
  · -- The only existing unit is 0.
    rw [hlun] at hexists
    exact outcome_commandEffect desc card (BitVec.le_zero_iff.mp (BitVec.not_lt.mp hexists))

/-- Commands do not look at the endpoints. -/
theorem receivedCommand_endpoints (n : Nat) (inn out : Endpoint) (d : Dev) :
    receivedCommand n { d with inn := inn, out := out } =
      (receivedCommand n d).map fun d' => { d' with inn := inn, out := out } := by
  unfold receivedCommand
  dsimp only
  split_ifs <;> rfl

theorem commandOutcome_released (desc : LunDesc) (card : CardAnswer) (e : Ep) (job : UddEpJob)
    (n : Nat) (d : Dev) :
    commandOutcome desc card (receivedCommand n (released e job d)) (released e job d) =
      commandOutcome desc card (receivedCommand n d) d := by
  have hendpoints : released e job d =
      { d with inn := (released e job d).inn, out := (released e job d).out } := by
    cases e <;> rfl
  rw [hendpoints, receivedCommand_endpoints]
  cases receivedCommand n d <;> rfl

/-- **The outcome of a completed hardware job is that of its command.** -/
theorem outcome_transferEffect (desc : LunDesc) (card : CardAnswer) (e : Ep) (next : TransNext)
    {d : Dev} (hlun : d.msc.nbLun = 0) :
    (transferEffect desc card e next d).outcome =
      commandOutcome desc card (transferCommand next d) d := by
  have hnone : d.outcome = commandOutcome desc card none d :=
    Prod.ext rfl (Bool.or_false d.msc.bTransReq).symm
  unfold transferEffect transferCommand
  cases next with
  | again job size => exact hnone
  | complete job =>
      cases hcb : job.call with
      | none =>
          simp only [hcb, reduceCtorEq, if_false]
          exact hnone
      | some cb =>
          simp only [hcb, Option.some.injEq, completionEffect]
          have hreleased : (released e job d).outcome = d.outcome
              ∧ (released e job d).msc.nbLun = d.msc.nbLun := by
            cases e <;> exact ⟨rfl, rfl⟩
          split_ifs
          · rw [outcome_cbwEffect desc card job.nbTrans (hreleased.2.trans hlun),
              commandOutcome_released]
          · exact hreleased.1.trans hnone

/-- The outcome of an interrupt that completes a hardware job. -/
def irqOutcome (desc : LunDesc) (irq : Irq) (d : Dev) : Store × Bool :=
  (performed desc ((irqCommand irq d).bind fun c => commandRequest c.1 c.2) d.store,
    d.msc.bTransReq || (irqCommand irq d).any fun c => commandTransfers desc c.2)

theorem outcome_transferIn (desc : LunDesc) (card : CardAnswer) {d : Dev} (hb : Bound d) :
    (serveIrq desc (.transferIn card) d).outcome = irqOutcome desc (.transferIn card) d := by
  have hforget := forgetCtrl_serveIrq desc (.transferIn card) (beginSetup_bound hb)
  have heffect : (serveIrq desc (.transferIn card) d).outcome =
      (irqEffect desc (.transferIn card) d).outcome :=
    Prod.ext (store_of_forgetCtrl hforget) (transReq_of_forgetCtrl hforget)
  rw [heffect, irqOutcome, irqCommand, irqEffect]
  split_ifs
  · rw [outcome_transferEffect desc card .inn _ hb.nbLun, commandOutcome, Option.bind_map,
      Option.any_map]
    rfl
  · exact Prod.ext rfl (Bool.or_false d.msc.bTransReq).symm

theorem outcome_transferOut (desc : LunDesc) (received : Nat) (cbw : UsbMscCbw) (card : CardAnswer)
    {d : Dev} (hb : Bound d) :
    (serveIrq desc (.transferOut received cbw card) d).outcome =
      irqOutcome desc (.transferOut received cbw card) d := by
  have hforget := forgetCtrl_serveIrq desc (.transferOut received cbw card) (beginSetup_bound hb)
  have heffect : (serveIrq desc (.transferOut received cbw card) d).outcome =
      (irqEffect desc (.transferOut received cbw card) d).outcome :=
    Prod.ext (store_of_forgetCtrl hforget) (transReq_of_forgetCtrl hforget)
  have hstored : (storeReceived cbw d).outcome = d.outcome
      ∧ (storeReceived cbw d).msc.nbLun = d.msc.nbLun := by
    unfold storeReceived
    split_ifs <;> exact ⟨rfl, rfl⟩
  rw [heffect, irqOutcome, irqCommand, irqEffect]
  split_ifs
  · have hstore : (storeReceived cbw d).store = d.store := congrArg Prod.fst hstored.1
    have hreq : (storeReceived cbw d).msc.bTransReq = d.msc.bTransReq := congrArg Prod.snd hstored.1
    rw [outcome_transferEffect desc card .out _ (hstored.2.trans hb.nbLun), commandOutcome, hstore,
      hreq, Option.bind_map, Option.any_map]
    rfl
  · exact Prod.ext rfl (Bool.or_false d.msc.bTransReq).symm

/-! ## The request to the logical unit -/

/-- The request that an interrupt brings to the logical unit. -/
def lunRequest (irq : Irq) (d : Dev) : Option LunRequest :=
  match irq with
  | .setup r => if (setupAction r (beginSetup d)).enables then some .enable else none
  | irq => (irqCommand irq d).bind fun c => commandRequest c.1 c.2

theorem store_setupEffect (desc : LunDesc) (action : SetupAction) (d : Dev) :
    (action.effect desc d).store =
      performed desc (if action.enables then some .enable else none) d.store := by
  have hreset : (resetEffect d).store = d.store := by
    unfold resetEffect
    split_ifs <;> rfl
  cases action with
  | configuration n =>
      simp only [SetupAction.effect, configurationEffect]
      by_cases hn : n = 0
      · subst hn
        exact hreset
      · have henables : (SetupAction.configuration n).enables = true := bne_iff_ne.mpr hn
        rw [if_neg hn, if_pos henables, ← hreset]
        rfl
  | interface settingNum =>
      simp only [SetupAction.effect, interfaceEffect]
      by_cases hn : settingNum = 0
      · subst hn
        rfl
      · have henables : (SetupAction.interface settingNum).enables = false := beq_false_of_ne hn
        rw [if_neg hn, if_neg (ne_true_of_eq_false henables)]
        rfl
  | _ => rfl

/-- **What one interrupt does to the memory.** -/
theorem store_serveIrq (desc : LunDesc) (irq : Irq) {d : Dev} (hb : Bound d) :
    (serveIrq desc irq d).store = performed desc (lunRequest irq d) d.store := by
  have hforget := forgetCtrl_serveIrq desc irq (beginSetup_bound hb)
  have hother := serveIrq_frame desc irq d
  cases irq with
  | transferIn card => exact congrArg Prod.fst (outcome_transferIn desc card hb)
  | transferOut received cbw card =>
      exact congrArg Prod.fst (outcome_transferOut desc received cbw card hb)
  | busReset =>
      rw [store_of_forgetCtrl hforget]
      change (resetEffect d).store = d.store
      unfold resetEffect
      split_ifs <;> rfl
  | setup r =>
      obtain ⟨address, hframe⟩ := beginSetup_frame d
      have hstore : (beginSetup d).store = d.store := by rw [hframe]
      rw [store_of_forgetCtrl hforget]
      change ((setupAction r (beginSetup d)).effect desc (beginSetup d)).store = _
      rw [store_setupEffect, hstore]
      rfl
  | vbus _ | suspend | wakeup | sof _ | ep0TransferOk _ | ep0TransferFail _ =>
      obtain ⟨port, address, state, sleep, hframe⟩ := hother rfl
      rw [hframe]
      rfl

/-- The request that a step brings to the logical unit. -/
def stepRequest (s : Sys) (l : Label) : Option LunRequest :=
  if l = .serve then s.served.bind fun irq => lunRequest irq s.dev else none

/-- **The memory is the work of the requests.** -/
theorem store_step (desc : LunDesc) (s : Sys) (l : Label) (hb : Bound s.dev) :
    (step desc s l).dev.store = performed desc (stepRequest s l) s.dev.store := by
  rw [step_dev]
  cases l with
  | main answer => exact store_of_link (link_mainStep answer s)
  | raise irq => rfl
  | serve =>
      unfold stepRequest
      rw [if_pos rfl]
      cases s.served with
      | none => rfl
      | some irq => exact store_serveIrq desc irq hb

/-! ## The request to the main loop -/

/-- The interrupt brings a READ(10) or WRITE(10) command that is accepted. -/
def acceptsTransfer (desc : LunDesc) (irq : Irq) (d : Dev) : Bool :=
  (irqCommand irq d).any fun c => commandTransfers desc c.2

/-- The request resets the interface. -/
def SetupAction.cancels : SetupAction → Bool
  | .configuration _ => true
  | .interface _ => true
  | .bulkReset => true
  | _ => false

/-- The interrupt takes a request to the main loop back. -/
def cancelsTransfer (irq : Irq) (d : Dev) : Bool :=
  match irq with
  | .busReset => true
  | .setup r => (setupAction r (beginSetup d)).cancels
  | _ => false

/-- A request to the main loop is pending only while the interface is enabled. -/
structure RequestBound (d : Dev) : Prop extends Bound d where
  request : d.msc.bTransReq = true → d.app.mainBMscEnable = true

theorem resetEffect_transReq {d : Dev} (h : RequestBound d) :
    (resetEffect d).msc.bTransReq = false := by
  unfold resetEffect
  split_ifs with hconf
  · rfl
  · refine Bool.eq_false_of_not_eq_true fun hreq => ?_
    exact hconf (h.configuration (h.flag.symm.trans (h.request hreq)))

theorem setupEffect_transReq (desc : LunDesc) (action : SetupAction) {d : Dev}
    (h : RequestBound d) :
    (action.effect desc d).msc.bTransReq = (!action.cancels && d.msc.bTransReq) := by
  cases action with
  | configuration n =>
      change (configurationEffect desc n d).msc.bTransReq = false
      unfold configurationEffect
      dsimp only
      split_ifs
      · exact resetEffect_transReq h
      · rfl
  | interface settingNum =>
      change (interfaceEffect desc settingNum d).msc.bTransReq = false
      unfold interfaceEffect
      split_ifs <;> rfl
  | _ => rfl

/-- **What one interrupt does to the request.** -/
theorem transReq_serveIrq (desc : LunDesc) (irq : Irq) {d : Dev} (h : RequestBound d) :
    (serveIrq desc irq d).msc.bTransReq =
      (!cancelsTransfer irq d && (d.msc.bTransReq || acceptsTransfer desc irq d)) := by
  have hforget := forgetCtrl_serveIrq desc irq (beginSetup_bound h.toBound)
  have hother := serveIrq_frame desc irq d
  have hsame : d.msc.bTransReq = (!false && (d.msc.bTransReq || false)) := by
    rw [Bool.or_false, Bool.not_false, Bool.true_and]
  cases irq with
  | transferIn card => exact congrArg Prod.snd (outcome_transferIn desc card h.toBound)
  | transferOut received cbw card =>
      exact congrArg Prod.snd (outcome_transferOut desc received cbw card h.toBound)
  | busReset =>
      rw [transReq_of_forgetCtrl hforget]
      exact resetEffect_transReq h
  | setup r =>
      obtain ⟨address, hframe⟩ := beginSetup_frame d
      have hbegin : RequestBound (beginSetup d) := by
        rw [hframe]
        exact ⟨⟨h.both, h.flag, h.configuration, h.nbLun⟩, h.request⟩
      have hreq : (beginSetup d).msc.bTransReq = d.msc.bTransReq := by rw [hframe]
      rw [transReq_of_forgetCtrl hforget]
      change ((setupAction r (beginSetup d)).effect desc (beginSetup d)).msc.bTransReq = _
      rw [setupEffect_transReq desc _ hbegin, hreq]
      exact congrArg (!cancelsTransfer (.setup r) d && ·) (Bool.or_false _).symm
  | vbus _ | suspend | wakeup | sof _ | ep0TransferOk _ | ep0TransferFail _ =>
      obtain ⟨port, address, state, sleep, hframe⟩ := hother rfl
      rw [hframe]
      exact hsame

/-- Commands are only received while the interface is enabled. -/
theorem enabled_of_command {irq : Irq} {d : Dev} (hb : Bound d) {c : CardAnswer × Dev}
    (hc : irqCommand irq d = some c) : d.app.mainBMscEnable = true := by
  have hrunning {x : Endpoint} (h : x.running = true) : x.configured = true :=
    (Bool.and_eq_true_iff.mp h).1
  cases irq with
  | transferIn card =>
      by_cases hrun : d.inn.running = true
      · exact hb.flag.trans (hrunning hrun)
      · rw [irqCommand, if_neg hrun] at hc
        exact absurd hc nofun
  | transferOut received cbw card =>
      by_cases hrun : d.out.running = true
      · exact hb.flag.trans (hb.both.symm.trans (hrunning hrun))
      · rw [irqCommand, if_neg hrun] at hc
        exact absurd hc nofun
  | _ => exact absurd hc nofun

/-- An interrupt that leaves the request alone leaves the flag alone. -/
theorem flagAfter_of_not_cancels {irq : Irq} {d : Dev} (h : cancelsTransfer irq d = false)
    (hflag : d.app.mainBMscEnable = true) : flagAfter irq d = true := by
  cases irq with
  | busReset => exact absurd h nofun
  | setup r =>
      have hdisables : (setupAction r (beginSetup d)).disables = false := by
        have hcancels : (setupAction r (beginSetup d)).cancels = false := h
        revert hcancels
        cases setupAction r (beginSetup d) <;> first | exact fun _ => rfl | exact nofun
      unfold flagAfter
      dsimp only
      rw [hdisables, hflag, Bool.not_false, Bool.and_true, Bool.or_true]
  | _ => exact hflag

theorem requestBound_serveIrq (desc : LunDesc) (irq : Irq) {d : Dev} (h : RequestBound d) :
    RequestBound (serveIrq desc irq d) := by
  obtain ⟨hb, hflag, -⟩ := connection_serveIrq desc irq h.toBound
  refine ⟨hb, fun hreq => ?_⟩
  rw [transReq_serveIrq desc irq h, Bool.and_eq_true, Bool.not_eq_true', Bool.or_eq_true] at hreq
  obtain ⟨hcancels, hold | haccepts⟩ := hreq
  · rw [hflag]
    exact flagAfter_of_not_cancels hcancels (h.request hold)
  · obtain ⟨c, hc, -⟩ := (Option.any_eq_true _ _).mp haccepts
    rw [hflag]
    exact flagAfter_of_not_cancels hcancels (enabled_of_command h.toBound hc)

/-- A request stays bound to the interface. -/
theorem requestBound_step (desc : LunDesc) (s : Sys) (l : Label) (h : RequestBound s.dev) :
    RequestBound (step desc s l).dev := by
  cases l with
  | main answer =>
      have hlink := link_mainStep answer s
      refine ⟨h.toBound.of_link hlink, fun hreq => ?_⟩
      have hmain : (mainStep answer s).dev.msc.bTransReq = true := hreq
      rw [transReq_mainStep, Bool.and_eq_true] at hmain
      change (mainStep answer s).dev.app.mainBMscEnable = true
      rw [app_of_link hlink]
      exact h.request hmain.2
  | raise irq => exact h
  | serve =>
      rw [step_dev]
      cases s.served with
      | none => exact h
      | some irq => exact requestBound_serveIrq desc irq h

theorem requestBound_boot (vbusHigh : Bool) : RequestBound (boot vbusHigh).dev := by
  refine ⟨bound_boot vbusHigh, ?_⟩
  cases vbusHigh <;> exact nofun

/-! ## The reset that is noted -/

theorem resetTrans_of_forgetCtrl {d d' : Dev} (h : d'.forgetCtrl = d.forgetCtrl) :
    d'.msc.bResetTrans = d.msc.bResetTrans :=
  (congrArg (fun d => (Dev.msc d).bResetTrans) h :)

theorem resetTrans_commandEffect (desc : LunDesc) (card : CardAnswer) (d : Dev) :
    (commandEffect desc card d).msc.bResetTrans = d.msc.bResetTrans := by
  have htrans (bRead : Bool) : (transEffect desc bRead d).msc.bResetTrans = d.msc.bResetTrans := by
    unfold transEffect
    dsimp only
    split_ifs <;> rfl
  unfold commandEffect
  split_ifs <;> first | rfl | exact htrans _

theorem resetTrans_transferEffect (desc : LunDesc) (card : CardAnswer) (e : Ep) (next : TransNext)
    (d : Dev) : (transferEffect desc card e next d).msc.bResetTrans = d.msc.bResetTrans := by
  have hreleased (job : UddEpJob) : (released e job d).msc = d.msc := by
    cases e <;> rfl
  have hcbw (n : Nat) (d : Dev) : (cbwEffect desc card n d).msc.bResetTrans = d.msc.bResetTrans := by
    unfold cbwEffect
    dsimp only
    split_ifs
    · rfl
    · rfl
    · exact resetTrans_commandEffect desc card _
  unfold transferEffect
  cases next with
  | again job size => rfl
  | complete job =>
      cases hcb : job.call with
      | none => simp only [hcb]
      | some cb =>
          simp only [hcb]
          unfold completionEffect
          split_ifs
          · rw [hcbw, hreleased]
          · rw [hreleased]

/-- No interrupt takes a noted reset back. -/
theorem resetTrans_serveIrq (desc : LunDesc) (irq : Irq) {d : Dev} (hb : Bound d)
    (h : d.msc.bResetTrans = true) : (serveIrq desc irq d).msc.bResetTrans = true := by
  have hforget := forgetCtrl_serveIrq desc irq (beginSetup_bound hb)
  have hreset {d : Dev} (h : d.msc.bResetTrans = true) : (resetEffect d).msc.bResetTrans = true := by
    unfold resetEffect
    split_ifs
    · rfl
    · exact h
  have hother := serveIrq_frame desc irq d
  cases irq with
  | busReset => exact (resetTrans_of_forgetCtrl hforget).trans (hreset h)
  | setup r =>
      obtain ⟨address, hframe⟩ := beginSetup_frame d
      have hbegin : (beginSetup d).msc.bResetTrans = true := by
        rw [hframe]
        exact h
      refine (resetTrans_of_forgetCtrl hforget).trans ?_
      change ((setupAction r (beginSetup d)).effect desc (beginSetup d)).msc.bResetTrans = true
      cases setupAction r (beginSetup d) with
      | configuration n =>
          change (configurationEffect desc n (beginSetup d)).msc.bResetTrans = true
          unfold configurationEffect
          dsimp only
          split_ifs
          · exact hreset hbegin
          · rfl
      | interface settingNum =>
          change (interfaceEffect desc settingNum (beginSetup d)).msc.bResetTrans = true
          unfold interfaceEffect
          split_ifs <;> rfl
      | _ => exact hbegin
  | transferIn card =>
      refine (resetTrans_of_forgetCtrl hforget).trans ?_
      change (ite _ _ _ : Dev).msc.bResetTrans = true
      split_ifs
      · exact (resetTrans_transferEffect desc card .inn _ d).trans h
      · exact h
  | transferOut received cbw card =>
      have hstored : (storeReceived cbw d).msc.bResetTrans = true := by
        unfold storeReceived
        split_ifs <;> exact h
      refine (resetTrans_of_forgetCtrl hforget).trans ?_
      change (ite _ _ _ : Dev).msc.bResetTrans = true
      split_ifs
      · exact (resetTrans_transferEffect desc card .out _ _).trans hstored
      · exact h
  | vbus _ | suspend | wakeup | sof _ | ep0TransferOk _ | ep0TransferFail _ =>
      obtain ⟨port, address, state, sleep, hframe⟩ := hother rfl
      rw [hframe]
      exact h

/-- Enabling the interface notes a reset. -/
theorem resetTrans_of_enables (desc : LunDesc) {r : UsbSetupReq} {d : Dev} (hb : Bound d)
    (h : (setupAction r (beginSetup d)).enables = true) :
    (serveIrq desc (.setup r) d).msc.bResetTrans = true := by
  refine (resetTrans_of_forgetCtrl (forgetCtrl_serveIrq desc (.setup r) (beginSetup_bound hb))).trans ?_
  change ((setupAction r (beginSetup d)).effect desc (beginSetup d)).msc.bResetTrans = true
  revert h
  cases setupAction r (beginSetup d) with
  | configuration n =>
      intro h
      change (configurationEffect desc n (beginSetup d)).msc.bResetTrans = true
      unfold configurationEffect
      dsimp only
      rw [if_neg (bne_iff_ne.mp h)]
      rfl
  | interface settingNum =>
      intro h
      change (interfaceEffect desc settingNum (beginSetup d)).msc.bResetTrans = true
      unfold interfaceEffect
      rw [if_pos (beq_iff_eq.mp h)]
      rfl
  | _ => exact nofun

/-! ## A host -/

/-- A command block without data for the unit 0. -/
def commandBlock (operation flags : BitVec 8) : UsbMscCbw where
  dCBWSignature := usbCbwSignature
  dCBWTag := 1
  dCBWDataTransferLength := 0
  bmCBWFlags := 0
  bCBWLUN := 0
  bCBWCBLength := 6
  cdb := ((Vector.replicate 16 0).set 0 operation).set 4 flags

/-- A READ(10) of one block. -/
def readBlock : UsbMscCbw where
  dCBWSignature := usbCbwSignature
  dCBWTag := 1
  dCBWDataTransferLength := 512
  bmCBWFlags := 0x80
  bCBWLUN := 0
  bCBWCBLength := 10
  cdb := ((Vector.replicate 16 0).set 0 0x28).set 8 1

/-- A READ(10) of two sectors at address 0. -/
def readBlocks : UsbMscCbw :=
  { readBlock with dCBWDataTransferLength := 1024, cdb := readBlock.cdb.set 8 2 }

/-- The host sends a command without data and reads its status. -/
def hostCommand (card : CardAnswer) (cbw : UsbMscCbw) : List Irq :=
  [.transferOut 31 cbw card, .transferIn card]

/-- A memory card that stays in the slot. -/
def presentCard : CardAnswer := ⟨.ok, 1, 1024⟩

end Firmware
end SoundingSoil
