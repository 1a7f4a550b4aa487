import SoundingSoil.Firmware.Udc

/-!
# The main loop and the whole firmware

The loop of `main()` with everything it calls, step by step: `udi_msc_process_trans`, the pipelined
loops of `sd_mmc_usb_read_10` and `sd_mmc_usb_write_10`, `udi_msc_trans_block`, the CSW, and
`sleepmgr_enter_sleep`.  A step of the main loop touches one shared variable or one device register;
an interrupt can be served between any two of them while interrupts are unmasked.  One thing is one step
here that is more in the code: a function that `udd_ep_abort` calls from the main loop.

`Sys` adds to the shared state the position of the main loop, the interrupt mask, and the interrupts
that are pending.  `step` is the transition function of the whole firmware.
-/

namespace SoundingSoil
namespace Firmware

/-! ## Positions of the main loop -/

/-- The locals of `sd_mmc_usb_read_10` (`read`) or `sd_mmc_usb_write_10`. -/
structure Transfer where
  read : Bool
  addr : BitVec 32
  nbSector : BitVec 16
  nbStep : BitVec 16
  bFirstStep : Bool
  deriving DecidableEq, Repr

/-- The transfer that a call of `udd_ep_run` by the main loop is for. -/
inductive RunFor
  | block (t : Transfer)
  | csw
  deriving DecidableEq, Repr

/-- The steps of `udd_ep_run`. -/
inductive RunPc
  | halted
  | claim
  | buffer
  | callback
  | flags
  | start
  deriving DecidableEq, Repr

/-- Positions inside `memory_2_usb` and `usb_2_memory`. -/
inductive MemoryPc
  | select (read : Bool) (lun : BitVec 8) (addr : BitVec 32) (nbSector : BitVec 16)
  | initBlocks (t : Transfer)
  | loop (t : Transfer)
  | startBlocks (t : Transfer)
  | ackTest (t : Transfer)
  | ackClear (t : Transfer)
  | runDenied (t : Transfer)
  | ackWait (t : Transfer)
  | abortTest (t : Transfer)
  | residue (t : Transfer)
  | abortResult (t : Transfer)
  | blockFailed (t : Transfer)
  | waitEnd (t : Transfer)
  | exit (status : CtrlStatus)
  deriving DecidableEq, Repr

/-- The stores of `udi_msc_sense_pass` and `udi_msc_sense_fail`: `udi_msc_clear_sense`, the status of the
CSW, and after a failure the sense data. -/
inductive SensePc
  | clearKey
  | clearInformation
  | clearAddSense
  | status
  | key
  | information
  | addSense
  deriving DecidableEq, Repr

/-- Positions of the main loop. -/
inductive Pc
  | loop
  -- `udi_msc_process_trans`
  | testReq
  | clearReq
  | clearReset
  | readDirection
  | readArguments (read : Bool)
  | memory (m : MemoryPc)
  | resetTest (status : CtrlStatus)
  | resetAck
  | sense (stage : SensePc) (status : CtrlStatus)
  -- `udi_msc_csw_process`
  | cswResidue
  | haltSet (e : Ep)
  | haltAbort (e : Ep)
  | haltBusy (e : Ep)
  | haltCall (e : Ep)
  | cswTag
  -- `udd_ep_run` and `udd_ep_wait_stall_clear`
  | run (stage : RunPc) (r : RunFor)
  | stallBusy
  | stallHalted
  | stallConfigured
  | stallClaim
  | stallCall
  -- `sleepmgr_enter_sleep`
  | irqDisable
  | chooseMode
  | setMode (mode : SleepmgrMode)
  | irqEnable
  | dsb
  | wfi
  | asleep
  deriving DecidableEq, Repr

/-- The firmware: the position of the main loop, the interrupt mask, the pending interrupts in the
order they are served, and the shared state. -/
structure Sys where
  pc : Pc
  irqMasked : Bool
  pending : List Irq
  dev : Dev

/-! ## The pipelined loops -/

namespace Transfer

/-- The loop body is over. -/
def nextStep (t : Transfer) : MemoryPc :=
  .loop { t with bFirstStep := false }

/-- After the USB half of a step: wait for the card unless this step did not start it. -/
def afterBlock (t : Transfer) : MemoryPc :=
  let started := if t.read then t.nbStep != 0 else !t.bFirstStep
  if started then .waitEnd t else t.nextStep

/-- After the card half of a step: reading skips the USB half in the first step, writing in the
last. -/
def afterStart (t : Transfer) : MemoryPc :=
  let transfers := if t.read then !t.bFirstStep else t.nbStep != 0
  if transfers then .ackTest t else t.afterBlock

/-- The test `while (nb_step--)` succeeded: reading skips the card half in the last step, writing in
the first. -/
def beginStep (t : Transfer) : MemoryPc :=
  let starts := if t.read then t.nbStep != 0 else !t.bFirstStep
  if starts then .startBlocks t else t.afterStart

end Transfer

/-- The status of a card operation that cannot start. -/
def initStatus : SdMmcErr → CtrlStatus
  | .noCard => .noPresent
  | _ => .fail

/-- The status and the sense data that `udi_msc_process_trans` sets for a status of the memory. -/
def CtrlStatus.report : CtrlStatus → CswStatus × ScsiSense
  | .good => (.pass, ⟨0, 0, 0⟩)
  | .busy => (.fail, ⟨0x6, 0, 0x2800⟩)
  | .noPresent => (.fail, ⟨0x2, 0, 0x3A00⟩)
  | .fail => (.fail, ⟨0x4, 0, 0x0000⟩)

namespace SensePc

def storeCsw (stage : SensePc) (status : CtrlStatus) (csw : UsbMscCsw) : UsbMscCsw :=
  match stage with
  | .status => { csw with bCSWStatus := status.report.1 }
  | _ => csw

def storeSense (stage : SensePc) (status : CtrlStatus) (sense : ScsiSense) : ScsiSense :=
  match stage with
  | .clearKey => { sense with senseFlagKey := 0 }
  | .clearInformation => { sense with information := 0 }
  | .clearAddSense => { sense with addSense := 0 }
  | .status => sense
  | .key => { sense with senseFlagKey := status.report.2.senseFlagKey }
  | .information => { sense with information := status.report.2.information }
  | .addSense => { sense with addSense := status.report.2.addSense }

def store (stage : SensePc) (status : CtrlStatus) (m : Msc) : Msc :=
  { m with csw := stage.storeCsw status m.csw, sense := stage.storeSense status m.sense }

/-- The position after a store. -/
def next (status : CtrlStatus) : SensePc → Pc
  | .clearKey => .sense .clearInformation status
  | .clearInformation => .sense .clearAddSense status
  | .clearAddSense => .sense .status status
  | .status => if status = .good then .cswResidue else .sense .key status
  | .key => .sense .information status
  | .information => .sense .addSense status
  | .addSense => .cswResidue

end SensePc

/-- The stores of the function that is called for a status. -/
def CtrlStatus.stages (status : CtrlStatus) : List SensePc :=
  [.clearKey, .clearInformation, .clearAddSense, .status]
    ++ if status = .good then [] else [.key, .information, .addSense]

/-- Without an interrupt between them, the stores are the function of the class driver. -/
theorem stages_store (status : CtrlStatus) (d : Dev) :
    status.stages.foldl (fun d stage => { d with msc := stage.store status d.msc }) d =
      (if status = .good then udiMscSensePass else senseOf status) d := by
  cases status <;> rfl

def RunFor.req : RunFor → TransferReq
  | .block t => blockReq t.read
  | .csw => cswReq

/-- Where the main loop goes on when `udd_ep_run` returns true. -/
def RunFor.accepted : RunFor → Pc
  | .block t => .memory (.ackWait t)
  | .csw => .loop

/-- Where the main loop goes on when `udd_ep_run` returns false. -/
def RunFor.denied : RunFor → Pc
  | .block t => .memory (.runDenied t)
  | .csw => .stallBusy

/-! ## Steps of the main loop -/

/-- `sleepmgr_get_sleep_mode`: the first mode with a lock. -/
def sleepmgrGetSleepMode (s : Sleep) : SleepmgrMode :=
  if s.sleepmgrLocks .active ≠ 0 then .active
  else if s.sleepmgrLocks .idle0 ≠ 0 then .idle0
  else if s.sleepmgrLocks .idle1 ≠ 0 then .idle1
  else if s.sleepmgrLocks .idle2 ≠ 0 then .idle2
  else .standby

namespace Sys

def goto (pc : Pc) (s : Sys) : Sys :=
  { s with pc := pc }

def onDev (f : Dev → Dev) (s : Sys) : Sys :=
  { s with dev := f s.dev }

def onMsc (f : Msc → Msc) (s : Sys) : Sys :=
  s.onDev fun d => { d with msc := f d.msc }

end Sys

/-- A step of `udd_ep_run`. -/
def runStep (stage : RunPc) (r : RunFor) (s : Sys) : Sys :=
  match stage with
  | .halted =>
      if (s.dev.ep r.req.ep).halted then s.goto r.denied else s.goto (.run .claim r)
  | .claim =>
      let claim := uddEpRunClaim r.req.ep s.dev
      { s with dev := claim.2, pc := if claim.1 then .run .buffer r else r.denied }
  | .buffer => (s.onDev (uddEpRunBuffer r.req)).goto (.run .callback r)
  | .callback => (s.onDev (uddEpRunCallback r.req)).goto (.run .flags r)
  | .flags => (s.onDev (uddEpRunFlags r.req)).goto (.run .start r)
  | .start =>
      let start := uddEpRunStart r.req.ep s.dev
      { s with dev := start.2, pc := if start.1 then r.accepted else r.denied }

/-- A step inside `memory_2_usb` or `usb_2_memory`; `answer` is what the card driver returns, when the
step calls it. -/
def memoryStep (answer : SdMmcErr) (m : MemoryPc) (s : Sys) : Sys :=
  match m with
  | .select read lun addr nbSector =>
      if lun < maxLun then
        s.goto (.memory (.initBlocks ⟨read, addr, nbSector, 0, true⟩))
      else s.goto (.memory (.exit .fail))
  | .initBlocks t =>
      if answer = .ok then
        s.goto (.memory (.loop { t with nbStep := t.nbSector + 1, bFirstStep := true }))
      else s.goto (.memory (.exit (initStatus answer)))
  | .loop t =>
      if t.nbStep = 0 then s.goto (.memory (.exit .good))
      else s.goto (.memory { t with nbStep := t.nbStep - 1 }.beginStep)
  | .startBlocks t =>
      if answer = .ok then s.goto (.memory t.afterStart) else s.goto (.memory (.exit .fail))
  | .ackTest t =>
      if s.dev.msc.bAckTrans then s.goto (.memory (.ackClear t))
      else s.goto (.memory (.blockFailed t))
  | .ackClear t =>
      (s.onMsc fun m => { m with bAckTrans := false }).goto (.run .halted (.block t))
  | .runDenied t =>
      (s.onMsc fun m => { m with bAckTrans := true }).goto (.memory (.blockFailed t))
  | .ackWait t => if s.dev.msc.bAckTrans then s.goto (.memory (.abortTest t)) else s
  | .abortTest t =>
      if s.dev.msc.bAbortTrans then s.goto (.memory (.blockFailed t))
      else s.goto (.memory (.residue t))
  | .residue t =>
      (s.onMsc fun m =>
        { m with csw := { m.csw with dCSWDataResidue := m.csw.dCSWDataResidue - 512 } }).goto
        (.memory (.abortResult t))
  | .abortResult t =>
      if s.dev.msc.bAbortTrans then s.goto (.memory (.blockFailed t))
      else s.goto (.memory t.afterBlock)
  | .blockFailed _ => s.goto (.memory (.exit .fail))
  | .waitEnd t =>
      if answer = .ok then s.goto (.memory t.nextStep) else s.goto (.memory (.exit .fail))
  | .exit status => s.goto (.resetTest status)

/-- A step of the main loop. -/
def mainStep (answer : SdMmcErr) (s : Sys) : Sys :=
  match s.pc with
  | .loop => if s.dev.app.mainBMscEnable then s.goto .testReq else s.goto .irqDisable
  | .testReq => if s.dev.msc.bTransReq then s.goto .clearReq else s.goto .irqDisable
  | .clearReq => (s.onMsc fun m => { m with bTransReq := false }).goto .clearReset
  | .clearReset => (s.onMsc fun m => { m with bResetTrans := false }).goto .readDirection
  | .readDirection => s.goto (.readArguments s.dev.msc.bRead)
  | .readArguments read =>
      s.goto (.memory (.select read s.dev.msc.cbw.bCBWLUN s.dev.msc.addr s.dev.msc.nbBlock))
  | .memory m => memoryStep answer m s
  | .resetTest status =>
      if s.dev.msc.bResetTrans then s.goto .resetAck else s.goto (.sense .clearKey status)
  | .resetAck => (s.onMsc fun m => { m with bResetTrans := false }).goto .loop
  | .sense stage status => (s.onMsc (stage.store status)).goto (stage.next status)
  | .cswResidue =>
      match s.dev.msc.residueEp with
      | some e => s.goto (.haltSet e)
      | none => s.goto .cswTag
  | .haltSet e => (s.onDev (Dev.onEp e fun x => { x with halted := true })).goto (.haltAbort e)
  | .haltAbort e => (s.onDev (Dev.onEp e Endpoint.abortJob)).goto (.haltBusy e)
  | .haltBusy e =>
      if (s.dev.ep e).job.busy then
        (s.onDev (Dev.onJob e fun j => { j with busy := false })).goto (.haltCall e)
      else s.goto .cswTag
  | .haltCall e => (s.onDev fun d => callJob uddCall d (d.ep e).job.call).goto .cswTag
  | .cswTag => (s.onDev udiMscCswTag).goto (.run .halted .csw)
  | .run stage r => runStep stage r s
  | .stallBusy =>
      if s.dev.inn.job.busy then s.goto .loop else s.goto .stallHalted
  | .stallHalted => if s.dev.inn.halted then s.goto .stallClaim else s.goto .stallConfigured
  | .stallConfigured =>
      -- A halt that ended meanwhile: `udi_msc_csw_send` starts again.
      if s.dev.inn.configured then s.goto (.run .halted .csw) else s.goto .loop
  | .stallClaim => (s.onDev (Dev.onJob .inn fun j => { j with busy := true })).goto .stallCall
  | .stallCall =>
      (s.onDev (Dev.onJob .inn fun j => { j with call := some .cswSend })).goto .loop
  | .irqDisable => { s with irqMasked := true, pc := .chooseMode }
  | .chooseMode =>
      if sleepmgrGetSleepMode s.dev.sleep = .active then { s with irqMasked := false, pc := .loop }
      else s.goto (.setMode (sleepmgrGetSleepMode s.dev.sleep))
  | .setMode _ => s.goto .irqEnable
  | .irqEnable => { s with irqMasked := false, pc := .dsb }
  | .dsb => s.goto .wfi
  | .wfi => if s.pending = [] then s.goto .asleep else s.goto .loop
  | .asleep => s

/-! ## The whole firmware -/

/-- The hardware takes packets for the control endpoint only after a bus reset has enabled it. -/
def Sys.hears (irq : Irq) (s : Sys) : Bool :=
  !irq.onControl || s.dev.bus.ctrlEnabled

/-- An interrupt is raised; it wakes the processor. -/
def raiseIrq (irq : Irq) (s : Sys) : Sys :=
  { s with
    pending := if s.hears irq then s.pending ++ [irq] else s.pending
    pc := if s.hears irq ∧ s.pc = .asleep then .loop else s.pc }

/-- The first pending interrupt is served, unless interrupts are masked. -/
def serveStep (desc : LunDesc) (s : Sys) : Sys :=
  if s.irqMasked then s
  else
    match s.pending with
    | [] => s
    | irq :: rest => { s with pending := rest, dev := serveIrq desc irq s.dev }

/-- What happens next: a step of the main loop with the answer of the card driver, an interrupt is
raised, or one is served. -/
inductive Label
  | main (answer : SdMmcErr)
  | raise (irq : Irq)
  | serve
  deriving DecidableEq, Repr

/-- The transition function of the firmware. -/
def step (desc : LunDesc) (s : Sys) : Label → Sys
  | .main answer => mainStep answer s
  | .raise irq => raiseIrq irq s
  | .serve => serveStep desc s

/-! ## After `udc_start` -/

/-- `sleepmgr_init`: only the deepest mode is locked. -/
def sleepmgrInit : Sleep where
  sleepmgrLocks mode := if mode = .standby then 1 else 0
  uddState := .off

/-- The shared state before `udc_start`: `system_init`, `ui_init` and `ui_powerdown` have run on the
port after reset. -/
def devReset : Dev where
  app := ⟨false, Board.runUi Board.samd21XplainedPro [.init, .powerdown] Board.portReset⟩
  bus := ⟨false, 0, false, .setup, none, 0⟩
  sleep := sleepmgrInit
  inn := endpointReset
  out := endpointReset
  msc := mscReset
  store := ⟨false, []⟩

/-- `udd_enable`: the device attaches when VBUS is already there. -/
def uddEnable (vbusHigh : Bool) (d : Dev) : Dev :=
  let d := d.onSleep (uddSleepMode .suspend)
  if vbusHigh then uhdVbusHandler true d else d

/-- The firmware when the main loop begins. -/
def boot (vbusHigh : Bool) : Sys where
  pc := .loop
  irqMasked := false
  pending := []
  dev := uddEnable vbusHigh devReset

end Firmware
end SoundingSoil
