import SoundingSoil.Firmware.Budget
import SoundingSoil.Firmware.Completion
import SoundingSoil.Firmware.Registered

/-!
# The turn of the main loop

From taking a request until its CSW is handed over, the turn is with the main loop: no reception of a CBW
and no status phase is under way, and only the sector that the loop waits for, or has given up, can be
in flight.

* `Live` — that statement, at each position, for the enabled interface; `Pc.Flight` / `Pc.Stage` /
  `Pc.Answered` are its parts about the position.
* `OwnTurn` — the same once the interface may have been disabled under the transfer.
* `Eases` — what an interrupt may do to a running transfer; `Live.eases`.
* **`ownTurn_serveIrq`** — every interrupt keeps the turn of the main loop, except the control requests
  that `Spares` leaves out, and those that enable the interface where the loop tests for a reset.
-/

namespace SoundingSoil
namespace Firmware

open Endpoint

/-! ## Positions -/

/-- The main loop has taken a request, and has not handed its CSW over.  Back from the transfer it gives
its turn up when a reset is noted. -/
def Pc.owner (m : Msc) : Pc → Bool
  | .loop | .testReq | .resetAck => false
  | .irqDisable | .chooseMode | .setMode _ | .irqEnable | .dsb | .wfi | .asleep => false
  | .resetTest _ => !m.bResetTrans
  | _ => true

/-- The main loop is out of its turn, or about to test for a reset. -/
def Pc.resettable : Pc → Bool
  | .loop | .testReq | .resetAck | .resetTest _ => true
  | .irqDisable | .chooseMode | .setMode _ | .irqEnable | .dsb | .wfi | .asleep => true
  | _ => false

/-- The test for a reset is out of the turn when one is noted. -/
theorem reset_of_owner {status : CtrlStatus} {m : Msc} (h : (Pc.resetTest status).owner m = false) :
    m.bResetTrans = true := by
  simpa [Pc.owner] using h

/-- The test for a reset is the only position of a turn at which the interface may be enabled. -/
theorem resetTest_of_resettable {pc : Pc} {m : Msc} (h : pc.resettable = true) (howner : pc.owner m = true) :
    ∃ status, pc = .resetTest status := by
  cases pc with
  | resetTest status => exact ⟨status, rfl⟩
  | loop | testReq | resetAck | irqDisable | chooseMode | setMode _ | irqEnable | dsb | wfi | asleep =>
      exact Bool.noConfusion howner
  | _ => exact Bool.noConfusion h

/-- Noting a reset ends a turn only at the test for it. -/
theorem owner_or_resetTest {pc : Pc} {m : Msc} (h : pc.owner m = true) (m' : Msc) :
    pc.owner m' = true ∨ (∃ status, pc = .resetTest status) ∧ m'.bResetTrans = true := by
  cases pc with
  | resetTest status =>
      cases hreset : m'.bResetTrans with
      | true => exact .inr ⟨⟨status, rfl⟩, rfl⟩
      | false => exact .inl (congrArg not hreset)
  | _ => exact .inl h

/-- The main loop is past the first two steps, before which an old reset may still be noted. -/
def Pc.started : Pc → Bool
  | .clearReq | .clearReset => false
  | _ => true

/-- The main loop has claimed the job of the IN endpoint, or has found it claimed. -/
def Pc.claims : Pc → Bool
  | .run .buffer r | .run .callback r | .run .flags r | .run .start r => r.req.ep == .inn
  | .stallBusy | .stallCall => true
  | _ => false

/-- Where a sector can be in flight: the main loop waits for it, or was told that it is aborted and is
on its way to stall the endpoint. -/
def Pc.Flight (m : Msc) (e : Ep) : Pc → Prop
  | .memory (.ackWait _) => m.residueEp = some e ∧ (m.bAckTrans = true → m.bAbortTrans = true)
  | .memory (.abortTest _) => m.residueEp = some e ∧ m.bAbortTrans = true
  | .memory (.blockFailed _) | .memory (.exit _) | .resetTest _ | .sense _ _ | .cswResidue =>
      m.residueEp = some e
  | .haltSet e' | .haltAbort e' => e = e'
  | _ => False

/-- What the main loop has stored into the job it works on. -/
def Pc.Stage (d : Dev) : Pc → Prop
  | .run .callback r => (d.ep r.req.ep).job.buf = r.req.buf
  | .run .flags r | .run .start r =>
      (d.ep r.req.ep).job.call = some r.req.callback ∧ (d.ep r.req.ep).job.buf = r.req.buf
  | .haltCall e => (d.ep e).job.busy = false ∧ (d.ep e).job.call ≠ some .cswSent
  | _ => True

/-- While a sector is being started, an answer is an abort. -/
def Pc.Answered (m : Msc) : Pc → Prop
  | .run _ (.block _) => m.bAckTrans = true → m.bAbortTrans = true
  | _ => True

/-- What the other parties of the transport would do on an endpoint. -/
def Endpoint.due (x : Endpoint) : Ep → Prop
  | .inn => x.cswDue
  | .out => x.cbwDue

/-- The turn of the main loop, while the interface is enabled. -/
structure Live (pc : Pc) (d : Dev) : Prop where
  typed : ∀ e, (d.ep e).Typed e
  due : ∀ e, ¬ (d.ep e).due e
  sent : pc.claims = false → ¬ d.inn.cswUnsent
  flight : ∀ e, (d.ep e).block → pc.Flight d.msc e
  reset : pc.started = true → d.msc.bResetTrans = false
  stage : pc.Stage d
  answered : pc.Answered d.msc
  budget : pc.Budget d.msc

/-- The turn of the main loop. -/
structure OwnTurn (pc : Pc) (d : Dev) : Prop where
  registered : d.Registered
  taken : pc ≠ .clearReq → d.msc.bTransReq = false
  live : d.inn.configured = true → Live pc d

theorem due_of_running {e : Ep} {x : Endpoint} (h : x.Typed e) (hrun : x.running = true)
    (hblock : ¬ x.block) : x.due e := by
  cases e with
  | inn => exact cswDue_of_running h hrun hblock
  | out => exact cbwDue_of_running h hrun hblock

/-- What runs in the turn of the main loop is a sector. -/
theorem Live.block_of_running {pc : Pc} {d : Dev} (h : Live pc d) {e : Ep}
    (hrun : (d.ep e).running = true) : (d.ep e).block := by
  by_contra hblock
  exact h.due e (due_of_running (h.typed e) hrun hblock)

/-- Only one sector is in flight. -/
theorem flight_unique {pc : Pc} {m : Msc} {e e' : Ep} (h : pc.Flight m e) (h' : pc.Flight m e') :
    e = e' := by
  have hsome (h : m.residueEp = some e) (h' : m.residueEp = some e') : e = e' :=
    Option.some.inj (h.symm.trans h')
  cases pc with
  | memory p =>
      cases p with
      | ackWait t | abortTest t => exact hsome h.1 h'.1
      | blockFailed t | exit status => exact hsome h h'
      | _ => exact absurd h id
  | resetTest status | sense stage status | cswResidue => exact hsome h h'
  | haltSet ep | haltAbort ep => exact h.trans (Eq.symm h')
  | _ => exact absurd h id

theorem flight_of_ackMoves {pc : Pc} {m m' : Msc} {e : Ep} (h : pc.Flight m e)
    (hresidue : m'.residueEp = m.residueEp) (hack : AckMoves m m') : pc.Flight m' e := by
  have hsome (h : m.residueEp = some e) : m'.residueEp = some e := hresidue.trans h
  cases pc with
  | memory p =>
      cases p with
      | ackWait t =>
          refine ⟨hsome h.1, ?_⟩
          rcases hack with ⟨hack, habort⟩ | ⟨-, habort⟩
          · rw [hack, habort]
            exact h.2
          · exact fun _ => habort
      | abortTest t =>
          refine ⟨hsome h.1, ?_⟩
          rcases hack with ⟨-, habort⟩ | ⟨-, habort⟩
          · exact habort.trans h.2
          · exact habort
      | blockFailed t | exit status => exact hsome h
      | _ => exact absurd h id
  | resetTest status | sense stage status | cswResidue => exact hsome h
  | haltSet ep | haltAbort ep => exact h
  | _ => exact absurd h id

theorem answered_of_ackMoves {pc : Pc} {m m' : Msc} (h : pc.Answered m) (hack : AckMoves m m') :
    pc.Answered m' := by
  cases pc with
  | run stage r =>
      cases r with
      | block t =>
          rcases hack with ⟨hack, habort⟩ | ⟨-, habort⟩
          · unfold Pc.Answered
            rw [hack, habort]
            exact h
          · exact fun _ => habort
      | csw => trivial
  | _ => trivial

/-! ## Interrupts during a transfer -/

/-- Nothing of the endpoint is started or registered. -/
structure Relaxes (x x' : Endpoint) : Prop where
  configured : x'.configured = x.configured
  armed : x'.armed = true → x.armed = true
  call : x'.job.call = x.job.call
  buf : x'.job.buf = x.job.buf
  busy : x'.job.busy = true → x.job.busy = true

theorem Relaxes.refl (x : Endpoint) : Relaxes x x :=
  ⟨rfl, id, rfl, rfl, id⟩

theorem Relaxes.settles {x x' : Endpoint} (h : Relaxes x x') (e : Ep) : Settles e x x' :=
  Settles.of_le h.configured h.armed h.call h.buf h.busy

theorem Relaxes.due {e : Ep} {x x' : Endpoint} (h : Relaxes x x') (hdue : x'.due e) : x.due e := by
  cases e with
  | inn => exact (h.settles .inn).csw hdue
  | out => exact (h.settles .out).cbw hdue

/-- Nothing is started; the main loop may be told of an abort, or that its sector is done. -/
structure Eases (d d' : Dev) : Prop where
  relaxes : ∀ e, Relaxes (d.ep e) (d'.ep e)
  msc : ∃ ack abort, d'.msc = { d.msc with bAckTrans := ack, bAbortTrans := abort }
  answer : AckMoves d.msc d'.msc ∨ ∃ e, (d.ep e).block ∧ (d'.ep e).running = false

theorem Eases.of_eq {d d' : Dev} (hinn : d'.inn = d.inn) (hout : d'.out = d.out)
    (hmsc : d'.msc = d.msc) : Eases d d' := by
  refine ⟨?_, ⟨d.msc.bAckTrans, d.msc.bAbortTrans, hmsc⟩, .inl (.inl ?_)⟩
  · intro e
    cases e with
    | inn =>
        rw [Dev.ep_inn, Dev.ep_inn, hinn]
        exact Relaxes.refl d.inn
    | out =>
        rw [Dev.ep_out, Dev.ep_out, hout]
        exact Relaxes.refl d.out
  · rw [hmsc]
    exact ⟨rfl, rfl⟩

/-- One endpoint is relaxed. -/
theorem Eases.onEp {e : Ep} {f : Endpoint → Endpoint} {d : Dev}
    (hf : Relaxes (d.ep e) (f (d.ep e))) : Eases d (d.onEp e f) := by
  refine ⟨?_, ⟨d.msc.bAckTrans, d.msc.bAbortTrans, ?_⟩, .inl (.inl ?_)⟩
  · intro e'
    cases e <;> cases e' <;> first | exact hf | exact Relaxes.refl _
  · cases e <;> rfl
  · cases e <;> exact ⟨rfl, rfl⟩

theorem stage_of_relaxes {pc : Pc} {d d' : Dev} (h : pc.Stage d)
    (hrelaxes : ∀ e, Relaxes (d.ep e) (d'.ep e)) : pc.Stage d' := by
  cases pc with
  | run stage r =>
      have hr := hrelaxes r.req.ep
      cases stage with
      | callback => exact hr.buf.trans h
      | flags | start => exact ⟨hr.call.trans h.1, hr.buf.trans h.2⟩
      | _ => trivial
  | haltCall e =>
      have hr := hrelaxes e
      refine ⟨Bool.eq_false_of_not_eq_true fun hbusy => ?_, ?_⟩
      · exact absurd (h.1.symm.trans (hr.busy hbusy)) nofun
      · rw [hr.call]
        exact h.2
  | _ => trivial

/-- **A running transfer survives what eases it.** -/
theorem Live.eases {pc : Pc} {d d' : Dev} (h : Live pc d) (he : Eases d d') : Live pc d' := by
  obtain ⟨hrelaxes, ⟨ack, abort, hmsc⟩, hanswer⟩ := he
  have hresidue : d'.msc.residueEp = d.msc.residueEp := by
    rw [hmsc]
    rfl
  have hblock (e : Ep) : (d'.ep e).block → (d.ep e).block := ((hrelaxes e).settles e).block
  refine ⟨?_, ?_, ?_, ?_, ?_, stage_of_relaxes h.stage hrelaxes, ?_, ?_⟩
  · exact fun e => ((hrelaxes e).settles e).typed (h.typed e)
  · exact fun e hdue => h.due e ((hrelaxes e).due hdue)
  · intro hclaims hsent
    have hinn := hrelaxes .inn
    exact h.sent hclaims ⟨hinn.busy hsent.1, hinn.call.symm.trans hsent.2⟩
  · intro e hb
    have hflight := h.flight e (hblock e hb)
    rcases hanswer with hack | ⟨e', hb', hdone⟩
    · exact flight_of_ackMoves hflight hresidue hack
    · -- The sector that is done was the only one.
      obtain rfl := flight_unique hflight (h.flight e' hb')
      exact absurd (hdone.symm.trans hb.1) nofun
  · rw [hmsc]
    exact h.reset
  · rcases hanswer with hack | ⟨e', hb', -⟩
    · exact answered_of_ackMoves h.answered hack
    · have hflight := h.flight e' hb'
      cases pc with
      | run stage r => exact absurd hflight id
      | _ => trivial
  · rw [hmsc]
    exact h.budget.of_eq rfl rfl rfl rfl

/-- Ending a job eases a running transfer. -/
theorem Live.ends {pc : Pc} {e : Ep} {d d' : Dev} (h : Live pc d) (hconf : d.out.configured = true)
    (hends : Ends e d d') (hsent : e = .inn → ¬ d.inn.cswUnsent) : Eases d d' := by
  have hpark : (d.ep e).Parkless := by
    cases e with
    | inn =>
        refine ⟨fun hcall => ?_, fun hcall => h.due .inn (.inr hcall)⟩
        exact absurd ((h.typed .inn).belongs .cbwWait hcall) nofun
    | out =>
        refine ⟨fun hcall => h.due .out ⟨hconf, .inl hcall⟩, fun hcall => ?_⟩
        exact absurd ((h.typed .out).belongs .cswSend hcall) nofun
  have hown : Relaxes (d.ep e) (d'.ep e) := by
    obtain ⟨hbuf, hcall, harmed⟩ := hends.steady hpark
    refine ⟨hends.own.configured, harmed, hcall, hbuf, fun hbusy => ?_⟩
    by_contra hidle
    rw [hends.idle (Bool.eq_false_of_not_eq_true hidle)] at hbusy
    exact hidle hbusy
  refine ⟨?_, ⟨_, _, msc_of_rest hends.rest⟩, .inl hends.ack⟩
  intro e'
  cases e with
  | inn =>
      cases e' with
      | inn => exact hown
      | out =>
          have hover : ¬ d.inn.status := by
            rintro (hdue | hunsent)
            · exact h.due .inn hdue
            · exact hsent rfl hunsent
          rw [Dev.ep_out, Dev.ep_out, hends.out rfl hover]
          exact Relaxes.refl d.out
  | out =>
      cases e' with
      | inn =>
          rw [Dev.ep_inn, Dev.ep_inn, hends.inn rfl]
          exact Relaxes.refl d.inn
      | out => exact hown

/-! ## A sector completes -/

/-- A hardware job of a sector is over: the sector goes on, or the main loop is told that it is done. -/
theorem eases_transferNext (desc : LunDesc) (card : CardAnswer) (e : Ep) {next : TransNext} {d : Dev}
    (hblock : (d.ep e).block) (hkeeps : next.Keeps (d.ep e).job) :
    Eases d (transferNext e (completedCallback uddCall desc card) next d) := by
  obtain ⟨hconf, harmed⟩ := (running_iff (d.ep e)).mp hblock.1
  cases next with
  | again job size =>
      obtain ⟨hcall, hbuf, hbusy⟩ := hkeeps
      rw [transferNext_again e _ job size hconf]
      exact Eases.onEp ⟨rfl, fun _ => harmed, hcall, hbuf, hbusy ▸ id⟩
  | complete job =>
      obtain ⟨hcall, hbuf, hbusy⟩ := hkeeps
      have hdone : transferNext e (completedCallback uddCall desc card) (.complete job) d =
          udiMscTransAck .ok (released e job d) := by
        simp only [transferNext, hcall.trans hblock.2]
        rfl
      have hreleased : released e job d = d.onEp e fun x => { x with armed := false, job := job } := by
        cases e <;> rfl
      have hrelaxes : Relaxes (d.ep e) { d.ep e with armed := false, job := job } :=
        ⟨rfl, fun h => Bool.noConfusion h, hcall, hbuf,
          fun h => absurd (hbusy.symm.trans h) Bool.noConfusion⟩
      rw [hdone, hreleased]
      refine ⟨?_, ⟨true, false, ?_⟩, .inr ⟨e, hblock, ?_⟩⟩
      · exact (Eases.onEp hrelaxes).relaxes
      · cases e <;> rfl
      · cases e <;> exact not_running rfl

theorem Live.transferIn (desc : LunDesc) (card : CardAnswer) {pc : Pc} {d : Dev} (h : Live pc d) :
    Eases d (transferIn uddCall desc card d) := by
  unfold Firmware.transferIn
  split_ifs with hrun
  · exact eases_transferNext desc card .inn (h.block_of_running hrun) (uddEpTransInNext_keeps _ _)
  · exact Eases.of_eq rfl rfl rfl

theorem Live.transferOut (desc : LunDesc) (received : Nat) (cbw : UsbMscCbw) (card : CardAnswer)
    {pc : Pc} {d : Dev} (h : Live pc d) :
    Eases d (transferOut uddCall desc received cbw card d) := by
  unfold Firmware.transferOut
  split_ifs with hrun
  · have hblock : d.out.block := @Live.block_of_running pc d h .out hrun
    -- A sector does not go to the command block.
    have hstored : storeReceived cbw d = d := by
      rw [storeReceived, if_neg]
      exact fun hbuf => (h.typed .out).buffer hblock hbuf.2
    rw [hstored]
    exact eases_transferNext desc card .out hblock (uddEpTransOutNext_keeps _ _ _)
  · exact Eases.of_eq rfl rfl rfl

/-- A hardware job of the turn brings no command. -/
theorem command_of_block {x : Endpoint} {next : TransNext} (hblock : x.block)
    (hkeeps : next.Keeps x.job) (d : Dev) : transferCommand next d = none := by
  unfold transferCommand
  cases next with
  | again job size => rfl
  | complete job =>
      dsimp only
      rw [hkeeps.1, hblock.2]
      rfl

/-- **In the turn of the main loop no interrupt brings a command.** -/
theorem OwnTurn.irqCommand {pc : Pc} {d : Dev} (h : OwnTurn pc d) (hb : Bound d) (irq : Irq) :
    irqCommand irq d = none := by
  cases irq with
  | transferIn card =>
      unfold Firmware.irqCommand
      dsimp only
      split_ifs with hrun
      · have hlive := h.live ((running_iff d.inn).mp hrun).1
        have hblock : d.inn.block := @Live.block_of_running pc d hlive .inn hrun
        rw [command_of_block hblock (uddEpTransInNext_keeps _ _)]
        rfl
      · rfl
  | transferOut received cbw card =>
      unfold Firmware.irqCommand
      dsimp only
      split_ifs with hrun
      · have hlive := h.live (hb.both.symm.trans ((running_iff d.out).mp hrun).1)
        have hblock : d.out.block := @Live.block_of_running pc d hlive .out hrun
        rw [command_of_block hblock (uddEpTransOutNext_keeps _ _ _)]
        rfl
      · rfl
  | _ => rfl

/-! ## Control requests -/

/-- The request starts no reception of a CBW beside a transfer of the main loop or an open status
phase. -/
def Spares (pc : Pc) (d : Dev) : SetupAction → Prop
  | .configuration n =>
      n ≠ 0 → pc.resettable = true ∧ d.inn.job.call ≠ some .cswSend
        ∧ (d.bus.udcNumConfiguration = 0 → ¬ d.inn.cswUnsent)
  | .interface settingNum =>
      settingNum = 0 → pc.resettable = true ∧ d.inn.job.call ≠ some .cswSend
  | .bulkReset =>
      d.out.configured = true → pc.owner d.msc = false ∧ d.inn.job.call ≠ some .cswSend
  | .clearHalt e =>
      e = .inn → d.out.configured = true → d.inn.cswUnsent →
        d.inn.running = false ∧ pc.claims = false
  | .setHalt e =>
      e = .inn → d.out.configured = true → d.inn.cswUnsent → pc.claims = false
  | _ => True

/-- The interrupt brings no request that is not spared. -/
def IrqSpares (pc : Pc) (d : Dev) : Irq → Prop
  | .setup r => Spares pc (beginSetup d) (setupAction r (beginSetup d))
  | _ => True

/-- The requests that neither enable nor disable the interface. -/
theorem Live.action (desc : LunDesc) {pc : Pc} {action : SetupAction} {d : Dev} (h : Live pc d)
    (hconf : d.out.configured = true) (howner : pc.owner d.msc = true) (hspares : Spares pc d action)
    (henables : action.enables = false) (hdisables : action.disables = false) :
    Eases d (action.run uddCall desc d) := by
  cases action with
  | none | address wValue => exact Eases.of_eq rfl rfl rfl
  | configuration n =>
      have hn : n = 0 := (enables_configuration n).mp henables
      exact absurd (hdisables.symm.trans (beq_iff_eq.mpr hn)) nofun
  | interface settingNum =>
      have hn : settingNum ≠ 0 := (enables_interface settingNum).mp henables
      exact absurd (hdisables.symm.trans (bne_iff_ne.mpr hn)) nofun
  | clearHalt e =>
      refine h.ends hconf (ends_uddEpClearHalt (h.typed e)) fun he hsent => ?_
      exact h.sent (hspares he hconf hsent).2 hsent
  | setHalt e =>
      have habort := ends_uddEpAbort (h.typed e)
      have hhalt := habort.trans (ends_uddEpSetHalt (habort.own.typed (h.typed e)))
      refine h.ends hconf hhalt fun he hsent => ?_
      exact h.sent (hspares he hconf hsent) hsent
  | bulkReset => exact absurd (howner.symm.trans (hspares hconf).1) nofun

theorem registered_action (desc : LunDesc) {action : SetupAction} {d : Dev} (h : d.Registered)
    (henables : action.enables = false) : (action.run uddCall desc d).Registered := by
  cases action with
  | none | address wValue => exact h
  | configuration n =>
      have hn : n = 0 := (enables_configuration n).mp henables
      change (setConfiguration uddCall desc n d).Registered
      unfold setConfiguration
      rw [if_pos hn]
      exact registered_udcReset h
  | interface settingNum =>
      have hn : settingNum ≠ 0 := (enables_interface settingNum).mp henables
      change (setInterface uddCall desc settingNum d).Registered
      unfold setInterface udcIfaceEnable
      rw [if_neg fun hfound => hn (ifaceNum_of_found hfound).2.2]
      exact registered_udcIfaceDisable 0 h
  | clearHalt e => exact registered_uddEpClearHalt registered_uddCall e h
  | setHalt e =>
      exact registered_uddEpSetHalt registered_uddCall e
        (registered_uddEpAbort registered_uddCall e h)
  | bulkReset => exact registered_udiMscBulkReset h

/-- A request that is spared enables the interface only where the main loop notices the reset. -/
theorem resettable_of_enables {pc : Pc} {action : SetupAction} {d : Dev} (hspares : Spares pc d action)
    (henables : action.enables = true) : pc.resettable = true := by
  cases action with
  | configuration n => exact (hspares (bne_iff_ne.mp henables)).1
  | interface settingNum => exact (hspares (beq_iff_eq.mp henables)).1
  | _ => exact absurd henables nofun

/-! ## Interrupts -/

/-- The interrupt brings a request that enables the interface. -/
def irqEnables (irq : Irq) (d : Dev) : Bool :=
  match irq with
  | .setup r => (setupAction r (beginSetup d)).enables
  | _ => false

/-- An interrupt eases the transfer when the interface stays enabled. -/
theorem Live.serveIrq (desc : LunDesc) {pc : Pc} {irq : Irq} {d : Dev} (h : Live pc d)
    (hb : Bound d) (hconf : d.inn.configured = true) (howner : pc.owner d.msc = true)
    (hspares : IrqSpares pc d irq) (henables : irqEnables irq d = false) (hflag : flagAfter irq d = true) :
    Eases d (serveIrq desc irq d) := by
  have hother := serveIrq_frame desc irq d
  cases irq with
  | busReset => exact absurd hflag nofun
  | setup r =>
      obtain ⟨state, hsetup⟩ := usbEp0OnSetup_eq uddCall desc r d
      obtain ⟨address, hframe⟩ := beginSetup_frame d
      have hbegin : Eases d (beginSetup d) := by
        rw [hframe]
        exact Eases.of_eq rfl rfl rfl
      have hout : (beginSetup d).out.configured = true := by
        rw [hframe]
        exact hb.both.trans hconf
      have henables' : (setupAction r (beginSetup d)).enables = false := henables
      have hdisables : (setupAction r (beginSetup d)).disables = false := by
        have hkept : ((setupAction r (beginSetup d)).enables
            || !(setupAction r (beginSetup d)).disables && d.app.mainBMscEnable) = true := hflag
        rw [henables', Bool.false_or, Bool.and_eq_true, Bool.not_eq_true'] at hkept
        exact hkept.1
      have howner' : pc.owner (beginSetup d).msc = true := by
        rw [hframe]
        exact howner
      have haction := (h.eases hbegin).action desc hout howner' hspares henables' hdisables
      obtain ⟨hrelaxes, hmsc, hanswer⟩ := haction
      rw [hframe] at hrelaxes hmsc hanswer
      change Eases d (usbEp0OnSetup uddCall desc r d)
      rw [hsetup, hframe]
      exact ⟨hrelaxes, hmsc, hanswer⟩
  | transferIn card => exact h.transferIn desc card
  | transferOut received cbw card => exact h.transferOut desc received cbw card
  | vbus _ | suspend | wakeup | sof _ | ep0TransferOk _ | ep0TransferFail _ =>
      obtain ⟨port, address, state, sleep, hframe⟩ := hother rfl
      rw [hframe]
      exact Eases.of_eq rfl rfl rfl

theorem Eases.registered {d d' : Dev} (he : Eases d d') (h : d.Registered) : d'.Registered :=
  h.of_call fun e => (he.relaxes e).call

/-- Functions stay registered where they belong, also when the interface is disabled. -/
theorem registered_serveIrq (desc : LunDesc) {pc : Pc} {irq : Irq} {d : Dev} (h : OwnTurn pc d)
    (hb : Bound d) (henables : irqEnables irq d = false) : (serveIrq desc irq d).Registered := by
  have hother := serveIrq_frame desc irq d
  cases irq with
  | busReset => exact (registered_udcReset h.registered).of_call fun e => by cases e <;> rfl
  | setup r =>
      obtain ⟨state, hsetup⟩ := usbEp0OnSetup_eq uddCall desc r d
      obtain ⟨address, hframe⟩ := beginSetup_frame d
      have hbegin : (beginSetup d).Registered := by
        rw [hframe]
        exact h.registered
      have hrun := registered_action desc hbegin henables
      change (usbEp0OnSetup uddCall desc r d).Registered
      rw [hsetup]
      exact hrun
  | transferIn card =>
      by_cases hrun : d.inn.running = true
      · have hlive := h.live ((running_iff d.inn).mp hrun).1
        exact (hlive.transferIn desc card).registered h.registered
      · change (transferIn uddCall desc card d).Registered
        rw [Firmware.transferIn, if_neg hrun]
        exact h.registered
  | transferOut received cbw card =>
      by_cases hrun : d.out.running = true
      · have hlive := h.live (hb.both.symm.trans ((running_iff d.out).mp hrun).1)
        exact (hlive.transferOut desc received cbw card).registered h.registered
      · change (transferOut uddCall desc received cbw card d).Registered
        rw [Firmware.transferOut, if_neg hrun]
        exact h.registered
  | vbus _ | suspend | wakeup | sof _ | ep0TransferOk _ | ep0TransferFail _ =>
      obtain ⟨port, address, state, sleep, hframe⟩ := hother rfl
      rw [hframe]
      exact h.registered

/-- The interface is only enabled by a request. -/
theorem configured_of_flagAfter {irq : Irq} {d : Dev} (hb : Bound d)
    (henables : irqEnables irq d = false) (hflag : flagAfter irq d = true) : d.inn.configured = true := by
  rw [← hb.flag]
  cases irq with
  | busReset => exact absurd hflag nofun
  | setup r =>
      have hkept : ((setupAction r (beginSetup d)).enables
          || !(setupAction r (beginSetup d)).disables && d.app.mainBMscEnable) = true := hflag
      have henables' : (setupAction r (beginSetup d)).enables = false := henables
      rw [henables', Bool.false_or, Bool.and_eq_true] at hkept
      exact hkept.2
  | _ => exact hflag

/-- **What an interrupt does to the turn of the main loop**, when it does not enable the interface. -/
theorem ownTurn_serveIrq (desc : LunDesc) {pc : Pc} {irq : Irq} {d : Dev} (h : OwnTurn pc d)
    (hb : RequestBound d) (howner : pc.owner d.msc = true) (hspares : IrqSpares pc d irq)
    (henables : irqEnables irq d = false) : OwnTurn pc (serveIrq desc irq d) := by
  obtain ⟨hb', hflag, -⟩ := connection_serveIrq desc irq hb.toBound
  refine ⟨registered_serveIrq desc h hb.toBound henables, ?_, ?_⟩
  · intro hpc
    have haccepts : acceptsTransfer desc irq d = false := by
      rw [acceptsTransfer, h.irqCommand hb.toBound irq]
      rfl
    rw [transReq_serveIrq desc irq hb, h.taken hpc, haccepts, Bool.or_false, Bool.and_false]
  · intro hconf
    have hafter : flagAfter irq d = true := hflag.symm.trans (hb'.flag.trans hconf)
    have hbefore := configured_of_flagAfter hb.toBound henables hafter
    have hlive := h.live hbefore
    exact hlive.eases (hlive.serveIrq desc hb.toBound hbefore howner hspares henables hafter)

end Firmware
end SoundingSoil
