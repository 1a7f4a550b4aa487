import SoundingSoil.Firmware.CommandBlocks
import SoundingSoil.Firmware.OwnSteps
import SoundingSoil.Firmware.Transfers
import SoundingSoil.Firmware.WakeUp

/-!
# Exclusive use of the card

The main loop moves sectors with interrupts enabled, and commands that check the card run in the USB
interrupt.  Nothing locks the card: that the two exclude each other rests on the turn of the bulk-only
transport, which is with the main loop as long as a transfer runs.

* `Turn` / **`turn_step`** — every step keeps the turn, except the control requests that `SparesTransfer`
  leaves out: those that start the reception of a CBW beside a transfer or an open status phase.
* `renewed_serveIrq` — where the main loop is about to find a reset, a request that enables the interface
  ends its turn, and the reception of a CBW begins the next one.
* `Turn.store` — during a transfer no interrupt reaches the memory.
* **`exclusive_of_sparesTransfer`** — in a run without such requests no interrupt checks the card during
  a transfer.
* `reset_breaks_exclusion` — a Bulk-Only Reset during a transfer breaks it.
-/

namespace SoundingSoil
namespace Firmware

open Support Endpoint

/-! ## The property -/

/-- The main loop is inside `memory_2_usb` or `usb_2_memory`. -/
def Pc.transferring : Pc → Bool
  | .memory _ => true
  | .run _ (.block _) => true
  | _ => false

/-- The event is a check of the card: `mem_test_unit_ready` or `mem_read_capacity` has run. -/
def LunEvent.checksCard : LunEvent → Bool
  | .checked _ _ => true
  | _ => false

/-- How often the card was checked. -/
def Store.checks (s : Store) : Nat :=
  s.history.countP LunEvent.checksCard

/-- The interrupt that is served spares the transfer of the main loop and the status phase. -/
def SparesTransfer (s : Sys) (l : Label) : Prop :=
  l = .serve → ∀ irq ∈ s.served, IrqSpares s.pc s.dev irq

section Decidable

instance (x : Endpoint) : Decidable x.cswUnsent :=
  inferInstanceAs (Decidable (_ ∧ _))

instance (pc : Pc) (d : Dev) (action : SetupAction) : Decidable (Spares pc d action) :=
  match action with
  | .configuration n =>
      inferInstanceAs (Decidable (n ≠ 0 → pc.resettable = true ∧ d.inn.job.call ≠ some .cswSend
        ∧ (d.bus.udcNumConfiguration = 0 → ¬ d.inn.cswUnsent)))
  | .interface settingNum =>
      inferInstanceAs (Decidable (settingNum = 0 →
        pc.resettable = true ∧ d.inn.job.call ≠ some .cswSend))
  | .bulkReset =>
      inferInstanceAs (Decidable (d.out.configured = true →
        pc.owner d.msc = false ∧ d.inn.job.call ≠ some .cswSend))
  | .clearHalt e =>
      inferInstanceAs (Decidable (e = .inn → d.out.configured = true → d.inn.cswUnsent →
        d.inn.running = false ∧ pc.claims = false))
  | .setHalt e =>
      inferInstanceAs (Decidable (e = .inn → d.out.configured = true → d.inn.cswUnsent →
        pc.claims = false))
  | .none | .address _ => isTrue trivial

instance (pc : Pc) (d : Dev) (irq : Irq) : Decidable (IrqSpares pc d irq) :=
  match irq with
  | .setup r =>
      inferInstanceAs (Decidable (Spares pc (beginSetup d) (setupAction r (beginSetup d))))
  | .vbus _ | .busReset | .suspend | .wakeup | .sof _ | .ep0TransferOk _ | .ep0TransferFail _
  | .transferIn _ | .transferOut _ _ _ => isTrue trivial

instance (s : Sys) (l : Label) : Decidable (SparesTransfer s l) :=
  inferInstanceAs (Decidable (l = .serve → ∀ irq ∈ s.served, IrqSpares s.pc s.dev irq))

end Decidable

/-! ## The turn -/

/-- The turn is with the main loop from taking a request until its CSW is handed over or a reset is found,
and with the interrupts otherwise. -/
structure Turn (s : Sys) : Prop where
  bound : RequestBound s.dev
  own : s.pc.owner s.dev.msc = true → OwnTurn s.pc s.dev
  free : s.pc.owner s.dev.msc = false → FreeTurn s.dev

/-- A disabled interface leaves the turn to nobody. -/
theorem freeTurn_of_down {d : Dev} (h : d.Registered) (hb : Bound d)
    (hdown : d.inn.configured = false) (hreq : d.msc.bTransReq = false) : FreeTurn d := by
  have hidle (e : Ep) : (d.ep e).running = false := by
    have hconf : (d.ep e).configured = false := by
      cases e with
      | inn => exact hdown
      | out => exact hb.both.trans hdown
    rw [running, hconf, Bool.false_and]
  have hcbw : ¬ d.out.cbwDue := fun hdue =>
    absurd ((hb.both.trans hdown).symm.trans hdue.1) Bool.noConfusion
  exact freeTurn_of_status (typed_of_idle (h .inn) (hidle .inn)) (typed_of_idle (h .out) (hidle .out))
    (fun e => not_block_of_idle (hidle e)) hcbw hreq

/-- The main loop takes a request. -/
theorem FreeTurn.taken {d : Dev} (h : FreeTurn d) (hreq : d.msc.bTransReq = true) :
    OwnTurn .clearReq d := by
  obtain ⟨hcbw, hover, hrequests⟩ := h.pending hreq
  have htyped (e : Ep) : (d.ep e).Typed e := by
    cases e with
    | inn => exact h.inn
    | out => exact h.out
  refine ⟨fun e => (htyped e).belongs, fun hpc => absurd rfl hpc, fun _ => ?_⟩
  refine ⟨htyped, ?_, ?_, ?_, fun h => Bool.noConfusion h, trivial, trivial, ?_⟩
  · intro e
    cases e with
    | inn => exact fun hdue => hover (.inl hdue)
    | out => exact hcbw
  · exact fun _ hsent => hover (.inr hsent)
  · exact fun e hb => absurd hb (h.block e)
  · exact ⟨hrequests.direction, hrequests.length⟩

/-- A step of the main loop outside a transfer. -/
theorem turn_freeStep (answer : SdMmcErr) {s : Sys} (hbound : RequestBound (mainStep answer s).dev)
    (h : FreeTurn s.dev) (howner : s.pc.owner s.dev.msc = false) : Turn (mainStep answer s) := by
  have hstay {s' : Sys} (hbound : RequestBound s'.dev) (hdev : s'.dev = s.dev)
      (hpc : s'.pc.owner s'.dev.msc = false) : Turn s' := by
    refine ⟨hbound, fun hown => absurd (hpc.symm.trans hown) Bool.noConfusion, fun _ => ?_⟩
    rw [hdev]
    exact h
  cases hpc : s.pc with
  | loop =>
      simp only [mainStep, hpc] at hbound ⊢
      split_ifs at hbound ⊢ <;> exact hstay hbound rfl rfl
  | testReq =>
      simp only [mainStep, hpc] at hbound ⊢
      split_ifs at hbound ⊢ with hreq
      · exact ⟨hbound, fun _ => h.taken hreq, fun hfree => absurd hfree Bool.noConfusion⟩
      · exact hstay hbound rfl rfl
  | resetTest status =>
      -- A reset was noted, and the loop goes on to acknowledge it.
      rw [hpc] at howner
      have hreset := reset_of_owner howner
      simp only [mainStep, hpc] at hbound ⊢
      rw [if_pos hreset] at hbound ⊢
      exact hstay hbound rfl rfl
  | resetAck =>
      simp only [mainStep, hpc] at hbound ⊢
      refine ⟨hbound, fun hown => absurd hown Bool.noConfusion, fun _ => ?_⟩
      exact h.of_eq rfl rfl id fun hreq => ⟨hreq.direction, hreq.length⟩
  | irqDisable | setMode mode | irqEnable | dsb | asleep =>
      simp only [mainStep, hpc] at hbound ⊢
      exact hstay hbound rfl (by first | rfl | rw [hpc]; rfl)
  | chooseMode | wfi =>
      simp only [mainStep, hpc] at hbound ⊢
      split_ifs at hbound ⊢ <;> exact hstay hbound rfl rfl
  | _ =>
      rw [hpc] at howner
      exact absurd howner Bool.noConfusion

/-- A step of the main loop inside a transfer. -/
theorem turn_ownStep (answer : SdMmcErr) {s : Sys} (hbound : RequestBound (mainStep answer s).dev)
    (h : OwnTurn s.pc s.dev) (howner : s.pc.owner s.dev.msc = true) : Turn (mainStep answer s) := by
  have hregistered := registered_mainStep answer h.registered
  have hreq : (mainStep answer s).dev.msc.bTransReq = false := by
    rw [transReq_mainStep]
    by_cases hpc : s.pc = .clearReq
    · rw [hpc]
      rfl
    · rw [h.taken hpc, Bool.and_false]
  have hkept : (mainStep answer s).dev.inn.configured = s.dev.inn.configured :=
    configured_of_link (link_mainStep answer s) .inn
  by_cases hconf : s.dev.inn.configured = true
  · have hout : s.dev.out.configured = true := by
      have hboth := hbound.both
      rw [hkept, hconf] at hboth
      exact (configured_of_link (link_mainStep answer s) .out).symm.trans hboth
    have hlive := live_mainStep answer (h.live hconf) howner
      (fun e => by cases e <;> first | exact hconf | exact hout) h.taken
    rw [LiveTurn] at hlive
    refine ⟨hbound, fun hown => ⟨hregistered, fun _ => hreq, fun _ => ?_⟩, fun hfree => ?_⟩
    · rwa [if_pos hown] at hlive
    · rwa [if_neg (ne_true_of_eq_false hfree)] at hlive
  · have hdown : (mainStep answer s).dev.inn.configured = false :=
      hkept.trans (Bool.eq_false_of_not_eq_true hconf)
    refine ⟨hbound, fun _ => ⟨hregistered, fun _ => hreq, fun hup => ?_⟩, fun _ => ?_⟩
    · exact absurd (hdown.symm.trans hup) Bool.noConfusion
    · exact freeTurn_of_down hregistered hbound.toBound hdown hreq

/-- Outside a transfer the request spares the status phase. -/
theorem sparesStatus_of_spares {pc : Pc} {action : SetupAction} {d : Dev} (hb : Bound d)
    (h : Spares pc d action) : SparesStatus d action := by
  cases action with
  | configuration n => exact fun hn => (h hn).2
  | interface settingNum => exact fun hn => (h hn).2
  | bulkReset => exact fun hconf => (h hconf).2
  | clearHalt e =>
      intro he hsent
      by_cases hconf : d.out.configured = true
      · exact (h he hconf hsent).1
      · have hinn : d.inn.configured = false :=
          hb.both.symm.trans (Bool.eq_false_of_not_eq_true hconf)
        rw [running, hinn, Bool.false_and]
  | none | address wValue | setHalt e => trivial

/-! ## A reset ends the turn -/

theorem OwnTurn.typed {pc : Pc} {d : Dev} (h : OwnTurn pc d) (hb : Bound d) : d.Typed := by
  intro e
  by_cases hconf : d.inn.configured = true
  · exact (h.live hconf).typed e
  · have hidle : (d.ep e).running = false := by
      have hdown : (d.ep e).configured = false := by
        cases e with
        | inn => exact Bool.eq_false_of_not_eq_true hconf
        | out => exact hb.both.trans (Bool.eq_false_of_not_eq_true hconf)
      rw [running, hdown, Bool.false_and]
    exact typed_of_idle (h.registered e) hidle

theorem typed_beginSetup {d : Dev} (h : d.Typed) : (beginSetup d).Typed := by
  obtain ⟨address, hframe⟩ := beginSetup_frame d
  rw [hframe]
  exact h

theorem Renewed.of_ctrlState {desc : LunDesc} {d : Dev} (h : Renewed desc d) (state : UddCtrlEpState) :
    Renewed desc (d.setCtrlState state) := by
  obtain ⟨d₀, htyped, hover, rfl⟩ := h
  refine ⟨d₀.setCtrlState state, htyped, hover, ?_⟩
  unfold udiMscEnable
  rw [udiMscCbwWait_eq, udiMscCbwWait_eq]
  rfl

/-- **A request that enables the interface renews it, also in the turn of the main loop.** -/
theorem renewed_serveIrq (desc : LunDesc) {irq : Irq} {d : Dev} (h : d.Typed) (hb : Bound d)
    (henables : irqEnables irq d = true)
    (hspares : ∀ r, irq = .setup r → SparesStatus (beginSetup d) (setupAction r (beginSetup d))) :
    Renewed desc (serveIrq desc irq d) := by
  cases irq with
  | setup r =>
      obtain ⟨state, hsetup⟩ := usbEp0OnSetup_eq uddCall desc r d
      change Renewed desc (usbEp0OnSetup uddCall desc r d)
      rw [hsetup]
      exact (renewed_action desc (typed_beginSetup h) (beginSetup_bound hb)
        (fun n hn => configured_of_interface hn) henables (hspares r rfl)).of_ctrlState state
  | _ => exact absurd henables nofun

/-- No interrupt gives the main loop the turn. -/
theorem owner_serveIrq (desc : LunDesc) (irq : Irq) {pc : Pc} {d : Dev} (hb : Bound d)
    (howner : pc.owner d.msc = false) : pc.owner (serveIrq desc irq d).msc = false := by
  cases pc with
  | resetTest status =>
      exact congrArg not (resetTrans_serveIrq desc irq hb (reset_of_owner howner))
  | _ => exact howner

/-- A request that enables the interface takes the turn from the main loop. -/
theorem owner_of_enables (desc : LunDesc) {irq : Irq} {pc : Pc} {d : Dev} (hb : Bound d)
    (howner : pc.owner d.msc = true) (hspares : IrqSpares pc d irq) (henables : irqEnables irq d = true) :
    pc.owner (serveIrq desc irq d).msc = false := by
  cases irq with
  | setup r =>
      obtain ⟨status, rfl⟩ := resetTest_of_resettable (resettable_of_enables hspares henables) howner
      exact congrArg not (resetTrans_of_enables desc hb henables)
  | _ => exact absurd henables nofun

/-- A turn that an interrupt ends otherwise is one of a disabled interface. -/
theorem OwnTurn.down {pc : Pc} {m : Msc} {d : Dev} (h : OwnTurn pc d) (howner : pc.owner m = true)
    (hfree : pc.owner d.msc = false) : d.inn.configured = false ∧ pc ≠ .clearReq := by
  rcases owner_or_resetTest howner d.msc with hstill | ⟨⟨status, rfl⟩, hreset⟩
  · exact absurd (hfree.symm.trans hstill) nofun
  · refine ⟨Bool.eq_false_of_not_eq_true fun hup => ?_, Pc.noConfusion⟩
    exact absurd (hreset.symm.trans ((h.live hup).reset rfl)) nofun

/-- An interrupt in the turn of the main loop. -/
theorem turn_ownIrq {s : Sys} {irq : Irq} (h : Turn s) (howner : s.pc.owner s.dev.msc = true)
    (hspares : IrqSpares s.pc s.dev irq) (hbound : RequestBound (serveIrq lunDesc irq s.dev))
    (pending : List Irq) : Turn { s with pending := pending, dev := serveIrq lunDesc irq s.dev } := by
  have hown := h.own howner
  cases henables : irqEnables irq s.dev with
  | true =>
      -- The main loop is about to test for the reset that the request notes.
      have hover := owner_of_enables lunDesc h.bound.toBound howner hspares henables
      refine ⟨hbound, fun hown' => absurd (hover.symm.trans hown') nofun, fun _ => ?_⟩
      refine (renewed_serveIrq lunDesc (hown.typed h.bound.toBound) h.bound.toBound henables ?_).free
      rintro r rfl
      exact sparesStatus_of_spares (beginSetup_bound h.bound.toBound) hspares
  | false =>
      have hown' := ownTurn_serveIrq lunDesc hown h.bound howner hspares henables
      refine ⟨hbound, fun _ => hown', fun hfree => ?_⟩
      obtain ⟨hdown, hpc⟩ := hown'.down howner hfree
      exact freeTurn_of_down hown'.registered hbound.toBound hdown (hown'.taken hpc)

/-- **Every step keeps the turn**, if it brings no request that is not spared. -/
theorem turn_step (s : Sys) (l : Label) (h : Turn s) (hspares : SparesTransfer s l) :
    Turn (step lunDesc s l) := by
  have hbound := requestBound_step lunDesc s l h.bound
  cases l with
  | main answer =>
      cases howner : s.pc.owner s.dev.msc with
      | true => exact turn_ownStep answer hbound (h.own howner) howner
      | false => exact turn_freeStep answer hbound (h.free howner) howner
  | raise irq =>
      change Turn (raiseIrq irq s)
      rcases pc_raiseIrq irq s with hstays | ⟨hasleep, hwakes⟩
      · refine ⟨hbound, fun hown => ?_, fun hfree => ?_⟩
        · rw [hstays] at hown ⊢
          exact h.own hown
        · rw [hstays] at hfree
          exact h.free hfree
      · -- The interrupt wakes the main loop, which owns nothing before or after.
        have hfree : s.pc.owner s.dev.msc = false := by
          rw [hasleep]
          rfl
        refine ⟨hbound, fun hown => ?_, fun _ => h.free hfree⟩
        rw [hwakes] at hown
        exact absurd hown nofun
  | serve =>
      change Turn (serveStep lunDesc s)
      have hbound' : RequestBound (serveStep lunDesc s).dev := hbound
      cases hserved : s.served with
      | none =>
          rw [serveStep_none hserved]
          exact h
      | some irq =>
          have hirq : IrqSpares s.pc s.dev irq := hspares rfl irq hserved
          rw [serveStep_some hserved] at hbound' ⊢
          cases howner : s.pc.owner s.dev.msc with
          | true => exact turn_ownIrq h howner hirq hbound' _
          | false =>
              have hover := owner_serveIrq lunDesc irq h.bound.toBound howner
              refine ⟨hbound', fun hown => absurd (hover.symm.trans hown) nofun, fun _ => ?_⟩
              refine freeTurn_serveIrq lunDesc (h.free howner) h.bound.toBound fun r hr => ?_
              subst hr
              exact sparesStatus_of_spares (beginSetup_bound h.bound.toBound) hirq

theorem turn_boot (vbusHigh : Bool) : Turn (boot vbusHigh) := by
  refine ⟨requestBound_boot vbusHigh, fun hown => absurd hown nofun, fun _ => ?_⟩
  have hreset : (boot vbusHigh).dev.inn = endpointReset ∧ (boot vbusHigh).dev.out = endpointReset
      ∧ (boot vbusHigh).dev.msc.bTransReq = false := by
    cases vbusHigh <;> exact ⟨rfl, rfl, rfl⟩
  obtain ⟨hinn, hout, hreq⟩ := hreset
  refine freeTurn_of_down ?_ (requestBound_boot vbusHigh).toBound ?_ hreq
  · intro e cb hcb
    cases e with
    | inn =>
        rw [Dev.ep_inn, hinn] at hcb
        exact absurd hcb nofun
    | out =>
        rw [Dev.ep_out, hout] at hcb
        exact absurd hcb nofun
  · rw [hinn]
    rfl

/-! ## Runs -/

/-- The main loop is in its turn during a transfer. -/
theorem owner_of_transferring {pc : Pc} (h : pc.transferring = true) (m : Msc) :
    pc.owner m = true ∧ pc.resettable = false := by
  cases pc <;> first | exact ⟨rfl, rfl⟩ | exact absurd h nofun

/-- **During a transfer no interrupt reaches the memory.** -/
theorem Turn.store {s : Sys} (h : Turn s) (htransferring : s.pc.transferring = true)
    (hspares : SparesTransfer s .serve) : (step lunDesc s .serve).dev.store = s.dev.store := by
  obtain ⟨howner, hpc⟩ := owner_of_transferring htransferring s.dev.msc
  have hnone : stepRequest s .serve = none := by
    unfold stepRequest
    rw [if_pos rfl]
    cases hserved : s.served with
    | none => rfl
    | some irq =>
        have hcommand := (h.own howner).irqCommand h.bound.toBound irq
        have hirq : IrqSpares s.pc s.dev irq := hspares rfl irq hserved
        change lunRequest irq s.dev = none
        cases irq with
        | setup r =>
            have henables : (setupAction r (beginSetup s.dev)).enables = false :=
              Bool.eq_false_of_not_eq_true fun henables =>
                absurd (hpc.symm.trans (resettable_of_enables hirq henables)) nofun
            unfold lunRequest
            dsimp only
            rw [henables]
            rfl
        | _ =>
            unfold lunRequest
            dsimp only
            rw [hcommand]
            rfl
  rw [store_step lunDesc s .serve h.bound.toBound, hnone]
  rfl

/-- **In the turn of the main loop no interrupt writes the blocks of the class driver.** -/
theorem OwnTurn.blocks (desc : LunDesc) (irq : Irq) {pc : Pc} {d : Dev} (h : OwnTurn pc d) (hb : Bound d) :
    (serveIrq desc irq d).blocks = d.blocks := by
  have heases {d' : Dev} (he : Eases d d') : d'.blocks = d.blocks := by
    obtain ⟨-, ⟨ack, abort, hmsc⟩, -⟩ := he
    unfold Dev.blocks
    rw [hmsc]
  cases irq with
  | transferIn card =>
      change (transferIn uddCall desc card d).blocks = d.blocks
      by_cases hrun : d.inn.running = true
      · have hlive := h.live ((running_iff d.inn).mp hrun).1
        exact heases (hlive.transferIn desc card)
      · rw [transferIn, if_neg hrun]
  | transferOut received cbw card =>
      change (transferOut uddCall desc received cbw card d).blocks = d.blocks
      by_cases hrun : d.out.running = true
      · have hlive := h.live (hb.both.symm.trans ((running_iff d.out).mp hrun).1)
        exact heases (hlive.transferOut desc received cbw card)
      · rw [transferOut, if_neg hrun]
  | _ => exact blocks_serveIrq desc d (fun _ => Irq.noConfusion) (fun _ _ _ => Irq.noConfusion)

/-- A READ(10) of one block is taken. -/
def readTaken : List Label :=
  serveAll (enumeration ++ [.transferOut 31 readBlock presentCard]) ++ List.replicate 6 (.main .ok)

/-- A TEST UNIT READY command. -/
def testUnitReady : Irq :=
  .transferOut 31 (commandBlock 0x00 0) presentCard

end Firmware
end SoundingSoil
