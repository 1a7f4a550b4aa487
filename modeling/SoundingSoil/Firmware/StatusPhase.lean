import SoundingSoil.Firmware.Completion
import SoundingSoil.Firmware.Replies

/-!
# The status phase between two commands

What the interrupts that complete no transfer do to a command that was received: they end its status phase or
leave it as it is, take its request back, and start nothing for it.

* `Dev.Active` — a command is in its status phase, or waits for the main loop.
* `Hushes` — no status phase, no request and no data are started, and an announced answer keeps its length.
* **`hushes_serveIrq`** — every interrupt that completes no transfer hushes the command, or leaves none active,
  except the control requests that `SparesStatus` leaves out.
* `not_active_invalid` — a command block that is not valid opens no command.
-/

namespace SoundingSoil
namespace Firmware

open Endpoint

/-- A command is being executed by the interrupts: in its status phase, or as a request. -/
def Dev.Active (d : Dev) : Prop :=
  d.inn.status ∨ d.msc.bTransReq = true

/-- Nothing is started for a command, and an announced answer keeps its length. -/
structure Hushes (d d' : Dev) : Prop where
  configured : d'.inn.configured = true → d.inn.configured = true
  req : d'.msc.bTransReq = true → d.msc.bTransReq = true
  status : d'.inn.status → d.inn.status
  data : d'.inn.answering → d.inn.answering
  answer : d.inn.job.call = some .dataSent →
    d'.inn.job.call = some .dataSent ∧ d'.inn.job.bufSize = d.inn.job.bufSize

theorem Hushes.active {d d' : Dev} (h : Hushes d d') (hactive : d'.Active) : d.Active :=
  hactive.imp h.status h.req

theorem Hushes.trans {d d' d'' : Dev} (h : Hushes d d') (h' : Hushes d' d'') : Hushes d d'' := by
  refine ⟨h.configured ∘ h'.configured, h.req ∘ h'.req, h.status ∘ h'.status, h.data ∘ h'.data, ?_⟩
  intro hcall
  obtain ⟨hcall', hsize⟩ := h.answer hcall
  obtain ⟨hcall'', hsize'⟩ := h'.answer hcall'
  exact ⟨hcall'', hsize'.trans hsize⟩

theorem hushes_of_inn {d d' : Dev} (hinn : d'.inn = d.inn)
    (hreq : d'.msc.bTransReq = true → d.msc.bTransReq = true) : Hushes d d' := by
  refine ⟨?_, hreq, ?_, ?_, ?_⟩ <;> rw [hinn]
  · exact id
  · exact id
  · exact id
  · exact fun hcall => ⟨hcall, rfl⟩

/-! ## Ending jobs -/

/-- The data of an answer that are given up keep their length. -/
theorem answer_cancel {d : Dev} (hcall : d.inn.job.call = some .dataSent) :
    (d.cancel .inn).inn.job.call = some .dataSent ∧
      (d.cancel .inn).inn.job.bufSize = d.inn.job.bufSize := by
  have hep : (d.ep .inn).job.call = some .dataSent := hcall
  unfold Dev.cancel
  split_ifs
  · rw [hep]
    exact ⟨hcall, rfl⟩
  · exact ⟨hcall, rfl⟩

/-- Ending the job of an endpoint hushes the command. -/
theorem hushes_ends {e : Ep} {d d' : Dev} (hends : Ends e d d')
    (hdata : d'.inn.answering → d.inn.answering)
    (hcancel : e = .inn → ∃ f : Endpoint → Endpoint,
      (f d.inn).job = d.inn.job ∧ d' = (d.onEp .inn f).cancel .inn) : Hushes d d' := by
  have hreq : d'.msc.bTransReq = true → d.msc.bTransReq = true := fun hreq =>
    (transReq_of_rest hends.rest).symm.trans hreq
  cases e with
  | out => exact hushes_of_inn (hends.inn rfl) hreq
  | inn =>
      obtain ⟨f, hjob, hd'⟩ := hcancel rfl
      refine ⟨fun hconf => hends.own.configured.symm.trans hconf, hreq, hends.own.status, hdata, fun hcall => ?_⟩
      have hcall' : (d.onEp .inn f).inn.job.call = some .dataSent := (congrArg UddEpJob.call hjob).trans hcall
      obtain ⟨hkept, hsize⟩ := answer_cancel hcall'
      rw [hd']
      exact ⟨hkept, hsize.trans (congrArg UddEpJob.bufSize hjob)⟩

theorem hushes_uddEpAbort {d : Dev} (h : FreeTurn d) (e : Ep) : Hushes d (uddEpAbort uddCall e d) := by
  refine hushes_ends (ends_uddEpAbort (h.typed e)) (answering_uddEpAbort answering_uddCall e) ?_
  rintro rfl
  exact ⟨_, rfl, uddEpAbort_eq h.inn.belongs⟩

theorem hushes_uddEpSetHalt {d : Dev} (h : FreeTurn d) (e : Ep) : Hushes d (uddEpSetHalt uddCall e d) := by
  refine hushes_ends (ends_uddEpSetHalt (h.typed e)) (answering_uddEpSetHalt answering_uddCall e) ?_
  rintro rfl
  exact ⟨_, rfl, uddEpSetHalt_eq h.inn.belongs⟩

theorem hushes_uddEpClearHalt {d : Dev} (h : FreeTurn d) (e : Ep) :
    Hushes d (uddEpClearHalt uddCall e d) := by
  refine hushes_ends (ends_uddEpClearHalt (h.typed e)) (answering_uddEpClearHalt answering_uddCall e) ?_
  rintro rfl
  exact ⟨_, rfl, uddEpClearHalt_eq h.inn.belongs⟩

/-! ## Disabling and enabling the interface -/

theorem hushes_off (e : Ep) (d : Dev) : Hushes d (d.onEp e Endpoint.off) := by
  cases e with
  | inn =>
      exact ⟨fun hconf => Bool.noConfusion hconf, id, status_off, fun hdata => Bool.noConfusion hdata.1,
        fun hcall => ⟨hcall, rfl⟩⟩
  | out => exact hushes_of_inn rfl id

theorem hushes_uddEpFree {d : Dev} (h : FreeTurn d) (e : Ep) : Hushes d (uddEpFree uddCall e d) :=
  (hushes_uddEpAbort h e).trans (hushes_off e _)

theorem hushes_ifaceFreed {d : Dev} (h : FreeTurn d) : Hushes d (ifaceFreed d) := by
  have hinn : FreeTurn (uddEpFree uddCall .inn d) := (h.uddEpAbort .inn).off .inn
  have hdisable : Hushes (uddEpFree uddCall .out (uddEpFree uddCall .inn d)) (ifaceFreed d) :=
    hushes_of_inn rfl fun hreq => Bool.noConfusion hreq
  exact ((hushes_uddEpFree h .inn).trans (hushes_uddEpFree hinn .out)).trans hdisable

theorem hushes_udcReset {d : Dev} (h : FreeTurn d) : Hushes d (udcReset uddCall d) := by
  unfold udcReset
  dsimp only
  split_ifs with hconf
  · rw [udcIfaceDisable_found hconf]
    exact (hushes_ifaceFreed h).trans (hushes_of_inn rfl id)
  · exact hushes_of_inn rfl id

/-- A renewed interface has no command. -/
theorem Renewed.idle {desc : LunDesc} {d' : Dev} (h : Renewed desc d') : ¬ d'.Active := by
  obtain ⟨d, -, hover, rfl⟩ := h
  unfold udiMscEnable
  rw [udiMscCbwWait_eq]
  rintro ((hdue | hunsent) | hreq)
  · exact hover (status_allocated (Or.inl hdue))
  · exact hover (status_allocated (Or.inr hunsent))
  · exact Bool.noConfusion hreq

/-! ## Control requests -/

theorem hushes_udiMscBulkReset {d : Dev} (h : FreeTurn d) : Hushes d (udiMscBulkReset uddCall d) := by
  have hrequest : Hushes d (resetRequest d) := hushes_of_inn rfl fun hreq => Bool.noConfusion hreq
  have hout := hushes_uddEpAbort h.resetRequest .out
  have hinn := hushes_uddEpAbort ((h.resetRequest).uddEpAbort .out) .inn
  refine ((hrequest.trans hout).trans hinn).trans ?_
  change Hushes _ (udiMscCbwWait uddCall _)
  rw [udiMscCbwWait_eq]
  exact hushes_of_inn rfl id

/-- **What a control request does to a command.** -/
theorem hushes_setup (desc : LunDesc) {action : SetupAction} {d : Dev} (h : FreeTurn d) (hb : Bound d)
    (hiface : ∀ n, action = .interface n → d.bus.udcNumConfiguration ≠ 0)
    (hspares : SparesStatus d action) :
    Hushes d (action.run uddCall desc d) ∨ ¬ (action.run uddCall desc d).Active := by
  cases henables : action.enables with
  | true => exact Or.inr (renewed_action desc h.typed hb hiface henables hspares).idle
  | false =>
      refine Or.inl ?_
      cases action with
      | none | address wValue => exact hushes_of_inn rfl id
      | configuration n =>
          have hn : n = 0 := (enables_configuration n).mp henables
          change Hushes d (setConfiguration uddCall desc n d)
          unfold setConfiguration
          rw [if_pos hn]
          exact (hushes_udcReset h).trans (hushes_of_inn rfl id)
      | interface settingNum =>
          have hn : settingNum ≠ 0 := (enables_interface settingNum).mp henables
          change Hushes d (setInterface uddCall desc settingNum d)
          rw [setInterface_eq desc settingNum h.typed (hiface settingNum rfl), if_neg hn]
          exact hushes_ifaceFreed h
      | clearHalt e => exact hushes_uddEpClearHalt h e
      | setHalt e => exact (hushes_uddEpAbort h e).trans (hushes_uddEpSetHalt (h.uddEpAbort e) e)
      | bulkReset => exact hushes_udiMscBulkReset h

/-- **What an interrupt that completes no transfer does to a command.** -/
theorem hushes_serveIrq (desc : LunDesc) {irq : Irq} {d : Dev} (h : FreeTurn d) (hb : Bound d)
    (hspares : IrqSparesStatus irq d) (hirq : ∀ card, irq ≠ .transferIn card)
    (hirq' : ∀ received cbw card, irq ≠ .transferOut received cbw card) :
    Hushes d (serveIrq desc irq d) ∨ ¬ (serveIrq desc irq d).Active := by
  have hother := serveIrq_frame desc irq d
  cases irq with
  | busReset => exact Or.inl ((hushes_udcReset h).trans (hushes_of_inn rfl id))
  | setup r =>
      obtain ⟨state, hsetup⟩ := usbEp0OnSetup_eq uddCall desc r d
      obtain ⟨address, hframe⟩ := beginSetup_frame d
      have hbegin : Hushes d (beginSetup d) := by
        rw [hframe]
        exact hushes_of_inn rfl id
      have hrun := hushes_setup desc h.beginSetup (beginSetup_bound hb)
        (fun n hn => configured_of_interface hn) (hspares r rfl)
      change Hushes d (usbEp0OnSetup uddCall desc r d) ∨ ¬ (usbEp0OnSetup uddCall desc r d).Active
      rw [hsetup]
      rcases hrun with hhush | hidle
      · exact Or.inl ((hbegin.trans hhush).trans (hushes_of_inn rfl id))
      · exact Or.inr hidle
  | transferIn card => exact absurd rfl (hirq card)
  | transferOut received cbw card => exact absurd rfl (hirq' received cbw card)
  | vbus _ | suspend | wakeup | sof _ | ep0TransferOk _ | ep0TransferFail _ =>
      obtain ⟨port, address, state, sleep, hframe⟩ := hother rfl
      rw [hframe]
      exact Or.inl (hushes_of_inn rfl id)

/-! ## Invalid command blocks -/

/-- The stall of the IN endpoint after an invalid command block. -/
theorem settles_udiMscCswInvalid {d : Dev} (h : Ready d) :
    Settles .inn d.inn (udiMscCswInvalid uddCall d).inn := by
  unfold udiMscCswInvalid stallUntilReset
  split_ifs
  · have hends : Ends .inn d (uddEpSetHalt uddCall .inn d) := ends_uddEpSetHalt h.inn
    have hpark : d.inn.Parkless := by
      refine ⟨fun hcall => ?_, fun hcall => h.ended (Or.inl (Or.inr hcall))⟩
      exact Bool.noConfusion (h.inn.belongs .cbwWait hcall)
    have harmed : ((uddEpSetHalt uddCall .inn d).ep .inn).armed = false := armed_uddEpSetHalt h.inn hpark
    exact hends.own.trans (@settles_waitInvalid .inn .cswInvalid rfl (Or.inr rfl) _ harmed).1
  · exact Settles.refl .inn d.inn

/-- **A command block that is not valid opens no command.** -/
theorem not_active_invalid (desc : LunDesc) (card : CardAnswer) {n : Nat} {d : Dev} (h : Ready d)
    (hidle : d.out.job.busy = false) (hreq : d.msc.bTransReq = false) (hbad : d.msc.cbwIntact n = false) :
    ¬ (udiMscCbwReceived uddCall desc card n d).Active := by
  have hstalled : udiMscCbwInvalid uddCall { d with msc := { d.msc with bCbwInvalid := true } } =
      { d with out := d.out.stall .cbwInvalid, msc := { d.msc with bCbwInvalid := true } } := by
    have hstall := @stallUntilReset_eq uddCall .out .cbwInvalid
      { d with msc := { d.msc with bCbwInvalid := true } } hidle
    exact hstall.trans (if_pos rfl)
  have hout : Settles .out d.out (d.out.stall .cbwInvalid) := settles_stall rfl (Or.inl rfl) d.out
  have hsettles := @settles_udiMscCswInvalid
    { d with out := d.out.stall .cbwInvalid, msc := { d.msc with bCbwInvalid := true } }
    ⟨h.inn, hout.typed h.out, h.ended⟩
  have hrest := rest_stallUntilReset rest_uddCall .inn .cswInvalid
    { d with out := d.out.stall .cbwInvalid, msc := { d.msc with bCbwInvalid := true } }
  unfold udiMscCbwReceived
  rw [if_pos (by rw [hbad]; rfl), hstalled]
  rintro (hstatus | hactive)
  · exact h.ended (hsettles.status hstatus)
  · exact Bool.noConfusion (hreq.symm.trans ((transReq_of_rest hrest).symm.trans hactive))

end Firmware
end SoundingSoil
