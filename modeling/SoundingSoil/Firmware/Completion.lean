import SoundingSoil.Firmware.FreeTurn

/-!
# The turn when a hardware job completes

A completed hardware job goes on with its transfer, or releases its job and calls its function.  Outside
a transfer of the main loop the function is one of the status phase, which sends the CSW or starts the
reception of the next CBW, or it is that reception, which runs a command.

* `uddEpTransInNext_keeps` / `uddEpTransOutNext_keeps` — the job keeps its function and its buffer.
* `settles_again` / `settles_released` — going on with a transfer, and releasing its job, start nothing.
* **`freeTurn_serveIrq`** — every interrupt keeps the turn, except the control requests that
  `SparesStatus` leaves out.
-/

namespace SoundingSoil
namespace Firmware

open Endpoint

/-! ## The job -/

/-- The transfer goes on with the job as it was, or the job is released. -/
def TransNext.Keeps (j : UddEpJob) : TransNext → Prop
  | .again job _ => job.call = j.call ∧ job.buf = j.buf ∧ job.busy = j.busy
  | .complete job => job.call = j.call ∧ job.buf = j.buf ∧ job.busy = false

theorem uddEpTransInNext_keeps (sent : Nat) (j : UddEpJob) :
    (uddEpTransInNext sent j).Keeps j := by
  unfold uddEpTransInNext
  dsimp only
  split_ifs <;> exact ⟨rfl, rfl, rfl⟩

theorem uddEpTransOutNext_keeps (received offered : Nat) (j : UddEpJob) :
    (uddEpTransOutNext received offered j).Keeps j := by
  unfold uddEpTransOutNext
  dsimp only
  split_ifs <;> exact ⟨rfl, rfl, rfl⟩

/-- The hardware goes on with the next job of the transfer. -/
theorem transferNext_again (e : Ep) (done : Callback → Nat → Dev → Dev) (job : UddEpJob) (size : Nat)
    {d : Dev} (hconf : (d.ep e).configured = true) :
    transferNext e done (.again job size) d =
      d.onEp e fun x => { x with armed := true, hwSize := size, job := job } := by
  have hconf' : ((released e job d).ep e).configured = true := by
    cases e <;> exact hconf
  change (usbDeviceEndpointBufferJob e size (released e job d)).2 = _
  rw [usbDeviceEndpointBufferJob, if_pos hconf']
  cases e <;> rfl

theorem settles_again {e : Ep} {x : Endpoint} {job : UddEpJob} {size : Nat}
    (hrun : x.running = true) (hkeeps : (TransNext.again job size).Keeps x.job) :
    Settles e x { x with armed := true, hwSize := size, job := job } := by
  obtain ⟨hcall, hbuf, hbusy⟩ := hkeeps
  exact Settles.of_le rfl (fun _ => ((running_iff x).mp hrun).2) hcall hbuf (hbusy ▸ id)

theorem settles_released {e : Ep} {x : Endpoint} {job : UddEpJob}
    (hkeeps : (TransNext.complete job).Keeps x.job) :
    Settles e x { x with armed := false, job := job } := by
  obtain ⟨hcall, hbuf, hbusy⟩ := hkeeps
  exact Settles.of_le rfl nofun hcall hbuf fun h => absurd (hbusy.symm.trans h) nofun

/-! ## The IN endpoint -/

/-- The function of a running transfer of the IN endpoint, when no sector is under way. -/
theorem inn_call {x : Endpoint} (h : x.Typed .inn) (hrun : x.running = true) (hblock : ¬ x.block) :
    x.job.call = some .dataSent ∨ x.job.call = some .cswSent ∨ x.job.call = some .cswSend := by
  obtain ⟨cb, hcall, hcbw, hcsw⟩ := h.transfer hrun
  have hbelongs := h.belongs cb hcall
  cases cb with
  | dataSent => exact .inl hcall
  | cswSent => exact .inr (.inl hcall)
  | cswSend => exact .inr (.inr hcall)
  | transAck => exact absurd ⟨hrun, hcall⟩ hblock
  | cbwInvalid => exact absurd rfl hcbw
  | cswInvalid => exact absurd rfl hcsw
  | cbwReceived | cbwWait => exact absurd hbelongs nofun

/-- The function of a running transfer of the OUT endpoint, when no sector is under way. -/
theorem out_call {x : Endpoint} (h : x.Typed .out) (hrun : x.running = true) (hblock : ¬ x.block) :
    x.job.call = some .cbwReceived ∨ x.job.call = some .cbwWait := by
  obtain ⟨cb, hcall, hcbw, hcsw⟩ := h.transfer hrun
  have hbelongs := h.belongs cb hcall
  cases cb with
  | cbwReceived => exact .inl hcall
  | cbwWait => exact .inr hcall
  | transAck => exact absurd ⟨hrun, hcall⟩ hblock
  | cbwInvalid => exact absurd rfl hcbw
  | cswInvalid => exact absurd rfl hcsw
  | dataSent | cswSent | cswSend => exact absurd hbelongs nofun

theorem cswDue_of_running {x : Endpoint} (h : x.Typed .inn) (hrun : x.running = true)
    (hblock : ¬ x.block) : x.cswDue := by
  rcases inn_call h hrun hblock with hcall | hcall | hcall
  · exact .inl ⟨hrun, .inl hcall⟩
  · exact .inl ⟨hrun, .inr hcall⟩
  · exact .inr hcall

theorem cbwDue_of_running {x : Endpoint} (h : x.Typed .out) (hrun : x.running = true)
    (hblock : ¬ x.block) : x.cbwDue := by
  obtain ⟨hconf, harmed⟩ := (running_iff x).mp hrun
  rcases out_call h hrun hblock with hcall | hcall
  · exact ⟨hconf, .inr ⟨harmed, hcall⟩⟩
  · exact ⟨hconf, .inl hcall⟩

/-- A function of the status phase. -/
theorem freeTurn_completedIn (desc : LunDesc) (card : CardAnswer) {n : Nat} {cb : Callback} {d : Dev}
    (h : FreeTurn d) (hidle : d.inn.armed = false) (hcall : d.inn.job.call = some cb)
    (hbusy : d.inn.job.busy = false) (hcbw : ¬ d.out.cbwDue) (hreq : d.msc.bTransReq = false)
    (hcb : cb = .dataSent ∨ cb = .cswSent ∨ cb = .cswSend) :
    FreeTurn (completedCallback uddCall desc card cb n d) := by
  have hrun : d.inn.running = false := not_running hidle
  have hover (hsend : cb ≠ .cswSend) : ¬ d.inn.status := by
    unfold status cswDue cswUnsent
    rw [hrun, hcall, hbusy]
    simp [hsend]
  rcases hcb with rfl | rfl | rfl
  · -- The answer was sent: the command ends.
    have hready : Ready { (udiMscSensePass d) with msc := { (udiMscSensePass d).msc with
        csw := { (udiMscSensePass d).msc.csw with
          dCSWDataResidue := (udiMscSensePass d).msc.csw.dCSWDataResidue - BitVec.ofNat 32 n } } } :=
      ⟨h.inn, h.out, hover nofun⟩
    have hend := answers_udiMscCswProcess hready
    have hanswers : Answers d (udiMscDataSent uddCall n d) := ⟨hend.inn, hend.out⟩
    refine freeTurn_of_status (hanswers.inn.typed h.inn) (hanswers.out.typed h.out) ?_ ?_ ?_
    · intro e
      cases e with
      | inn => exact fun hb => h.block .inn (hanswers.inn.block hb)
      | out => exact fun hb => h.block .out (hanswers.out.block hb)
    · exact fun hdue => hcbw (hanswers.out.cbw hdue)
    · exact (transReq_of_core (core_udiMscDataSent rest_uddCall n d)).trans hreq
  · exact h.cbwWait hreq fun _ => hover nofun
  · change FreeTurn (udiMscCswSend uddCall d)
    have hkeeps := keeps_cswSend d.inn
    rw [udiMscCswSend_eq]
    refine freeTurn_of_status (hkeeps.typed h.inn) h.out ?_ hcbw hreq
    intro e
    cases e with
    | inn => exact fun hb => h.block .inn (hkeeps.block hb)
    | out => exact h.block .out

theorem freeTurn_transferIn (desc : LunDesc) (card : CardAnswer) {d : Dev} (h : FreeTurn d) :
    FreeTurn (transferIn uddCall desc card d) := by
  unfold transferIn
  split_ifs with hrun
  · have hstatus : d.inn.status := .inl (cswDue_of_running h.inn hrun (h.block .inn))
    have hcbw : ¬ d.out.cbwDue := fun hdue => h.command hdue hstatus
    have hreq : d.msc.bTransReq = false :=
      Bool.eq_false_of_not_eq_true fun hreq => (h.pending hreq).2.1 hstatus
    have hkeeps := uddEpTransInNext_keeps d.inn.hwSize d.inn.job
    cases hnext : uddEpTransInNext d.inn.hwSize d.inn.job with
    | again job size =>
        rw [hnext] at hkeeps
        rw [transferNext_again .inn _ job size ((running_iff d.inn).mp hrun).1]
        exact h.settles (settles_again hrun hkeeps) (Settles.refl .out d.out)
          fun hreq' => absurd (hreq.symm.trans hreq') nofun
    | complete job =>
        rw [hnext] at hkeeps
        have hfree : FreeTurn (released .inn job d) :=
          h.settles (settles_released hkeeps) (Settles.refl .out d.out)
            fun hreq' => absurd (hreq.symm.trans hreq') nofun
        obtain ⟨cb, hcall, hcb⟩ : ∃ cb, d.inn.job.call = some cb
            ∧ (cb = .dataSent ∨ cb = .cswSent ∨ cb = .cswSend) := by
          rcases inn_call h.inn hrun (h.block .inn) with hcall | hcall | hcall
          · exact ⟨_, hcall, .inl rfl⟩
          · exact ⟨_, hcall, .inr (.inl rfl)⟩
          · exact ⟨_, hcall, .inr (.inr rfl)⟩
        have hjob : job.call = some cb := hkeeps.1.trans hcall
        have hdone : transferNext .inn (completedCallback uddCall desc card) (.complete job) d =
            completedCallback uddCall desc card cb job.nbTrans (released .inn job d) := by
          simp only [transferNext, hjob]
          rfl
        rw [hdone]
        exact freeTurn_completedIn desc card hfree rfl hjob hkeeps.2.2 hcbw hreq hcb
  · exact h

/-! ## The OUT endpoint -/

theorem storeReceived_frame (cbw : UsbMscCbw) (d : Dev) :
    (storeReceived cbw d).inn = d.inn ∧ (storeReceived cbw d).out = d.out
      ∧ (storeReceived cbw d).msc.bTransReq = d.msc.bTransReq
      ∧ (storeReceived cbw d).msc.nbLun = d.msc.nbLun := by
  unfold storeReceived
  split_ifs <;> exact ⟨rfl, rfl, rfl, rfl⟩

/-- A command that asks the main loop for a transfer has started nothing. -/
theorem udiMscCbwReceived_transfers (desc : LunDesc) (card : CardAnswer) (n : Nat) {d : Dev}
    (hlun : d.msc.nbLun = 0) (hreq : d.msc.bTransReq = false)
    (hreq' : (udiMscCbwReceived uddCall desc card n d).msc.bTransReq = true) :
    (udiMscCbwReceived uddCall desc card n d).inn = d.inn
      ∧ (udiMscCbwReceived uddCall desc card n d).msc.Requests := by
  have houtcome := congrArg Prod.snd
    ((outcome_of_core (core_udiMscCbwReceived rest_uddCall desc card n d)).trans
      (outcome_cbwEffect desc card n hlun))
  have htransfers : (receivedCommand n d).any (commandTransfers desc) = true := by
    have hor : (d.msc.bTransReq || (receivedCommand n d).any (commandTransfers desc)) = true :=
      houtcome.symm.trans hreq'
    rwa [hreq, Bool.false_or] at hor
  unfold receivedCommand at htransfers
  unfold udiMscCbwReceived
  dsimp only at htransfers ⊢
  split_ifs at htransfers ⊢
  · exact absurd htransfers nofun
  · exact absurd htransfers nofun
  · exact scsiCommand_transfers uddCall desc card htransfers

/-- The reception of a CBW ends. -/
theorem freeTurn_udiMscCbwReceived (desc : LunDesc) (card : CardAnswer) (n : Nat) {d : Dev}
    (h : FreeTurn d) (hlun : d.msc.nbLun = 0) (hcbw : ¬ d.out.cbwDue) (hover : ¬ d.inn.status)
    (hreq : d.msc.bTransReq = false) (hidle : d.out.job.busy = false) :
    FreeTurn (udiMscCbwReceived uddCall desc card n d) := by
  have hanswers := answers_udiMscCbwReceived desc card n ⟨h.inn, h.out, hover⟩ hidle
  have hcbw' : ¬ (udiMscCbwReceived uddCall desc card n d).out.cbwDue :=
    fun hdue => hcbw (hanswers.out.cbw hdue)
  refine ⟨hanswers.inn.typed h.inn, hanswers.out.typed h.out, ?_, fun hdue => absurd hdue hcbw', ?_⟩
  · intro e
    cases e with
    | inn => exact fun hb => h.block .inn (hanswers.inn.block hb)
    | out => exact fun hb => h.block .out (hanswers.out.block hb)
  · intro hreq'
    obtain ⟨hinn, hrequests⟩ := udiMscCbwReceived_transfers desc card n hlun hreq hreq'
    rw [hinn]
    exact ⟨hcbw', hover, hrequests⟩

theorem freeTurn_transferOut (desc : LunDesc) (received : Nat) (cbw : UsbMscCbw) (card : CardAnswer)
    {d : Dev} (h : FreeTurn d) (hb : Bound d) :
    FreeTurn (transferOut uddCall desc received cbw card d) := by
  unfold transferOut
  split_ifs with hrun
  · have hdue : d.out.cbwDue := cbwDue_of_running h.out hrun (h.block .out)
    have hover : ¬ d.inn.status := h.command hdue
    have hreq : d.msc.bTransReq = false :=
      Bool.eq_false_of_not_eq_true fun hreq => (h.pending hreq).1 hdue
    obtain ⟨hinn, hout, hkept, hlun⟩ := storeReceived_frame cbw d
    have hreqs : (storeReceived cbw d).msc.bTransReq = false := hkept.trans hreq
    have hstored : FreeTurn (storeReceived cbw d) := by
      refine h.settles ?_ ?_ fun hreq' => absurd (hreqs.symm.trans hreq') nofun
      · rw [hinn]
        exact Settles.refl .inn d.inn
      · rw [hout]
        exact Settles.refl .out d.out
    have hovers : ¬ (storeReceived cbw d).inn.status := by rwa [hinn]
    -- Only the command block was stored, so the rest is about any state with the same endpoints.
    rw [← hout] at hrun ⊢
    generalize storeReceived cbw d = d at *
    have hkeeps := uddEpTransOutNext_keeps received d.out.hwSize d.out.job
    cases hnext : uddEpTransOutNext received d.out.hwSize d.out.job with
    | again job size =>
        rw [hnext] at hkeeps
        rw [transferNext_again .out _ job size ((running_iff d.out).mp hrun).1]
        exact hstored.settles (Settles.refl .inn d.inn) (settles_again hrun hkeeps)
          fun hreq' => absurd (hreqs.symm.trans hreq') nofun
    | complete job =>
        rw [hnext] at hkeeps
        have hfree : FreeTurn (released .out job d) :=
          hstored.settles (Settles.refl .inn d.inn) (settles_released hkeeps)
            fun hreq' => absurd (hreqs.symm.trans hreq') nofun
        rcases out_call hstored.out hrun (hstored.block .out) with hcall | hcall
        · have hjob : job.call = some .cbwReceived := hkeeps.1.trans hcall
          have hdone : transferNext .out (completedCallback uddCall desc card) (.complete job) d =
              udiMscCbwReceived uddCall desc card job.nbTrans (released .out job d) := by
            simp only [transferNext, hjob]
            rfl
          have hidle : ¬ (released .out job d).out.cbwDue := by
            have hcall' : (released .out job d).out.job.call = some .cbwReceived := hjob
            have harmed : (released .out job d).out.armed = false := rfl
            unfold cbwDue
            rw [hcall', harmed]
            simp
          rw [hdone]
          exact freeTurn_udiMscCbwReceived desc card job.nbTrans hfree (hlun.trans hb.nbLun) hidle
            hovers hreqs hkeeps.2.2
        · have hjob : job.call = some .cbwWait := hkeeps.1.trans hcall
          have hdone : transferNext .out (completedCallback uddCall desc card) (.complete job) d =
              udiMscCbwWait uddCall (released .out job d) := by
            simp only [transferNext, hjob]
            rfl
          rw [hdone]
          exact hfree.cbwWait hreqs fun _ => hovers
  · exact h

/-! ## Interrupts -/

/-- The interrupt starts no reception of a CBW beside an open status phase. -/
def IrqSparesStatus (irq : Irq) (d : Dev) : Prop :=
  ∀ r, irq = .setup r → SparesStatus (beginSetup d) (setupAction r (beginSetup d))

theorem FreeTurn.beginSetup {d : Dev} (h : FreeTurn d) : FreeTurn (beginSetup d) := by
  obtain ⟨address, hframe⟩ := beginSetup_frame d
  rw [hframe]
  exact h.of_eq rfl rfl id id

/-- **What an interrupt does to the turn.** -/
theorem freeTurn_serveIrq (desc : LunDesc) {irq : Irq} {d : Dev} (h : FreeTurn d) (hb : Bound d)
    (hspares : IrqSparesStatus irq d) : FreeTurn (serveIrq desc irq d) := by
  have hother := serveIrq_frame desc irq d
  cases irq with
  | busReset => exact (freeTurn_udcReset h).of_eq rfl rfl id id
  | setup r =>
      obtain ⟨state, hsetup⟩ := usbEp0OnSetup_eq uddCall desc r d
      change FreeTurn (usbEp0OnSetup uddCall desc r d)
      rw [hsetup]
      have hrun : FreeTurn ((setupAction r (beginSetup d)).run uddCall desc (beginSetup d)) :=
        freeTurn_setup desc h.beginSetup (beginSetup_bound hb)
          (fun n hn => configured_of_interface hn) (hspares r rfl)
      exact hrun.of_eq rfl rfl id id
  | transferIn card => exact freeTurn_transferIn desc card h
  | transferOut received cbw card => exact freeTurn_transferOut desc received cbw card h hb
  | vbus _ | suspend | wakeup | sof _ | ep0TransferOk _ | ep0TransferFail _ =>
      obtain ⟨port, address, state, sleep, hframe⟩ := hother rfl
      rw [hframe]
      exact h.of_eq rfl rfl id id

end Firmware
end SoundingSoil
