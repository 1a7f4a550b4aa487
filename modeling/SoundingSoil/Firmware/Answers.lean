import SoundingSoil.Firmware.Commands
import SoundingSoil.Firmware.Turns

/-!
# Answering a command

A command is answered on the IN endpoint, and only there; the main loop is asked for a transfer instead
of an answer.

* `Answers` — what a command does to the two endpoints, when no status phase was left open.
* **`answers_scsiCommand`** / `answers_udiMscCbwReceived` — every command only answers.
* `scsiCommand_transfers` — a command that asks for a transfer touches no endpoint, and what it asks for
  fits into the length the host announced.
-/

namespace SoundingSoil
namespace Firmware

open Endpoint

/-- The OUT endpoint is at most settled; on the IN endpoint something other than a sector may be
started. -/
structure Answers (d d' : Dev) : Prop where
  inn : Keeps .inn d.inn d'.inn
  out : Settles .out d.out d'.out

/-- A command finds the endpoints typed and the last status phase over. -/
structure Ready (d : Dev) : Prop where
  inn : d.inn.Typed .inn
  out : d.out.Typed .out
  ended : ¬ d.inn.status

theorem Answers.refl (d : Dev) : Answers d d :=
  ⟨Keeps.refl .inn d.inn, Settles.refl .out d.out⟩

/-- The functions on the sense data and the CSW do not touch the endpoints. -/
def KeepsEndpoints (f : Dev → Dev) : Prop :=
  ∀ d, (f d).inn = d.inn ∧ (f d).out = d.out

theorem Ready.of_eq {d d' : Dev} (hinn : d'.inn = d.inn) (hout : d'.out = d.out) (h : Ready d) :
    Ready d' := by
  refine ⟨?_, ?_, ?_⟩
  · rw [hinn]
    exact h.inn
  · rw [hout]
    exact h.out
  · rw [hinn]
    exact h.ended

theorem Answers.of_eq {d d₀ d' : Dev} (hinn : d.inn = d₀.inn) (hout : d.out = d₀.out)
    (h : Answers d d') : Answers d₀ d' := by
  refine ⟨?_, ?_⟩
  · rw [← hinn]
    exact h.inn
  · rw [← hout]
    exact h.out

/-! ## The status phase -/

theorem answers_uddEpSetHalt (e : Ep) {d : Dev} (h : Ready d) :
    Answers d (uddEpSetHalt uddCall e d) := by
  cases e with
  | inn =>
      have hends : Ends .inn d (uddEpSetHalt uddCall .inn d) := ends_uddEpSetHalt h.inn
      refine ⟨hends.own.toKeeps, ?_⟩
      rw [hends.out rfl h.ended]
      exact Settles.refl .out d.out
  | out =>
      have hends : Ends .out d (uddEpSetHalt uddCall .out d) := ends_uddEpSetHalt h.out
      refine ⟨?_, hends.own⟩
      rw [hends.inn rfl]
      exact Keeps.refl .inn d.inn

theorem answers_udiMscCswProcess {d : Dev} (h : Ready d) :
    Answers d (udiMscCswProcess uddCall d) := by
  have hsend {d' : Dev} (hd' : Answers d d') :
      Answers d (udiMscCswSend uddCall (udiMscCswTag d')) := by
    rw [udiMscCswSend_eq]
    exact ⟨hd'.inn.trans (keeps_cswSend d'.inn), hd'.out⟩
  unfold udiMscCswProcess
  dsimp only
  cases d.msc.residueEp with
  | none => exact hsend (Answers.refl d)
  | some e => exact hsend (answers_uddEpSetHalt e h)

theorem answers_endCommand (setSense : Dev → Dev) (hsense : KeepsEndpoints setSense) {d : Dev}
    (h : Ready d) : Answers d (endCommand uddCall setSense d) := by
  obtain ⟨hinn, hout⟩ := hsense d
  exact (answers_udiMscCswProcess (h.of_eq hinn hout)).of_eq hinn hout

/-- The short answer of a command. -/
theorem answers_udiMscDataSend (n : Nat) {d : Dev} (h : Ready d) :
    Answers d (udiMscDataSend uddCall n d) := by
  have hkeeps : Keeps .inn d.inn (d.inn.submit (dataReq n)) :=
    @keeps_submit (dataReq n) rfl (by simp [dataReq]) d.inn
  have hsubmitted : Answers d (d.onEp .inn (Endpoint.submit (dataReq n))) :=
    ⟨hkeeps, Settles.refl .out d.out⟩
  unfold udiMscDataSend
  rw [uddEpRun_eq]
  dsimp only
  split_ifs with hrun
  · exact hsubmitted
  · -- A refused answer leaves no status phase open.
    have hover : ¬ (d.inn.submit (dataReq n)).status := by
      unfold submit
      split_ifs with hbusy
      · exact h.ended
      · have hconf : d.inn.configured = false := by
          refine Bool.eq_false_of_not_eq_true fun hconf => hrun ?_
          rw [Bool.not_eq_true, Bool.or_eq_false_iff] at hbusy
          change (!d.inn.halted && !d.inn.job.busy && d.inn.configured) = true
          rw [hbusy.1, hbusy.2, hconf]
          rfl
        have hcall : (start (dataReq n).ep (prepare (dataReq n) d.inn)).job.call = some .dataSent :=
          call_start _ _
        have hidle : (start (dataReq n).ep (prepare (dataReq n) d.inn)).running = false :=
          (running_start _ _).trans hconf
        unfold status cswDue cswUnsent
        rw [hcall, hidle]
        simp
    have hready : Ready (d.onEp .inn (Endpoint.submit (dataReq n))) :=
      ⟨hkeeps.typed h.inn, h.out, hover⟩
    have hend : Answers (d.onEp .inn (Endpoint.submit (dataReq n))) _ :=
      answers_endCommand udiMscSenseFailHardware (fun _ => ⟨rfl, rfl⟩) hready
    exact ⟨hkeeps.trans hend.inn, hend.out⟩

theorem answers_udiMscCbwValidate (n : Nat) (dirIn : Bool) {next : Dev → Dev} {d : Dev}
    (h : Ready d) (hnext : Answers d (next d)) :
    Answers d (udiMscCbwValidate uddCall n dirIn next d) := by
  unfold udiMscCbwValidate
  split_ifs
  · exact hnext
  · exact answers_endCommand udiMscSenseFailCdbInvalid (fun _ => ⟨rfl, rfl⟩) h

/-! ## SCSI commands -/

theorem keepsEndpoints_senseOf (status : CtrlStatus) : KeepsEndpoints (senseOf status) := by
  intro d
  cases status <;> exact ⟨rfl, rfl⟩

theorem answers_udiMscSpcTestunitready (desc : LunDesc) (card : CardAnswer) {d : Dev}
    (h : Ready d) : Answers d (udiMscSpcTestunitready uddCall desc card d) := by
  have hinn : (checkUnitReady desc card d).2.inn = d.inn := rfl
  have hout : (checkUnitReady desc card d).2.out = d.out := rfl
  refine (answers_endCommand _ ?_ (h.of_eq hinn hout)).of_eq hinn hout
  intro d'
  split_ifs
  · exact ⟨rfl, rfl⟩
  · exact keepsEndpoints_senseOf _ d'

theorem answers_udiMscSbcReadCapacity (desc : LunDesc) (card : CardAnswer) {d : Dev}
    (h : Ready d) : Answers d (udiMscSbcReadCapacity uddCall desc card d) := by
  have hinn : (checkCapacity desc card d).2.inn = d.inn := rfl
  have hout : (checkCapacity desc card d).2.out = d.out := rfl
  have hready := h.of_eq hinn hout
  refine answers_udiMscCbwValidate 8 true h ?_
  dsimp only
  split_ifs
  · exact (answers_udiMscDataSend 8 hready).of_eq hinn hout
  · exact (answers_endCommand _ (keepsEndpoints_senseOf _) hready).of_eq hinn hout

theorem answers_udiMscSpcInquiry {d : Dev} (h : Ready d) :
    Answers d (udiMscSpcInquiry uddCall d) := by
  unfold udiMscSpcInquiry
  dsimp only
  refine answers_udiMscCbwValidate _ true h ?_
  split_ifs
  · exact answers_endCommand udiMscSenseFailCdbInvalid (fun _ => ⟨rfl, rfl⟩) h
  · exact answers_udiMscDataSend _ h

theorem answers_udiMscSpcModeSense (bSense10 : Bool) {d : Dev} (h : Ready d) :
    Answers d (udiMscSpcModeSense uddCall bSense10 d) := by
  unfold udiMscSpcModeSense
  dsimp only
  exact answers_udiMscCbwValidate _ true h (answers_udiMscDataSend _ h)

theorem answers_udiMscSpcRequestsense {d : Dev} (h : Ready d) :
    Answers d (udiMscSpcRequestsense uddCall d) := by
  unfold udiMscSpcRequestsense
  dsimp only
  exact answers_udiMscCbwValidate _ true h (answers_udiMscDataSend _ h)

theorem answers_udiMscSpcPreventAllowMediumRemoval {d : Dev} (h : Ready d) :
    Answers d (udiMscSpcPreventAllowMediumRemoval uddCall d) := by
  refine answers_endCommand _ ?_ h
  intro d'
  split_ifs <;> exact ⟨rfl, rfl⟩

theorem answers_udiMscSbcStartStop (desc : LunDesc) {d : Dev} (h : Ready d) :
    Answers d (udiMscSbcStartStop uddCall desc d) := by
  unfold udiMscSbcStartStop
  dsimp only
  have hrecord (store : Store) (event : LunEvent) :
      (d.record store event).inn = d.inn ∧ (d.record store event).out = d.out := ⟨rfl, rfl⟩
  obtain ⟨hinn, hout⟩ := hrecord
    (if d.loej then (memUnload desc d.msc.cbw.bCBWLUN (!d.start) d.store).2 else d.store)
    (.startStop d.loej d.start .pass)
  exact (answers_endCommand udiMscSensePass (fun _ => ⟨rfl, rfl⟩) (h.of_eq hinn hout)).of_eq
    hinn hout

theorem answers_udiMscSbcTrans (desc : LunDesc) (bRead : Bool) {d : Dev} (h : Ready d) :
    Answers d (udiMscSbcTrans uddCall desc bRead d) := by
  unfold udiMscSbcTrans udiMscCbwValidate
  dsimp only
  split_ifs
  · exact answers_endCommand udiMscSenseFailProtected (fun _ => ⟨rfl, rfl⟩) h
  · exact ⟨Keeps.refl .inn d.inn, Settles.refl .out d.out⟩
  · have hready : Ready
        { d with msc := { d.msc with addr := d.cdbAddr, nbBlock := d.cdbNbBlock } } :=
      ⟨h.inn, h.out, h.ended⟩
    have hend := answers_endCommand udiMscSenseFailCdbInvalid (fun _ => ⟨rfl, rfl⟩) hready
    exact ⟨hend.inn, hend.out⟩

theorem answers_ite {c : Prop} [Decidable c] {d d₁ d₂ : Dev} (h₁ : Answers d d₁)
    (h₂ : Answers d d₂) : Answers d (if c then d₁ else d₂) := by
  split_ifs
  · exact h₁
  · exact h₂

/-- **Every command only answers.** -/
theorem answers_scsiCommand (desc : LunDesc) (card : CardAnswer) {d : Dev} (h : Ready d) :
    Answers d (scsiCommand uddCall desc card d) := by
  unfold scsiCommand
  refine answers_ite (answers_udiMscSpcRequestsense h) ?_
  refine answers_ite (answers_udiMscSpcInquiry h) ?_
  refine answers_ite (answers_udiMscSpcModeSense false h) ?_
  refine answers_ite (answers_udiMscSpcModeSense true h) ?_
  refine answers_ite (answers_udiMscSpcTestunitready desc card h) ?_
  refine answers_ite (answers_udiMscSbcReadCapacity desc card h) ?_
  refine answers_ite (answers_udiMscSbcStartStop desc h) ?_
  refine answers_ite (answers_udiMscSpcPreventAllowMediumRemoval h) ?_
  refine answers_ite (answers_endCommand udiMscSensePass (fun _ => ⟨rfl, rfl⟩) h) ?_
  refine answers_ite (answers_udiMscSbcTrans desc true h) ?_
  refine answers_ite (answers_udiMscSbcTrans desc false h) ?_
  exact answers_endCommand udiMscSenseCommandInvalid (fun _ => ⟨rfl, rfl⟩) h

/-- A request for a transfer, as the main loop finds it: it fits into the length of the command. -/
structure Msc.Requests (m : Msc) : Prop where
  direction : m.cbw.directionIn = m.bRead
  length : m.nbBlock.toNat * 512 ≤ m.csw.dCSWDataResidue.toNat

theorem udiMscSbcTrans_accepted (call : Callback → Dev → Dev) (desc : LunDesc) (bRead : Bool)
    {d : Dev} (h : transAccepted desc bRead d = true) :
    (udiMscSbcTrans call desc bRead d).inn = d.inn
      ∧ (udiMscSbcTrans call desc bRead d).msc.Requests := by
  obtain ⟨hwp, hvalid⟩ := Bool.and_eq_true_iff.mp h
  have hkept : ({ d with msc := { d.msc with addr := d.cdbAddr, nbBlock := d.cdbNbBlock } } : Dev
      ).msc.cbwValid (d.cdbNbBlock.toNat * 512) bRead = true := hvalid
  rw [Bool.not_eq_true'] at hwp
  obtain ⟨hdirection, hlength⟩ := Bool.and_eq_true_iff.mp hvalid
  unfold udiMscSbcTrans
  rw [if_neg (ne_true_of_eq_false hwp)]
  dsimp only
  rw [udiMscCbwValidate, if_pos hkept]
  exact ⟨rfl, beq_iff_eq.mp hdirection, of_decide_eq_true hlength⟩

/-- **A command that asks for a transfer starts nothing.** -/
theorem scsiCommand_transfers (call : Callback → Dev → Dev) (desc : LunDesc) (card : CardAnswer)
    {d : Dev} (h : commandTransfers desc d = true) :
    (scsiCommand call desc card d).inn = d.inn
      ∧ (scsiCommand call desc card d).msc.Requests := by
  unfold commandTransfers at h
  rw [Bool.or_eq_true, Bool.and_eq_true, Bool.and_eq_true, beq_iff_eq, beq_iff_eq] at h
  rcases h with ⟨hop, haccepted⟩ | ⟨hop, haccepted⟩
  · have hcommand : scsiCommand call desc card d = udiMscSbcTrans call desc true d := by
      simp [scsiCommand, hop]
    rw [hcommand]
    exact udiMscSbcTrans_accepted call desc true haccepted
  · have hcommand : scsiCommand call desc card d = udiMscSbcTrans call desc false d := by
      simp [scsiCommand, hop]
    rw [hcommand]
    exact udiMscSbcTrans_accepted call desc false haccepted

/-! ## The reception of a command block -/

/-- A function waits for the end of a halt on an endpoint that is not armed. -/
theorem settles_waitInvalid {e : Ep} {cb : Callback} (hbelongs : cb.belongs e = true)
    (hcb : cb = .cbwInvalid ∨ cb = .cswInvalid) {d : Dev} (harmed : (d.ep e).armed = false) :
    Settles e (d.ep e) ((uddEpWaitStallClear uddCall e cb d).ep e)
      ∧ ∀ e', e' ≠ e → (uddEpWaitStallClear uddCall e cb d).ep e' = d.ep e' := by
  have hother (f : Endpoint → Endpoint) (e' : Ep) (he : e' ≠ e) : (d.onEp e f).ep e' = d.ep e' := by
    cases e <;> cases e' <;> first | rfl | exact absurd rfl he
  unfold uddEpWaitStallClear
  split_ifs with hbusy hhalt hconf
  · exact ⟨Settles.refl e _, fun _ _ => rfl⟩
  · change Settles e (d.ep e) ((d.onEp e (Endpoint.park cb)).ep e)
      ∧ ∀ e', e' ≠ e → (d.onEp e (Endpoint.park cb)).ep e' = d.ep e'
    have hpark : (d.ep e).park cb = (d.ep e).stall cb := by
      rw [Endpoint.stall, ← hhalt, ← harmed]
    rw [Dev.ep_onEp, hpark]
    exact ⟨settles_stall hbelongs hcb (d.ep e), hother _⟩
  · rw [uddCall_eq hbelongs (Bool.eq_false_of_not_eq_true hbusy)]
    have hstall : settle cb d = if d.msc.bCbwInvalid then d.onEp e (Endpoint.stall cb) else d := by
      rcases hcb with rfl | rfl <;> obtain rfl := beq_iff_eq.mp hbelongs <;> rfl
    rw [hstall]
    split_ifs
    · rw [Dev.ep_onEp]
      exact ⟨settles_stall hbelongs hcb (d.ep e), hother _⟩
    · exact ⟨Settles.refl e _, fun _ _ => rfl⟩
  · exact ⟨Settles.refl e _, fun _ _ => rfl⟩

/-- The stall of the IN endpoint after an invalid command block. -/
theorem answers_udiMscCswInvalid {d : Dev} (h : Ready d) :
    Answers d (udiMscCswInvalid uddCall d) := by
  unfold udiMscCswInvalid stallUntilReset
  refine answers_ite ?_ (Answers.refl d)
  have hhalt := answers_uddEpSetHalt .inn h
  have hpark : d.inn.Parkless := by
    refine ⟨fun hcall => ?_, fun hcall => h.ended (.inl (.inr hcall))⟩
    exact absurd (h.inn.belongs .cbwWait hcall) nofun
  have harmed : ((uddEpSetHalt uddCall .inn d).ep .inn).armed = false :=
    armed_uddEpSetHalt h.inn hpark
  obtain ⟨hown, hother⟩ := @settles_waitInvalid .inn .cswInvalid rfl (.inr rfl) _ harmed
  have hout : (uddEpWaitStallClear uddCall .inn .cswInvalid (uddEpSetHalt uddCall .inn d)).out =
      (uddEpSetHalt uddCall .inn d).out := hother .out nofun
  refine ⟨hhalt.inn.trans hown.toKeeps, ?_⟩
  rw [hout]
  exact hhalt.out

theorem Answers.trans {d d' d'' : Dev} (h : Answers d d') (h' : Answers d' d'') : Answers d d'' :=
  ⟨h.inn.trans h'.inn, h.out.trans h'.out⟩

/-- **A command block is only answered.** -/
theorem answers_udiMscCbwReceived (desc : LunDesc) (card : CardAnswer) (n : Nat) {d : Dev}
    (h : Ready d) (hidle : d.out.job.busy = false) :
    Answers d (udiMscCbwReceived uddCall desc card n d) := by
  unfold udiMscCbwReceived
  refine answers_ite ?_ ?_
  · have hstalled : udiMscCbwInvalid uddCall
        { d with msc := { d.msc with bCbwInvalid := true } } =
          { d with out := d.out.stall .cbwInvalid, msc := { d.msc with bCbwInvalid := true } } := by
      have hstall := @stallUntilReset_eq uddCall .out .cbwInvalid
        { d with msc := { d.msc with bCbwInvalid := true } } hidle
      exact hstall.trans (if_pos rfl)
    have hout : Settles .out d.out (d.out.stall .cbwInvalid) :=
      settles_stall rfl (.inl rfl) d.out
    have hfirst : Answers d
        { d with out := d.out.stall .cbwInvalid, msc := { d.msc with bCbwInvalid := true } } :=
      ⟨Keeps.refl .inn d.inn, hout⟩
    rw [hstalled]
    exact hfirst.trans (answers_udiMscCswInvalid ⟨h.inn, hout.typed h.out, h.ended⟩)
  · dsimp only
    refine answers_ite ?_ ?_
    · have hready : Ready { d with msc := { d.msc with
          cbw := { d.msc.cbw with bCBWLUN := d.msc.cbw.bCBWLUN &&& 0x0F } } } :=
        ⟨h.inn, h.out, h.ended⟩
      have hend := answers_endCommand udiMscSenseFailCdbInvalid (fun _ => ⟨rfl, rfl⟩) hready
      exact ⟨hend.inn, hend.out⟩
    · have hready : Ready { d with msc := { d.msc with
          cbw := { d.msc.cbw with bCBWLUN := d.msc.cbw.bCBWLUN &&& 0x0F }
          csw := { d.msc.csw with dCSWDataResidue := d.msc.cbw.dCBWDataTransferLength } } } :=
        ⟨h.inn, h.out, h.ended⟩
      have hcommand := answers_scsiCommand desc card hready
      exact ⟨hcommand.inn, hcommand.out⟩

end Firmware
end SoundingSoil
