import SoundingSoil.Firmware.CommandBlocks
import SoundingSoil.Firmware.Completion

/-!
# What a command replies

A command either ends, with its status and sense data set and its tag in the CSW, or announces data that fit
into the length of the command, or leaves a transfer to the main loop.

* `answering_uddCall` — no call from the driver starts the data of an answer.
* `Replies` — that statement; `replies_endCommand` / `replies_udiMscDataSend` are its two ways.
* **`replies_scsiCommand`** — every command replies.
* **`agrees_serveIrq`** — an interrupt leaves the status FAIL exactly when the sense key is not zero.
-/

namespace SoundingSoil
namespace Firmware

open Endpoint

/-! ## The data of an answer -/

/-- The data of an answer are under way. -/
def Endpoint.answering (x : Endpoint) : Prop :=
  x.running = true ∧ x.job.call = some .dataSent

/-- Disarming and releasing an endpoint starts no data. -/
theorem answering_of_le {x x' : Endpoint} (hconf : x'.configured = x.configured)
    (harmed : x'.armed = true → x.armed = true) (hcall : x'.job.call = x.job.call)
    (h : x'.answering) : x.answering := by
  obtain ⟨hrun, hdata⟩ := h
  obtain ⟨hconf', harmed'⟩ := (running_iff x').mp hrun
  exact ⟨(running_iff x).mpr ⟨hconf.symm.trans hconf', harmed harmed'⟩, hcall.symm.trans hdata⟩

/-- Another function on the job is no answer. -/
theorem not_answering {x : Endpoint} {cb : Callback} (hcall : x.job.call = some cb) (hcb : cb ≠ .dataSent) :
    ¬ x.answering :=
  fun h => hcb (Option.some.inj (hcall.symm.trans h.2))

/-- Starting the CSW starts no data. -/
theorem answering_cswSend {x : Endpoint} (h : (x.await cswReq .cswSend).answering) : x.answering := by
  cases hbusy : x.job.busy with
  | true =>
      have hsame : x.await cswReq .cswSend = x := by
        unfold await submit
        rw [hbusy, Bool.or_true, if_pos rfl, if_pos rfl, ite_self]
      rwa [hsame] at h
  | false =>
      rcases @call_await cswReq .cswSend x hbusy with hcall | hcall
      · exact absurd h (not_answering hcall Callback.noConfusion)
      · exact absurd h (not_answering hcall Callback.noConfusion)

section Answering

variable {call : Callback → Dev → Dev} (hcall : ∀ cb d, (call cb d).inn.answering → d.inn.answering)
include hcall

theorem answering_callJob (cb : Option Callback) {d : Dev} (h : (callJob call d cb).inn.answering) :
    d.inn.answering := by
  cases cb with
  | none => exact h
  | some cb => exact hcall cb d h

/-- A job that is released calls its function. -/
theorem answering_releaseJob {e : Ep} {d d' : Dev} (hd : d.inn.answering → d'.inn.answering)
    (h : (if (d.ep e).job.busy then
        callJob call (d.onJob e fun j => { j with busy := false }) (d.ep e).job.call
      else d).inn.answering) : d'.inn.answering := by
  split_ifs at h
  · have hreleased := answering_callJob hcall _ h
    cases e with
    | inn => exact hd (answering_of_le rfl id rfl hreleased)
    | out => exact hd hreleased
  · exact hd h

theorem answering_uddEpAbort (e : Ep) {d : Dev} (h : (uddEpAbort call e d).inn.answering) :
    d.inn.answering := by
  refine @answering_releaseJob call hcall e (d.onEp e Endpoint.abortJob) d ?_ h
  cases e with
  | inn => exact answering_of_le rfl (fun harmed => Bool.noConfusion harmed) rfl
  | out => exact id

theorem answering_uddEpSetHalt (e : Ep) {d : Dev} (h : (uddEpSetHalt call e d).inn.answering) :
    d.inn.answering := by
  have habort := answering_uddEpAbort hcall e h
  cases e with
  | inn => exact answering_of_le rfl id rfl habort
  | out => exact habort

theorem answering_uddEpClearHalt (e : Ep) {d : Dev} (h : (uddEpClearHalt call e d).inn.answering) :
    d.inn.answering := by
  refine @answering_releaseJob call hcall e (d.onEp e fun x => { x with halted := false }) d ?_ h
  cases e with
  | inn => exact answering_of_le rfl id rfl
  | out => exact id

theorem answering_stallUntilReset (e : Ep) {cb : Callback} (hcb : cb ≠ .dataSent) {d : Dev}
    (h : (stallUntilReset call e cb d).inn.answering) : d.inn.answering := by
  unfold stallUntilReset at h
  split_ifs at h
  · refine answering_uddEpSetHalt hcall e ?_
    unfold uddEpWaitStallClear at h
    split_ifs at h
    · exact h
    · cases e with
      | inn => exact absurd h (not_answering rfl hcb)
      | out => exact h
    · exact hcall cb _ h
    · exact h
  · exact h

theorem answering_abortedCallback (cb : Callback) {d : Dev}
    (h : (abortedCallback call cb d).inn.answering) : d.inn.answering := by
  cases cb with
  | cbwReceived | dataSent | transAck => exact h
  | cswSent | cbwWait =>
      change (udiMscCbwWait call d).inn.answering at h
      rw [udiMscCbwWait_eq] at h
      exact h
  | cswSend =>
      change (udiMscCswSend call d).inn.answering at h
      rw [udiMscCswSend_eq] at h
      exact answering_cswSend h
  | cbwInvalid => exact answering_stallUntilReset hcall .out Callback.noConfusion h
  | cswInvalid => exact answering_stallUntilReset hcall .inn Callback.noConfusion h

end Answering

/-- **A call from the driver starts no data.** -/
theorem answering_uddCall (cb : Callback) (d : Dev) (h : (uddCall cb d).inn.answering) :
    d.inn.answering := by
  have hcallback (n : Nat) (cb : Callback) (d : Dev) (h : (callback n cb d).inn.answering) :
      d.inn.answering := by
    induction n generalizing cb d with
    | zero => exact h
    | succ n ih => exact answering_abortedCallback (fun cb d => ih cb d) cb h
  exact hcallback 3 cb d h

/-! ## Replies -/

/-- The status is FAIL exactly when there are sense data. -/
def Blocks.Agrees (b : Blocks) : Prop :=
  b.csw.bCSWStatus = .fail ↔ b.sense.senseFlagKey ≠ 0

/-- The IN endpoint sends data of a command, no more than the residue. -/
def Dev.Announces (d : Dev) : Prop :=
  d.inn.job.call = some .dataSent ∧ d.inn.job.bufSize ≤ d.msc.csw.dCSWDataResidue.toNat

/-- The CSW has the tag of the command. -/
def Dev.Tagged (d : Dev) : Prop :=
  d.msc.csw.dCSWTag = d.msc.cbw.dCBWTag

/-- Only the blocks say whether the CSW has the tag. -/
theorem tagged_congr {d d' : Dev} (h : d'.blocks = d.blocks) : d'.Tagged ↔ d.Tagged := by
  have hcsw : d'.msc.csw = d.msc.csw := congrArg Blocks.csw h
  have hcbw : d'.msc.cbw = d.msc.cbw := congrArg Blocks.cbw h
  unfold Dev.Tagged
  rw [hcsw, hcbw]

theorem tagged_of_blocks {d : Dev} {b : Blocks} (h : d.blocks = b.tagged) : d.Tagged := by
  have hcsw : d.msc.csw = b.tagged.csw := congrArg Blocks.csw h
  have hcbw : d.msc.cbw = b.cbw := congrArg Blocks.cbw h
  unfold Dev.Tagged
  rw [hcsw, hcbw]
  rfl

/-- The command block and the residue stay, and what is started on the IN endpoint is an announced answer or
a CSW with the tag of the command. -/
structure Replies (d d' : Dev) : Prop where
  cbw : d'.msc.cbw = d.msc.cbw
  residue : d'.msc.csw.dCSWDataResidue = d.msc.csw.dCSWDataResidue
  agrees : d.blocks.Agrees → d'.blocks.Agrees
  answer : d'.inn.status → d.inn.status ∨ d'.Announces ∨ d'.Tagged
  data : d'.inn.answering → d.inn.answering ∨ d'.Announces

/-- Only the blocks and the IN endpoint matter. -/
theorem Replies.of_same {d d₀ d' : Dev} (hblocks : d.blocks = d₀.blocks) (hinn : d.inn = d₀.inn)
    (h : Replies d d') : Replies d₀ d' := by
  have hcbw : d.msc.cbw = d₀.msc.cbw := congrArg Blocks.cbw hblocks
  have hcsw : d.msc.csw = d₀.msc.csw := congrArg Blocks.csw hblocks
  refine ⟨h.cbw.trans hcbw, ?_, ?_, ?_, ?_⟩
  · rw [h.residue, hcsw]
  · rw [← hblocks]
    exact h.agrees
  · rw [← hinn]
    exact h.answer
  · rw [← hinn]
    exact h.data

theorem replies_ite {c : Prop} [Decidable c] {d d₁ d₂ : Dev} (h₁ : Replies d d₁) (h₂ : Replies d d₂) :
    Replies d (if c then d₁ else d₂) := by
  split_ifs
  · exact h₁
  · exact h₂

/-! ## The two ways to reply -/

/-- A function that ends a command sets the status with the sense data and nothing else. -/
structure SetsSense (setSense : Dev → Dev) : Prop where
  inn : ∀ d, (setSense d).inn = d.inn
  cbw : ∀ d, (setSense d).msc.cbw = d.msc.cbw
  residue : ∀ d, (setSense d).msc.csw.dCSWDataResidue = d.msc.csw.dCSWDataResidue
  agrees : ∀ d, d.blocks.Agrees → (setSense d).blocks.Agrees

theorem setsSense_pass : SetsSense udiMscSensePass :=
  ⟨fun _ => rfl, fun _ => rfl, fun _ => rfl, fun _ _ => ⟨fun h => CswStatus.noConfusion h, fun h => absurd rfl h⟩⟩

theorem setsSense_fail {senseKey : BitVec 8} (hkey : senseKey ≠ 0) (addSense : BitVec 16)
    (lba : BitVec 32) : SetsSense (udiMscSenseFail senseKey addSense lba) :=
  ⟨fun _ => rfl, fun _ => rfl, fun _ => rfl, fun _ _ => ⟨fun _ => hkey, fun _ => rfl⟩⟩

theorem setsSense_notPresent : SetsSense udiMscSenseFailNotPresent :=
  setsSense_fail (by decide) 0x3A00 0

theorem setsSense_busyOrChange : SetsSense udiMscSenseFailBusyOrChange :=
  setsSense_fail (by decide) 0x2800 0

theorem setsSense_hardware : SetsSense udiMscSenseFailHardware :=
  setsSense_fail (by decide) 0x0000 0

theorem setsSense_protected : SetsSense udiMscSenseFailProtected :=
  setsSense_fail (by decide) 0x2700 0

theorem setsSense_cdbInvalid : SetsSense udiMscSenseFailCdbInvalid :=
  setsSense_fail (by decide) 0x2400 0

theorem setsSense_commandInvalid : SetsSense udiMscSenseCommandInvalid :=
  setsSense_fail (by decide) 0x2000 0

theorem setsSense_senseOf (status : CtrlStatus) : SetsSense (senseOf status) := by
  cases status with
  | good => exact ⟨fun _ => rfl, fun _ => rfl, fun _ => rfl, fun _ h => h⟩
  | fail => exact setsSense_hardware
  | noPresent => exact setsSense_notPresent
  | busy => exact setsSense_busyOrChange

theorem setsSense_ite {c : Prop} [Decidable c] {f g : Dev → Dev} (hf : SetsSense f)
    (hg : SetsSense g) : SetsSense (if c then f else g) := by
  split_ifs
  · exact hf
  · exact hg

section Call

variable {call : Callback → Dev → Dev} (hcall : ∀ cb d, (call cb d).rest = d.rest)
  (hdata : ∀ cb d, (call cb d).inn.answering → d.inn.answering)
include hcall

omit hcall in
include hdata in
/-- The CSW of a command starts no data. -/
theorem answering_udiMscCswProcess {d : Dev} (h : (udiMscCswProcess call d).inn.answering) :
    d.inn.answering := by
  unfold udiMscCswProcess at h
  dsimp only at h
  rw [udiMscCswSend_eq] at h
  have hsent := answering_cswSend h
  cases hep : d.msc.residueEp with
  | none =>
      rw [hep] at hsent
      exact hsent
  | some e =>
      rw [hep] at hsent
      exact answering_uddEpSetHalt hdata e hsent

include hdata

/-- A command ends, also after the IN endpoint was touched. -/
theorem replies_end {setSense : Dev → Dev} (hset : SetsSense setSense) {d d₀ : Dev}
    (hmsc : d.msc = d₀.msc) (hinn : d.inn.answering → d₀.inn.answering) :
    Replies d₀ (endCommand call setSense d) := by
  have hblocks := blocks_endCommand hcall setSense d
  have hcbw : (endCommand call setSense d).msc.cbw = (setSense d).msc.cbw := congrArg Blocks.cbw hblocks
  have hcsw : (endCommand call setSense d).msc.csw = (setSense d).blocks.tagged.csw :=
    congrArg Blocks.csw hblocks
  have hsame : d.blocks = d₀.blocks := congrArg (fun m : Msc => (⟨m.cbw, m.csw, m.sense⟩ : Blocks)) hmsc
  refine ⟨?_, ?_, fun h => ?_, fun _ => Or.inr (Or.inr (tagged_of_blocks hblocks)), fun h => Or.inl (hinn ?_)⟩
  · rw [hcbw, hset.cbw, hmsc]
  · rw [hcsw, ← hmsc]
    exact hset.residue d
  · rw [hblocks]
    rw [← hsame] at h
    exact hset.agrees d h
  · rw [← hset.inn d]
    exact answering_udiMscCswProcess hdata h

theorem replies_endCommand {setSense : Dev → Dev} (hset : SetsSense setSense) (d : Dev) :
    Replies d (endCommand call setSense d) :=
  replies_end hcall hdata hset rfl id

/-- A command announces data. -/
theorem replies_udiMscDataSend {n : Nat} {d : Dev} (hn : n ≤ d.msc.csw.dCSWDataResidue.toNat) :
    Replies d (udiMscDataSend call n d) := by
  unfold udiMscDataSend
  rw [uddEpRun_eq]
  dsimp only
  split_ifs with hrun
  · suffices hannounces : Dev.Announces (d.onEp .inn (Endpoint.submit (dataReq n))) from
      ⟨rfl, rfl, fun h => h, fun _ => Or.inr (Or.inl hannounces), fun _ => Or.inr hannounces⟩
    change ((!d.inn.halted && !d.inn.job.busy) && d.inn.configured) = true at hrun
    rw [Bool.and_eq_true, ← Bool.not_or, Bool.not_eq_true'] at hrun
    have hsubmit : d.inn.submit (dataReq n) = start (dataReq n).ep (prepare (dataReq n) d.inn) :=
      if_neg (ne_true_of_eq_false hrun.1)
    obtain ⟨short, cache, hjob⟩ := job_start (dataReq n).ep (prepare (dataReq n) d.inn)
    unfold Dev.Announces
    change (d.inn.submit (dataReq n)).job.call = some .dataSent ∧ (d.inn.submit (dataReq n)).job.bufSize ≤ _
    rw [hsubmit, hjob]
    exact ⟨rfl, hn⟩
  · refine replies_end hcall hdata setsSense_hardware (Dev.msc_onEp .inn _ d) fun h => ?_
    change (d.inn.submit (dataReq n)).answering at h
    unfold submit at h
    split_ifs at h with hbusy
    · exact h
    · have hconf : d.inn.configured = true :=
        (running_start (dataReq n).ep (prepare (dataReq n) d.inn)).symm.trans h.1
      rw [Bool.not_eq_true, Bool.or_eq_false_iff] at hbusy
      refine absurd ?_ hrun
      change (!d.inn.halted && !d.inn.job.busy && d.inn.configured) = true
      rw [hbusy.1, hbusy.2, hconf]
      rfl

/-- The command is refused, or goes on with a length that fits into the residue. -/
theorem replies_udiMscCbwValidate (n : Nat) (dirIn : Bool) {next : Dev → Dev} {d : Dev}
    (hnext : n ≤ d.msc.csw.dCSWDataResidue.toNat → Replies d (next d)) :
    Replies d (udiMscCbwValidate call n dirIn next d) := by
  unfold udiMscCbwValidate
  split_ifs with hvalid
  · exact hnext (of_decide_eq_true (Bool.and_eq_true_iff.mp hvalid).2)
  · exact replies_endCommand hcall hdata setsSense_cdbInvalid d

/-! ## SCSI commands -/

theorem replies_udiMscSpcRequestsense (d : Dev) : Replies d (udiMscSpcRequestsense call d) := by
  unfold udiMscSpcRequestsense
  dsimp only
  exact replies_udiMscCbwValidate hcall hdata _ true fun hn => replies_udiMscDataSend hcall hdata hn

theorem replies_udiMscSpcInquiry (d : Dev) : Replies d (udiMscSpcInquiry call d) := by
  unfold udiMscSpcInquiry
  dsimp only
  refine replies_udiMscCbwValidate hcall hdata _ true fun hn => replies_ite ?_ ?_
  · exact replies_endCommand hcall hdata setsSense_cdbInvalid d
  · exact replies_udiMscDataSend hcall hdata hn

theorem replies_udiMscSpcModeSense (bSense10 : Bool) (d : Dev) :
    Replies d (udiMscSpcModeSense call bSense10 d) := by
  unfold udiMscSpcModeSense
  dsimp only
  exact replies_udiMscCbwValidate hcall hdata _ true fun hn => replies_udiMscDataSend hcall hdata hn

variable (desc : LunDesc) (card : CardAnswer)

theorem replies_udiMscSpcTestunitready (d : Dev) :
    Replies d (udiMscSpcTestunitready call desc card d) := by
  have hblocks : (checkUnitReady desc card d).2.blocks = d.blocks := rfl
  have hinn : (checkUnitReady desc card d).2.inn = d.inn := rfl
  unfold udiMscSpcTestunitready
  dsimp only
  refine Replies.of_same hblocks hinn (replies_endCommand hcall hdata ?_ _)
  exact setsSense_ite setsSense_pass (setsSense_senseOf _)

theorem replies_udiMscSbcReadCapacity (d : Dev) :
    Replies d (udiMscSbcReadCapacity call desc card d) := by
  have hblocks : (checkCapacity desc card d).2.blocks = d.blocks := rfl
  have hinn : (checkCapacity desc card d).2.inn = d.inn := rfl
  unfold udiMscSbcReadCapacity
  refine replies_udiMscCbwValidate hcall hdata 8 true fun hn => ?_
  dsimp only
  refine Replies.of_same hblocks hinn (replies_ite (replies_udiMscDataSend hcall hdata hn) ?_)
  exact replies_endCommand hcall hdata (setsSense_senseOf _) _

theorem replies_udiMscSbcStartStop (d : Dev) : Replies d (udiMscSbcStartStop call desc d) := by
  have hrecord (store : Store) (event : LunEvent) : (d.record store event).blocks = d.blocks ∧
      (d.record store event).inn = d.inn := ⟨rfl, rfl⟩
  unfold udiMscSbcStartStop
  dsimp only
  exact Replies.of_same (hrecord _ _).1 (hrecord _ _).2 (replies_endCommand hcall hdata setsSense_pass _)

theorem replies_udiMscSbcTrans (bRead : Bool) (d : Dev) :
    Replies d (udiMscSbcTrans call desc bRead d) := by
  unfold udiMscSbcTrans udiMscCbwValidate
  dsimp only
  split_ifs
  · exact replies_endCommand hcall hdata setsSense_protected d
  · exact ⟨rfl, rfl, fun h => h, Or.inl, Or.inl⟩
  · have hend := replies_endCommand hcall hdata setsSense_cdbInvalid
      { d with msc := { d.msc with addr := d.cdbAddr, nbBlock := d.cdbNbBlock } }
    exact ⟨hend.cbw, hend.residue, hend.agrees, hend.answer, hend.data⟩

/-- **Every command replies.** -/
theorem replies_scsiCommand (d : Dev) : Replies d (scsiCommand call desc card d) := by
  unfold scsiCommand
  refine replies_ite (replies_udiMscSpcRequestsense hcall hdata d) ?_
  refine replies_ite (replies_udiMscSpcInquiry hcall hdata d) ?_
  refine replies_ite (replies_udiMscSpcModeSense hcall hdata false d) ?_
  refine replies_ite (replies_udiMscSpcModeSense hcall hdata true d) ?_
  refine replies_ite (replies_udiMscSpcTestunitready hcall hdata desc card d) ?_
  refine replies_ite (replies_udiMscSbcReadCapacity hcall hdata desc card d) ?_
  refine replies_ite (replies_udiMscSbcStartStop hcall hdata desc d) ?_
  refine replies_ite (replies_endCommand hcall hdata (setsSense_ite setsSense_pass setsSense_cdbInvalid) d) ?_
  refine replies_ite (replies_endCommand hcall hdata setsSense_pass d) ?_
  refine replies_ite (replies_udiMscSbcTrans hcall hdata desc true d) ?_
  refine replies_ite (replies_udiMscSbcTrans hcall hdata desc false d) ?_
  exact replies_endCommand hcall hdata setsSense_commandInvalid d

/-! ## The reception of a command block -/

theorem agrees_udiMscCbwReceived (n : Nat) {d : Dev} (h : d.blocks.Agrees) :
    (udiMscCbwReceived call desc card n d).blocks.Agrees := by
  unfold udiMscCbwReceived
  dsimp only
  split_ifs
  · have hstall := (rest_stallUntilReset hcall .inn .cswInvalid _).trans
      (rest_stallUntilReset hcall .out .cbwInvalid
        { d with msc := { d.msc with bCbwInvalid := true } })
    change (udiMscCswInvalid call (udiMscCbwInvalid call _)).blocks.Agrees
    unfold udiMscCswInvalid udiMscCbwInvalid
    rw [blocks_of_rest hstall]
    exact h
  · exact (replies_endCommand hcall hdata setsSense_cdbInvalid _).agrees h
  · exact (replies_scsiCommand hcall hdata desc card _).agrees h

omit hdata in
theorem agrees_udiMscDataSent (n : Nat) {d : Dev} (h : d.blocks.Agrees) :
    (udiMscDataSent call n d).blocks.Agrees := by
  unfold udiMscDataSent
  dsimp only
  rw [blocks_udiMscCswProcess hcall]
  exact setsSense_pass.agrees d h

theorem agrees_completedCallback (cb : Callback) (n : Nat) {d : Dev} (h : d.blocks.Agrees) :
    (completedCallback call desc card cb n d).blocks.Agrees := by
  cases cb with
  | cbwReceived => exact agrees_udiMscCbwReceived hcall hdata desc card n h
  | dataSent => exact agrees_udiMscDataSent hcall n h
  | transAck => exact h
  | cswSent | cbwWait =>
      change (udiMscCbwWait call d).blocks.Agrees
      rw [blocks_of_rest (rest_udiMscCbwWait hcall d)]
      exact h
  | cswSend =>
      change (udiMscCswSend call d).blocks.Agrees
      rw [blocks_of_rest (rest_udiMscCswSend hcall d)]
      exact h
  | cbwInvalid =>
      change (stallUntilReset call .out .cbwInvalid d).blocks.Agrees
      rw [blocks_of_rest (rest_stallUntilReset hcall _ _ d)]
      exact h
  | cswInvalid =>
      change (stallUntilReset call .inn .cswInvalid d).blocks.Agrees
      rw [blocks_of_rest (rest_stallUntilReset hcall _ _ d)]
      exact h

theorem agrees_transferNext (e : Ep) (next : TransNext) {d : Dev} (h : d.blocks.Agrees) :
    (transferNext e (completedCallback call desc card) next d).blocks.Agrees := by
  have hreleased (job : UddEpJob) :
      ((d.onEp e Endpoint.abortJob).onJob e fun _ => job).blocks = d.blocks :=
    blocks_of_rest ((rest_onJob e _ _).trans (rest_abortJob e d))
  unfold transferNext
  cases next with
  | again job size =>
      dsimp only
      rw [blocks_of_rest (rest_bufferJob e size _), hreleased]
      exact h
  | complete job =>
      rw [← hreleased job] at h
      dsimp only
      cases job.call with
      | none => exact h
      | some cb => exact agrees_completedCallback hcall hdata desc card cb job.nbTrans h

end Call

/-! ## Runs -/

/-- **An interrupt leaves the status in agreement with the sense data.** -/
theorem agrees_serveIrq (desc : LunDesc) (irq : Irq) {d : Dev} (h : d.blocks.Agrees) :
    (serveIrq desc irq d).blocks.Agrees := by
  cases irq with
  | transferIn card =>
      change (transferIn uddCall desc card d).blocks.Agrees
      unfold transferIn
      split_ifs
      · exact agrees_transferNext rest_uddCall answering_uddCall desc card .inn _ h
      · exact h
  | transferOut received cbw card =>
      have hstored : (storeReceived cbw d).blocks.Agrees := by
        unfold storeReceived
        split_ifs <;> exact h
      change (transferOut uddCall desc received cbw card d).blocks.Agrees
      unfold transferOut
      split_ifs
      · exact agrees_transferNext rest_uddCall answering_uddCall desc card .out _ hstored
      · exact h
  | _ =>
      rw [blocks_serveIrq desc d (fun _ => Irq.noConfusion) (fun _ _ _ => Irq.noConfusion)]
      exact h

end Firmware
end SoundingSoil
