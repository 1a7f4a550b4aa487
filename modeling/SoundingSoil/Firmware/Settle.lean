import SoundingSoil.Firmware.MainLoop

/-!
# How jobs end

Closed forms of the driver functions on the two bulk endpoints.  A function that starts a transfer works
on its endpoint only (`Endpoint.submit`, `Endpoint.await`), and a registered function, once its job is
released, calls no further function (`settle`).  So the recursion between the two drivers stops at the
first call.

* `uddEpRun_eq` / `udiMscCbwWait_eq` / `udiMscCswSend_eq` — starting a transfer.
* **`abortedCallback_eq`** — a function on its own released endpoint does not depend on further calls;
  `callback_depth` is the bound it gives on the depth of calls.
* `uddEpAbort_eq` / `uddEpSetHalt_eq` / `uddEpClearHalt_eq` — ending a job, by `Dev.cancel`.
-/

namespace SoundingSoil
namespace Firmware

/-! ## Starting a transfer -/

namespace Endpoint

/-- The stores of `udd_ep_run` on the job. -/
def prepare (r : TransferReq) (x : Endpoint) : Endpoint :=
  { x with job := { x.job with
      busy := true
      buf := r.buf
      bufSize := r.bufSize
      nbTrans := 0
      call := some r.callback
      bShortpacket := r.bShortpacket
      bUseOutCacheBuffer := false } }

/-- The job at the start of the hardware, and the size of the first hardware job. -/
def first (e : Ep) (j : UddEpJob) : UddEpJob × Nat :=
  match e with
  | .inn => uddEpRunIn j
  | .out => uddEpRunOut j

/-- The end of `udd_ep_run`. -/
def start (e : Ep) (x : Endpoint) : Endpoint :=
  if x.configured then
    { x with armed := true, hwSize := (first e x.job).2, job := (first e x.job).1 }
  else { x with job := (first e x.job).1 }

/-- What `udd_ep_run` does to its endpoint. -/
def submit (r : TransferReq) (x : Endpoint) : Endpoint :=
  if x.halted || x.job.busy then x else start r.ep (prepare r x)

/-- A function is registered on the end of the halt. -/
def park (cb : Callback) (x : Endpoint) : Endpoint :=
  { x with job := { x.job with busy := true, call := some cb } }

/-- Start a transfer, or wait for the end of the halt to start it. -/
def await (r : TransferReq) (cb : Callback) (x : Endpoint) : Endpoint :=
  if x.halted then if x.job.busy then x else x.park cb else x.submit r

/-- The job is released. -/
def release (x : Endpoint) : Endpoint :=
  { x with job := { x.job with busy := false } }

/-- The endpoint is stalled, with a function on the end of the halt. -/
def stall (cb : Callback) (x : Endpoint) : Endpoint :=
  Endpoint.park cb { x with halted := true, armed := false }

/-- The flags of a job that its first hardware job decides. -/
theorem job_start (e : Ep) (x : Endpoint) :
    ∃ short cache, (x.start e).job =
      { x.job with bShortpacket := short, bUseOutCacheBuffer := cache } := by
  have hfirst : ∃ short cache, (first e x.job).1 =
      { x.job with bShortpacket := short, bUseOutCacheBuffer := cache } := by
    cases e with
    | inn =>
        unfold first uddEpRunIn
        dsimp only
        split_ifs <;> exact ⟨_, _, rfl⟩
    | out =>
        unfold first uddEpRunOut
        dsimp only
        split_ifs <;> exact ⟨_, _, rfl⟩
  unfold start
  split_ifs <;> exact hfirst

theorem busy_start (e : Ep) (x : Endpoint) : (x.start e).job.busy = x.job.busy := by
  obtain ⟨short, cache, h⟩ := job_start e x
  rw [h]

end Endpoint

/-! ## Access to one endpoint -/

namespace Dev

@[simp] theorem ep_onEp (e : Ep) (f : Endpoint → Endpoint) (d : Dev) :
    (d.onEp e f).ep e = f (d.ep e) := by
  cases e <;> rfl

@[simp] theorem msc_onEp (e : Ep) (f : Endpoint → Endpoint) (d : Dev) :
    (d.onEp e f).msc = d.msc := by
  cases e <;> rfl

/-- An endpoint after a change is the changed one, or as it was. -/
theorem ep_onEp_cases (e : Ep) (f : Endpoint → Endpoint) (d : Dev) (e' : Ep) :
    (d.onEp e f).ep e' = f (d.ep e) ∧ e' = e ∨ (d.onEp e f).ep e' = d.ep e' := by
  cases e <;> cases e' <;> first | exact .inl ⟨rfl, rfl⟩ | exact .inr rfl

theorem onEp_onEp (e : Ep) (f g : Endpoint → Endpoint) (d : Dev) :
    (d.onEp e f).onEp e g = d.onEp e fun x => g (f x) := by
  cases e <;> rfl

theorem onEp_congr {e : Ep} {f g : Endpoint → Endpoint} {d : Dev} (h : f (d.ep e) = g (d.ep e)) :
    d.onEp e f = d.onEp e g := by
  cases e with
  | inn => exact congrArg (fun x => { d with inn := x }) h
  | out => exact congrArg (fun x => { d with out := x }) h

theorem onEp_self {e : Ep} {f : Endpoint → Endpoint} {d : Dev} (h : f (d.ep e) = d.ep e) :
    d.onEp e f = d := by
  cases e with
  | inn => exact congrArg (fun x => { d with inn := x }) h
  | out => exact congrArg (fun x => { d with out := x }) h

end Dev

theorem uddEpRunStart_eq (e : Ep) (d : Dev) :
    uddEpRunStart e d = ((d.ep e).configured, d.onEp e (Endpoint.start e)) := by
  have hjob : uddEpRunStart e d =
      usbDeviceEndpointBufferJob e (Endpoint.first e (d.ep e).job).2
        (d.onJob e fun _ => (Endpoint.first e (d.ep e).job).1) := by
    cases e <;> rfl
  rw [hjob, usbDeviceEndpointBufferJob, Dev.onJob, Dev.ep_onEp, Dev.onEp_onEp]
  split_ifs with hconf
  · rw [hconf]
    refine congrArg (Prod.mk true) (Dev.onEp_congr ?_)
    rw [Endpoint.start, if_pos hconf]
    rfl
  · rw [Bool.eq_false_of_not_eq_true hconf]
    refine congrArg (Prod.mk false) (Dev.onEp_congr ?_)
    rw [Endpoint.start, if_neg hconf]

theorem uddEpRun_eq (r : TransferReq) (d : Dev) :
    uddEpRun r d =
      (!(d.ep r.ep).halted && !(d.ep r.ep).job.busy && (d.ep r.ep).configured,
        d.onEp r.ep (Endpoint.submit r)) := by
  have hself (h : ((d.ep r.ep).halted || (d.ep r.ep).job.busy) = true) :
      d.onEp r.ep (Endpoint.submit r) = d := by
    refine Dev.onEp_self ?_
    rw [Endpoint.submit, if_pos h]
  unfold uddEpRun
  cases hhalt : (d.ep r.ep).halted with
  | true =>
      rw [if_pos rfl, hself (by rw [hhalt, Bool.true_or])]
      rfl
  | false =>
      rw [if_neg Bool.false_ne_true, uddEpRunClaim]
      cases hbusy : (d.ep r.ep).job.busy with
      | true =>
          rw [if_pos rfl, hself (by rw [hbusy, Bool.or_true])]
          rfl
      | false =>
          have hprepared : uddEpRunFlags r (uddEpRunCallback r (uddEpRunBuffer r
              (d.onJob r.ep fun j => { j with busy := true }))) =
              d.onEp r.ep (Endpoint.prepare r) := by
            simp only [uddEpRunFlags, uddEpRunCallback, uddEpRunBuffer, Dev.onJob, Dev.onEp_onEp]
            rfl
          rw [if_neg Bool.false_ne_true]
          dsimp only
          rw [if_pos rfl, hprepared, uddEpRunStart_eq, Dev.ep_onEp, Dev.onEp_onEp]
          refine congrArg (Prod.mk (d.ep r.ep).configured) (Dev.onEp_congr ?_)
          rw [Endpoint.submit, hhalt, hbusy]
          rfl

/-! ## The functions of the jobs -/

section Call

variable (call : Callback → Dev → Dev)

/-- A transfer that cannot start waits for the end of the halt.  The function is never called at once:
an endpoint that is neither halted nor busy refuses only when it is disabled. -/
theorem runOrWait_eq (r : TransferReq) (cb : Callback) (d : Dev) :
    (if (uddEpRun r d).1 then (uddEpRun r d).2
      else uddEpWaitStallClear call r.ep cb (uddEpRun r d).2) =
      d.onEp r.ep (Endpoint.await r cb) := by
  have hstay (h : ((d.ep r.ep).halted || (d.ep r.ep).job.busy) = true) :
      d.onEp r.ep (Endpoint.submit r) = d := by
    refine Dev.onEp_self ?_
    rw [Endpoint.submit, if_pos h]
  rw [uddEpRun_eq]
  dsimp only
  cases hhalt : (d.ep r.ep).halted with
  | true =>
      rw [hstay (by rw [hhalt, Bool.true_or]), uddEpWaitStallClear]
      simp only [Bool.not_true, Bool.false_and, Bool.false_eq_true, if_false]
      cases hbusy : (d.ep r.ep).job.busy with
      | true =>
          rw [if_pos rfl]
          refine (Dev.onEp_self ?_).symm
          rw [Endpoint.await, if_pos hhalt, if_pos hbusy]
      | false =>
          rw [if_neg Bool.false_ne_true, if_pos hhalt]
          change d.onEp r.ep (Endpoint.park cb) = _
          refine Dev.onEp_congr ?_
          rw [Endpoint.await, if_pos hhalt, hbusy]
          rfl
  | false =>
      have hawait : d.onEp r.ep (Endpoint.await r cb) = d.onEp r.ep (Endpoint.submit r) := by
        refine Dev.onEp_congr ?_
        rw [Endpoint.await, hhalt, if_neg Bool.false_ne_true]
      rw [hawait]
      cases hbusy : (d.ep r.ep).job.busy with
      | true =>
          rw [hstay (by rw [hbusy, Bool.or_true]), uddEpWaitStallClear, if_pos hbusy]
          rfl
      | false =>
          cases hconf : (d.ep r.ep).configured with
          | true => rfl
          | false =>
              -- The refusal comes after the claim, and nothing gives the job back.
              have hclaimed : ((d.onEp r.ep (Endpoint.submit r)).ep r.ep).job.busy = true := by
                rw [Dev.ep_onEp, Endpoint.submit, hhalt, hbusy]
                exact Endpoint.busy_start r.ep _
              rw [uddEpWaitStallClear, if_pos hclaimed]
              rfl

theorem udiMscCbwWait_eq (d : Dev) :
    udiMscCbwWait call d = d.onEp .out (Endpoint.await cbwReq .cbwWait) :=
  runOrWait_eq call cbwReq .cbwWait d

theorem udiMscCswSend_eq (d : Dev) :
    udiMscCswSend call d = d.onEp .inn (Endpoint.await cswReq .cswSend) :=
  runOrWait_eq call cswReq .cswSend d

/-- On a released endpoint the stall calls nothing further. -/
theorem stallUntilReset_eq {e : Ep} (cb : Callback) {d : Dev} (hidle : (d.ep e).job.busy = false) :
    stallUntilReset call e cb d = if d.msc.bCbwInvalid then d.onEp e (Endpoint.stall cb) else d := by
  have habort : uddEpSetHalt call e d =
      d.onEp e fun x => { x with halted := true, armed := false } := by
    have hbusy : ((d.onEp e fun x => { x with halted := true }).onEp e Endpoint.abortJob |>.ep e).job.busy
        = false := by
      rw [Dev.ep_onEp, Dev.ep_onEp]
      exact hidle
    rw [uddEpSetHalt, uddEpAbort, hbusy, if_neg Bool.false_ne_true, Dev.onEp_onEp]
    rfl
  unfold stallUntilReset
  split_ifs
  · rw [habort, uddEpWaitStallClear, Dev.ep_onEp, if_neg (by rw [hidle]; exact Bool.false_ne_true),
      if_pos rfl]
    change (d.onEp e _).onEp e (Endpoint.park cb) = _
    rw [Dev.onEp_onEp]
    rfl
  · rfl

end Call

/-- A function is registered on one endpoint only, except the one of a sector. -/
def Callback.belongs (e : Ep) : Callback → Bool
  | .cbwReceived => e == .out
  | .dataSent => e == .inn
  | .cswSent => e == .inn
  | .transAck => true
  | .cbwWait => e == .out
  | .cswSend => e == .inn
  | .cbwInvalid => e == .out
  | .cswInvalid => e == .inn

/-- What a registered function does when its job is aborted or its halt ends. -/
def settle (cb : Callback) (d : Dev) : Dev :=
  match cb with
  | .cbwReceived => d
  | .dataSent => d
  | .cswSent => d.onEp .out (Endpoint.await cbwReq .cbwWait)
  | .transAck => udiMscTransAck .abort d
  | .cbwWait => d.onEp .out (Endpoint.await cbwReq .cbwWait)
  | .cswSend => d.onEp .inn (Endpoint.await cswReq .cswSend)
  | .cbwInvalid => if d.msc.bCbwInvalid then d.onEp .out (Endpoint.stall .cbwInvalid) else d
  | .cswInvalid => if d.msc.bCbwInvalid then d.onEp .inn (Endpoint.stall .cswInvalid) else d

/-- **A function on its own released endpoint calls nothing further.** -/
theorem abortedCallback_eq (call : Callback → Dev → Dev) {e : Ep} {cb : Callback} {d : Dev}
    (hcb : cb.belongs e = true) (hidle : (d.ep e).job.busy = false) :
    abortedCallback call cb d = settle cb d := by
  cases cb with
  | cbwReceived => rfl
  | dataSent => rfl
  | cswSent => exact udiMscCbwWait_eq call d
  | transAck => rfl
  | cbwWait => exact udiMscCbwWait_eq call d
  | cswSend => exact udiMscCswSend_eq call d
  | cbwInvalid =>
      obtain rfl := beq_iff_eq.mp hcb
      exact stallUntilReset_eq call .cbwInvalid hidle
  | cswInvalid =>
      obtain rfl := beq_iff_eq.mp hcb
      exact stallUntilReset_eq call .cswInvalid hidle

/-- **The depth of calls.**  One level of calls is all there is. -/
theorem callback_depth (n : Nat) {e : Ep} {cb : Callback} {d : Dev} (hcb : cb.belongs e = true)
    (hidle : (d.ep e).job.busy = false) : callback (n + 1) cb d = callback 1 cb d :=
  (abortedCallback_eq (callback n) hcb hidle).trans (abortedCallback_eq (callback 0) hcb hidle).symm

theorem uddCall_eq {e : Ep} {cb : Callback} {d : Dev} (hcb : cb.belongs e = true)
    (hidle : (d.ep e).job.busy = false) : uddCall cb d = settle cb d :=
  abortedCallback_eq (callback 2) hcb hidle

/-! ## Ending a job -/

/-- The function of the job is one of its endpoint. -/
def Endpoint.Belongs (e : Ep) (x : Endpoint) : Prop :=
  ∀ cb, x.job.call = some cb → cb.belongs e = true

/-- Call the function of a released job. -/
def settleJob (d : Dev) : Option Callback → Dev
  | none => d
  | some cb => settle cb d

theorem callJob_eq {e : Ep} {d : Dev} (hcb : (d.ep e).Belongs e)
    (hidle : (d.ep e).job.busy = false) :
    callJob uddCall d (d.ep e).job.call = settleJob d (d.ep e).job.call := by
  cases hcall : (d.ep e).job.call with
  | none => rfl
  | some cb => exact uddCall_eq (hcb cb hcall) hidle

/-- The job of an endpoint ends early. -/
def Dev.cancel (e : Ep) (d : Dev) : Dev :=
  if (d.ep e).job.busy then settleJob (d.onEp e Endpoint.release) (d.ep e).job.call else d

theorem callJob_release {e : Ep} {d : Dev} (hcb : (d.ep e).Belongs e) :
    (if (d.ep e).job.busy then
        callJob uddCall (d.onJob e fun j => { j with busy := false }) (d.ep e).job.call
      else d) = d.cancel e := by
  unfold Dev.cancel
  split_ifs
  · have hreleased : (d.onEp e Endpoint.release).ep e = (d.ep e).release := Dev.ep_onEp e _ d
    have hcall := @callJob_eq e (d.onEp e Endpoint.release)
      (by rw [hreleased]; exact hcb) (by rw [hreleased]; rfl)
    rw [hreleased] at hcall
    exact hcall
  · rfl

theorem uddEpAbort_eq {e : Ep} {d : Dev} (hcb : (d.ep e).Belongs e) :
    uddEpAbort uddCall e d = (d.onEp e Endpoint.abortJob).cancel e := by
  refine callJob_release ?_
  rw [Dev.ep_onEp]
  exact hcb

theorem uddEpSetHalt_eq {e : Ep} {d : Dev} (hcb : (d.ep e).Belongs e) :
    uddEpSetHalt uddCall e d =
      (d.onEp e fun x => { x with halted := true, armed := false }).cancel e := by
  have hhalted : ((d.onEp e fun x => { x with halted := true }).ep e).Belongs e := by
    rw [Dev.ep_onEp]
    exact hcb
  rw [uddEpSetHalt, uddEpAbort_eq hhalted, Dev.onEp_onEp]
  rfl

theorem uddEpClearHalt_eq {e : Ep} {d : Dev} (hcb : (d.ep e).Belongs e) :
    uddEpClearHalt uddCall e d = (d.onEp e fun x => { x with halted := false }).cancel e := by
  refine callJob_release ?_
  rw [Dev.ep_onEp]
  exact hcb

end Firmware
end SoundingSoil
