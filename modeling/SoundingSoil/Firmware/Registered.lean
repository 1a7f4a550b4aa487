import SoundingSoil.Firmware.Steps
import SoundingSoil.Firmware.Turns

/-!
# Registered functions

A function is only ever registered on the endpoint it belongs to, whatever the state of the endpoints
is.  This holds in every function of the driver, for every depth of calls, and in every step of the main
loop.

* `registered_uddCall` — calls from the driver.
* **`registered_mainStep`** — steps of the main loop.
-/

namespace SoundingSoil
namespace Firmware

open Endpoint

/-- Both endpoints have only functions of their own. -/
def Dev.Registered (d : Dev) : Prop :=
  ∀ e, (d.ep e).Belongs e

theorem Dev.Registered.onEp {d : Dev} (h : d.Registered) {e : Ep} {f : Endpoint → Endpoint}
    (hf : (f (d.ep e)).Belongs e) : (d.onEp e f).Registered := by
  intro e'
  cases e <;> cases e' <;> first | exact hf | exact h _

theorem Dev.Registered.of_call {d d' : Dev} (h : d.Registered)
    (hcall : ∀ e, (d'.ep e).job.call = (d.ep e).job.call) : d'.Registered :=
  fun e cb hcb => h e cb ((hcall e).symm.trans hcb)

/-- A change that registers nothing. -/
theorem Dev.Registered.onEp_call {d : Dev} (h : d.Registered) {e : Ep} {f : Endpoint → Endpoint}
    (hf : (f (d.ep e)).job.call = (d.ep e).job.call) : (d.onEp e f).Registered :=
  h.onEp fun cb hcb => h e cb (hf.symm.trans hcb)

theorem belongs_some {e : Ep} {cb : Callback} {x : Endpoint} (hcb : cb.belongs e = true)
    (hcall : x.job.call = some cb) : x.Belongs e := by
  intro cb' hcb'
  obtain rfl := Option.some.inj (hcall.symm.trans hcb')
  exact hcb

theorem belongs_await {r : TransferReq} {cb : Callback} (hr : r.callback.belongs r.ep = true)
    (hcb : cb.belongs r.ep = true) {x : Endpoint} (h : x.Belongs r.ep) :
    (x.await r cb).Belongs r.ep := by
  unfold await submit
  split_ifs
  · exact h
  · exact belongs_some hcb rfl
  · exact h
  · exact belongs_some hr (call_start r.ep _)

section Call

variable {call : Callback → Dev → Dev}
  (hcall : ∀ cb (d : Dev), d.Registered → (call cb d).Registered)

theorem registered_udiMscCbwWait (call : Callback → Dev → Dev) {d : Dev} (h : d.Registered) :
    (udiMscCbwWait call d).Registered := by
  rw [udiMscCbwWait_eq]
  exact h.onEp (@belongs_await cbwReq .cbwWait (by decide) (by decide) d.out (h .out))

theorem registered_udiMscCswSend (call : Callback → Dev → Dev) {d : Dev} (h : d.Registered) :
    (udiMscCswSend call d).Registered := by
  rw [udiMscCswSend_eq]
  exact h.onEp (@belongs_await cswReq .cswSend (by decide) (by decide) d.inn (h .inn))

include hcall

theorem registered_callJob (cb : Option Callback) {d : Dev} (h : d.Registered) :
    (callJob call d cb).Registered := by
  cases cb with
  | none => exact h
  | some cb => exact hcall cb d h

/-- The job of an endpoint is released and its function called. -/
theorem registered_ended (e : Ep) {d : Dev} (h : d.Registered) :
    (if (d.ep e).job.busy then
      callJob call (d.onJob e fun j => { j with busy := false }) (d.ep e).job.call
      else d).Registered := by
  split_ifs
  · exact registered_callJob hcall _ (h.onEp_call rfl)
  · exact h

theorem registered_uddEpAbort (e : Ep) {d : Dev} (h : d.Registered) :
    (uddEpAbort call e d).Registered :=
  registered_ended hcall e (h.onEp_call rfl)

theorem registered_uddEpSetHalt (e : Ep) {d : Dev} (h : d.Registered) :
    (uddEpSetHalt call e d).Registered :=
  registered_uddEpAbort hcall e (h.onEp_call rfl)

theorem registered_uddEpClearHalt (e : Ep) {d : Dev} (h : d.Registered) :
    (uddEpClearHalt call e d).Registered :=
  registered_ended hcall e (h.onEp_call rfl)

theorem registered_uddEpFree (e : Ep) {d : Dev} (h : d.Registered) :
    (uddEpFree call e d).Registered :=
  (registered_uddEpAbort hcall e h).onEp_call rfl

theorem registered_stallUntilReset {e : Ep} {cb : Callback} (hcb : cb.belongs e = true) {d : Dev}
    (h : d.Registered) : (stallUntilReset call e cb d).Registered := by
  have hhalt := registered_uddEpSetHalt hcall e h
  unfold stallUntilReset uddEpWaitStallClear
  split_ifs
  · exact hhalt
  · exact hhalt.onEp (belongs_some hcb rfl)
  · exact hcall cb _ hhalt
  · exact hhalt
  · exact h

theorem registered_abortedCallback (cb : Callback) {d : Dev} (h : d.Registered) :
    (abortedCallback call cb d).Registered := by
  cases cb with
  | cbwReceived | dataSent => exact h
  | cswSent => exact registered_udiMscCbwWait call h
  | transAck => exact h.of_call fun e => by cases e <;> rfl
  | cbwWait => exact registered_udiMscCbwWait call h
  | cswSend => exact registered_udiMscCswSend call h
  | cbwInvalid => exact @registered_stallUntilReset call hcall .out .cbwInvalid rfl d h
  | cswInvalid => exact @registered_stallUntilReset call hcall .inn .cswInvalid rfl d h

end Call

theorem registered_callback (n : Nat) (cb : Callback) (d : Dev) (h : d.Registered) :
    (callback n cb d).Registered := by
  induction n generalizing cb d with
  | zero => exact h
  | succ n ih => exact registered_abortedCallback ih cb h

/-- **Calls from the driver register functions of their endpoints only.** -/
theorem registered_uddCall (cb : Callback) (d : Dev) (h : d.Registered) :
    (uddCall cb d).Registered :=
  registered_callback 3 cb d h

/-! ## The main loop -/

theorem belongs_req (r : RunFor) : r.req.callback.belongs r.req.ep = true := by
  cases r <;> rfl

theorem registered_uddEpRunStart (e : Ep) {d : Dev} (h : d.Registered) :
    (uddEpRunStart e d).2.Registered := by
  rw [uddEpRunStart_eq]
  exact h.onEp_call (call_start e _)

theorem registered_runStep (stage : RunPc) (r : RunFor) {s : Sys} (h : s.dev.Registered) :
    (runStep stage r s).dev.Registered := by
  cases stage with
  | halted =>
      unfold runStep
      split_ifs <;> exact h
  | claim =>
      change (uddEpRunClaim r.req.ep s.dev).2.Registered
      unfold uddEpRunClaim
      split_ifs
      · exact h
      · exact h.onEp_call rfl
  | buffer => exact h.onEp_call rfl
  | callback => exact h.onEp (belongs_some (belongs_req r) rfl)
  | flags => exact h.onEp_call rfl
  | start => exact registered_uddEpRunStart r.req.ep h

/-- **The main loop registers functions of their endpoints only.** -/
theorem registered_mainStep (answer : SdMmcErr) {s : Sys} (h : s.dev.Registered) :
    (mainStep answer s).dev.Registered := by
  cases hpc : s.pc with
  | memory p =>
      simp only [mainStep, hpc]
      cases p <;> unfold memoryStep <;> dsimp only <;> first
        | exact h
        | split_ifs <;> exact h
  | run stage r =>
      simp only [mainStep, hpc]
      exact registered_runStep stage r h
  | haltSet e | haltAbort e =>
      simp only [mainStep, hpc]
      exact h.onEp_call rfl
  | haltBusy e =>
      simp only [mainStep, hpc]
      split_ifs
      · exact h.onEp_call rfl
      · exact h
  | haltCall e =>
      simp only [mainStep, hpc]
      exact registered_callJob registered_uddCall _ h
  | cswResidue =>
      simp only [mainStep, hpc]
      cases s.dev.msc.residueEp <;> exact h
  | stallClaim =>
      simp only [mainStep, hpc]
      exact h.onEp_call rfl
  | stallCall =>
      simp only [mainStep, hpc]
      exact h.onEp (belongs_some rfl rfl)
  | loop | testReq | resetTest | stallBusy | stallHalted | stallConfigured | chooseMode | wfi =>
      simp only [mainStep, hpc]
      split_ifs <;> exact h
  | _ =>
      simp only [mainStep, hpc]
      exact h

/-! ## The interface -/

theorem registered_udiMscBulkReset {d : Dev} (h : d.Registered) :
    (udiMscBulkReset uddCall d).Registered := by
  have hreset : ({ d with msc := { d.msc with bCbwInvalid := false, bTransReq := false } } : Dev
      ).Registered := h.of_call fun e => by cases e <;> rfl
  exact registered_udiMscCbwWait uddCall (registered_uddEpAbort registered_uddCall .inn
    (registered_uddEpAbort registered_uddCall .out hreset))

theorem registered_udcIfaceDisable (ifaceNum : BitVec 8) {d : Dev} (h : d.Registered) :
    (udcIfaceDisable uddCall ifaceNum d).2.Registered := by
  unfold udcIfaceDisable
  split_ifs
  · have hfreed := registered_uddEpFree registered_uddCall .out
      (registered_uddEpFree registered_uddCall .inn h)
    exact hfreed.of_call fun e => by cases e <;> rfl
  · exact h

theorem registered_udcReset {d : Dev} (h : d.Registered) : (udcReset uddCall d).Registered := by
  unfold udcReset
  dsimp only
  split_ifs
  · exact (registered_udcIfaceDisable 0 h).of_call fun e => by cases e <;> rfl
  · exact h.of_call fun e => by cases e <;> rfl

end Firmware
end SoundingSoil
