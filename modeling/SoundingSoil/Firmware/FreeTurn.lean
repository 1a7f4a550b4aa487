import SoundingSoil.Firmware.Answers

/-!
# The turn while the main loop is out of it

While the main loop runs no transfer, the turn is with the interrupts: the reception of a CBW, a status
phase, or a request that waits for the main loop, and never two of them.

* `FreeTurn` — that statement.
* `Renewed` — the interface right after it was enabled, whatever was under way before.
* `freeTurn_setup` — what a control request does to it.  A Bulk-Only Reset, and a request that enables
  the interface, start the reception of a CBW beside a CSW that waits for the end of a halt; ending the
  halt of a CSW that is being sent passes the turn on twice.  These are left out by `SparesStatus`.

The completed transfers, and with them all interrupts, are in the next module.
-/

namespace SoundingSoil
namespace Firmware

open Endpoint

/-- At most one of the reception of a CBW, the status phase and a request to the main loop; and no
sector. -/
structure FreeTurn (d : Dev) : Prop where
  inn : d.inn.Typed .inn
  out : d.out.Typed .out
  block : ∀ e, ¬ (d.ep e).block
  command : d.out.cbwDue → ¬ d.inn.status
  pending : d.msc.bTransReq = true → ¬ d.out.cbwDue ∧ ¬ d.inn.status ∧ d.msc.Requests

/-- Nothing is started, and a request stays as it was or is taken back. -/
theorem FreeTurn.settles {d d' : Dev} (h : FreeTurn d) (hinn : Settles .inn d.inn d'.inn)
    (hout : Settles .out d.out d'.out)
    (hreq : d'.msc.bTransReq = true →
      d.msc.bTransReq = true ∧ (d.msc.Requests → d'.msc.Requests)) : FreeTurn d' := by
  refine ⟨hinn.typed h.inn, hout.typed h.out, ?_, ?_, ?_⟩
  · intro e
    cases e with
    | inn => exact fun hb => h.block .inn (hinn.block hb)
    | out => exact fun hb => h.block .out (hout.block hb)
  · exact fun hcbw hstatus => h.command (hout.cbw hcbw) (hinn.status hstatus)
  · intro hreq'
    obtain ⟨hold, hmsc⟩ := hreq hreq'
    obtain ⟨hcbw, hover, hrequests⟩ := h.pending hold
    exact ⟨fun hdue => hcbw (hout.cbw hdue), fun hs => hover (hinn.status hs), hmsc hrequests⟩

theorem FreeTurn.of_eq {d d' : Dev} (h : FreeTurn d) (hinn : d'.inn = d.inn) (hout : d'.out = d.out)
    (hreq : d'.msc.bTransReq = true → d.msc.bTransReq = true)
    (hmsc : d.msc.Requests → d'.msc.Requests) : FreeTurn d' := by
  refine h.settles ?_ ?_ fun hreq' => ⟨hreq hreq', hmsc⟩
  · rw [hinn]
    exact Settles.refl .inn d.inn
  · rw [hout]
    exact Settles.refl .out d.out

/-- The turn is with the status phase, or with nobody. -/
theorem freeTurn_of_status {d : Dev} (hinn : d.inn.Typed .inn) (hout : d.out.Typed .out)
    (hblock : ∀ e, ¬ (d.ep e).block) (hcbw : ¬ d.out.cbwDue) (hreq : d.msc.bTransReq = false) :
    FreeTurn d :=
  ⟨hinn, hout, hblock, fun h => absurd h hcbw, fun h => absurd (hreq.symm.trans h) nofun⟩

/-- The globals of the class driver after a driver function. -/
theorem msc_of_rest {d d' : Dev} (h : d'.rest = d.rest) :
    d'.msc = { d.msc with bAckTrans := d'.msc.bAckTrans, bAbortTrans := d'.msc.bAbortTrans } := by
  have hmsc : ({ d'.msc with bAckTrans := true, bAbortTrans := false } : Msc) =
      { d.msc with bAckTrans := true, bAbortTrans := false } := congrArg Dev.msc h
  have hset (m : Msc) (ack abort : Bool) : m =
      { ({ m with bAckTrans := ack, bAbortTrans := abort } : Msc) with
        bAckTrans := m.bAckTrans, bAbortTrans := m.bAbortTrans } := rfl
  rw [hset d'.msc true false, hmsc]

theorem requests_of_rest {d d' : Dev} (h : d'.rest = d.rest) (hreq : d.msc.Requests) :
    d'.msc.Requests := by
  rw [msc_of_rest h]
  exact ⟨hreq.direction, hreq.length⟩

theorem transReq_of_rest {d d' : Dev} (h : d'.rest = d.rest) :
    d'.msc.bTransReq = d.msc.bTransReq :=
  transReq_of_core (core_of_rest h)

/-! ## Ending jobs -/

theorem rest_cancel {e : Ep} {d : Dev} (h : (d.ep e).Belongs e) : (d.cancel e).rest = d.rest := by
  rw [← callJob_release h]
  split_ifs
  · rw [rest_callJob rest_uddCall, rest_onJob]
  · rfl

theorem FreeTurn.ends_out {d d' : Dev} (h : FreeTurn d) (hends : Ends .out d d') : FreeTurn d' := by
  have hinn : d'.inn = d.inn := hends.inn rfl
  refine h.settles ?_ hends.own fun hreq => ?_
  · rw [hinn]
    exact Settles.refl .inn d.inn
  · rw [transReq_of_rest hends.rest] at hreq
    exact ⟨hreq, requests_of_rest hends.rest⟩

/-- Ending the job of the IN endpoint passes the turn of an unsent CSW on to the reception of a CBW. -/
theorem FreeTurn.cancel_inn {f : Endpoint → Endpoint} {d : Dev} (h : FreeTurn d)
    (hjob : (f d.inn).job = d.inn.job) (hf : Settles .inn d.inn (f d.inn))
    (hrun : d.inn.cswUnsent → (f d.inn).running = false) :
    FreeTurn ((d.onEp .inn f).cancel .inn) := by
  have htyped : ((d.onEp .inn f).inn).Typed .inn := hf.typed h.inn
  -- An unsent CSW that is ended is a sent one to the class driver, which waits for the next CBW.
  by_cases hsent : d.inn.cswUnsent
  · have hsent' : (d.onEp .inn f).inn.cswUnsent := by
      unfold cswUnsent
      rw [Dev.onEp_inn, hjob]
      exact hsent
    have hreq : d.msc.bTransReq = false := by
      refine Bool.eq_false_of_not_eq_true fun hreq => ?_
      exact (h.pending hreq).2.1 (.inr hsent)
    have hover : ¬ (f d.inn).release.status := by
      have hidle : (f d.inn).release.running = false := hrun hsent
      have hcall : (f d.inn).release.job.call = some .cswSent := hsent'.2
      unfold status cswDue cswUnsent
      rw [hidle, hcall]
      simp [release]
    have hinn := hf.trans (settles_release .inn (f d.inn))
    have hkeeps := keeps_cbwWait d.out
    rw [cancel_unsent hsent']
    refine ⟨hinn.typed h.inn, hkeeps.typed h.out, ?_, fun _ => hover, ?_⟩
    · intro e
      cases e with
      | inn => exact fun hb => h.block .inn (hinn.block hb)
      | out => exact fun hb => h.block .out (hkeeps.block hb)
    · intro hreq'
      exact absurd (hreq.symm.trans hreq') nofun
  · have hsent' : ¬ (d.onEp .inn f).inn.cswUnsent := by
      unfold cswUnsent
      rw [Dev.onEp_inn, hjob]
      exact hsent
    have hout : ((d.onEp .inn f).cancel .inn).out = d.out := cancel_inn_out htyped hsent'
    have hinn : Settles .inn d.inn ((d.onEp .inn f).cancel .inn).inn :=
      hf.trans (@settles_cancel .inn _ htyped)
    have hrest : ((d.onEp .inn f).cancel .inn).msc.bTransReq = d.msc.bTransReq
        ∧ (d.msc.Requests → ((d.onEp .inn f).cancel .inn).msc.Requests) := by
      have hcancel := @rest_cancel .inn (d.onEp .inn f) htyped.belongs
      have hreq : ((d.onEp .inn f).cancel .inn).msc.bTransReq = (d.onEp .inn f).msc.bTransReq :=
        transReq_of_rest hcancel
      have hrequests : (d.onEp .inn f).msc.Requests → ((d.onEp .inn f).cancel .inn).msc.Requests :=
        requests_of_rest hcancel
      exact ⟨hreq, hrequests⟩
    refine h.settles hinn ?_ fun hreq => ?_
    · rw [hout]
      exact Settles.refl .out d.out
    · rw [hrest.1] at hreq
      exact ⟨hreq, hrest.2⟩

theorem FreeTurn.uddEpAbort {d : Dev} (h : FreeTurn d) (e : Ep) :
    FreeTurn (uddEpAbort uddCall e d) := by
  cases e with
  | out => exact h.ends_out (ends_uddEpAbort h.out)
  | inn =>
      rw [uddEpAbort_eq h.inn.belongs]
      refine h.cancel_inn rfl (settles_abortJob .inn d.inn) fun _ => ?_
      exact not_running rfl

theorem FreeTurn.uddEpSetHalt {d : Dev} (h : FreeTurn d) (e : Ep) :
    FreeTurn (uddEpSetHalt uddCall e d) := by
  cases e with
  | out => exact h.ends_out (ends_uddEpSetHalt h.out)
  | inn =>
      rw [uddEpSetHalt_eq h.inn.belongs]
      refine h.cancel_inn rfl (settles_setHalt .inn d.inn) fun _ => ?_
      exact not_running rfl

theorem FreeTurn.uddEpClearHalt {d : Dev} (h : FreeTurn d) {e : Ep}
    (hrun : e = .inn → d.inn.cswUnsent → d.inn.running = false) :
    FreeTurn (uddEpClearHalt uddCall e d) := by
  cases e with
  | out => exact h.ends_out (ends_uddEpClearHalt h.out)
  | inn =>
      rw [uddEpClearHalt_eq h.inn.belongs]
      exact h.cancel_inn rfl (settles_halted .inn false d.inn) (hrun rfl)

/-- An aborted IN endpoint has no status phase left, unless a CSW waited for the end of a halt. -/
theorem over_uddEpAbort {d : Dev} (h : d.inn.Typed .inn) (hsend : d.inn.job.call ≠ some .cswSend) :
    ¬ (uddEpAbort uddCall .inn d).inn.status := by
  have habort : Settles .inn d.inn d.inn.abortJob := settles_abortJob .inn d.inn
  have hidle : d.inn.abortJob.running = false := not_running rfl
  have hdue : ¬ d.inn.abortJob.cswDue := by
    rintro (⟨hrun, -⟩ | hcall)
    · exact absurd (hidle.symm.trans hrun) nofun
    · exact hsend hcall
  rw [uddEpAbort_eq h.belongs]
  by_cases hsent : (d.onEp .inn Endpoint.abortJob).inn.cswUnsent
  · rw [cancel_unsent hsent]
    rintro (hdue' | hunsent)
    · exact hdue ((settles_release .inn d.inn.abortJob).csw hdue')
    · exact absurd hunsent.1 nofun
  · have hcancel : Settles .inn d.inn.abortJob ((d.onEp .inn Endpoint.abortJob).cancel .inn).inn :=
      @settles_cancel .inn (d.onEp .inn Endpoint.abortJob) (habort.typed h)
    exact fun hstatus => (hcancel.status hstatus).elim hdue hsent

/-! ## The reception of a CBW -/

/-- The reception of a CBW may start when no status phase is open; on a disabled endpoint it does
not. -/
theorem FreeTurn.cbwWait {d : Dev} (h : FreeTurn d) (hreq : d.msc.bTransReq = false)
    (hover : d.out.configured = true → ¬ d.inn.status) : FreeTurn (udiMscCbwWait uddCall d) := by
  have hkeeps := keeps_cbwWait d.out
  rw [udiMscCbwWait_eq]
  refine ⟨h.inn, hkeeps.typed h.out, ?_, ?_, ?_⟩
  · intro e
    cases e with
    | inn => exact h.block .inn
    | out => exact fun hb => h.block .out (hkeeps.block hb)
  · exact fun hcbw => hover (hkeeps.configured.symm.trans hcbw.1)
  · exact fun hreq' => absurd (hreq.symm.trans hreq') nofun

/-- What of the invalid flag and the request a reset clears. -/
def resetRequest (d : Dev) : Dev :=
  { d with msc := { d.msc with bCbwInvalid := false, bTransReq := false } }

theorem FreeTurn.resetRequest {d : Dev} (h : FreeTurn d) : FreeTurn (resetRequest d) :=
  h.of_eq rfl rfl nofun fun hreq => ⟨hreq.direction, hreq.length⟩

/-- **The Bulk-Only Reset**, when no CSW waits for the end of a halt. -/
theorem freeTurn_udiMscBulkReset {d : Dev} (h : FreeTurn d)
    (hsend : d.out.configured = true → d.inn.job.call ≠ some .cswSend) :
    FreeTurn (udiMscBulkReset uddCall d) := by
  have hout : Ends .out (Firmware.resetRequest d) (uddEpAbort uddCall .out (Firmware.resetRequest d)) :=
    ends_uddEpAbort h.out
  have hfree := (h.resetRequest).uddEpAbort .out
  have hinn : (uddEpAbort uddCall .out (Firmware.resetRequest d)).inn = d.inn := hout.inn rfl
  refine (hfree.uddEpAbort .inn).cbwWait ?_ ?_
  · rw [transReq_of_rest (rest_uddEpAbort rest_uddCall _ _),
      transReq_of_rest (rest_uddEpAbort rest_uddCall _ _)]
    rfl
  · intro hconf
    have hlink := link_of_rest (rest_uddEpAbort rest_uddCall .inn
      (uddEpAbort uddCall .out (Firmware.resetRequest d)))
    have hkept : (uddEpAbort uddCall .inn
        (uddEpAbort uddCall .out (Firmware.resetRequest d))).out.configured =
          (uddEpAbort uddCall .out (Firmware.resetRequest d)).out.configured :=
      configured_of_link hlink .out
    have hconf' : d.out.configured = true :=
      hout.own.configured.symm.trans (hkept.symm.trans hconf)
    exact over_uddEpAbort hfree.inn (by rw [hinn]; exact hsend hconf')

/-! ## Disabling and enabling the interface -/

/-- What an endpoint holds fits to it. -/
def Dev.Typed (d : Dev) : Prop :=
  ∀ e, (d.ep e).Typed e

theorem FreeTurn.typed {d : Dev} (h : FreeTurn d) : d.Typed := by
  intro e
  cases e with
  | inn => exact h.inn
  | out => exact h.out

theorem typed_off {e : Ep} {x : Endpoint} (h : x.Typed e) : x.off.Typed e :=
  ⟨h.belongs, nofun, fun hb => absurd hb.1 nofun⟩

theorem status_off {x : Endpoint} : x.off.status → x.status := by
  rintro ((⟨hrun, -⟩ | hcall) | hunsent)
  · exact absurd hrun nofun
  · exact .inl (.inr hcall)
  · exact .inr hunsent

theorem FreeTurn.off {d : Dev} (h : FreeTurn d) (e : Ep) : FreeTurn (d.onEp e Endpoint.off) := by
  cases e with
  | inn =>
      refine ⟨typed_off h.inn, h.out, ?_, fun hcbw hs => h.command hcbw (status_off hs), ?_⟩
      · intro e
        cases e with
        | inn => exact fun hb => absurd hb.1 nofun
        | out => exact h.block .out
      · intro hreq
        obtain ⟨hcbw, hover, hrequests⟩ := h.pending hreq
        exact ⟨hcbw, fun hs => hover (status_off hs), hrequests⟩
  | out =>
      refine ⟨h.inn, typed_off h.out, ?_, fun hcbw => absurd hcbw.1 nofun, ?_⟩
      · intro e
        cases e with
        | inn => exact h.block .inn
        | out => exact fun hb => absurd hb.1 nofun
      · intro hreq
        obtain ⟨-, hover, hrequests⟩ := h.pending hreq
        exact ⟨fun hcbw => absurd hcbw.1 nofun, hover, hrequests⟩

/-- Aborting a job starts nothing on the other endpoint but the reception of a CBW. -/
theorem Dev.Typed.uddEpAbort {d : Dev} (h : d.Typed) (e : Ep) :
    (Firmware.uddEpAbort uddCall e d).Typed := by
  have hends := ends_uddEpAbort (h e)
  intro e'
  cases e with
  | out =>
      cases e' with
      | out => exact hends.own.typed (h .out)
      | inn =>
          rw [Dev.ep_inn, hends.inn rfl]
          exact h .inn
  | inn =>
      cases e' with
      | inn => exact hends.own.typed (h .inn)
      | out =>
          rw [uddEpAbort_eq (h .inn).belongs]
          have habort : (d.onEp .inn Endpoint.abortJob).inn.Typed .inn :=
            (settles_abortJob .inn d.inn).typed (h .inn)
          by_cases hsent : (d.onEp .inn Endpoint.abortJob).inn.cswUnsent
          · rw [cancel_unsent hsent]
            exact (keeps_cbwWait d.out).typed (h .out)
          · rw [Dev.ep_out, cancel_inn_out habort hsent]
            exact h .out

theorem Dev.Typed.uddEpFree {d : Dev} (h : d.Typed) (e : Ep) :
    (Firmware.uddEpFree uddCall e d).Typed := by
  intro e'
  change (((Firmware.uddEpAbort uddCall e d).onEp e Endpoint.off).ep e').Typed e'
  rcases Dev.ep_onEp_cases e Endpoint.off (Firmware.uddEpAbort uddCall e d) e' with ⟨hep, rfl⟩ | hep
  · rw [hep]
    exact typed_off (h.uddEpAbort e' e')
  · rw [hep]
    exact h.uddEpAbort e e'

/-- The interface with its endpoints freed. -/
def ifaceFreed (d : Dev) : Dev :=
  udiMscDisable (uddEpFree uddCall .out (uddEpFree uddCall .inn d))

theorem udcIfaceDisable_found {d : Dev} (hconf : d.bus.udcNumConfiguration ≠ 0) :
    udcIfaceDisable uddCall 0 d = (true, ifaceFreed d) := by
  rw [udcIfaceDisable, udcUpdateIfaceDesc_zero hconf, decide_eq_true rfl, if_pos rfl]
  rfl

theorem freeTurn_ifaceFreed {d : Dev} (h : FreeTurn d) : FreeTurn (ifaceFreed d) := by
  have hinn : FreeTurn (uddEpFree uddCall .inn d) := (h.uddEpAbort .inn).off .inn
  have hout : FreeTurn (uddEpFree uddCall .out (uddEpFree uddCall .inn d)) :=
    (hinn.uddEpAbort .out).off .out
  exact hout.of_eq rfl rfl nofun fun hreq => ⟨hreq.direction, hreq.length⟩

theorem typed_ifaceFreed {d : Dev} (h : d.Typed) : (ifaceFreed d).Typed :=
  (h.uddEpFree .inn).uddEpFree .out

/-- The freed IN endpoint is the aborted one. -/
theorem ifaceFreed_inn {d : Dev} (h : d.Typed) :
    (ifaceFreed d).inn = (uddEpAbort uddCall .inn d).inn.off :=
  (ends_uddEpAbort (h.uddEpFree .inn .out)).inn rfl

theorem over_ifaceFreed {d : Dev} (h : d.Typed) (hsend : d.inn.job.call ≠ some .cswSend) :
    ¬ (ifaceFreed d).inn.status := by
  rw [ifaceFreed_inn h]
  exact fun hstatus => over_uddEpAbort (h .inn) hsend (status_off hstatus)

theorem ifaceFreed_configured {d : Dev} (h : d.Typed) :
    (ifaceFreed d).inn.configured = false ∧ (ifaceFreed d).out.configured = false := by
  rw [ifaceFreed_inn h]
  exact ⟨rfl, rfl⟩

/-- The interface was enabled, and no status phase was left open. -/
def Renewed (desc : LunDesc) (d' : Dev) : Prop :=
  ∃ d : Dev, d.Typed ∧ ¬ d.inn.status ∧
    d' = udiMscEnable uddCall desc ((d.onEp .inn Endpoint.allocated).onEp .out Endpoint.allocated)

theorem status_allocated {x : Endpoint} : x.allocated.status → x.status := by
  rintro ((⟨hrun, -⟩ | hcall) | hunsent)
  · exact absurd hrun nofun
  · exact .inl (.inr hcall)
  · exact .inr hunsent

/-- **A renewed interface has nothing but the reception of a CBW.** -/
theorem Renewed.free {desc : LunDesc} {d' : Dev} (h : Renewed desc d') : FreeTurn d' := by
  obtain ⟨d, htyped, hover, rfl⟩ := h
  have hallocated {e : Ep} {x : Endpoint} (hx : x.Typed e) : x.allocated.Typed e :=
    ⟨hx.belongs, nofun, fun hb => absurd hb.1 nofun⟩
  have hover' : ¬ d.inn.allocated.status := fun hstatus => hover (status_allocated hstatus)
  have hreset : FreeTurn (udiMscEnableReset desc
      ((d.onEp .inn Endpoint.allocated).onEp .out Endpoint.allocated)) := by
    refine ⟨hallocated (htyped .inn), hallocated (htyped .out), ?_, fun _ => hover', nofun⟩
    intro e
    cases e with
    | inn => exact fun hb => absurd hb.1 nofun
    | out => exact fun hb => absurd hb.1 nofun
  exact hreset.cbwWait rfl fun _ => hover'

/-! ## Control requests -/

/-- The request starts no reception of a CBW beside an open status phase. -/
def SparesStatus (d : Dev) : SetupAction → Prop
  | .configuration n =>
      n ≠ 0 → d.inn.job.call ≠ some .cswSend
        ∧ (d.bus.udcNumConfiguration = 0 → ¬ d.inn.cswUnsent)
  | .interface settingNum => settingNum = 0 → d.inn.job.call ≠ some .cswSend
  | .bulkReset => d.out.configured = true → d.inn.job.call ≠ some .cswSend
  | .clearHalt e => e = .inn → d.inn.cswUnsent → d.inn.running = false
  | _ => True

theorem freeTurn_udcReset {d : Dev} (h : FreeTurn d) : FreeTurn (udcReset uddCall d) := by
  unfold udcReset
  dsimp only
  split_ifs with hconf
  · rw [udcIfaceDisable_found hconf]
    exact (freeTurn_ifaceFreed h).of_eq rfl rfl id id
  · exact h.of_eq rfl rfl id id

theorem typed_udcReset {d : Dev} (h : d.Typed) : (udcReset uddCall d).Typed := by
  unfold udcReset
  dsimp only
  split_ifs with hconf
  · rw [udcIfaceDisable_found hconf]
    exact typed_ifaceFreed h
  · exact h

/-- What enabling the interface after `udc_reset` finds. -/
theorem over_udcReset {d : Dev} (h : d.Typed) (hb : Bound d)
    (hsend : d.inn.job.call ≠ some .cswSend)
    (hsent : d.bus.udcNumConfiguration = 0 → ¬ d.inn.cswUnsent) :
    ¬ (udcReset uddCall d).inn.status := by
  unfold udcReset
  dsimp only
  split_ifs with hconf
  · rw [udcIfaceDisable_found hconf]
    exact over_ifaceFreed h hsend
  · have hzero : d.bus.udcNumConfiguration = 0 := not_not.mp hconf
    rintro ((⟨hrun, -⟩ | hcall) | hunsent)
    · exact hb.configuration ((running_iff d.inn).mp hrun).1 hzero
    · exact hsend hcall
    · exact hsent hzero hunsent

theorem renewed_setConfiguration (desc : LunDesc) {n : BitVec 8} {d : Dev} (h : d.Typed) (hb : Bound d)
    (hn : n ≠ 0) (hspares : SparesStatus d (.configuration n)) :
    Renewed desc (setConfiguration uddCall desc n d) := by
  obtain ⟨hsend, hsent⟩ := hspares hn
  obtain ⟨hinn, hout⟩ := resetEffect_unconfigured hb
  have hlink := link_of_core (core_udcReset rest_uddCall d)
  have hinn' : ((udcReset uddCall d).setNumConfiguration n).inn.configured = false :=
    (configured_of_link hlink .inn).trans hinn
  have hout' : ((udcReset uddCall d).setNumConfiguration n).out.configured = false :=
    (configured_of_link hlink .out).trans hout
  unfold setConfiguration
  dsimp only
  rw [if_neg hn, udcIfaceEnable_free desc 0 0 hinn' hout', udcUpdateIfaceDesc_zero hn, decide_eq_true rfl,
    if_pos rfl]
  exact ⟨(udcReset uddCall d).setNumConfiguration n, typed_udcReset h,
    over_udcReset h hb hsend hsent, rfl⟩

theorem setInterface_eq (desc : LunDesc) (settingNum : BitVec 8) {d : Dev} (h : d.Typed)
    (hconf : d.bus.udcNumConfiguration ≠ 0) :
    setInterface uddCall desc settingNum d =
      if settingNum = 0 then
        udiMscEnable uddCall desc
          (((ifaceFreed d).onEp .inn Endpoint.allocated).onEp .out Endpoint.allocated)
      else ifaceFreed d := by
  obtain ⟨hinn, hout⟩ := ifaceFreed_configured h
  have hbus : (ifaceFreed d).bus = d.bus := by
    have hcore := core_udcIfaceDisable rest_uddCall 0 d
    rw [udcIfaceDisable_found hconf] at hcore
    refine (bus_of_link (link_of_core hcore)).trans ?_
    split_ifs <;> rfl
  have hconf' : (ifaceFreed d).bus.udcNumConfiguration ≠ 0 := by
    rw [hbus]
    exact hconf
  rw [setInterface, udcIfaceDisable_found hconf, udcIfaceEnable_free desc 0 settingNum hinn hout,
    udcUpdateIfaceDesc_zero hconf']
  by_cases hn : settingNum = 0
  · rw [if_pos hn, decide_eq_true hn, if_pos rfl]
  · rw [if_neg hn, decide_eq_false hn, if_neg Bool.false_ne_true]

/-- **A request that enables the interface renews it.** -/
theorem renewed_action (desc : LunDesc) {action : SetupAction} {d : Dev} (h : d.Typed) (hb : Bound d)
    (hiface : ∀ n, action = .interface n → d.bus.udcNumConfiguration ≠ 0)
    (henables : action.enables = true) (hspares : SparesStatus d action) :
    Renewed desc (action.run uddCall desc d) := by
  cases action with
  | configuration n => exact renewed_setConfiguration desc h hb (bne_iff_ne.mp henables) hspares
  | interface settingNum =>
      have hn : settingNum = 0 := beq_iff_eq.mp henables
      refine ⟨ifaceFreed d, typed_ifaceFreed h, over_ifaceFreed h (hspares hn), ?_⟩
      exact (setInterface_eq desc settingNum h (hiface settingNum rfl)).trans (if_pos hn)
  | _ => exact absurd henables nofun

/-- **What a control request does to the turn.** -/
theorem freeTurn_setup (desc : LunDesc) {action : SetupAction} {d : Dev} (h : FreeTurn d)
    (hb : Bound d) (hiface : ∀ n, action = .interface n → d.bus.udcNumConfiguration ≠ 0)
    (hspares : SparesStatus d action) : FreeTurn (action.run uddCall desc d) := by
  cases henables : action.enables with
  | true => exact (renewed_action desc h.typed hb hiface henables hspares).free
  | false =>
      cases action with
      | none => exact h
      | address wValue => exact h.of_eq rfl rfl id id
      | configuration n =>
          have hn : n = 0 := (enables_configuration n).mp henables
          change FreeTurn (setConfiguration uddCall desc n d)
          unfold setConfiguration
          rw [if_pos hn]
          exact (freeTurn_udcReset h).of_eq rfl rfl id id
      | interface settingNum =>
          have hn : settingNum ≠ 0 := (enables_interface settingNum).mp henables
          change FreeTurn (setInterface uddCall desc settingNum d)
          rw [setInterface_eq desc settingNum h.typed (hiface settingNum rfl), if_neg hn]
          exact freeTurn_ifaceFreed h
      | clearHalt e => exact h.uddEpClearHalt hspares
      | setHalt e => exact (h.uddEpAbort e).uddEpSetHalt e
      | bulkReset => exact freeTurn_udiMscBulkReset h hspares

end Firmware
end SoundingSoil
