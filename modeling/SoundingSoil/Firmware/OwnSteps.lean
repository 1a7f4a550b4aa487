import SoundingSoil.Firmware.OwnTurn

/-!
# The main loop takes its turn and hands it on

One step of the main loop, at each position of a transfer.  As long as the interface is enabled the step
keeps the turn of the main loop, or hands it to the status phase: the CSW is being sent, or waits for the
end of a halt.

* `Live.move` / `Live.onIdle` — steps that change the position and the globals, and steps that change a
  job that is not running.
* `Live.memory` / `Live.runStep` / `Live.haltCall` — the blocks, `udd_ep_run`, and the halt that reports a
  residue.
* **`live_mainStep`** — every step of a transfer.
-/

namespace SoundingSoil
namespace Firmware

open Endpoint

/-- The turn after a step of a transfer, while the interface is enabled. -/
def LiveTurn (s : Sys) : Prop :=
  if s.pc.owner s.dev.msc then Live s.pc s.dev else FreeTurn s.dev

theorem LiveTurn.own {s : Sys} (howner : s.pc.owner s.dev.msc = true) (h : Live s.pc s.dev) : LiveTurn s := by
  rw [LiveTurn, if_pos howner]
  exact h

theorem LiveTurn.free {s : Sys} (howner : s.pc.owner s.dev.msc = false) (h : FreeTurn s.dev) :
    LiveTurn s := by
  rw [LiveTurn, if_neg (ne_true_of_eq_false howner)]
  exact h

/-! ## Kinds of steps -/

/-- The position and the globals change, the endpoints do not. -/
theorem Live.move {pc pc' : Pc} {d : Dev} {m : Msc} (h : Live pc d)
    (hsent : pc'.claims = false → ¬ d.inn.cswUnsent)
    (hflight : ∀ e, (d.ep e).block → pc.Flight d.msc e → pc'.Flight m e)
    (hreset : pc'.started = true → m.bResetTrans = false) (hstage : pc'.Stage { d with msc := m })
    (hanswered : pc'.Answered m) (hbudget : pc'.Budget m) : Live pc' { d with msc := m } := by
  have hep (e : Ep) : ({ d with msc := m } : Dev).ep e = d.ep e := by cases e <;> rfl
  refine ⟨?_, ?_, hsent, ?_, hreset, hstage, hanswered, hbudget⟩
  · intro e
    rw [hep]
    exact h.typed e
  · intro e
    rw [hep]
    exact h.due e
  · intro e
    rw [hep]
    exact fun hb => hflight e hb (h.flight e hb)

/-- Only the position changes. -/
theorem Live.goto {pc pc' : Pc} {d : Dev} (h : Live pc d)
    (hsent : pc'.claims = false → ¬ d.inn.cswUnsent)
    (hflight : ∀ e, (d.ep e).block → pc.Flight d.msc e → pc'.Flight d.msc e) (hpc : pc.started = true)
    (hstage : pc'.Stage d) (hanswered : pc'.Answered d.msc) (hbudget : pc'.Budget d.msc) :
    Live pc' d :=
  h.move hsent hflight (fun _ => h.reset hpc) hstage hanswered hbudget

/-- At this position no sector is in flight. -/
def Pc.quiet (pc : Pc) : Prop :=
  ∀ m e, ¬ pc.Flight m e

theorem Live.idle {pc : Pc} {d : Dev} (h : Live pc d) (hquiet : pc.quiet) (e : Ep) :
    (d.ep e).running = false := by
  refine Bool.eq_false_of_not_eq_true fun hrun => ?_
  exact hquiet _ _ (h.flight e (h.block_of_running hrun))

theorem not_block_of_idle {x : Endpoint} (h : x.running = false) : ¬ x.block :=
  fun hb => absurd (h.symm.trans hb.1) nofun

/-- What keeps an idle endpoint from having the turn. -/
theorem typed_of_idle {e : Ep} {x : Endpoint} (h : x.Belongs e) (hidle : x.running = false) :
    x.Typed e :=
  ⟨h, fun hrun => absurd (hidle.symm.trans hrun) nofun,
    fun hb => absurd hb (not_block_of_idle hidle)⟩

theorem not_due_of_idle {e : Ep} {x : Endpoint} (hidle : x.running = false)
    (hcall : x.job.call ≠ some .cswSend ∧ (x.configured = true → x.job.call ≠ some .cbwWait)) :
    ¬ x.due e := by
  cases e with
  | inn =>
      rintro (⟨hrun, -⟩ | hsend)
      · exact absurd (hidle.symm.trans hrun) nofun
      · exact hcall.1 hsend
  | out =>
      rintro ⟨hconf, hwait | ⟨harmed, -⟩⟩
      · exact hcall.2 hconf hwait
      · exact absurd (hidle.symm.trans ((running_iff x).mpr ⟨hconf, harmed⟩)) nofun

/-- The functions that the main loop registers. -/
theorem callback_req (r : RunFor) : r.req.callback ≠ .cswSend ∧ r.req.callback ≠ .cbwWait := by
  cases r <;> exact ⟨nofun, nofun⟩

theorem Live.call {pc : Pc} {d : Dev} (h : Live pc d) (e : Ep) :
    (d.ep e).job.call ≠ some .cswSend
      ∧ ((d.ep e).configured = true → (d.ep e).job.call ≠ some .cbwWait) := by
  cases e with
  | inn =>
      refine ⟨fun hsend => h.due .inn (.inr hsend), fun _ hwait => ?_⟩
      exact absurd ((h.typed .inn).belongs .cbwWait hwait) nofun
  | out =>
      refine ⟨fun hsend => ?_, fun hconf hwait => h.due .out ⟨hconf, .inl hwait⟩⟩
      exact absurd ((h.typed .out).belongs .cswSend hsend) nofun

/-- A job that does not run is changed, and waits for no halt to start a transfer. -/
theorem Live.onIdle {pc pc' : Pc} {e : Ep} {f : Endpoint → Endpoint} {d : Dev} (h : Live pc d)
    (hquiet : pc.quiet) (hpc : pc.started = true)
    (hconf : (f (d.ep e)).configured = (d.ep e).configured)
    (harmed : (f (d.ep e)).armed = true → (d.ep e).armed = true)
    (hcall : (f (d.ep e)).job.call = (d.ep e).job.call
      ∨ ∃ cb, cb.belongs e = true ∧ (cb ≠ .cswSend ∧ cb ≠ .cbwWait)
        ∧ (f (d.ep e)).job.call = some cb)
    (hsent : pc'.claims = false → ¬ (d.onEp e f).inn.cswUnsent) (hstage : pc'.Stage (d.onEp e f))
    (hanswered : pc'.Answered d.msc) (hbudget : pc'.Budget d.msc) : Live pc' (d.onEp e f) := by
  -- The change arms nothing, so the job is as idle as before and owes no call.
  have hidle : (f (d.ep e)).running = false := by
    refine Bool.eq_false_of_not_eq_true fun hrun => ?_
    obtain ⟨hon, harm⟩ := (running_iff _).mp hrun
    have hwas : (d.ep e).running = true :=
      (running_iff _).mpr ⟨hconf.symm.trans hon, harmed harm⟩
    exact absurd ((h.idle hquiet e).symm.trans hwas) nofun
  have hbelongs : (f (d.ep e)).Belongs e := by
    rcases hcall with hcall | ⟨cb, hcb, -, hcall⟩
    · exact fun cb hcb => (h.typed e).belongs cb (hcall.symm.trans hcb)
    · exact belongs_some hcb hcall
  have hdue : ¬ (f (d.ep e)).due e := by
    refine not_due_of_idle hidle ?_
    rcases hcall with hcall | ⟨cb, -, hcb, hcall⟩
    · rw [hconf, hcall]
      exact h.call e
    · rw [hcall]
      exact ⟨fun hsome => hcb.1 (Option.some.inj hsome),
        fun _ hsome => hcb.2 (Option.some.inj hsome)⟩
  refine ⟨?_, ?_, hsent, ?_, ?_, hstage, ?_, ?_⟩
  · intro e'
    rcases Dev.ep_onEp_cases e f d e' with ⟨hep, rfl⟩ | hep
    · rw [hep]
      exact typed_of_idle hbelongs hidle
    · rw [hep]
      exact h.typed e'
  · intro e'
    rcases Dev.ep_onEp_cases e f d e' with ⟨hep, rfl⟩ | hep
    · rw [hep]
      exact hdue
    · rw [hep]
      exact h.due e'
  · intro e' hb
    rcases Dev.ep_onEp_cases e f d e' with ⟨hep, rfl⟩ | hep
    · rw [hep] at hb
      exact absurd hb (not_block_of_idle hidle)
    · rw [hep] at hb
      exact absurd hb (not_block_of_idle (h.idle hquiet e'))
  · rw [Dev.msc_onEp]
    exact fun _ => h.reset hpc
  · rw [Dev.msc_onEp]
    exact hanswered
  · rw [Dev.msc_onEp]
    exact hbudget

/-- The turn is left to nobody. -/
theorem Live.free {pc : Pc} {d : Dev} (h : Live pc d) (hquiet : pc.quiet)
    (hreq : d.msc.bTransReq = false) : FreeTurn d :=
  freeTurn_of_status (h.typed .inn) (h.typed .out)
    (fun e => not_block_of_idle (h.idle hquiet e)) (h.due .out) hreq

/-- The turn is handed to the status phase. -/
theorem Live.handed {pc : Pc} {f : Endpoint → Endpoint} {d : Dev} (h : Live pc d)
    (hquiet : pc.quiet) (hreq : d.msc.bTransReq = false) (htyped : (f d.inn).Typed .inn)
    (hblock : ¬ (f d.inn).block) : FreeTurn (d.onEp .inn f) := by
  refine freeTurn_of_status htyped (h.typed .out) ?_ (h.due .out) hreq
  intro e
  cases e with
  | inn => exact hblock
  | out => exact not_block_of_idle (h.idle hquiet .out)

/-! ## Inside `memory_2_usb` and `usb_2_memory` -/

/-- Where a step inside a transfer leads. -/
theorem next_cases (answer : SdMmcErr) (m : Msc) (p : MemoryPc) :
    (∃ q, p.next answer m = .memory q)
      ∨ (∃ t, p = .ackClear t ∧ p.next answer m = .run .halted (.block t))
      ∨ ∃ status, p.next answer m = .resetTest status := by
  cases p with
  | ackClear t => exact .inr (.inl ⟨t, rfl, rfl⟩)
  | exit status => exact .inr (.inr ⟨status, rfl⟩)
  | runDenied t | residue t | blockFailed t => exact .inl ⟨_, rfl⟩
  | _ =>
      refine .inl ?_
      unfold MemoryPc.next
      dsimp only
      split_ifs <;> exact ⟨_, rfl⟩

theorem flight_next (answer : SdMmcErr) {p : MemoryPc} {m : Msc} {e : Ep}
    (h : (Pc.memory p).Flight m e) : (p.next answer m).Flight (p.after m) e := by
  cases p with
  | ackWait t =>
      unfold MemoryPc.next
      dsimp only
      split_ifs with hack
      · exact ⟨h.1, h.2 hack⟩
      · exact h
  | abortTest t =>
      unfold MemoryPc.next
      dsimp only
      rw [if_pos h.2]
      exact h.1
  | blockFailed t | exit status => exact h
  | _ => exact absurd h id

theorem Live.memory (answer : SdMmcErr) {p : MemoryPc} {s : Sys} (hpc : s.pc = .memory p)
    (h : Live s.pc s.dev) : LiveTurn (mainStep answer s) := by
  have hbudget : p.Budget s.dev.msc := by
    have hbudget := h.budget
    rw [hpc] at hbudget
    exact hbudget
  rw [hpc] at h
  rw [mainStep_memory answer hpc]
  have hreset : (p.after s.dev.msc).bResetTrans = false := by
    have hkept := h.reset rfl
    cases p <;> exact hkept
  have hnext := next_cases answer s.dev.msc p
  refine LiveTurn.own ?_ (h.move ?_ ?_ (fun _ => hreset) ?_ ?_ (budget_memory answer hbudget))
  · dsimp only
    rcases hnext with ⟨q, hq⟩ | ⟨t, -, hq⟩ | ⟨status, hq⟩
    · rw [hq]
      rfl
    · rw [hq]
      rfl
    · rw [hq]
      exact congrArg not hreset
  · exact fun _ => h.sent rfl
  · exact fun e _ hflight => flight_next answer hflight
  · rcases hnext with ⟨q, hq⟩ | ⟨t, -, hq⟩ | ⟨status, hq⟩ <;> dsimp only <;> rw [hq] <;> trivial
  · rcases hnext with ⟨q, hq⟩ | ⟨t, hclear, hq⟩ | ⟨status, hq⟩
    · dsimp only
      rw [hq]
      trivial
    · -- The acknowledgement was just cleared.
      dsimp only
      rw [hq, hclear]
      exact nofun
    · dsimp only
      rw [hq]
      trivial

/-! ## `udd_ep_run` -/

theorem run_budget {stage stage' : RunPc} {r : RunFor} {m : Msc} (h : (Pc.run stage r).Budget m) :
    (Pc.run stage' r).Budget m := by
  cases r <;> exact h

theorem run_answered {stage stage' : RunPc} {r : RunFor} {m : Msc}
    (h : (Pc.run stage r).Answered m) : (Pc.run stage' r).Answered m := by
  cases r <;> exact h

theorem run_quiet (stage : RunPc) (r : RunFor) : (Pc.run stage r).quiet :=
  fun _ _ => id

/-- The transfer cannot start. -/
theorem Live.denied {stage : RunPc} {r : RunFor} {s : Sys} (h : Live (.run stage r) s.dev)
    (hsent : ¬ s.dev.inn.cswUnsent) : LiveTurn (s.goto r.denied) := by
  have hbudget := h.budget
  cases r with
  | block t =>
      exact LiveTurn.own rfl (h.goto (fun _ => hsent) (fun _ _ hflight => absurd hflight id)
        rfl trivial trivial hbudget)
  | csw =>
      exact LiveTurn.own rfl (h.goto nofun (fun _ _ hflight => absurd hflight id)
        rfl trivial trivial trivial)

/-- The job of another endpoint than IN does not hold a CSW. -/
theorem inn_onEp {e : Ep} (h : (e == .inn) = false) (f : Endpoint → Endpoint) (d : Dev) :
    (d.onEp e f).inn = d.inn := by
  cases e with
  | inn => exact absurd h nofun
  | out => rfl

/-- A store into the claimed job. -/
theorem Live.store {stage stage' : RunPc} {r : RunFor} {f : Endpoint → Endpoint} {d : Dev}
    (h : Live (.run stage r) d) (hconf : (f (d.ep r.req.ep)).configured = (d.ep r.req.ep).configured)
    (harmed : (f (d.ep r.req.ep)).armed = true → (d.ep r.req.ep).armed = true)
    (hcall : (f (d.ep r.req.ep)).job.call = (d.ep r.req.ep).job.call
      ∨ (f (d.ep r.req.ep)).job.call = some r.req.callback)
    (hclaims : (Pc.run stage' r).claims = (r.req.ep == .inn))
    (hstage : (Pc.run stage' r).Stage (d.onEp r.req.ep f))
    (hclaimed : (Pc.run stage r).claims = false ∨ (Pc.run stage r).claims = (r.req.ep == .inn)) :
    Live (.run stage' r) (d.onEp r.req.ep f) := by
  refine h.onIdle (run_quiet stage r) rfl hconf harmed ?_ ?_ hstage
    (run_answered h.answered) (run_budget h.budget)
  · exact hcall.imp_right fun hcall => ⟨_, belongs_req r, callback_req r, hcall⟩
  · intro hother
    rw [hclaims] at hother
    rw [inn_onEp hother]
    exact h.sent (hclaimed.elim id fun hclaimed => hclaimed.trans hother)

/-- The sector is started. -/
theorem Live.startBlock {t : Transfer} {d : Dev} (h : Live (.run .start (.block t)) d)
    (hconf : (d.ep (blockReq t.read).ep).configured = true) :
    Live (.memory (.ackWait t))
      (d.onEp (blockReq t.read).ep (Endpoint.start (blockReq t.read).ep)) := by
  generalize he : (blockReq t.read).ep = e at *
  have hcall : (start e (d.ep e)).job.call = some .transAck := by
    rw [call_start, ← he]
    exact h.stage.1
  have hbuf : (start e (d.ep e)).job.buf = .sector := by
    rw [buf_start, ← he]
    exact h.stage.2
  have hbelongs : (start e (d.ep e)).Belongs e := belongs_some rfl hcall
  have htyped : (start e (d.ep e)).Typed e := by
    refine ⟨hbelongs, fun _ => ⟨.transAck, hcall, nofun, nofun⟩, fun _ => ?_⟩
    rw [hbuf]
    exact nofun
  have hdue : ¬ (start e (d.ep e)).due e := by
    cases e with
    | inn =>
        change ¬ (start .inn (d.ep .inn)).cswDue
        unfold cswDue
        rw [hcall]
        simp
    | out =>
        change ¬ (start .out (d.ep .out)).cbwDue
        unfold cbwDue
        rw [hcall]
        simp
  have hother := Dev.ep_onEp_cases e (Endpoint.start e) d
  -- The blocks that are owed are on this endpoint, so the residue is counted there.
  obtain ⟨htransfers, howes⟩ := h.budget
  have hresidue : d.msc.residueEp = some e := by
    rw [Transfer.blocks_of_transfers htransfers] at howes
    rw [howes.residueEp, he]
  refine ⟨?_, ?_, ?_, ?_, ?_, trivial, trivial, ?_⟩
  · intro e'
    rcases hother e' with ⟨hep, rfl⟩ | hep
    · rw [hep]
      exact htyped
    · rw [hep]
      exact h.typed e'
  · intro e'
    rcases hother e' with ⟨hep, rfl⟩ | hep
    · rw [hep]
      exact hdue
    · rw [hep]
      exact h.due e'
  · -- No CSW is on its way: either the IN endpoint has the sector, or it is as before.
    rintro - hsent
    rcases hother .inn with ⟨hep, -⟩ | hep
    · have hcsw : (start e (d.ep e)).job.call = some .cswSent := by
        rw [← hep]
        exact hsent.2
      exact absurd (hcall.symm.trans hcsw) nofun
    · have hinn : (d.onEp e (Endpoint.start e)).inn = d.inn := hep
      rw [hinn] at hsent
      by_cases hclaims : (e == .inn) = true
      · obtain rfl := beq_iff_eq.mp hclaims
        have hsame : d.inn.job.call = some .transAck := by
          have hstart : (start .inn d.inn).job.call = some .transAck := hcall
          rwa [call_start] at hstart
        exact absurd (hsame.symm.trans hsent.2) nofun
      · refine h.sent ?_ hsent
        change ((blockReq t.read).ep == .inn) = false
        rw [he]
        exact Bool.eq_false_of_not_eq_true hclaims
  · intro e' hb
    rw [Dev.msc_onEp]
    rcases hother e' with ⟨hep, rfl⟩ | hep
    · exact ⟨hresidue, h.answered⟩
    · rw [hep] at hb
      exact absurd hb (not_block_of_idle (h.idle (run_quiet .start _) e'))
  · rw [Dev.msc_onEp]
    exact fun _ => h.reset rfl
  · rw [Dev.msc_onEp]
    exact ⟨htransfers, howes⟩

/-- The CSW is started. -/
theorem Live.startCsw {d : Dev} (h : Live (.run .start .csw) d) (hreq : d.msc.bTransReq = false) :
    FreeTurn (d.onEp .inn (Endpoint.start .inn)) := by
  have hcall : (start .inn d.inn).job.call = some .cswSent := by
    rw [call_start]
    exact h.stage.1
  have hblock : ¬ (start .inn d.inn).block := fun hb => absurd (hcall.symm.trans hb.2) nofun
  refine h.handed (run_quiet .start .csw) hreq ⟨belongs_some rfl hcall, ?_, ?_⟩ hblock
  · exact fun _ => ⟨.cswSent, hcall, nofun, nofun⟩
  · exact fun hb => absurd hb hblock

theorem Live.runStep {stage : RunPc} {r : RunFor} {s : Sys} (hpc : s.pc = .run stage r)
    (h : Live s.pc s.dev) (hconf : (s.dev.ep r.req.ep).configured = true)
    (hreq : s.dev.msc.bTransReq = false) : LiveTurn (runStep stage r s) := by
  rw [hpc] at h
  -- One case for each access of `udd_ep_run`: an interrupt can come between any two.
  cases stage with
  | halted =>
      unfold Firmware.runStep
      dsimp only
      split_ifs
      · exact h.denied (h.sent rfl)
      · exact LiveTurn.own rfl (h.goto (fun _ => h.sent rfl) (fun _ _ hflight => hflight)
          rfl trivial (run_answered h.answered) (run_budget h.budget))
  | claim =>
      by_cases hbusy : (s.dev.ep r.req.ep).job.busy = true
      · have hstep : Firmware.runStep .claim r s = s.goto r.denied := by
          simp only [Firmware.runStep, uddEpRunClaim, if_pos hbusy]
          rfl
        rw [hstep]
        exact h.denied (h.sent rfl)
      · have hstep : Firmware.runStep .claim r s =
            (s.onDev (Dev.onJob r.req.ep fun j => { j with busy := true })).goto (.run .buffer r) := by
          simp only [Firmware.runStep, uddEpRunClaim, if_neg hbusy]
          rfl
        have hlive : Live (.run .buffer r)
            (s.dev.onJob r.req.ep fun j => { j with busy := true }) := by
          unfold Dev.onJob
          refine h.store ?_ ?_ ?_ rfl trivial (.inl rfl)
          · rfl
          · exact id
          · exact .inl rfl
        rw [hstep]
        exact LiveTurn.own rfl hlive
  | buffer =>
      have hlive : Live (.run .callback r) (uddEpRunBuffer r.req s.dev) := by
        unfold uddEpRunBuffer Dev.onJob
        refine h.store ?_ ?_ ?_ rfl ?_ (.inr rfl)
        · rfl
        · exact id
        · exact .inl rfl
        · simp only [Pc.Stage, Dev.ep_onEp]
      exact LiveTurn.own rfl hlive
  | callback =>
      have hlive : Live (.run .flags r) (uddEpRunCallback r.req s.dev) := by
        unfold uddEpRunCallback Dev.onJob
        refine h.store ?_ ?_ ?_ rfl ?_ (.inr rfl)
        · rfl
        · exact id
        · exact .inr rfl
        · simp only [Pc.Stage, Dev.ep_onEp]
          exact ⟨trivial, h.stage⟩
      exact LiveTurn.own rfl hlive
  | flags =>
      have hlive : Live (.run .start r) (uddEpRunFlags r.req s.dev) := by
        unfold uddEpRunFlags Dev.onJob
        refine h.store ?_ ?_ ?_ rfl ?_ (.inr rfl)
        · rfl
        · exact id
        · exact .inl rfl
        · simp only [Pc.Stage, Dev.ep_onEp]
          exact h.stage
      exact LiveTurn.own rfl hlive
  | start =>
      -- A sector stays with the main loop, the CSW is handed to the interrupts.
      unfold Firmware.runStep
      dsimp only
      rw [uddEpRunStart_eq, hconf]
      cases r with
      | block t => exact LiveTurn.own rfl (h.startBlock hconf)
      | csw => exact LiveTurn.free rfl (h.startCsw hreq)

/-! ## The CSW -/

/-- A sector that was given up is stopped, and its endpoint stalled. -/
theorem Live.haltSet {e : Ep} {d : Dev} (h : Live (.haltSet e) d) :
    Live (.haltAbort e) (d.onEp e fun x => { x with halted := true }) := by
  have heases : Eases d (d.onEp e fun x => { x with halted := true }) :=
    Eases.onEp ⟨rfl, id, rfl, rfl, id⟩
  exact (h.eases heases).goto (fun _ => (h.eases heases).sent rfl) (fun _ _ hflight => hflight)
    rfl trivial trivial trivial

theorem Live.haltAbort {e : Ep} {d : Dev} (h : Live (.haltAbort e) d) :
    Live (.haltBusy e) (d.onEp e Endpoint.abortJob) := by
  have heases : Eases d (d.onEp e Endpoint.abortJob) :=
    Eases.onEp ⟨rfl, nofun, rfl, rfl, id⟩
  refine (h.eases heases).goto (fun _ => (h.eases heases).sent rfl) ?_ rfl trivial
    trivial trivial
  intro e' hb hflight
  obtain rfl : e' = e := hflight
  rw [Dev.ep_onEp] at hb
  exact absurd hb (not_block_of_idle (not_running rfl))

theorem Live.haltBusy {e : Ep} {d : Dev} (h : Live (.haltBusy e) d)
    (hbusy : (d.ep e).job.busy = true) :
    Live (.haltCall e) (d.onEp e Endpoint.release) := by
  have hcall : (d.ep e).job.call ≠ some .cswSent := by
    intro hsent
    cases e with
    | inn => exact h.sent rfl ⟨hbusy, hsent⟩
    | out => exact absurd ((h.typed .out).belongs .cswSent hsent) nofun
  have heases : Eases d (d.onEp e Endpoint.release) :=
    Eases.onEp ⟨rfl, id, rfl, rfl, nofun⟩
  refine (h.eases heases).goto (fun _ => (h.eases heases).sent rfl)
    (fun _ _ hflight => absurd hflight id) rfl ?_ trivial trivial
  change ((d.onEp e Endpoint.release).ep e).job.busy = false
    ∧ ((d.onEp e Endpoint.release).ep e).job.call ≠ some .cswSent
  rw [Dev.ep_onEp]
  exact ⟨rfl, hcall⟩

/-- The function of the job that was stopped. -/
theorem Live.haltCall {e : Ep} {d : Dev} (h : Live (.haltCall e) d)
    (hconf : (d.ep e).configured = true) :
    Live .cswTag (callJob uddCall d (d.ep e).job.call) := by
  obtain ⟨hidle, hsent⟩ := h.stage
  have hbelongs := (h.typed e).belongs
  have hquiet : (Pc.haltCall e).quiet := fun _ _ => id
  have hstay : Live .cswTag d :=
    h.goto (fun _ => h.sent rfl) (fun _ _ hflight => absurd hflight id) rfl trivial
      trivial trivial
  -- A function that stalls its endpoint again registers itself.
  have hstall (cb : Callback) (hcb : cb.belongs e = true)
      (hinvalid : cb = .cbwInvalid ∨ cb = .cswInvalid) :
      Live .cswTag (d.onEp e (Endpoint.stall cb)) := by
    refine h.onIdle hquiet rfl rfl nofun (.inr ⟨cb, hcb, ?_, rfl⟩) ?_ trivial trivial
      trivial
    · rcases hinvalid with rfl | rfl <;> exact ⟨nofun, nofun⟩
    · intro _ hunsent
      cases e with
      | inn =>
          have hcall : some cb = some .cswSent := hunsent.2
          rcases hinvalid with rfl | rfl <;> exact absurd hcall nofun
      | out => exact h.sent rfl hunsent
  rw [callJob_eq hbelongs hidle]
  cases hcall : (d.ep e).job.call with
  | none => exact hstay
  | some cb =>
      have hcb := hbelongs cb hcall
      cases cb with
      | cbwReceived | dataSent => exact hstay
      | cswSent => exact absurd hcall hsent
      | cbwWait => exact absurd hcall ((h.call e).2 hconf)
      | cswSend => exact absurd hcall (h.call e).1
      | transAck =>
          exact h.move (fun _ => h.sent rfl) (fun _ _ hflight => absurd hflight id)
            (fun _ => h.reset rfl) trivial trivial trivial
      | cbwInvalid =>
          obtain rfl := ep_of_belongs_out hcb (.inr (.inr rfl))
          unfold settleJob settle
          dsimp only
          split_ifs
          · exact hstall .cbwInvalid rfl (.inl rfl)
          · exact hstay
      | cswInvalid =>
          obtain rfl := ep_of_belongs_inn hcb (.inr (.inr (.inr rfl)))
          unfold settleJob settle
          dsimp only
          split_ifs
          · exact hstall .cswInvalid rfl (.inr rfl)
          · exact hstay

/-- A store of the status or of the sense data. -/
theorem Live.sense {stage : SensePc} {status : CtrlStatus} {d : Dev} (h : Live (.sense stage status) d) :
    Live (stage.next status) { d with msc := stage.store status d.msc } := by
  have hresidue : (stage.store status d.msc).residueEp = d.msc.residueEp := by
    cases stage <;> rfl
  rcases next_sense stage status with ⟨stage', hpc⟩ | hpc <;> rw [hpc] <;>
    refine h.move (fun _ => h.sent rfl) (fun e _ hflight => hresidue.trans hflight)
      (fun _ => h.reset rfl) trivial trivial trivial

theorem owner_next_sense (stage : SensePc) (status : CtrlStatus) (m : Msc) :
    (stage.next status).owner m = true := by
  rcases next_sense stage status with ⟨stage', hpc⟩ | hpc <;> rw [hpc] <;> rfl

/-! ## Steps of a transfer -/

/-- **Every step of a transfer keeps its turn or hands it on.** -/
theorem live_mainStep (answer : SdMmcErr) {s : Sys} (h : Live s.pc s.dev)
    (howner : s.pc.owner s.dev.msc = true) (hconf : ∀ e, (s.dev.ep e).configured = true)
    (hreq : s.pc ≠ .clearReq → s.dev.msc.bTransReq = false) : LiveTurn (mainStep answer s) := by
  cases hpc : s.pc with
  | memory p => exact h.memory answer hpc
  | run stage r =>
      simp only [mainStep, hpc]
      exact h.runStep hpc (hconf _) (hreq fun h => Pc.noConfusion (hpc.symm.trans h))
  -- Outside of a transfer the main loop owns nothing.
  | loop | testReq | resetAck | irqDisable | chooseMode | setMode mode | irqEnable | dsb | wfi
  | asleep =>
      rw [hpc] at howner
      exact absurd howner Bool.noConfusion
  | clearReq =>
      rw [hpc] at h
      simp only [mainStep, hpc]
      exact LiveTurn.own rfl (h.move (fun _ => h.sent rfl) (fun _ _ hflight => absurd hflight id)
        (fun h => Bool.noConfusion h) trivial trivial (Msc.Owes.of_eq h.budget rfl rfl))
  | clearReset =>
      rw [hpc] at h
      simp only [mainStep, hpc]
      exact LiveTurn.own rfl (h.move (fun _ => h.sent rfl) (fun _ _ hflight => absurd hflight id)
        (fun _ => rfl) trivial trivial (Msc.Owes.of_eq h.budget rfl rfl))
  | readDirection =>
      rw [hpc] at h
      simp only [mainStep, hpc]
      exact LiveTurn.own rfl (h.goto (fun _ => h.sent rfl) (fun _ _ hflight => absurd hflight id)
        rfl trivial trivial h.budget)
  | readArguments read =>
      rw [hpc] at h
      simp only [mainStep, hpc]
      exact LiveTurn.own rfl (h.goto (fun _ => h.sent rfl) (fun _ _ hflight => absurd hflight id)
        rfl trivial trivial h.budget)
  | resetTest status =>
      rw [hpc] at h
      simp only [mainStep, hpc]
      rw [h.reset rfl, if_neg Bool.false_ne_true]
      exact LiveTurn.own rfl (h.goto (fun _ => h.sent rfl) (fun _ _ hflight => hflight)
        rfl trivial trivial trivial)
  | sense stage status =>
      rw [hpc] at h
      simp only [mainStep, hpc]
      exact LiveTurn.own (owner_next_sense stage status _) h.sense
  | cswResidue =>
      rw [hpc] at h
      simp only [mainStep, hpc]
      cases hresidue : s.dev.msc.residueEp with
      | some e' =>
          refine LiveTurn.own rfl (h.goto (fun _ => h.sent rfl) (fun e _ hflight => ?_)
            rfl trivial trivial trivial)
          exact Option.some.inj (hflight.symm.trans hresidue)
      | none =>
          refine LiveTurn.own rfl (h.goto (fun _ => h.sent rfl) (fun e _ hflight => ?_)
            rfl trivial trivial trivial)
          exact absurd (hflight.symm.trans hresidue) (Option.some_ne_none e)
  | haltSet e =>
      rw [hpc] at h
      simp only [mainStep, hpc]
      exact LiveTurn.own rfl h.haltSet
  | haltAbort e =>
      rw [hpc] at h
      simp only [mainStep, hpc]
      exact LiveTurn.own rfl h.haltAbort
  | haltBusy e =>
      rw [hpc] at h
      simp only [mainStep, hpc]
      split_ifs with hbusy
      · exact LiveTurn.own rfl (h.haltBusy hbusy)
      · exact LiveTurn.own rfl (h.goto (fun _ => h.sent rfl) (fun _ _ hflight => absurd hflight id)
          rfl trivial trivial trivial)
  | haltCall e =>
      rw [hpc] at h
      simp only [mainStep, hpc]
      exact LiveTurn.own rfl (h.haltCall (hconf e))
  | cswTag =>
      rw [hpc] at h
      simp only [mainStep, hpc]
      exact LiveTurn.own rfl (h.move (fun _ => h.sent rfl) (fun _ _ hflight => absurd hflight id)
        (fun _ => h.reset rfl) trivial trivial trivial)
  -- A busy job ends in an interrupt, so that the turn is handed on.
  | stallBusy =>
      have hnone := hreq fun h => Pc.noConfusion (hpc.symm.trans h)
      rw [hpc] at h
      simp only [mainStep, hpc]
      split_ifs with hbusy
      · exact LiveTurn.free rfl (h.free (fun _ _ => id) hnone)
      · exact LiveTurn.own rfl (h.goto (fun _ hsent => hbusy hsent.1)
          (fun _ _ hflight => absurd hflight id) rfl trivial trivial trivial)
  | stallHalted =>
      rw [hpc] at h
      simp only [mainStep, hpc]
      split_ifs <;> exact LiveTurn.own rfl (h.goto (fun _ => h.sent rfl)
        (fun _ _ hflight => absurd hflight id) rfl trivial trivial trivial)
  | stallConfigured =>
      have hinn : s.dev.inn.configured = true := hconf .inn
      rw [hpc] at h
      simp only [mainStep, hpc]
      rw [hinn, if_pos rfl]
      exact LiveTurn.own rfl (h.goto (fun _ => h.sent rfl) (fun _ _ hflight => absurd hflight id)
        rfl trivial trivial trivial)
  | stallClaim =>
      rw [hpc] at h
      simp only [mainStep, hpc]
      have hlive : Live .stallCall (s.dev.onJob .inn fun j => { j with busy := true }) := by
        unfold Dev.onJob
        refine h.onIdle (fun _ _ => id) rfl ?_ ?_ ?_ (fun h => Bool.noConfusion h) trivial trivial trivial
        · rfl
        · exact id
        · exact .inl rfl
      exact LiveTurn.own rfl hlive
  | stallCall =>
      have hnone := hreq fun h => Pc.noConfusion (hpc.symm.trans h)
      rw [hpc] at h
      simp only [mainStep, hpc]
      have hidle : s.dev.inn.running = false := h.idle (fun _ _ => id) .inn
      have hfree : FreeTurn (s.dev.onJob .inn fun j => { j with call := some .cswSend }) := by
        unfold Dev.onJob
        refine h.handed (fun _ _ => id) hnone ?_ ?_
        · exact typed_of_idle (belongs_some rfl rfl) hidle
        · exact not_block_of_idle hidle
      exact LiveTurn.free rfl hfree

end Firmware
end SoundingSoil
