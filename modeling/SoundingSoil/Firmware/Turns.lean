import SoundingSoil.Firmware.Frame
import SoundingSoil.Firmware.Settle

/-!
# Whose turn it is

The bulk-only transport is a cycle: a CBW is received, data are moved, a CSW is sent, and its end starts
the reception of the next CBW.  What the endpoints hold of that cycle is read off their jobs:

* `Endpoint.cbwDue` — the reception of a CBW is under way, or waits for the end of a halt.
* `Endpoint.cswDue` / `cswUnsent` — the same for an answer with its CSW, and a CSW job that has a function
  to call when it is aborted.
* `Endpoint.block` — a sector of the main loop is under way.

Ending a job early makes none of them true (`settles_cancel`), except that an aborted CSW starts the
reception of the next CBW (`cancel_unsent`).
-/

namespace SoundingSoil
namespace Firmware

namespace Endpoint

/-- The reception of a CBW is under way, or waits for the end of a halt. -/
def cbwDue (x : Endpoint) : Prop :=
  x.configured = true ∧
    (x.job.call = some .cbwWait ∨ x.armed = true ∧ x.job.call = some .cbwReceived)

/-- An answer or a CSW is under way, or waits for the end of a halt. -/
def cswDue (x : Endpoint) : Prop :=
  x.running = true ∧ (x.job.call = some .dataSent ∨ x.job.call = some .cswSent)
    ∨ x.job.call = some .cswSend

/-- A job for the CSW that is not released. -/
def cswUnsent (x : Endpoint) : Prop :=
  x.job.busy = true ∧ x.job.call = some .cswSent

/-- The status phase is not over. -/
def status (x : Endpoint) : Prop :=
  x.cswDue ∨ x.cswUnsent

/-- A sector is under way. -/
def block (x : Endpoint) : Prop :=
  x.running = true ∧ x.job.call = some .transAck

/-- What a job of this endpoint can be: its function belongs to the endpoint, a running transfer was
started by `udd_ep_run`, and sectors do not go to the command block. -/
structure Typed (e : Ep) (x : Endpoint) : Prop where
  belongs : x.Belongs e
  transfer : x.running = true →
    ∃ cb, x.job.call = some cb ∧ cb ≠ .cbwInvalid ∧ cb ≠ .cswInvalid
  buffer : x.block → x.job.buf ≠ .cbw

/-- The endpoint is changed without a sector being started on it. -/
structure Keeps (e : Ep) (x x' : Endpoint) : Prop where
  typed : x.Typed e → x'.Typed e
  block : x'.block → x.block
  configured : x'.configured = x.configured

/-- The endpoint is changed without anything being started on it. -/
structure Settles (e : Ep) (x x' : Endpoint) : Prop extends Keeps e x x' where
  cbw : x'.cbwDue → x.cbwDue
  csw : x'.cswDue → x.cswDue
  status : x'.status → x.status

theorem Keeps.refl (e : Ep) (x : Endpoint) : Keeps e x x :=
  ⟨id, id, rfl⟩

theorem Keeps.trans {e : Ep} {x y z : Endpoint} (h : Keeps e x y) (h' : Keeps e y z) :
    Keeps e x z :=
  ⟨h'.typed ∘ h.typed, h.block ∘ h'.block, h'.configured.trans h.configured⟩

theorem Settles.refl (e : Ep) (x : Endpoint) : Settles e x x :=
  ⟨Keeps.refl e x, id, id, id⟩

theorem Settles.trans {e : Ep} {x y z : Endpoint} (h : Settles e x y) (h' : Settles e y z) :
    Settles e x z :=
  ⟨h.toKeeps.trans h'.toKeeps, h.cbw ∘ h'.cbw, h.csw ∘ h'.csw, h.status ∘ h'.status⟩

/-! ## The fields that matter -/

theorem running_iff (x : Endpoint) : x.running = true ↔ x.configured = true ∧ x.armed = true :=
  Bool.and_eq_true_iff

theorem not_running {x : Endpoint} (h : x.armed = false) : x.running = false := by
  rw [running, h, Bool.and_false]

/-- An endpoint that agrees in what matters, up to being disarmed and released, has nothing new. -/
theorem Settles.of_le {e : Ep} {x x' : Endpoint} (hconf : x'.configured = x.configured)
    (harmed : x'.armed = true → x.armed = true) (hcall : x'.job.call = x.job.call)
    (hbuf : x'.job.buf = x.job.buf) (hbusy : x'.job.busy = true → x.job.busy = true) :
    Settles e x x' := by
  have hrunning : x'.running = true → x.running = true := by
    rw [running_iff, running_iff, hconf]
    exact fun h => ⟨h.1, harmed h.2⟩
  have hblock : x'.block → x.block := fun h => ⟨hrunning h.1, hcall.symm.trans h.2⟩
  have hcsw : x'.cswDue → x.cswDue := by
    unfold cswDue
    rw [hcall]
    exact fun h => h.imp_left fun h => ⟨hrunning h.1, h.2⟩
  refine ⟨⟨fun h => ⟨?_, ?_, ?_⟩, hblock, hconf⟩, ?_, hcsw, ?_⟩
  · intro cb hcb
    exact h.belongs cb (hcall.symm.trans hcb)
  · intro hrun
    rw [hcall]
    exact h.transfer (hrunning hrun)
  · intro hb
    rw [hbuf]
    exact h.buffer (hblock hb)
  · unfold cbwDue
    rw [hconf, hcall]
    exact fun h => ⟨h.1, h.2.imp_right fun h => ⟨harmed h.1, h.2⟩⟩
  · exact fun h => h.imp hcsw fun h => ⟨hbusy h.1, hcall.symm.trans h.2⟩

theorem settles_abortJob (e : Ep) (x : Endpoint) : Settles e x x.abortJob :=
  Settles.of_le rfl nofun rfl rfl id

theorem settles_setHalt (e : Ep) (x : Endpoint) :
    Settles e x { x with halted := true, armed := false } :=
  Settles.of_le rfl nofun rfl rfl id

theorem settles_halted (e : Ep) (b : Bool) (x : Endpoint) : Settles e x { x with halted := b } :=
  Settles.of_le rfl id rfl rfl id

theorem settles_release (e : Ep) (x : Endpoint) : Settles e x x.release :=
  Settles.of_le rfl id rfl rfl nofun

/-! ## Starting a transfer -/

theorem configured_start (e : Ep) (x : Endpoint) : (x.start e).configured = x.configured := by
  unfold start
  split_ifs <;> rfl

theorem running_start (e : Ep) (x : Endpoint) : (x.start e).running = x.configured := by
  unfold start running
  split_ifs with hconf
  · rw [hconf]
    rfl
  · rw [Bool.eq_false_of_not_eq_true hconf, Bool.false_and]

theorem call_start (e : Ep) (x : Endpoint) : (x.start e).job.call = x.job.call := by
  obtain ⟨short, cache, h⟩ := job_start e x
  rw [h]

theorem buf_start (e : Ep) (x : Endpoint) : (x.start e).job.buf = x.job.buf := by
  obtain ⟨short, cache, h⟩ := job_start e x
  rw [h]

/-- A started transfer other than of a sector. -/
theorem keeps_start {r : TransferReq} (hbelongs : r.callback.belongs r.ep = true)
    (hcb : r.callback ≠ .transAck ∧ r.callback ≠ .cbwInvalid ∧ r.callback ≠ .cswInvalid)
    (x : Endpoint) : Keeps r.ep x (start r.ep (prepare r x)) := by
  have hcall : (start r.ep (prepare r x)).job.call = some r.callback := call_start r.ep _
  have hblock : ¬ (start r.ep (prepare r x)).block := fun h =>
    hcb.1 (Option.some.inj (hcall.symm.trans h.2))
  refine ⟨fun _ => ⟨?_, ?_, ?_⟩, ?_, configured_start r.ep _⟩
  · intro cb h
    obtain rfl := Option.some.inj (hcall.symm.trans h)
    exact hbelongs
  · exact fun _ => ⟨r.callback, hcall, hcb.2⟩
  · exact fun h => absurd h hblock
  · exact fun h => absurd h hblock

theorem keeps_park {e : Ep} {cb : Callback} (hbelongs : cb.belongs e = true)
    (hcb : cb ≠ .transAck ∧ cb ≠ .cbwInvalid ∧ cb ≠ .cswInvalid) (x : Endpoint) :
    Keeps e x (x.park cb) := by
  have hblock : ¬ (x.park cb).block := fun h => hcb.1 (Option.some.inj h.2)
  refine ⟨fun _ => ⟨?_, ?_, ?_⟩, ?_, rfl⟩
  · intro cb' h
    obtain rfl := Option.some.inj h
    exact hbelongs
  · exact fun _ => ⟨cb, rfl, hcb.2⟩
  · exact fun h => absurd h hblock
  · exact fun h => absurd h hblock

theorem keeps_submit {r : TransferReq} (hbelongs : r.callback.belongs r.ep = true)
    (hcb : r.callback ≠ .transAck ∧ r.callback ≠ .cbwInvalid ∧ r.callback ≠ .cswInvalid)
    (x : Endpoint) : Keeps r.ep x (x.submit r) := by
  unfold submit
  split_ifs
  · exact Keeps.refl r.ep x
  · exact keeps_start hbelongs hcb x

theorem keeps_await {r : TransferReq} {cb : Callback} (hr : r.callback.belongs r.ep = true)
    (hrcb : r.callback ≠ .transAck ∧ r.callback ≠ .cbwInvalid ∧ r.callback ≠ .cswInvalid)
    (hb : cb.belongs r.ep = true)
    (hcb : cb ≠ .transAck ∧ cb ≠ .cbwInvalid ∧ cb ≠ .cswInvalid) (x : Endpoint) :
    Keeps r.ep x (x.await r cb) := by
  unfold await
  split_ifs
  · exact Keeps.refl r.ep x
  · exact keeps_park hb hcb x
  · exact keeps_submit hr hrcb x

theorem keeps_cbwWait (x : Endpoint) : Keeps .out x (x.await cbwReq .cbwWait) :=
  @keeps_await cbwReq .cbwWait (by decide) (by decide) (by decide) (by decide) x

theorem keeps_cswSend (x : Endpoint) : Keeps .inn x (x.await cswReq .cswSend) :=
  @keeps_await cswReq .cswSend (by decide) (by decide) (by decide) (by decide) x

/-- Waiting sets the function of the job, unless the job is busy. -/
theorem call_await {r : TransferReq} {cb : Callback} {x : Endpoint} (hidle : x.job.busy = false) :
    (x.await r cb).job.call = some cb ∨ (x.await r cb).job.call = some r.callback := by
  unfold await submit
  rw [hidle]
  cases x.halted with
  | true => exact .inl rfl
  | false => exact .inr (call_start r.ep _)

/-- A parked reception of a CBW stays the only thing on its endpoint. -/
theorem settles_cbwWait {x : Endpoint} (h : x.job.call = some .cbwWait) :
    Settles .out x (x.release.await cbwReq .cbwWait) := by
  have hkeeps := (settles_release .out x).toKeeps.trans (keeps_cbwWait x.release)
  have hcall : (x.release.await cbwReq .cbwWait).job.call = some .cbwWait
      ∨ (x.release.await cbwReq .cbwWait).job.call = some .cbwReceived := call_await rfl
  have hcsw : ¬ (x.release.await cbwReq .cbwWait).status := by
    unfold status cswDue cswUnsent
    rcases hcall with hcall | hcall <;> rw [hcall] <;> simp
  refine ⟨hkeeps, ?_, fun hdue => absurd (.inl hdue) hcsw, fun hdue => absurd hdue hcsw⟩
  exact fun hdue => ⟨hkeeps.configured.symm.trans hdue.1, .inl h⟩

/-- A parked CSW stays the only thing on its endpoint. -/
theorem settles_cswSend {x : Endpoint} (h : x.job.call = some .cswSend) :
    Settles .inn x (x.release.await cswReq .cswSend) := by
  have hcall : (x.release.await cswReq .cswSend).job.call = some .cswSend
      ∨ (x.release.await cswReq .cswSend).job.call = some .cswSent := call_await rfl
  refine ⟨(settles_release .inn x).toKeeps.trans (keeps_cswSend x.release), ?_,
    fun _ => .inr h, fun _ => .inl (.inr h)⟩
  unfold cbwDue
  rcases hcall with hcall | hcall <;> rw [hcall] <;> simp

theorem settles_stall {e : Ep} {cb : Callback} (hbelongs : cb.belongs e = true)
    (hcb : cb = .cbwInvalid ∨ cb = .cswInvalid) (x : Endpoint) : Settles e x (x.stall cb) := by
  have hidle : (x.stall cb).running = false := not_running rfl
  have hcall : (x.stall cb).job.call = some cb := rfl
  refine ⟨⟨fun _ => ⟨?_, ?_, ?_⟩, ?_, rfl⟩, ?_, ?_, ?_⟩
  · intro cb' h
    obtain rfl := Option.some.inj h
    exact hbelongs
  · rw [hidle]
    exact nofun
  · exact fun h => absurd (hidle.symm.trans h.1) nofun
  · exact fun h => absurd (hidle.symm.trans h.1) nofun
  · unfold cbwDue
    rcases hcb with rfl | rfl <;> rw [hcall] <;> simp
  · unfold cswDue
    rcases hcb with rfl | rfl <;> rw [hcall] <;> simp
  · unfold status cswDue cswUnsent
    rcases hcb with rfl | rfl <;> rw [hcall] <;> simp

end Endpoint

/-! ## Ending a job -/

open Endpoint

theorem ep_of_belongs_out {e : Ep} {cb : Callback} (h : cb.belongs e = true)
    (hcb : cb = .cbwReceived ∨ cb = .cbwWait ∨ cb = .cbwInvalid) : e = .out := by
  rcases hcb with rfl | rfl | rfl <;> exact beq_iff_eq.mp h

theorem ep_of_belongs_inn {e : Ep} {cb : Callback} (h : cb.belongs e = true)
    (hcb : cb = .dataSent ∨ cb = .cswSent ∨ cb = .cswSend ∨ cb = .cswInvalid) : e = .inn := by
  rcases hcb with rfl | rfl | rfl | rfl <;> exact beq_iff_eq.mp h

/-- A function settles its own endpoint. -/
theorem settles_settle {e : Ep} {cb : Callback} {x : Endpoint} {d : Dev}
    (hbelongs : cb.belongs e = true) (hcall : x.job.call = some cb) (hx : d.ep e = x.release) :
    Settles e x ((settle cb d).ep e) := by
  have hrelease : Settles e x (d.ep e) := by
    rw [hx]
    exact settles_release e x
  cases cb with
  | cbwReceived | dataSent => exact hrelease
  | transAck => cases e <;> exact hrelease
  | cswSent =>
      obtain rfl := ep_of_belongs_inn hbelongs (.inr (.inl rfl))
      exact hrelease
  | cbwWait =>
      obtain rfl := ep_of_belongs_out hbelongs (.inr (.inl rfl))
      change Settles .out x (d.out.await cbwReq .cbwWait)
      rw [show d.out = x.release from hx]
      exact settles_cbwWait hcall
  | cswSend =>
      obtain rfl := ep_of_belongs_inn hbelongs (.inr (.inr (.inl rfl)))
      change Settles .inn x (d.inn.await cswReq .cswSend)
      rw [show d.inn = x.release from hx]
      exact settles_cswSend hcall
  | cbwInvalid =>
      obtain rfl := ep_of_belongs_out hbelongs (.inr (.inr rfl))
      unfold settle
      split_ifs
      · exact hrelease.trans (settles_stall rfl (.inl rfl) d.out)
      · exact hrelease
  | cswInvalid =>
      obtain rfl := ep_of_belongs_inn hbelongs (.inr (.inr (.inr rfl)))
      unfold settle
      split_ifs
      · exact hrelease.trans (settles_stall rfl (.inr rfl) d.inn)
      · exact hrelease

/-- **Ending a job starts nothing on its endpoint.** -/
theorem settles_cancel {e : Ep} {d : Dev} (h : (d.ep e).Typed e) :
    Settles e (d.ep e) ((d.cancel e).ep e) := by
  unfold Dev.cancel
  split_ifs with hbusy
  · have hreleased : (d.onEp e Endpoint.release).ep e = (d.ep e).release := Dev.ep_onEp e _ d
    cases hcall : (d.ep e).job.call with
    | none =>
        rw [settleJob, hreleased]
        exact settles_release e (d.ep e)
    | some cb => exact settles_settle (h.belongs cb hcall) hcall hreleased
  · exact Settles.refl e (d.ep e)

/-- Ending a job of the OUT endpoint leaves the IN endpoint alone. -/
theorem cancel_out_inn {d : Dev} (h : d.out.Typed .out) : (d.cancel .out).inn = d.inn := by
  unfold Dev.cancel
  split_ifs
  · cases hcall : (d.ep .out).job.call with
    | none => rfl
    | some cb =>
        have hbelongs : cb.belongs .out = true := h.belongs cb hcall
        cases cb with
        | cbwReceived | transAck | cbwWait => rfl
        | cbwInvalid =>
            unfold settleJob settle
            dsimp only
            split_ifs <;> rfl
        | dataSent | cswSent | cswSend | cswInvalid => exact absurd hbelongs nofun
  · rfl

/-- Ending a job of the IN endpoint leaves the OUT endpoint alone, unless the job is a CSW. -/
theorem cancel_inn_out {d : Dev} (h : d.inn.Typed .inn) (hsent : ¬ d.inn.cswUnsent) :
    (d.cancel .inn).out = d.out := by
  unfold Dev.cancel
  split_ifs with hbusy
  · cases hcall : (d.ep .inn).job.call with
    | none => rfl
    | some cb =>
        have hbelongs : cb.belongs .inn = true := h.belongs cb hcall
        cases cb with
        | dataSent | transAck | cswSend => rfl
        | cswSent => exact absurd ⟨hbusy, hcall⟩ hsent
        | cswInvalid =>
            unfold settleJob settle
            dsimp only
            split_ifs <;> rfl
        | cbwReceived | cbwWait | cbwInvalid => exact absurd hbelongs nofun
  · rfl

/-- An aborted CSW hands the turn to the reception of the next CBW. -/
theorem cancel_unsent {d : Dev} (hsent : d.inn.cswUnsent) :
    d.cancel .inn = { d with inn := d.inn.release, out := d.out.await cbwReq .cbwWait } := by
  have hbusy : (d.ep .inn).job.busy = true := hsent.1
  have hcall : (d.ep .inn).job.call = some .cswSent := hsent.2
  rw [Dev.cancel, if_pos hbusy, hcall]
  rfl

/-- The answers to the main loop stay, or report an abort. -/
def AckMoves (m m' : Msc) : Prop :=
  m'.bAckTrans = m.bAckTrans ∧ m'.bAbortTrans = m.bAbortTrans
    ∨ m'.bAckTrans = true ∧ m'.bAbortTrans = true

theorem ackMoves_cancel {e : Ep} {d : Dev} : AckMoves d.msc (d.cancel e).msc := by
  have hstay : AckMoves d.msc d.msc := .inl ⟨rfl, rfl⟩
  unfold Dev.cancel
  split_ifs
  · cases (d.ep e).job.call with
    | none =>
        rw [settleJob, Dev.msc_onEp]
        exact hstay
    | some cb =>
        unfold settleJob settle
        cases cb with
        | transAck => exact .inr ⟨rfl, rfl⟩
        | cbwReceived | dataSent =>
            dsimp only
            rw [Dev.msc_onEp]
            exact hstay
        | cswSent | cbwWait | cswSend =>
            dsimp only
            rw [Dev.msc_onEp, Dev.msc_onEp]
            exact hstay
        | cbwInvalid | cswInvalid =>
            dsimp only
            split_ifs
            · rw [Dev.msc_onEp, Dev.msc_onEp]
              exact hstay
            · rw [Dev.msc_onEp]
              exact hstay
  · exact hstay

/-- The job does not wait for the end of a halt to start a transfer. -/
def Endpoint.Parkless (x : Endpoint) : Prop :=
  x.job.call ≠ some .cbwWait ∧ x.job.call ≠ some .cswSend

/-- The job keeps its function and its buffer, and its endpoint is not armed. -/
def Endpoint.Steady (x x' : Endpoint) : Prop :=
  x'.job.buf = x.job.buf ∧ x'.job.call = x.job.call ∧ (x'.armed = true → x.armed = true)

/-- A job that does not wait to start a transfer is at most released. -/
theorem cancel_steady {e : Ep} {d : Dev} (h : (d.ep e).Typed e) (hcall : (d.ep e).Parkless) :
    (d.ep e).Steady ((d.cancel e).ep e) := by
  unfold Dev.cancel
  split_ifs with hbusy
  · have hreleased : (d.onEp e Endpoint.release).ep e = (d.ep e).release := Dev.ep_onEp e _ d
    cases hjob : (d.ep e).job.call with
    | none =>
        rw [settleJob, hreleased]
        exact ⟨rfl, rfl, id⟩
    | some cb =>
        have hbelongs := h.belongs cb hjob
        have hstay : (d.ep e).Steady ((d.onEp e Endpoint.release).ep e) := by
          rw [hreleased]
          exact ⟨rfl, rfl, id⟩
        unfold settleJob settle
        cases cb with
        | cbwReceived | dataSent => exact hstay
        | transAck => cases e <;> exact hstay
        | cswSent =>
            obtain rfl := ep_of_belongs_inn hbelongs (.inr (.inl rfl))
            exact hstay
        | cbwWait => exact absurd hjob hcall.1
        | cswSend => exact absurd hjob hcall.2
        | cbwInvalid =>
            obtain rfl := ep_of_belongs_out hbelongs (.inr (.inr rfl))
            dsimp only
            split_ifs
            · exact ⟨hstay.1, hjob.symm, nofun⟩
            · exact hstay
        | cswInvalid =>
            obtain rfl := ep_of_belongs_inn hbelongs (.inr (.inr (.inr rfl)))
            dsimp only
            split_ifs
            · exact ⟨hstay.1, hjob.symm, nofun⟩
            · exact hstay
  · exact ⟨rfl, rfl, id⟩

/-- The job of an endpoint that is not busy does not end. -/
theorem cancel_idle {e : Ep} {d : Dev} (h : (d.ep e).job.busy = false) : d.cancel e = d := by
  rw [Dev.cancel, h]
  rfl

/-- The job of the endpoint is ended early, with nothing else going on there. -/
structure Ends (e : Ep) (d d' : Dev) : Prop where
  own : Settles e (d.ep e) (d'.ep e)
  inn : e = .out → d'.inn = d.inn
  out : e = .inn → ¬ d.inn.status → d'.out = d.out
  idle : (d.ep e).job.busy = false → (d'.ep e).job = (d.ep e).job
  steady : (d.ep e).Parkless → (d.ep e).Steady (d'.ep e)
  ack : AckMoves d.msc d'.msc
  rest : d'.rest = d.rest

theorem AckMoves.trans {m m' m'' : Msc} (h : AckMoves m m') (h' : AckMoves m' m'') :
    AckMoves m m'' := by
  rcases h' with ⟨hack, habort⟩ | h'
  · rcases h with h | h
    · exact .inl ⟨hack.trans h.1, habort.trans h.2⟩
    · exact .inr ⟨hack.trans h.1, habort.trans h.2⟩
  · exact .inr h'

theorem Ends.trans {e : Ep} {d d' d'' : Dev} (h : Ends e d d') (h' : Ends e d' d'') :
    Ends e d d'' := by
  refine ⟨h.own.trans h'.own, ?_, ?_, ?_, ?_, h.ack.trans h'.ack, h'.rest.trans h.rest⟩
  · exact fun he => (h'.inn he).trans (h.inn he)
  · rintro rfl hstatus
    exact (h'.out rfl fun hs => hstatus (h.own.status hs)).trans (h.out rfl hstatus)
  · intro hidle
    have hjob := h.idle hidle
    exact (h'.idle (by rw [hjob]; exact hidle)).trans hjob
  · intro hpark
    obtain ⟨hbuf, hcall, harmed⟩ := h.steady hpark
    have hpark' : (d'.ep e).Parkless := by
      unfold Endpoint.Parkless
      rw [hcall]
      exact hpark
    obtain ⟨hbuf', hcall', harmed'⟩ := h'.steady hpark'
    exact ⟨hbuf'.trans hbuf, hcall'.trans hcall, harmed ∘ harmed'⟩

/-- Ending the job of an endpoint whose hardware state is changed first. -/
theorem ends_cancel {e : Ep} {f : Endpoint → Endpoint} {d : Dev} (h : (d.ep e).Typed e)
    (hjob : (f (d.ep e)).job = (d.ep e).job) (hf : Settles e (d.ep e) (f (d.ep e)))
    (harmed : (f (d.ep e)).armed = true → (d.ep e).armed = true)
    (hrest : ((d.onEp e f).cancel e).rest = d.rest) : Ends e d ((d.onEp e f).cancel e) := by
  have hep : (d.onEp e f).ep e = f (d.ep e) := Dev.ep_onEp e f d
  have htyped : ((d.onEp e f).ep e).Typed e := by
    rw [hep]
    exact hf.typed h
  refine ⟨?_, ?_, ?_, ?_, ?_, ?_, hrest⟩
  · have hcancel := settles_cancel htyped
    rw [hep] at hcancel
    exact hf.trans hcancel
  · rintro rfl
    exact cancel_out_inn htyped
  · rintro rfl hstatus
    refine cancel_inn_out htyped fun hsent => hstatus (.inr ?_)
    have hsent' : (f d.inn).job.busy = true ∧ (f d.inn).job.call = some .cswSent := hsent
    rw [show (f d.inn).job = d.inn.job from hjob] at hsent'
    exact hsent'
  · intro hbusy
    have hidle : ((d.onEp e f).ep e).job.busy = false := by
      rw [hep, hjob]
      exact hbusy
    rw [cancel_idle hidle, hep]
    exact hjob
  · intro hpark
    have hsteady := cancel_steady htyped (by
      unfold Endpoint.Parkless
      rw [hep, hjob]
      exact hpark)
    unfold Endpoint.Steady at hsteady
    rw [hep, hjob] at hsteady
    exact ⟨hsteady.1, hsteady.2.1, harmed ∘ hsteady.2.2⟩
  · have hack : AckMoves (d.onEp e f).msc ((d.onEp e f).cancel e).msc := ackMoves_cancel
    rw [Dev.msc_onEp] at hack
    exact hack

theorem ends_uddEpAbort {e : Ep} {d : Dev} (h : (d.ep e).Typed e) :
    Ends e d (uddEpAbort uddCall e d) := by
  have hrest := rest_uddEpAbort rest_uddCall e d
  rw [uddEpAbort_eq h.belongs] at hrest ⊢
  exact ends_cancel h rfl (settles_abortJob e _) nofun hrest

theorem ends_uddEpSetHalt {e : Ep} {d : Dev} (h : (d.ep e).Typed e) :
    Ends e d (uddEpSetHalt uddCall e d) := by
  have hrest := rest_uddEpSetHalt rest_uddCall e d
  rw [uddEpSetHalt_eq h.belongs] at hrest ⊢
  exact ends_cancel h rfl (settles_setHalt e _) nofun hrest

theorem ends_uddEpClearHalt {e : Ep} {d : Dev} (h : (d.ep e).Typed e) :
    Ends e d (uddEpClearHalt uddCall e d) := by
  have hrest := rest_uddEpClearHalt rest_uddCall e d
  rw [uddEpClearHalt_eq h.belongs] at hrest ⊢
  exact ends_cancel h rfl (settles_halted e false _) id hrest

/-- An endpoint that was aborted is not armed again, unless it waited to start a transfer. -/
theorem armed_cancel {e : Ep} {f : Endpoint → Endpoint} {d : Dev}
    (hf : (f (d.ep e)).Typed e) (hjob : (f (d.ep e)).job = (d.ep e).job)
    (harmed : (f (d.ep e)).armed = false) (hpark : (d.ep e).Parkless) :
    (((d.onEp e f).cancel e).ep e).armed = false := by
  have hep : (d.onEp e f).ep e = f (d.ep e) := Dev.ep_onEp e f d
  have hsteady : Endpoint.Steady ((d.onEp e f).ep e) (((d.onEp e f).cancel e).ep e) := by
    refine cancel_steady ?_ ?_
    · rw [hep]
      exact hf
    · unfold Endpoint.Parkless
      rw [hep, hjob]
      exact hpark
  refine Bool.eq_false_of_not_eq_true fun hne => ?_
  have hback := hsteady.2.2 hne
  rw [hep, harmed] at hback
  exact absurd hback nofun

theorem armed_uddEpSetHalt {e : Ep} {d : Dev} (h : (d.ep e).Typed e) (hpark : (d.ep e).Parkless) :
    ((uddEpSetHalt uddCall e d).ep e).armed = false := by
  rw [uddEpSetHalt_eq h.belongs]
  exact armed_cancel ((settles_setHalt e _).typed h) rfl rfl hpark

end Firmware
end SoundingSoil
