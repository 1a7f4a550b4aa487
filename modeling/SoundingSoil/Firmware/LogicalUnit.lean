import SoundingSoil.Firmware.SdMmcMem
import SoundingSoil.Support.TransitionSystem

/-!
# The logical unit and the eject law

The state of the memory seen through the requests that reach it, `LunRequest`, with the history of what
each was answered.

* `HonoursEject` — the law: after an acknowledged eject no readiness check is answered with GOOD, until
  the medium is loaded again, is seen removed, or the interface is enabled.
* `honoursEject_perform` — one more request keeps the law iff its answer does.
* **`honoursEject_lunDescUnload`** — with the hook of `sd_mmc_mem.c` every sequence of requests keeps the
  law, because the ejected flag is the pending eject (`ejected_eq_pending`).
* **`honoursEject_lunDesc_iff`** — as `conf_access.h` wires the unit, a request keeps the law iff it does
  not find a memory card while an eject is pending.
-/

namespace SoundingSoil
namespace Firmware

open Support

/-- A request that reaches the memory. -/
inductive LunRequest
  | testUnitReady (card : CardAnswer)
  | readCapacity (card : CardAnswer)
  | startStop (loej start : Bool)
  | enable
  deriving DecidableEq, Repr

/-- The memory after a request, and the event the request leaves in the history. -/
def LunRequest.answer (desc : LunDesc) (req : LunRequest) (s : Store) : Store × LunEvent :=
  match req with
  | .testUnitReady card =>
      let ready := memTestUnitReady desc 0 card s
      (ready.2, .checked card ready.1)
  | .readCapacity card =>
      let ready := memReadCapacity desc 0 card s
      (ready.2.2, .checked card ready.1)
  | .startStop loej start =>
      (if loej then (memUnload desc 0 (!start) s).2 else s, .startStop loej start .pass)
  | .enable => ((memUnload desc 0 false s).2, .enabled)

/-- The memory and its history after a request. -/
def LunRequest.perform (desc : LunDesc) (req : LunRequest) (s : Store) : Store :=
  let answer := req.answer desc s
  { answer.1 with history := answer.1.history ++ [answer.2] }

/-- The card that a readiness check looks at. -/
def LunRequest.card : LunRequest → Option CardAnswer
  | .testUnitReady card => some card
  | .readCapacity card => some card
  | .startStop _ _ => none
  | .enable => none

/-! ## The law -/

/-- An eject is pending from its acknowledgement until the medium is loaded, is seen removed, or the
interface is enabled. -/
def ejectNext (pending : Bool) : LunEvent → Bool
  | .startStop loej start status =>
      if loej then !start && (pending || status == .pass) else pending
  | .checked card _ => pending && card.check != .noCard
  | .enabled => false

/-- A readiness check is not answered with GOOD while an eject is pending. -/
def EjectStep (pending : Bool) (event : LunEvent) : Prop :=
  pending = true → ∀ card, event ≠ .checked card .good

def ejectPending (history : List LunEvent) : Bool :=
  run ejectNext false history

/-- **The eject law.** -/
def HonoursEject (history : List LunEvent) : Prop :=
  EveryStep ejectNext EjectStep false history

theorem ejectPending_concat (history : List LunEvent) (event : LunEvent) :
    ejectPending (history ++ [event]) = ejectNext (ejectPending history) event :=
  run_append ejectNext false history [event]

theorem honoursEject_concat {history : List LunEvent} {event : LunEvent} :
    HonoursEject (history ++ [event]) ↔
      HonoursEject history ∧ EjectStep (ejectPending history) event := by
  unfold HonoursEject
  rw [everyStep_append]
  exact and_congr_right fun _ => ⟨fun h => h.1, fun h => ⟨h, trivial⟩⟩

/-! ## The two wirings of the unit -/

/-- A readiness check finds the unit ready iff it was not ejected and a memory card answers. -/
theorem sdMmcTestUnitReady_good {card : CardAnswer} {s : Store} :
    (sdMmcTestUnitReady card s).1 = .good ↔ s.sdMmcEjected = false ∧ card.isMemory = true := by
  unfold sdMmcTestUnitReady CardAnswer.isMemory
  cases hcheck : card.check with
  | ok =>
      cases hejected : s.sdMmcEjected with
      | true => simp
      | false =>
          dsimp only
          rw [if_neg Bool.false_ne_true]
          split_ifs with htype
          · simpa using htype
          · simpa using htype
  | _ => simp

/-- A readiness check that finds no card takes an eject back. -/
theorem sdMmcTestUnitReady_store (card : CardAnswer) (s : Store) :
    (sdMmcTestUnitReady card s).2 =
      { s with sdMmcEjected := s.sdMmcEjected && card.check != .noCard } := by
  have hkeep (err : SdMmcErr) (hne : err ≠ .noCard) :
      s = { s with sdMmcEjected := s.sdMmcEjected && err != .noCard } := by
    rw [bne_iff_ne.mpr hne, Bool.and_true]
  unfold sdMmcTestUnitReady
  cases card.check with
  | ok =>
      dsimp only
      split_ifs <;> exact hkeep .ok nofun
  | noCard => simp
  | initOngoing => exact hkeep .initOngoing nofun
  | _ => exact hkeep _ nofun

/-- The two wirings differ only in the hook for the eject. -/
def wired (unload : Bool) : LunDesc :=
  if unload then lunDescUnload else lunDesc

/-- The answers of the unit under both wirings. -/
theorem answer_wired (unload : Bool) (req : LunRequest) (s : Store) :
    req.answer (wired unload) s =
      match req with
      | .testUnitReady card | .readCapacity card =>
          ((sdMmcTestUnitReady card s).2, .checked card (sdMmcTestUnitReady card s).1)
      | .startStop loej start =>
          ({ s with sdMmcEjected := if unload && loej then !start else s.sdMmcEjected },
            .startStop loej start .pass)
      | .enable => ({ s with sdMmcEjected := !unload && s.sdMmcEjected }, .enabled) := by
  cases req with
  | testUnitReady card | readCapacity card => cases unload <;> rfl
  | startStop loej start => cases unload <;> cases loej <;> rfl
  | enable => cases unload <;> rfl

/-- No request rewrites the history. -/
theorem history_perform (unload : Bool) (req : LunRequest) (s : Store) :
    (req.perform (wired unload) s).history = s.history ++ [(req.answer (wired unload) s).2] := by
  have hkeep : (req.answer (wired unload) s).1.history = s.history := by
    rw [answer_wired]
    cases req with
    | testUnitReady card | readCapacity card =>
        dsimp only
        rw [sdMmcTestUnitReady_store]
    | startStop loej start => rfl
    | enable => rfl
  rw [LunRequest.perform, hkeep]

/-- One more request keeps the law iff its answer does. -/
theorem honoursEject_perform {unload : Bool} {req : LunRequest} {s : Store} :
    HonoursEject (req.perform (wired unload) s).history ↔
      HonoursEject s.history
        ∧ EjectStep (ejectPending s.history) (req.answer (wired unload) s).2 := by
  rw [history_perform, honoursEject_concat]

/-- The answer breaks the law exactly when it is GOOD while an eject is pending. -/
theorem ejectStep_answer_iff {unload : Bool} {req : LunRequest} {s : Store} {pending : Bool} :
    EjectStep pending (req.answer (wired unload) s).2 ↔
      (pending = true → ∀ card ∈ req.card, s.sdMmcEjected = false → card.isMemory = false) := by
  unfold EjectStep
  refine imp_congr_right fun _ => ?_
  rw [answer_wired]
  cases req with
  | startStop loej start | enable =>
      exact ⟨fun _ => nofun, fun _ => nofun⟩
  | testUnitReady card | readCapacity card =>
      constructor
      · rintro hne card' hcard hejected
        obtain rfl := Option.some.inj hcard
        refine Bool.eq_false_of_not_eq_true fun hmemory => hne card ?_
        rw [LunEvent.checked.injEq]
        exact ⟨rfl, sdMmcTestUnitReady_good.mpr ⟨hejected, hmemory⟩⟩
      · rintro hgone card' heq
        obtain ⟨-, hgood⟩ := LunEvent.checked.inj heq
        obtain ⟨hejected, hmemory⟩ := sdMmcTestUnitReady_good.mp hgood
        exact absurd (hmemory.symm.trans (hgone card rfl hejected)) Bool.noConfusion

/-! ## With the hook -/

/-- The ejected flag is the pending eject. -/
theorem ejected_eq_pending (req : LunRequest) {s : Store}
    (h : s.sdMmcEjected = ejectPending s.history) :
    (req.perform lunDescUnload s).sdMmcEjected =
      ejectPending (req.perform lunDescUnload s).history := by
  have hhistory := history_perform true req s
  have hanswer := answer_wired true req s
  rw [wired, if_pos rfl] at hhistory hanswer
  rw [hhistory, ejectPending_concat, LunRequest.perform, hanswer, ← h]
  cases req with
  | testUnitReady card | readCapacity card =>
      dsimp only
      rw [sdMmcTestUnitReady_store]
      rfl
  | startStop loej start =>
      cases loej with
      | false => rfl
      | true => cases start <;> simp [ejectNext]
  | enable => rfl

/-- **With the hook the unit honours the eject.** -/
theorem honoursEject_lunDescUnload (req : LunRequest) {s : Store}
    (hejected : s.sdMmcEjected = ejectPending s.history) (hs : HonoursEject s.history) :
    HonoursEject (req.perform lunDescUnload s).history := by
  have hperform : HonoursEject (req.perform (wired true) s).history := by
    rw [honoursEject_perform, ejectStep_answer_iff]
    refine ⟨hs, fun hpending card _ hfree => ?_⟩
    rw [hejected, hpending] at hfree
    exact absurd hfree nofun
  exact hperform

/-! ## Without the hook -/

/-- Nothing ever sets the ejected flag. -/
theorem never_ejected (req : LunRequest) {s : Store} (h : s.sdMmcEjected = false) :
    (req.perform lunDesc s).sdMmcEjected = false := by
  have hanswer := answer_wired false req s
  rw [wired, if_neg Bool.false_ne_true] at hanswer
  rw [LunRequest.perform, hanswer]
  cases req with
  | testUnitReady card | readCapacity card =>
      dsimp only
      rw [sdMmcTestUnitReady_store, h]
      rfl
  | startStop loej start => exact h
  | enable => exact h

/-- **Without the hook the eject is honoured only as long as no memory card answers.** -/
theorem honoursEject_lunDesc_iff (req : LunRequest) {s : Store} (h : s.sdMmcEjected = false) :
    HonoursEject (req.perform lunDesc s).history ↔
      HonoursEject s.history
        ∧ (ejectPending s.history = true → ∀ card ∈ req.card, card.isMemory = false) := by
  have hperform : HonoursEject (req.perform (wired false) s).history ↔ _ := honoursEject_perform
  rw [ejectStep_answer_iff] at hperform
  refine hperform.trans (and_congr_right fun _ => imp_congr_right fun _ => ?_)
  exact ⟨fun hall card hcard => hall card hcard h, fun hall card hcard _ => hall card hcard⟩

end Firmware
end SoundingSoil
