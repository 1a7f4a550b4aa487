import SoundingSoil.Firmware.Commands

/-!
# The eject of the SD card, over whole runs

The memory of a run is the work of the requests that reached it, so the law of the logical unit becomes
a law of the firmware.

* **`honoursEject_iff`** — a run of the firmware honours an acknowledged eject iff no readiness check
  finds a memory card while the eject is pending.
* `eject_not_honoured` — a host that ejects the card and asks again is told that the unit is ready.
* `honoursEject_of_unload` — with `Lun_2_unload` defined as `sd_mmc_unload_0` every run honours it.
-/

namespace SoundingSoil
namespace Firmware

open Support

/-! ## Runs -/

/-- The step does not look at a memory card while an acknowledged eject is pending. -/
def SeesNoMemoryCard (s : Sys) (l : Label) : Prop :=
  ejectPending s.dev.store.history = true →
    ∀ req ∈ stepRequest s l, ∀ card ∈ req.card, card.isMemory = false

theorem honoursEject_step_iff (s : Sys) (l : Label) (hb : Bound s.dev)
    (hejected : s.dev.store.sdMmcEjected = false) (hs : HonoursEject s.dev.store.history) :
    HonoursEject (step lunDesc s l).dev.store.history ↔ SeesNoMemoryCard s l := by
  rw [store_step lunDesc s l hb, SeesNoMemoryCard]
  cases stepRequest s l with
  | none => exact ⟨fun _ _ => nofun, fun _ => hs⟩
  | some req =>
      have hreq := honoursEject_lunDesc_iff req hejected
      constructor
      · rintro h hpending req' hreq'
        obtain rfl := Option.some.inj hreq'
        exact (hreq.mp h).2 hpending
      · intro h
        exact hreq.mpr ⟨hs, fun hpending => h hpending req rfl⟩

theorem never_ejected_step (s : Sys) (l : Label) (hb : Bound s.dev)
    (h : s.dev.store.sdMmcEjected = false) :
    (step lunDesc s l).dev.store.sdMmcEjected = false := by
  rw [store_step lunDesc s l hb]
  cases stepRequest s l with
  | none => exact h
  | some req => exact never_ejected req h

/-- **When an eject is honoured.**  A run honours the eject law iff no readiness check of it looks at a
memory card while an acknowledged eject is pending. -/
theorem honoursEject_iff (vbusHigh : Bool) (ls : List Label) :
    EveryState (step lunDesc) (fun s => HonoursEject s.dev.store.history) (boot vbusHigh) ls ↔
      EveryStep (step lunDesc) SeesNoMemoryCard (boot vbusHigh) ls := by
  have hboot : (boot vbusHigh).dev.store = ⟨false, []⟩ := by cases vbusHigh <;> rfl
  have hinv (s : Sys) (l : Label) (h : Bound s.dev ∧ s.dev.store.sdMmcEjected = false) :
      Bound (step lunDesc s l).dev ∧ (step lunDesc s l).dev.store.sdMmcEjected = false :=
    ⟨bound_step lunDesc s l h.1, never_ejected_step s l h.1 h.2⟩
  refine everyState_iff_everyStep hinv (fun s l h hs => honoursEject_step_iff s l h.1 h.2 hs)
    ⟨bound_boot vbusHigh, ?_⟩ ?_
  · rw [hboot]
  · rw [hboot]
    trivial

/-- The host ejects the card, is told PASS, and the unit is ready again. -/
theorem eject_not_honoured :
    ¬ ∀ (vbusHigh : Bool) (ls : List Label),
      EveryState (step lunDesc) (fun s => HonoursEject s.dev.store.history) (boot vbusHigh) ls := by
  intro hall
  have hlast := hall true
    (serveAll (enumeration ++ hostCommand presentCard (commandBlock 0x1B 0x2)
      ++ hostCommand presentCard (commandBlock 0x00 0x0))) _ (List.prefix_refl _)
  have hready := everyStep_iff.mp hlast [.enabled, .startStop true false .pass]
    (.checked presentCard .good) [] (by decide)
  exact hready (by decide) presentCard rfl

/-! ## The repaired wiring -/

/-- **With the hook every run honours the eject.** -/
theorem honoursEject_of_unload (vbusHigh : Bool) (ls : List Label) :
    HonoursEject (run (step lunDescUnload) (boot vbusHigh) ls).dev.store.history := by
  have hboot : (boot vbusHigh).dev.store = ⟨false, []⟩ := by cases vbusHigh <;> rfl
  have hinv (s : Sys) (l : Label)
      (h : Bound s.dev ∧ s.dev.store.sdMmcEjected = ejectPending s.dev.store.history
        ∧ HonoursEject s.dev.store.history) :
      Bound (step lunDescUnload s l).dev
        ∧ (step lunDescUnload s l).dev.store.sdMmcEjected =
          ejectPending (step lunDescUnload s l).dev.store.history
        ∧ HonoursEject (step lunDescUnload s l).dev.store.history := by
    obtain ⟨hb, hejected, hs⟩ := h
    refine ⟨bound_step lunDescUnload s l hb, ?_⟩
    rw [store_step lunDescUnload s l hb]
    cases stepRequest s l with
    | none => exact ⟨hejected, hs⟩
    | some req => exact ⟨ejected_eq_pending req hejected, honoursEject_lunDescUnload req hejected hs⟩
  refine (invariant_run_all hinv ⟨bound_boot vbusHigh, ?_, ?_⟩ ls).2.2
  · rw [hboot]
    rfl
  · rw [hboot]
    trivial

end Firmware
end SoundingSoil
