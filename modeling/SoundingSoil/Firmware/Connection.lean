import SoundingSoil.Firmware.Steps
import SoundingSoil.Support.TransitionSystem

/-!
# The enable flag and the connection

`main_b_msc_enable` is meant to tell the main loop that the host uses the mass-storage interface.

* `bound_step` — in every run the flag goes with the two bulk endpoints, and none is set without a
  configuration; `bound_run`.
* `connection_serveIrq` — what one interrupt does to the flag and to the attachment.
* **`tracks_iff_keepsTrack`** — a run keeps the flag equal to the live connection iff VBUS is never
  lost while the flag is set, and no request sets it while the device is detached.
* `vbus_loss_keeps_flag` — unplugging an enabled device breaks it.
-/

namespace SoundingSoil
namespace Firmware

open Support

/-- The flag is true exactly when the device is attached, configured, and has both bulk endpoints. -/
def Tracks (s : Sys) : Prop :=
  s.dev.app.mainBMscEnable = true ↔
    s.dev.bus.attached = true ∧ s.dev.bus.udcNumConfiguration ≠ 0 ∧
      s.dev.inn.configured = true ∧ s.dev.out.configured = true

/-- The request enables the interface. -/
def SetupAction.enables : SetupAction → Bool
  | .configuration n => n != 0
  | .interface settingNum => settingNum == 0
  | _ => false

/-- The request disables the interface and does not enable it again. -/
def SetupAction.disables : SetupAction → Bool
  | .configuration n => n == 0
  | .interface settingNum => settingNum != 0
  | _ => false

theorem enables_configuration (n : BitVec 8) :
    (SetupAction.configuration n).enables = false ↔ n = 0 := by
  simp [SetupAction.enables]

theorem enables_interface (settingNum : BitVec 8) :
    (SetupAction.interface settingNum).enables = false ↔ settingNum ≠ 0 := by
  simp [SetupAction.enables]

/-- The flag after an interrupt. -/
def flagAfter (irq : Irq) (d : Dev) : Bool :=
  match irq with
  | .busReset => false
  | .setup r =>
      let action := setupAction r (beginSetup d)
      action.enables || !action.disables && d.app.mainBMscEnable
  | _ => d.app.mainBMscEnable

/-- The attachment after an interrupt. -/
def attachedAfter (irq : Irq) (d : Dev) : Bool :=
  match irq with
  | .vbus high => high
  | _ => d.bus.attached

/-! ## What survives of an interrupt -/

theorem app_of_forgetCtrl {d d' : Dev} (h : d'.forgetCtrl = d.forgetCtrl) : d'.app = d.app :=
  (congrArg Dev.app h :)

theorem numConfiguration_of_forgetCtrl {d d' : Dev} (h : d'.forgetCtrl = d.forgetCtrl) :
    d'.bus.udcNumConfiguration = d.bus.udcNumConfiguration :=
  (congrArg (fun d => (Dev.bus d).udcNumConfiguration) h :)

theorem attached_of_forgetCtrl {d d' : Dev} (h : d'.forgetCtrl = d.forgetCtrl) :
    d'.bus.attached = d.bus.attached :=
  (congrArg (fun d => (Dev.bus d).attached) h :)

theorem inn_of_forgetCtrl {d d' : Dev} (h : d'.forgetCtrl = d.forgetCtrl) :
    d'.inn.configured = d.inn.configured :=
  (congrArg (fun d => (Dev.inn d).configured) h :)

theorem out_of_forgetCtrl {d d' : Dev} (h : d'.forgetCtrl = d.forgetCtrl) :
    d'.out.configured = d.out.configured :=
  (congrArg (fun d => (Dev.out d).configured) h :)

theorem nbLun_of_forgetCtrl {d d' : Dev} (h : d'.forgetCtrl = d.forgetCtrl) :
    d'.msc.nbLun = d.msc.nbLun :=
  (congrArg (fun d => (Dev.msc d).nbLun) h :)

theorem store_of_forgetCtrl {d d' : Dev} (h : d'.forgetCtrl = d.forgetCtrl) : d'.store = d.store :=
  (congrArg Dev.store h :)

theorem transReq_of_forgetCtrl {d d' : Dev} (h : d'.forgetCtrl = d.forgetCtrl) :
    d'.msc.bTransReq = d.msc.bTransReq :=
  (congrArg (fun d => (Dev.msc d).bTransReq) h :)

theorem Bound.of_forgetCtrl {d d' : Dev} (h : d'.forgetCtrl = d.forgetCtrl) (hb : Bound d) :
    Bound d' := by
  refine ⟨?_, ?_, ?_, (nbLun_of_forgetCtrl h).trans hb.nbLun⟩
  · rw [inn_of_forgetCtrl h, out_of_forgetCtrl h, hb.both]
  · rw [app_of_forgetCtrl h, inn_of_forgetCtrl h, hb.flag]
  · rw [inn_of_forgetCtrl h, numConfiguration_of_forgetCtrl h]
    exact hb.configuration

/-- The decoding of a SETUP packet does not touch the connection. -/
theorem beginSetup_bound {d : Dev} (hb : Bound d) : Bound (beginSetup d) := by
  obtain ⟨address, hframe⟩ := beginSetup_frame d
  rw [hframe]
  exact ⟨hb.both, hb.flag, hb.configuration, hb.nbLun⟩

/-! ## The effects on the connection -/

theorem link_commandEffect (desc : LunDesc) (card : CardAnswer) (d : Dev) :
    ∃ store, (commandEffect desc card d).link = { d with store := store }.link := by
  have hstay : ∃ store, d.link = { d with store := store }.link := ⟨d.store, rfl⟩
  have htrans (bRead : Bool) :
      ∃ store, (transEffect desc bRead d).link = { d with store := store }.link := by
    unfold transEffect
    dsimp only
    split_ifs <;> exact ⟨d.store, rfl⟩
  unfold commandEffect
  split_ifs
  · exact ⟨_, rfl⟩
  · exact ⟨_, rfl⟩
  · exact hstay
  · exact ⟨_, rfl⟩
  · exact htrans true
  · exact htrans false
  · exact hstay

theorem link_cbwEffect (desc : LunDesc) (card : CardAnswer) (n : Nat) (d : Dev) :
    ∃ store, (cbwEffect desc card n d).link = { d with store := store }.link := by
  unfold cbwEffect
  dsimp only
  split_ifs
  · exact ⟨d.store, rfl⟩
  · exact ⟨d.store, rfl⟩
  · exact link_commandEffect desc card _

/-- A completed transfer leaves the connection alone, whatever command it brought. -/
theorem link_transferEffect (desc : LunDesc) (card : CardAnswer) (e : Ep) (next : TransNext)
    (d : Dev) : ∃ store, (transferEffect desc card e next d).link = { d with store := store }.link := by
  have hreleased (job : UddEpJob) (store : Store) :
      { released e job d with store := store }.link = { d with store := store }.link := by
    cases e <;> rfl
  unfold transferEffect
  cases next with
  | again job size => exact ⟨d.store, rfl⟩
  | complete job =>
      cases hcb : job.call with
      | none =>
          simp only [hcb]
          exact ⟨d.store, rfl⟩
      | some cb =>
          simp only [hcb]
          unfold completionEffect
          split_ifs
          · obtain ⟨store, hstore⟩ := link_cbwEffect desc card job.nbTrans (released e job d)
            exact ⟨store, hstore.trans (hreleased job store)⟩
          · refine ⟨d.store, ?_⟩
            cases e <;> rfl

/-- The enable flag, the attachment and the invariant after a completed transfer. -/
theorem bound_of_link_store {d d' : Dev} (h : ∃ store, d'.link = { d with store := store }.link)
    (hb : Bound d) :
    Bound d' ∧ d'.app.mainBMscEnable = d.app.mainBMscEnable
      ∧ d'.bus.attached = d.bus.attached := by
  obtain ⟨store, hlink⟩ := h
  refine ⟨Bound.of_link hlink ⟨hb.both, hb.flag, hb.configuration, hb.nbLun⟩, ?_, ?_⟩
  · rw [app_of_link hlink]
  · rw [bus_of_link hlink]

/-- `udc_reset` ends with the interface disabled. -/
theorem resetEffect_bound {d : Dev} (hb : Bound d) :
    Bound (resetEffect d) ∧ (resetEffect d).app.mainBMscEnable = false
      ∧ (resetEffect d).bus.attached = d.bus.attached := by
  obtain ⟨hinn, hout⟩ := resetEffect_unconfigured hb
  have hflag : (resetEffect d).app.mainBMscEnable = false := by
    unfold resetEffect
    by_cases hconf : d.bus.udcNumConfiguration = 0
    · have hnone : d.inn.configured = false := by
        by_contra hne
        exact hb.configuration (Bool.eq_true_of_not_eq_false hne) hconf
      rw [if_neg (not_not_intro hconf)]
      exact hb.flag.trans hnone
    · rw [if_pos hconf]
      rfl
  refine ⟨⟨?_, ?_, ?_, ?_⟩, hflag, ?_⟩
  · rw [hinn, hout]
  · rw [hflag, hinn]
  · rw [hinn]
    exact nofun
  · unfold resetEffect
    split_ifs <;> exact hb.nbLun
  · unfold resetEffect
    split_ifs <;> rfl

theorem setupEffect_bound (desc : LunDesc) {action : SetupAction} {d : Dev} (hb : Bound d)
    (hiface : ∀ n, action = .interface n → d.bus.udcNumConfiguration ≠ 0) :
    Bound (action.effect desc d)
      ∧ (action.effect desc d).app.mainBMscEnable =
        (action.enables || !action.disables && d.app.mainBMscEnable)
      ∧ (action.effect desc d).bus.attached = d.bus.attached := by
  cases action with
  | none | address _ | clearHalt _ | setHalt _ | bulkReset =>
      exact ⟨⟨hb.both, hb.flag, hb.configuration, hb.nbLun⟩, rfl, rfl⟩
  | configuration n =>
      obtain ⟨hreset, hflag, hattached⟩ := resetEffect_bound hb
      obtain ⟨hinn, hout⟩ := resetEffect_unconfigured hb
      change Bound (configurationEffect desc n d) ∧ _
      simp only [SetupAction.effect, SetupAction.enables, SetupAction.disables,
        configurationEffect]
      by_cases hn : n = 0
      · subst hn
        refine ⟨⟨hreset.both, hreset.flag, ?_, hreset.nbLun⟩, ?_, ?_⟩
        · intro hconf
          rw [if_pos rfl] at hconf
          exact absurd (hinn.symm.trans hconf) Bool.false_ne_true
        · rw [if_pos rfl]
          exact hflag
        · rw [if_pos rfl]
          exact hattached
      · rw [if_neg hn]
        have hne : (n != 0) = true := bne_iff_ne.mpr hn
        refine ⟨⟨rfl, rfl, fun _ => hn, rfl⟩, ?_, hattached⟩
        rw [hne]
        rfl
  | interface settingNum =>
      have hconf := hiface settingNum rfl
      simp only [SetupAction.effect, SetupAction.enables, SetupAction.disables, interfaceEffect]
      by_cases hn : settingNum = 0
      · subst hn
        rw [if_pos rfl]
        exact ⟨⟨rfl, rfl, fun _ => hconf, rfl⟩, rfl, rfl⟩
      · rw [if_neg hn]
        have heq : (settingNum == 0) = false := beq_false_of_ne hn
        have hne : (settingNum != 0) = true := bne_iff_ne.mpr hn
        refine ⟨⟨rfl, rfl, nofun, hb.nbLun⟩, ?_, rfl⟩
        rw [heq, hne]
        rfl

theorem usbEp0OnTransferOk_frame (more : Bool) (d : Dev) :
    ∃ address state, usbEp0OnTransferOk more d =
      { d with bus := { d.bus with address := address, ctrlState := state } } := by
  unfold usbEp0OnTransferOk
  split_ifs
  · exact ⟨d.bus.address, d.bus.ctrlState, rfl⟩
  · exact ⟨d.bus.address, .handshakeWaitOutZlp, rfl⟩
  · unfold udcValidAddress
    cases d.bus.addressCallback with
    | none => exact ⟨d.bus.address, .setup, rfl⟩
    | some wValue => exact ⟨wValue.setWidth 7, .setup, rfl⟩

theorem usbEp0OnTransferFail_frame (dirIn : Bool) (d : Dev) :
    ∃ state, usbEp0OnTransferFail dirIn d =
      { d with bus := { d.bus with ctrlState := state } } := by
  unfold usbEp0OnTransferFail
  split_ifs
  · exact ⟨.handshakeWaitOutZlp, rfl⟩
  · exact ⟨d.bus.ctrlState, rfl⟩

/-- The interrupt concerns the bulk endpoints or the configuration. -/
def Irq.concernsBulk : Irq → Bool
  | .busReset | .setup _ | .transferIn _ | .transferOut _ _ _ => true
  | _ => false

/-- **The other interrupts leave the transfers alone**: of the connection they change the attachment. -/
theorem serveIrq_frame (desc : LunDesc) (irq : Irq) (d : Dev) (h : irq.concernsBulk = false) :
    ∃ port address state sleep, serveIrq desc irq d =
      { d with
        app := { d.app with port := port }
        bus := { d.bus with
          attached := attachedAfter irq d
          address := address
          ctrlState := state }
        sleep := sleep } := by
  cases irq with
  | vbus high => cases high <;> exact ⟨_, _, _, _, rfl⟩
  | suspend | wakeup => exact ⟨_, _, _, _, rfl⟩
  | sof framenumber =>
      change ∃ port address state sleep, usbOnSofNotify framenumber d = _
      unfold usbOnSofNotify
      split_ifs
      · exact ⟨_, _, _, _, rfl⟩
      · exact ⟨d.app.port, d.bus.address, d.bus.ctrlState, d.sleep, rfl⟩
  | ep0TransferOk more =>
      obtain ⟨address, state, hframe⟩ := usbEp0OnTransferOk_frame more d
      exact ⟨d.app.port, address, state, d.sleep, hframe⟩
  | ep0TransferFail dirIn =>
      obtain ⟨state, hframe⟩ := usbEp0OnTransferFail_frame dirIn d
      exact ⟨d.app.port, d.bus.address, state, d.sleep, hframe⟩
  | busReset | setup r | transferIn card | transferOut received cbw card =>
      exact absurd h nofun

/-- **What one interrupt does to the connection.** -/
theorem connection_serveIrq (desc : LunDesc) (irq : Irq) {d : Dev} (hb : Bound d) :
    Bound (serveIrq desc irq d)
      ∧ (serveIrq desc irq d).app.mainBMscEnable = flagAfter irq d
      ∧ (serveIrq desc irq d).bus.attached = attachedAfter irq d := by
  have hforget := forgetCtrl_serveIrq desc irq (beginSetup_bound hb)
  have hother (h : irq.concernsBulk = false) : Bound (serveIrq desc irq d)
      ∧ (serveIrq desc irq d).app.mainBMscEnable = flagAfter irq d
      ∧ (serveIrq desc irq d).bus.attached = attachedAfter irq d := by
    have hflag : flagAfter irq d = d.app.mainBMscEnable := by
      cases irq <;> first | rfl | exact absurd h nofun
    obtain ⟨port, address, state, sleep, hframe⟩ := serveIrq_frame desc irq d h
    rw [hframe, hflag]
    exact ⟨⟨hb.both, hb.flag, hb.configuration, hb.nbLun⟩, rfl, rfl⟩
  -- The effect of an interrupt differs from serving it in the control endpoint alone.
  suffices h : Bound (irqEffect desc irq d)
      ∧ (irqEffect desc irq d).app.mainBMscEnable = flagAfter irq d
      ∧ (irqEffect desc irq d).bus.attached = attachedAfter irq d by
    obtain ⟨hbound, hflag, hattached⟩ := h
    refine ⟨hbound.of_forgetCtrl hforget, ?_, ?_⟩
    · rw [app_of_forgetCtrl hforget, hflag]
    · rw [attached_of_forgetCtrl hforget, hattached]
  cases irq with
  | busReset =>
      obtain ⟨hreset, hflag, hattached⟩ := resetEffect_bound hb
      exact ⟨⟨hreset.both, hreset.flag, hreset.configuration, hreset.nbLun⟩, hflag, hattached⟩
  | setup r =>
      obtain ⟨address, hframe⟩ := beginSetup_frame d
      have happ : (beginSetup d).app = d.app := by rw [hframe]
      have hbus : (beginSetup d).bus.attached = d.bus.attached := by rw [hframe]
      obtain ⟨hbound, hflag, hattached⟩ := setupEffect_bound desc (beginSetup_bound hb)
        (fun n h => configured_of_interface h)
      refine ⟨hbound, hflag.trans ?_, hattached.trans hbus⟩
      rw [happ]
      rfl
  | transferIn card =>
      change Bound (ite _ _ _ : Dev) ∧ (ite _ _ _ : Dev).app.mainBMscEnable = _
        ∧ (ite _ _ _ : Dev).bus.attached = _
      split_ifs
      · exact bound_of_link_store (link_transferEffect desc card .inn _ d) hb
      · exact ⟨hb, rfl, rfl⟩
  | transferOut received cbw card =>
      change Bound (ite _ _ _ : Dev) ∧ (ite _ _ _ : Dev).app.mainBMscEnable = _
        ∧ (ite _ _ _ : Dev).bus.attached = _
      have hstored : (storeReceived cbw d).link = d.link := by
        unfold storeReceived
        split_ifs <;> rfl
      split_ifs
      · obtain ⟨hbound, hflag, hattached⟩ := bound_of_link_store
          (link_transferEffect desc card .out _ (storeReceived cbw d)) (hb.of_link hstored)
        refine ⟨hbound, hflag.trans ?_, hattached.trans ?_⟩
        · rw [app_of_link hstored]
          rfl
        · rw [bus_of_link hstored]
          rfl
      · exact ⟨hb, rfl, rfl⟩
  | vbus _ | suspend | wakeup | sof _ | ep0TransferOk _ | ep0TransferFail _ => exact hother rfl

/-! ## Runs -/

/-- **The flag goes with the endpoints.**  Every step keeps `Bound`. -/
theorem bound_step (desc : LunDesc) (s : Sys) (l : Label) (hb : Bound s.dev) :
    Bound (step desc s l).dev :=
  dev_invariant Bound (fun _ _ hlink hb => hb.of_link hlink)
    (fun irq _ hb => (connection_serveIrq desc irq hb).1) s l hb

theorem bound_boot (vbusHigh : Bool) : Bound (boot vbusHigh).dev := by
  cases vbusHigh <;> exact ⟨rfl, rfl, nofun, rfl⟩

theorem bound_run (desc : LunDesc) (vbusHigh : Bool) (ls : List Label) :
    Bound (run (step desc) (boot vbusHigh) ls).dev :=
  invariant_run_all (fun s l => bound_step desc s l) (bound_boot vbusHigh) ls

/-- The flag and the attachment are only changed by interrupts. -/
theorem connection_step (desc : LunDesc) (s : Sys) (l : Label) (hb : Bound s.dev) :
    (step desc s l).dev.app.mainBMscEnable =
        (if l = .serve then s.served.elim s.dev.app.mainBMscEnable (flagAfter · s.dev)
          else s.dev.app.mainBMscEnable)
      ∧ (step desc s l).dev.bus.attached =
        (if l = .serve then s.served.elim s.dev.bus.attached (attachedAfter · s.dev)
          else s.dev.bus.attached) := by
  rw [step_dev]
  cases l with
  | main answer =>
      have hlink := link_mainStep answer s
      exact ⟨by rw [app_of_link hlink]; rfl, by rw [bus_of_link hlink]; rfl⟩
  | raise irq => exact ⟨rfl, rfl⟩
  | serve =>
      cases s.served with
      | none => exact ⟨rfl, rfl⟩
      | some irq => exact (connection_serveIrq desc irq hb).2

/-- The step keeps the flag and the connection together: VBUS is not lost while the flag is set, and
no request sets the flag while the device is detached. -/
def KeepsTrack (s : Sys) (l : Label) : Prop :=
  l = .serve → ∀ irq ∈ s.served,
    (irq = .vbus false → s.dev.app.mainBMscEnable = false) ∧
      ∀ r, irq = .setup r → (setupAction r (beginSetup s.dev)).enables = true →
        s.dev.bus.attached = true

/-- Under the invariant only the attachment is left to go wrong. -/
theorem tracks_iff_attached {s : Sys} (hb : Bound s.dev) :
    Tracks s ↔ (s.dev.app.mainBMscEnable = true → s.dev.bus.attached = true) := by
  unfold Tracks
  constructor
  · intro h hflag
    exact (h.mp hflag).1
  · intro h
    constructor
    · intro hflag
      have hinn : s.dev.inn.configured = true := hb.flag.symm.trans hflag
      exact ⟨h hflag, hb.configuration hinn, hinn, hb.both.trans hinn⟩
    · rintro ⟨-, -, hinn, -⟩
      exact hb.flag.trans hinn

/-- One interrupt from a state that tracks. -/
theorem tracks_serve_iff (irq : Irq) {d : Dev}
    (htracks : d.app.mainBMscEnable = true → d.bus.attached = true) :
    (flagAfter irq d = true → attachedAfter irq d = true) ↔
      (irq = .vbus false → d.app.mainBMscEnable = false) ∧
        ∀ r, irq = .setup r → (setupAction r (beginSetup d)).enables = true →
          d.bus.attached = true := by
  cases irq with
  | vbus high =>
      cases high with
      | true => exact ⟨fun _ => ⟨nofun, nofun⟩, fun _ _ => rfl⟩
      | false =>
          constructor
          · intro h
            exact ⟨fun _ => Bool.eq_false_of_not_eq_true fun hflag => absurd (h hflag) nofun, nofun⟩
          · rintro ⟨h, -⟩ hflag
            exact absurd ((h rfl).symm.trans hflag) Bool.false_ne_true
  | setup r =>
      simp only [flagAfter, attachedAfter, reduceCtorEq, IsEmpty.forall_iff, true_and,
        Irq.setup.injEq, Bool.or_eq_true, Bool.and_eq_true]
      constructor
      · rintro h _ rfl henables
        exact h (.inl henables)
      · rintro h (henables | ⟨-, hflag⟩)
        · exact h r rfl henables
        · exact htracks hflag
  | busReset => exact ⟨fun _ => ⟨nofun, nofun⟩, fun _ => nofun⟩
  | _ => exact ⟨fun _ => ⟨nofun, nofun⟩, fun _ => htracks⟩

theorem tracks_step_iff (desc : LunDesc) (s : Sys) (l : Label) (hb : Bound s.dev)
    (htracks : Tracks s) : Tracks (step desc s l) ↔ KeepsTrack s l := by
  obtain ⟨hflag, hattached⟩ := connection_step desc s l hb
  rw [tracks_iff_attached hb] at htracks
  rw [tracks_iff_attached (bound_step desc s l hb), hflag, hattached, KeepsTrack]
  by_cases hserve : l = .serve
  · simp only [hserve, if_true, true_imp_iff]
    cases s.served with
    | none => exact ⟨fun _ => nofun, fun _ => htracks⟩
    | some irq =>
        rw [Option.elim_some, Option.elim_some, tracks_serve_iff irq htracks]
        exact ⟨fun h _ hirq => Option.some.inj hirq ▸ h, fun h => h irq rfl⟩
  · rw [if_neg hserve, if_neg hserve]
    exact ⟨fun _ h => absurd h hserve, fun _ => htracks⟩

theorem tracks_boot (vbusHigh : Bool) : Tracks (boot vbusHigh) := by
  rw [tracks_iff_attached (bound_boot vbusHigh)]
  cases vbusHigh <;> exact nofun

/-- **When the flag tracks the connection.**  A run keeps the flag equal to the live connection in
every state iff VBUS is never lost while the flag is set and no request sets it while the device is
detached. -/
theorem tracks_iff_keepsTrack (vbusHigh : Bool) (ls : List Label) :
    EveryState (step lunDesc) Tracks (boot vbusHigh) ls ↔
      EveryStep (step lunDesc) KeepsTrack (boot vbusHigh) ls :=
  everyState_iff_everyStep (fun s l => bound_step lunDesc s l)
    (fun s l => tracks_step_iff lunDesc s l) (bound_boot vbusHigh) (tracks_boot vbusHigh)

/-- Serve a sequence of interrupts, each as it is raised. -/
def serveAll (irqs : List Irq) : List Label :=
  irqs.flatMap fun irq => [.raise irq, .serve]

/-- The host resets the bus, gives the device an address and selects its configuration. -/
def enumeration : List Irq :=
  [.busReset, .setup ⟨0x00, 5, 1, 0, 0, rfl⟩, .ep0TransferOk false, .setup ⟨0x00, 9, 1, 0, 0, rfl⟩,
    .ep0TransferOk false]

/-- Unplugging an enabled device leaves the flag set. -/
theorem vbus_loss_keeps_flag :
    ¬ ∀ (vbusHigh : Bool) (ls : List Label),
      EveryState (step lunDesc) Tracks (boot vbusHigh) ls := by
  intro hall
  have hlast := hall true (serveAll (enumeration ++ [.vbus false])) _ (List.prefix_refl _)
  exact absurd (hlast.mp (by decide)).1 (by decide)

end Firmware
end SoundingSoil
