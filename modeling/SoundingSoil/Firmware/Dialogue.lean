import SoundingSoil.Firmware.Exclusive
import SoundingSoil.Firmware.StatusPhase
import SoundingSoil.Firmware.Transfers

/-!
# Every CSW answers a CBW

The host pairs a CSW with its CBW by the tag, and learns from the residue how many bytes of the data phase it
must not count.  `watchDialogue` is an observer of the firmware that remembers the accepted CBW whose CSW is
still to come, and what the firmware has counted for it: the bytes of a short answer that went out, and 512
for each sector that `udi_msc_trans_block` passed.  It does not look at the packets of a sector: when the host
ends one with a short packet the code counts it whole.

* `Talks` — no CBW, no status phase; the blocks of the class driver are those of the remembered CBW; the
  residue and the bytes that were counted make up its length.
* **`talks_step`** — every step keeps it, if it brings no request that `SparesTransfer` leaves out.
* **`answered_of_sparesTransfer`** — in a run without such requests every CSW answers an accepted CBW, once,
  with its tag and with the residue that the count leaves.
-/

namespace SoundingSoil
namespace Firmware

open Support Endpoint

/-! ## The observer -/

/-- The accepted CBW whose CSW is still to come, and the bytes that were counted for it. -/
structure Dialogue where
  command : Option UsbMscCbw
  counted : Nat

/-- The job of the transfer that the interrupt ends. -/
def Irq.ended (irq : Irq) (d : Dev) : Option UddEpJob :=
  let next :=
    match irq with
    | .transferIn _ => if d.inn.running then some (uddEpTransInNext d.inn.hwSize d.inn.job) else none
    | .transferOut received _ _ =>
        if d.out.running then some (uddEpTransOutNext received d.out.hwSize d.out.job) else none
    | _ => none
  match next with
  | some (.complete job) => some job
  | _ => none

/-- The interrupt ends the emission of a CSW. -/
def Irq.sendsCsw (irq : Irq) (d : Dev) : Bool :=
  irq.ended d |>.any fun job => job.call == some .cswSent

/-- The CBW that the interrupt brings, when `udi_msc_cbw_received` accepts it. -/
def Irq.acceptedCbw (irq : Irq) (d : Dev) : Option UsbMscCbw :=
  match irq with
  | .transferOut _ cbw _ =>
      let d' := storeReceived cbw d
      (irq.ended d).bind fun job =>
        if job.call = some .cbwReceived ∧ d'.msc.cbwIntact job.nbTrans then some d'.msc.cbw else none
  | _ => none

/-- The bytes of a short answer that the interrupt ends. -/
def Irq.answered (irq : Irq) (d : Dev) : Nat :=
  (irq.ended d).elim 0 fun job => if job.call = some .dataSent then job.nbTrans else 0

/-- Note what an interrupt does to the dialogue. -/
def Dialogue.irq (irq : Irq) (d : Dev) (g : Dialogue) : Dialogue :=
  match irq.acceptedCbw d with
  | some cbw => ⟨some cbw, 0⟩
  | none =>
      if irq.sendsCsw d then { g with command := none } else { g with counted := g.counted + irq.answered d }

/-- Note what a step does to the dialogue.  A sector is counted where `udi_msc_trans_block` has found it
acknowledged and not aborted, as a whole one. -/
def watchDialogue (g : Dialogue) (s : Sys) (l : Label) : Dialogue :=
  match l with
  | .main _ =>
      match s.pc with
      | .memory (.residue _) => { g with counted := g.counted + 512 }
      | _ => g
  | .raise _ => g
  | .serve => s.served.elim g fun irq => g.irq irq s.dev

/-- A CSW that is sent answers the CBW that waits for it: with its tag, and with the bytes of its length that
were not counted, unless it was for a logical unit that does not exist. -/
def Answered (p : Sys × Dialogue) (l : Label) : Prop :=
  l = .serve → ∀ irq ∈ p.1.served, irq.sendsCsw p.1.dev = true →
    ∃ cbw, p.2.command = some cbw ∧ p.1.dev.msc.csw.dCSWTag = cbw.dCBWTag ∧
      (cbw.bCBWLUN &&& 0x0F = 0 →
        p.1.dev.msc.csw.dCSWDataResidue.toNat + p.2.counted = cbw.dCBWDataTransferLength.toNat)

/-! ## The invariant -/

/-- The CSW of the main loop has its tag. -/
def Pc.tagged : Pc → Bool
  | .run _ .csw | .stallBusy | .stallHalted | .stallConfigured | .stallClaim | .stallCall => true
  | _ => false

/-- The blocks of the class driver are those of the command, of which so many bytes were counted. -/
structure Concerns (cbw : UsbMscCbw) (counted : Nat) (b : Blocks) : Prop where
  tag : b.cbw.dCBWTag = cbw.dCBWTag
  length : cbw.bCBWLUN &&& 0x0F = 0 →
    b.csw.dCSWDataResidue.toNat + counted = cbw.dCBWDataTransferLength.toNat

theorem owner_of_tagged {pc : Pc} (h : pc.tagged = true) (m : Msc) : pc.owner m = true := by
  cases pc with
  | run stage r => rfl
  | stallBusy | stallHalted | stallConfigured | stallClaim | stallCall => rfl
  | _ => exact Bool.noConfusion h

/-- A command is being executed, by the main loop or by the interrupts. -/
def Sys.Active (s : Sys) : Prop :=
  s.pc.owner s.dev.msc = true ∨ s.dev.Active

/-- No CBW, no command; a command has the blocks of its CBW, and a status phase is that of the command. -/
structure Talks (s : Sys) (g : Dialogue) : Prop where
  quiet : g.command = none → ¬ s.Active
  concerns : ∀ cbw, g.command = some cbw → s.dev.inn.configured = true → s.Active →
    Concerns cbw g.counted s.dev.blocks
  tagged : s.dev.inn.configured = true → s.pc.tagged = true → s.dev.Tagged
  status : s.dev.inn.configured = true → s.pc.owner s.dev.msc = false → s.dev.inn.status →
    s.dev.Announces ∨ s.dev.Tagged
  data : s.dev.inn.configured = true → s.pc.owner s.dev.msc = false → s.dev.inn.answering → s.dev.Announces

/-! ## The main loop outside of its turn -/

/-- Neither the IN endpoint, nor the blocks, nor the request is touched, and the main loop takes nothing but
a request. -/
structure Idles (s s' : Sys) : Prop where
  inn : s'.dev.inn = s.dev.inn
  blocks : s'.dev.blocks = s.dev.blocks
  req : s'.dev.msc.bTransReq = s.dev.msc.bTransReq
  owner : s'.pc.owner s'.dev.msc = true → s'.pc.tagged = false ∧ s.dev.msc.bTransReq = true

theorem idles_mainStep (answer : SdMmcErr) {s : Sys} (howner : s.pc.owner s.dev.msc = false) :
    Idles s (mainStep answer s) := by
  have hstay {s' : Sys} (hdev : s'.dev = s.dev) (hpc : s'.pc.owner s'.dev.msc = false) : Idles s s' := by
    refine ⟨?_, ?_, ?_, fun hown => absurd (hpc.symm.trans hown) Bool.noConfusion⟩ <;> rw [hdev]
  cases hpc : s.pc with
  | loop | chooseMode | wfi =>
      simp only [mainStep, hpc]
      split_ifs <;> exact hstay rfl rfl
  | testReq =>
      simp only [mainStep, hpc]
      split_ifs with hreq
      · exact ⟨rfl, rfl, rfl, fun _ => ⟨rfl, hreq⟩⟩
      · exact hstay rfl rfl
  | resetTest status =>
      rw [hpc] at howner
      simp only [mainStep, hpc]
      rw [if_pos (reset_of_owner howner)]
      exact hstay rfl rfl
  | resetAck =>
      simp only [mainStep, hpc]
      exact ⟨rfl, rfl, rfl, fun hown => Bool.noConfusion hown⟩
  | irqDisable | setMode mode | irqEnable | dsb =>
      simp only [mainStep, hpc]
      exact hstay rfl rfl
  | asleep =>
      simp only [mainStep, hpc]
      exact hstay rfl howner
  | _ =>
      rw [hpc] at howner
      exact Bool.noConfusion howner

/-- Where the turn of the main loop ends: after its CSW has a tag, or after a reset. -/
structure Leaves (s s' : Sys) : Prop where
  tagged : s'.pc.tagged = true → s.pc = .cswTag ∨ s.pc.tagged = true
  free : s'.pc.owner s'.dev.msc = false →
    s.pc.tagged = true ∨ s.pc.started = true ∧ s.dev.msc.bResetTrans = true

/-- A step of a transfer keeps the turn, unless a reset is noted. -/
theorem owner_next (answer : SdMmcErr) (m : Msc) (p : MemoryPc) :
    ((p.next answer m).owner (p.after m) = true ∨ m.bResetTrans = true) ∧
      (p.next answer m).tagged = false := by
  have hsplit {c : Prop} [Decidable c] (p p' : MemoryPc) (m' : Msc) :
      (if c then Pc.memory p else .memory p').owner m' = true ∧
        (if c then Pc.memory p else .memory p').tagged = false := by
    split_ifs <;> exact ⟨rfl, rfl⟩
  cases p with
  | ackClear t | runDenied t | residue t | blockFailed t => exact ⟨Or.inl rfl, rfl⟩
  | exit status =>
      refine ⟨?_, rfl⟩
      cases hreset : m.bResetTrans with
      | true => exact Or.inr rfl
      | false => exact Or.inl (congrArg not hreset)
  | _ => exact ⟨Or.inl (hsplit _ _ _).1, (hsplit _ _ m).2⟩

theorem leaves_mainStep (answer : SdMmcErr) {s : Sys} (howner : s.pc.owner s.dev.msc = true) :
    Leaves s (mainStep answer s) := by
  have hstay {s' : Sys} (htagged : s'.pc.tagged = false) (hpc : s'.pc.owner s'.dev.msc = true) : Leaves s s' :=
    ⟨fun h => absurd (htagged.symm.trans h) Bool.noConfusion,
      fun h => absurd (hpc.symm.trans h) Bool.noConfusion⟩
  have hown {s' : Sys} (h : s.pc.tagged = true) : Leaves s s' := ⟨fun _ => Or.inr h, fun _ => Or.inl h⟩
  cases hpc : s.pc with
  | memory p =>
      rw [mainStep_memory answer hpc]
      obtain ⟨howns, htagged⟩ := owner_next answer s.dev.msc p
      refine ⟨fun h => absurd (htagged.symm.trans h) Bool.noConfusion, fun hfree => Or.inr ⟨?_, ?_⟩⟩
      · rw [hpc]
        rfl
      · exact howns.resolve_left fun hown => Bool.noConfusion (hfree.symm.trans hown)
  | run stage r =>
      cases r with
      | csw => exact hown (by rw [hpc]; rfl)
      | block t =>
          simp only [mainStep, hpc]
          rcases pc_runStep stage (.block t) s with hnext | hnext | ⟨stage', hnext⟩ <;>
            exact hstay (by rw [hnext]; rfl) (by rw [hnext]; rfl)
  | stallBusy | stallHalted | stallConfigured | stallClaim | stallCall =>
      exact hown (by rw [hpc]; rfl)
  | cswTag => exact ⟨fun _ => Or.inl hpc, fun h => by simp only [mainStep, hpc] at h; exact Bool.noConfusion h⟩
  | resetTest status =>
      simp only [mainStep, hpc]
      split_ifs with hreset
      · exact ⟨fun h => Bool.noConfusion h, fun _ => Or.inr ⟨by rw [hpc]; rfl, hreset⟩⟩
      · exact hstay rfl rfl
  | sense stage status =>
      simp only [mainStep, hpc]
      have htagged : (stage.next status).tagged = false := by
        rcases next_sense stage status with ⟨stage', hnext⟩ | hnext <;> rw [hnext] <;> rfl
      exact hstay htagged (owner_next_sense stage status _)
  | cswResidue =>
      simp only [mainStep, hpc]
      cases s.dev.msc.residueEp <;> exact hstay rfl rfl
  | haltBusy e =>
      simp only [mainStep, hpc]
      split_ifs <;> exact hstay rfl rfl
  | clearReq | clearReset | readDirection | readArguments read | haltSet e | haltAbort e
  | haltCall e =>
      simp only [mainStep, hpc]
      exact hstay rfl rfl
  | _ =>
      rw [hpc] at howner
      exact Bool.noConfusion howner

/-- A step of the main loop outside of its turn. -/
theorem talks_freeStep (answer : SdMmcErr) {s : Sys} {g : Dialogue} (h : Talks s g)
    (howner : s.pc.owner s.dev.msc = false) : Talks (mainStep answer s) g := by
  have hidles := idles_mainStep answer howner
  have hactive : (mainStep answer s).Active → s.Active := by
    rintro (howner' | hstatus | hreq)
    · exact Or.inr (Or.inr (hidles.owner howner').2)
    · rw [hidles.inn] at hstatus
      exact Or.inr (Or.inl hstatus)
    · exact Or.inr (Or.inr (hidles.req.symm.trans hreq))
  have hcsw : (mainStep answer s).dev.msc.csw = s.dev.msc.csw := congrArg Blocks.csw hidles.blocks
  have hcbw : (mainStep answer s).dev.msc.cbw = s.dev.msc.cbw := congrArg Blocks.cbw hidles.blocks
  refine ⟨fun hnone hact => h.quiet hnone (hactive hact), ?_, ?_, ?_, ?_⟩
  · intro cbw hcommand hconf hact
    rw [hidles.inn] at hconf
    rw [hidles.blocks]
    exact h.concerns cbw hcommand hconf (hactive hact)
  · intro _ htagged
    have hown := owner_of_tagged htagged (mainStep answer s).dev.msc
    exact absurd ((hidles.owner hown).1.symm.trans htagged) Bool.noConfusion
  · intro hconf _ hstatus
    rw [hidles.inn] at hconf hstatus
    unfold Dev.Announces Dev.Tagged
    rw [hidles.inn, hcsw, hcbw]
    exact h.status hconf howner hstatus
  · intro hconf _ hdata
    rw [hidles.inn] at hconf hdata
    unfold Dev.Announces
    rw [hidles.inn, hcsw]
    exact h.data hconf howner hdata

/-- The residue and the counted sectors. -/
theorem concerns_mainStep {cbw : UsbMscCbw} {g : Dialogue} {s : Sys} (answer : SdMmcErr)
    (hbudget : s.pc.Budget s.dev.msc) (h : Concerns cbw g.counted s.dev.blocks) :
    Concerns cbw (watchDialogue g s (.main answer)).counted (mainStep answer s).dev.blocks := by
  rw [blocks_mainStep]
  unfold watchDialogue
  cases hpc : s.pc with
  | memory p =>
      cases p with
      | residue t =>
          rw [hpc] at hbudget
          obtain ⟨htransfers, howes⟩ := hbudget
          rw [Transfer.blocks_of_transfers htransfers] at howes
          have hlength := howes.length
          have hle : (512 : BitVec 32) ≤ s.dev.msc.csw.dCSWDataResidue := by
            have hsize : (512 : BitVec 32).toNat = 512 := rfl
            rw [BitVec.le_def]
            omega
          have hsub : (s.dev.msc.csw.dCSWDataResidue - 512).toNat = s.dev.msc.csw.dCSWDataResidue.toNat - 512 :=
            BitVec.toNat_sub_of_le hle
          refine ⟨h.tag, fun hlun => ?_⟩
          have hbefore : s.dev.msc.csw.dCSWDataResidue.toNat + g.counted =
              cbw.dCBWDataTransferLength.toNat := h.length hlun
          change (s.dev.msc.csw.dCSWDataResidue - 512).toNat + (g.counted + 512) = _
          omega
      | _ => exact h
  | sense stage status => cases stage <;> exact ⟨h.tag, h.length⟩
  | cswTag => exact ⟨h.tag, h.length⟩
  | _ => exact h

theorem tagged_mainBlocks {pc : Pc} {b : Blocks} (h : pc.tagged = true) : mainBlocks pc b = b := by
  cases pc with
  | run stage r => rfl
  | stallBusy | stallHalted | stallConfigured | stallClaim | stallCall => rfl
  | _ => exact Bool.noConfusion h

theorem command_watch_main (g : Dialogue) (s : Sys) (answer : SdMmcErr) :
    (watchDialogue g s (.main answer)).command = g.command := by
  unfold watchDialogue
  dsimp only
  split <;> rfl

/-- The main loop hands its CSW over, and no data. -/
theorem not_answering_leave (answer : SdMmcErr) {s : Sys} (h : Live s.pc s.dev)
    (howner : s.pc.owner s.dev.msc = true)
    (hfree : (mainStep answer s).pc.owner (mainStep answer s).dev.msc = false) : ¬ (mainStep answer s).dev.inn.answering := by
  have hbefore : ¬ s.dev.inn.answering := fun hdata => h.due .inn (Or.inl ⟨hdata.1, Or.inl hdata.2⟩)
  rcases (leaves_mainStep answer howner).free hfree with htagged | ⟨hstarted, hreset⟩
  · cases hpc : s.pc with
    | run stage r =>
        cases r with
        | block t =>
            rw [hpc] at htagged
            exact Bool.noConfusion htagged
        | csw =>
            simp only [mainStep, hpc] at hfree ⊢
            cases stage with
            | start =>
                have hstage := h.stage
                rw [hpc] at hstage
                have hcall : s.dev.inn.job.call = some .cswSent := hstage.1
                change ¬ (uddEpRunStart .inn s.dev).2.inn.answering
                rw [uddEpRunStart_eq]
                exact not_answering ((call_start .inn s.dev.inn).trans hcall) Callback.noConfusion
            | halted =>
                unfold runStep at hfree
                split_ifs at hfree <;> exact Bool.noConfusion hfree
            | claim =>
                unfold runStep at hfree
                dsimp only at hfree
                split_ifs at hfree <;> exact Bool.noConfusion hfree
            | buffer | callback | flags => exact Bool.noConfusion hfree
    | stallBusy | stallHalted | stallConfigured =>
        simp only [mainStep, hpc]
        split_ifs <;> exact hbefore
    | stallClaim =>
        simp only [mainStep, hpc] at hfree
        exact Bool.noConfusion hfree
    | stallCall =>
        simp only [mainStep, hpc]
        exact not_answering rfl Callback.noConfusion
    | _ =>
        rw [hpc] at htagged
        exact Bool.noConfusion htagged
  · exact absurd (h.reset hstarted) (ne_false_of_eq_true hreset)

/-- A step of the main loop in its turn. -/
theorem talks_ownStep (answer : SdMmcErr) {s : Sys} {g : Dialogue} (h : Talks s g) (hown : OwnTurn s.pc s.dev)
    (howner : s.pc.owner s.dev.msc = true) : Talks (mainStep answer s) (watchDialogue g s (.main answer)) := by
  have hkept : (mainStep answer s).dev.inn.configured = s.dev.inn.configured :=
    configured_of_link (link_mainStep answer s) .inn
  have hleaves := leaves_mainStep answer howner
  have hactive : s.Active := Or.inl howner
  have htag (htagged : s.pc.tagged = true) (hconf : s.dev.inn.configured = true) :
      (mainStep answer s).dev.Tagged := by
    have hblocks := blocks_mainStep answer s
    rw [tagged_mainBlocks htagged] at hblocks
    exact (tagged_congr hblocks).mpr (h.tagged hconf htagged)
  refine ⟨fun hnone => ?_, ?_, ?_, ?_, ?_⟩
  · rw [command_watch_main] at hnone
    exact absurd hactive (h.quiet hnone)
  · intro cbw hcommand hconf _
    rw [command_watch_main] at hcommand
    rw [hkept] at hconf
    exact concerns_mainStep answer (hown.live hconf).budget (h.concerns cbw hcommand hconf hactive)
  · intro hconf htagged
    rw [hkept] at hconf
    rcases hleaves.tagged htagged with hpc | hbefore
    · have hblocks := blocks_mainStep answer s
      rw [hpc] at hblocks
      exact tagged_of_blocks hblocks
    · exact htag hbefore hconf
  · intro hconf hfree _
    rw [hkept] at hconf
    rcases hleaves.free hfree with hbefore | ⟨hstarted, hreset⟩
    · exact Or.inr (htag hbefore hconf)
    · exact absurd ((hown.live hconf).reset hstarted) (ne_false_of_eq_true hreset)
  · intro hconf hfree hdata
    rw [hkept] at hconf
    exact absurd hdata (not_answering_leave answer (hown.live hconf) howner hfree)

/-! ## Interrupts in the turn of the main loop -/

/-- The transfer that an interrupt ends was running, with the same function. -/
theorem ended_running {irq : Irq} {d : Dev} {job : UddEpJob} (h : irq.ended d = some job) :
    ∃ e, (d.ep e).running = true ∧ job.call = (d.ep e).job.call := by
  unfold Irq.ended at h
  cases irq with
  | transferIn card =>
      dsimp only at h
      split_ifs at h with hrun
      · have hkeeps := uddEpTransInNext_keeps d.inn.hwSize d.inn.job
        cases hnext : uddEpTransInNext d.inn.hwSize d.inn.job with
        | again job' size =>
            rw [hnext] at h
            exact absurd h.symm (Option.some_ne_none job)
        | complete job' =>
            rw [hnext] at h hkeeps
            obtain rfl := Option.some.inj h
            exact ⟨.inn, hrun, hkeeps.1⟩
  | transferOut received cbw card =>
      dsimp only at h
      split_ifs at h with hrun
      · have hkeeps := uddEpTransOutNext_keeps received d.out.hwSize d.out.job
        cases hnext : uddEpTransOutNext received d.out.hwSize d.out.job with
        | again job' size =>
            rw [hnext] at h
            exact absurd h.symm (Option.some_ne_none job)
        | complete job' =>
            rw [hnext] at h hkeeps
            obtain rfl := Option.some.inj h
            exact ⟨.out, hrun, hkeeps.1⟩
  | _ => exact absurd h.symm (Option.some_ne_none job)

/-- An interrupt that ends no transfer, or the one of a sector, says nothing to the host. -/
theorem irq_silent {irq : Irq} {d : Dev} {g : Dialogue}
    (h : ∀ job, irq.ended d = some job → job.call = some .transAck) : g.irq irq d = g := by
  have haccepted : irq.acceptedCbw d = none := by
    unfold Irq.acceptedCbw
    cases irq with
    | transferOut received cbw card =>
        dsimp only
        cases hended : (Irq.transferOut received cbw card).ended d with
        | none => rfl
        | some job =>
            have hcall := h job hended
            change (if job.call = some .cbwReceived ∧ _ then _ else none) = none
            rw [hcall, if_neg (fun hboth => Callback.noConfusion (Option.some.inj hboth.1))]
    | _ => rfl
  have hsends : irq.sendsCsw d = false := by
    unfold Irq.sendsCsw
    cases hended : irq.ended d with
    | none => rfl
    | some job =>
        have hcall := h job hended
        change (job.call == some .cswSent) = false
        rw [hcall]
        rfl
  have hanswered : irq.answered d = 0 := by
    unfold Irq.answered
    cases hended : irq.ended d with
    | none => rfl
    | some job =>
        have hcall := h job hended
        change (if job.call = some .dataSent then job.nbTrans else 0) = 0
        rw [hcall, if_neg (fun hsame => Callback.noConfusion (Option.some.inj hsame))]
  unfold Dialogue.irq
  rw [haccepted, hsends, hanswered]
  rfl

theorem irq_silent_of_none {irq : Irq} {d : Dev} {g : Dialogue} (h : irq.ended d = none) :
    g.irq irq d = g :=
  irq_silent fun job hended => absurd (hended.symm.trans h) (Option.some_ne_none job)

/-- In the turn of the main loop only a sector can end. -/
theorem OwnTurn.ended {pc : Pc} {d : Dev} (h : OwnTurn pc d) (hb : Bound d) {irq : Irq} {job : UddEpJob}
    (hended : irq.ended d = some job) : job.call = some .transAck := by
  obtain ⟨e, hrun, hcall⟩ := ended_running hended
  have hconf : d.inn.configured = true := by
    have hep := ((running_iff (d.ep e)).mp hrun).1
    cases e with
    | inn => exact hep
    | out => exact hb.both.symm.trans hep
  rw [hcall]
  exact ((h.live hconf).block_of_running hrun).2

/-- Without an active command there is nothing to tell. -/
theorem talks_idle {s : Sys} (g : Dialogue) (howner : s.pc.owner s.dev.msc = false)
    (hidle : ¬ s.dev.Active) : Talks s g := by
  have hnone : ¬ s.Active := by
    rintro (hown | hactive)
    · exact Bool.noConfusion (howner.symm.trans hown)
    · exact hidle hactive
  refine ⟨fun _ => hnone, fun _ _ _ hactive => absurd hactive hnone, fun _ htagged => ?_,
    fun _ _ hstatus => absurd (Or.inl hstatus) hidle, fun _ _ hdata => ?_⟩
  · exact Bool.noConfusion (howner.symm.trans (owner_of_tagged htagged s.dev.msc))
  · exact absurd (Or.inl (Or.inl (Or.inl ⟨hdata.1, Or.inl hdata.2⟩))) hidle

/-- The interface is enabled after an interrupt that does not enable it only if it was before. -/
theorem configured_of_serveIrq (desc : LunDesc) {irq : Irq} {d : Dev} (hb : Bound d)
    (henables : irqEnables irq d = false) (hconf : (serveIrq desc irq d).inn.configured = true) :
    d.inn.configured = true := by
  obtain ⟨hb', hflag, -⟩ := connection_serveIrq desc irq hb
  exact configured_of_flagAfter hb henables (hflag.symm.trans (hb'.flag.trans hconf))

/-- The state after an interrupt is served. -/
def Sys.afterIrq (irq : Irq) (s : Sys) : Sys :=
  { s with pending := s.pending.tail, dev := serveIrq lunDesc irq s.dev }

/-- An interrupt in the turn of the main loop. -/
theorem talks_ownIrq {s : Sys} {g : Dialogue} {irq : Irq} (h : Talks s g) (hturn : Turn s)
    (howner : s.pc.owner s.dev.msc = true) (hspares : IrqSpares s.pc s.dev irq) :
    Talks (s.afterIrq irq) (g.irq irq s.dev) := by
  have hown := hturn.own howner
  have hb := hturn.bound.toBound
  rw [irq_silent fun job => hown.ended hb]
  cases henables : irqEnables irq s.dev with
  | true =>
      -- The interface is renewed, and the main loop is about to find the reset.
      refine talks_idle g (owner_of_enables lunDesc hb howner hspares henables) ?_
      refine (renewed_serveIrq lunDesc (hown.typed hb) hb henables ?_).idle
      rintro r rfl
      exact sparesStatus_of_spares (beginSetup_bound hb) hspares
  | false =>
      have hactive : s.Active := Or.inl howner
      have hblocks := hown.blocks lunDesc irq hb
      have hown' := ownTurn_serveIrq lunDesc hown hturn.bound howner hspares henables
      refine ⟨fun hnone => absurd hactive (h.quiet hnone), ?_, ?_, ?_, ?_⟩
      · intro cbw hcommand hconf _
        change Concerns cbw g.counted (serveIrq lunDesc irq s.dev).blocks
        rw [hblocks]
        exact h.concerns cbw hcommand (configured_of_serveIrq lunDesc hb henables hconf) hactive
      · intro hconf htagged
        have htag := h.tagged (configured_of_serveIrq lunDesc hb henables hconf) htagged
        exact (tagged_congr hblocks).mpr htag
      · intro hconf hfree _
        exact Bool.noConfusion (hconf.symm.trans (hown'.down howner hfree).1)
      · intro hconf hfree _
        exact Bool.noConfusion (hconf.symm.trans (hown'.down howner hfree).1)

/-! ## Interrupts outside of the turn of the main loop -/

/-- An interrupt that hushes the command and leaves its blocks alone. -/
theorem talks_hushes {s s' : Sys} {g : Dialogue} (h : Talks s g) (howner : s.pc.owner s.dev.msc = false)
    (howner' : s'.pc.owner s'.dev.msc = false) (hblocks : s'.dev.blocks = s.dev.blocks) (hhush : Hushes s.dev s'.dev) :
    Talks s' g := by
  have hcsw : s'.dev.msc.csw = s.dev.msc.csw := congrArg Blocks.csw hblocks
  have hannounces : s.dev.Announces → s'.dev.Announces := by
    rintro ⟨hcall, hlength⟩
    obtain ⟨hcall', hsize⟩ := hhush.answer hcall
    refine ⟨hcall', ?_⟩
    rw [hsize, hcsw]
    exact hlength
  have hactive : s'.Active → s.Active := by
    rintro (hown | hactive)
    · exact Bool.noConfusion (howner'.symm.trans hown)
    · exact Or.inr (hhush.active hactive)
  refine ⟨fun hnone hact => h.quiet hnone (hactive hact), ?_, ?_, ?_, ?_⟩
  · intro cbw hcommand hconf hact
    rw [hblocks]
    exact h.concerns cbw hcommand (hhush.configured hconf) (hactive hact)
  · intro _ htagged
    exact Bool.noConfusion (howner'.symm.trans (owner_of_tagged htagged s'.dev.msc))
  · intro hconf _ hstatus
    rcases h.status (hhush.configured hconf) howner (hhush.status hstatus) with hdata | htagged
    · exact Or.inl (hannounces hdata)
    · exact Or.inr ((tagged_congr hblocks).mpr htagged)
  · intro hconf _ hdata
    exact hannounces (h.data (hhush.configured hconf) howner (hhush.data hdata))

/-- The dialogue after the end of a transfer that brings no command. -/
theorem irq_ended {irq : Irq} {d : Dev} {job : UddEpJob} {cb : Callback} (g : Dialogue)
    (hended : irq.ended d = some job) (hcall : job.call = some cb) (haccepted : irq.acceptedCbw d = none) :
    g.irq irq d =
      if cb = .cswSent then { g with command := none }
      else { g with counted := g.counted + if cb = .dataSent then job.nbTrans else 0 } := by
  have hsends : irq.sendsCsw d = decide (cb = .cswSent) := by
    unfold Irq.sendsCsw
    rw [hended]
    change (job.call == some .cswSent) = _
    rw [hcall]
    cases cb <;> rfl
  have hanswered : irq.answered d = if cb = .dataSent then job.nbTrans else 0 := by
    unfold Irq.answered
    rw [hended]
    change (if job.call = some .dataSent then job.nbTrans else 0) = _
    rw [hcall]
    cases cb <;> rfl
  unfold Dialogue.irq
  rw [haccepted, hsends, hanswered]
  cases cb <;> rfl

/-- A transfer of the IN endpoint that goes on keeps its length, and one that is complete has sent it. -/
theorem bufSize_transInNext (sent : Nat) (j : UddEpJob) :
    match uddEpTransInNext sent j with
    | .again job _ => job.bufSize = j.bufSize
    | .complete job => job.nbTrans = j.bufSize := by
  unfold uddEpTransInNext
  dsimp only
  split_ifs with hmore hshort
  · rfl
  · rfl
  · exact not_not.mp hmore

/-- The end of a short answer: the residue counts its bytes, and the CSW is for the command. -/
theorem concerns_udiMscDataSent {cbw : UsbMscCbw} {counted n : Nat} {d : Dev}
    (hfits : n ≤ d.msc.csw.dCSWDataResidue.toNat) (h : Concerns cbw counted d.blocks) :
    Concerns cbw (counted + n) (udiMscDataSent uddCall n d).blocks ∧ (udiMscDataSent uddCall n d).Tagged := by
  have hlt := d.msc.csw.dCSWDataResidue.isLt
  have hn : (BitVec.ofNat 32 n).toNat = n := by
    rw [BitVec.toNat_ofNat, Nat.mod_eq_of_lt (by omega)]
  have hsub : (d.msc.csw.dCSWDataResidue - BitVec.ofNat 32 n).toNat = d.msc.csw.dCSWDataResidue.toNat - n := by
    rw [BitVec.toNat_sub_of_le (by rw [BitVec.le_def, hn]; exact hfits), hn]
  have hblocks : (udiMscDataSent uddCall n d).blocks =
      Blocks.tagged ⟨d.msc.cbw, ⟨d.msc.csw.dCSWTag, d.msc.csw.dCSWDataResidue - BitVec.ofNat 32 n, .pass⟩,
        ⟨0, 0, 0⟩⟩ := by
    unfold udiMscDataSent
    dsimp only
    rw [blocks_udiMscCswProcess rest_uddCall]
    rfl
  refine ⟨?_, tagged_of_blocks hblocks⟩
  rw [hblocks]
  refine ⟨h.tag, fun hlun => ?_⟩
  have hbefore : d.msc.csw.dCSWDataResidue.toNat + counted = cbw.dCBWDataTransferLength.toNat := h.length hlun
  change (d.msc.csw.dCSWDataResidue - BitVec.ofNat 32 n).toNat + (counted + n) = _
  rw [hsub]
  omega

/-- A completed transfer of the IN endpoint. -/
theorem talks_completedIn {s : Sys} {g : Dialogue} {card : CardAnswer} {job : UddEpJob} (h : Talks s g)
    (howner : s.pc.owner s.dev.msc = false) (hfree : FreeTurn s.dev) (hrun : s.dev.inn.running = true)
    (hnext : uddEpTransInNext s.dev.inn.hwSize s.dev.inn.job = .complete job)
    (howner' : s.pc.owner
      (transferNext .inn (completedCallback uddCall lunDesc card) (.complete job) s.dev).msc = false)
    (pending : List Irq) :
    Talks { s with
        pending := pending
        dev := transferNext .inn (completedCallback uddCall lunDesc card) (.complete job) s.dev }
      (g.irq (.transferIn card) s.dev) := by
  have hkeeps := uddEpTransInNext_keeps s.dev.inn.hwSize s.dev.inn.job
  have hmoved := bufSize_transInNext s.dev.inn.hwSize s.dev.inn.job
  rw [hnext] at hkeeps hmoved
  have hended : (Irq.transferIn card).ended s.dev = some job := by
    unfold Irq.ended
    dsimp only
    rw [if_pos hrun, hnext]
  -- What runs on the IN endpoint belongs to a command.
  have hstatus : s.dev.inn.status := Or.inl (cswDue_of_running hfree.inn hrun (hfree.block .inn))
  have hactive : s.Active := Or.inr (Or.inl hstatus)
  have hconf : s.dev.inn.configured = true := ((running_iff s.dev.inn).mp hrun).1
  have hreq : s.dev.msc.bTransReq = false :=
    Bool.eq_false_of_not_eq_true fun hreq => (hfree.pending hreq).2.1 hstatus
  have hdone {cb : Callback} (hcall : s.dev.inn.job.call = some cb) :
      transferNext .inn (completedCallback uddCall lunDesc card) (.complete job) s.dev =
        completedCallback uddCall lunDesc card cb job.nbTrans (released .inn job s.dev) := by
    simp only [transferNext, hkeeps.1.trans hcall]
    rfl
  have htagged {d : Dev} {pc : Pc} (hpc : pc = s.pc) (h : pc.tagged = true) : d.Tagged :=
    Bool.noConfusion (howner.symm.trans (owner_of_tagged (hpc ▸ h) s.dev.msc))
  have hidle : (released .inn job s.dev).inn.running = false := not_running rfl
  rcases inn_call hfree.inn hrun (hfree.block .inn) with hcall | hcall | hcall
  · -- The data were sent: the residue counts them.
    rw [hdone hcall, irq_ended g hended (hkeeps.1.trans hcall) rfl]
    have hfits : job.nbTrans ≤ s.dev.msc.csw.dCSWDataResidue.toNat := by
      rw [hmoved]
      exact (h.data hconf howner ⟨hrun, hcall⟩).2
    have hsilent : ¬ (released .inn job s.dev).inn.answering := fun hdata =>
      Bool.noConfusion (hidle.symm.trans hdata.1)
    have hafter (cbw : UsbMscCbw) (hcbw : Concerns cbw g.counted s.dev.blocks) :=
      @concerns_udiMscDataSent cbw g.counted job.nbTrans (released .inn job s.dev) hfits hcbw
    refine ⟨fun hnone => absurd hactive (h.quiet hnone), ?_, fun _ => htagged rfl, ?_, ?_⟩
    · intro cbw hcommand _ _
      exact (hafter cbw (h.concerns cbw hcommand hconf hactive)).1
    · intro _ _ _
      cases hcommand : g.command with
      | none => exact absurd hactive (h.quiet hcommand)
      | some cbw => exact Or.inr (hafter cbw (h.concerns cbw hcommand hconf hactive)).2
    · intro _ _ hdata
      exact absurd (answering_udiMscCswProcess answering_uddCall hdata) hsilent
  · -- The CSW was sent: the command is over.
    rw [hdone hcall] at howner'
    rw [hdone hcall, irq_ended g hended (hkeeps.1.trans hcall) rfl]
    refine talks_idle _ howner' ?_
    change ¬ (udiMscCbwWait uddCall (released .inn job s.dev)).Active
    rw [udiMscCbwWait_eq]
    have hcall' : job.call = some .cswSent := hkeeps.1.trans hcall
    rintro (((⟨hrun', -⟩ | hcall'') | hunsent) | hreq')
    · exact Bool.noConfusion (hidle.symm.trans hrun')
    · exact Callback.noConfusion (Option.some.inj (hcall'.symm.trans hcall''))
    · exact Bool.noConfusion (hkeeps.2.2.symm.trans hunsent.1)
    · exact Bool.noConfusion (hreq.symm.trans hreq')
  · -- The halt of the CSW ended: it is sent again.
    rw [hdone hcall, irq_ended g hended (hkeeps.1.trans hcall) rfl]
    have hblocks : (udiMscCswSend uddCall (released .inn job s.dev)).blocks = s.dev.blocks :=
      (blocks_of_rest (rest_udiMscCswSend rest_uddCall _)).trans rfl
    refine ⟨fun hnone => absurd hactive (h.quiet hnone), ?_, fun _ => htagged rfl, ?_, ?_⟩
    · intro cbw hcommand _ _
      change Concerns cbw g.counted (udiMscCswSend uddCall (released .inn job s.dev)).blocks
      rw [hblocks]
      exact h.concerns cbw hcommand hconf hactive
    · intro _ _ _
      rcases h.status hconf howner hstatus with hdata | htag
      · exact Callback.noConfusion (Option.some.inj (hdata.1.symm.trans hcall))
      · exact Or.inr ((tagged_congr hblocks).mpr htag)
    · intro _ _ hdata
      change (udiMscCswSend uddCall (released .inn job s.dev)).inn.answering at hdata
      rw [udiMscCswSend_eq] at hdata
      have hreleased := answering_cswSend hdata
      exact Bool.noConfusion (hidle.symm.trans hreleased.1)

theorem talks_transferIn {s : Sys} {g : Dialogue} (card : CardAnswer) (h : Talks s g)
    (howner : s.pc.owner s.dev.msc = false) (hfree : FreeTurn s.dev) (hb : Bound s.dev) :
    Talks (s.afterIrq (.transferIn card)) (g.irq (.transferIn card) s.dev) := by
  have hsame : serveIrq lunDesc (.transferIn card) s.dev = transferIn uddCall lunDesc card s.dev := rfl
  have howner' := owner_serveIrq lunDesc (.transferIn card) hb howner
  unfold Sys.afterIrq
  rw [hsame] at howner' ⊢
  unfold transferIn at howner' ⊢
  split_ifs at howner' ⊢ with hrun
  · cases hnext : uddEpTransInNext s.dev.inn.hwSize s.dev.inn.job with
    | again job size =>
        have hkeeps := uddEpTransInNext_keeps s.dev.inn.hwSize s.dev.inn.job
        have hsize := bufSize_transInNext s.dev.inn.hwSize s.dev.inn.job
        rw [hnext] at hkeeps hsize
        have hended : (Irq.transferIn card).ended s.dev = none := by
          unfold Irq.ended
          dsimp only
          rw [if_pos hrun, hnext]
        rw [irq_silent_of_none hended,
          transferNext_again .inn _ job size ((running_iff s.dev.inn).mp hrun).1]
        have hsettles : Settles .inn s.dev.inn _ := settles_again hrun hkeeps
        refine talks_hushes h howner howner rfl ⟨id, id, hsettles.status, ?_, ?_⟩
        · exact fun hdata => ⟨hrun, hkeeps.1.symm.trans hdata.2⟩
        · exact fun hcall => ⟨hkeeps.1.trans hcall, hsize⟩
    | complete job =>
        rw [hnext] at howner'
        exact talks_completedIn h howner hfree hrun hnext howner' _
  · have hended : (Irq.transferIn card).ended s.dev = none := by
      unfold Irq.ended
      dsimp only
      rw [if_neg hrun]
    rw [irq_silent_of_none hended]
    exact talks_hushes h howner howner rfl (hushes_of_inn rfl id)

/-- A valid command block opens a command. -/
theorem concerns_udiMscCbwReceived (card : CardAnswer) {n : Nat} {d : Dev} (hlun : d.msc.nbLun = 0)
    (hintact : d.msc.cbwIntact n = true) :
    Concerns d.msc.cbw 0 (udiMscCbwReceived uddCall lunDesc card n d).blocks ∧
      ((udiMscCbwReceived uddCall lunDesc card n d).inn.status → d.inn.status ∨
        (udiMscCbwReceived uddCall lunDesc card n d).Announces ∨
          (udiMscCbwReceived uddCall lunDesc card n d).Tagged) ∧
      ((udiMscCbwReceived uddCall lunDesc card n d).inn.answering → d.inn.answering ∨
        (udiMscCbwReceived uddCall lunDesc card n d).Announces) := by
  unfold udiMscCbwReceived
  rw [if_neg (by rw [hintact]; exact Bool.false_ne_true)]
  dsimp only
  split_ifs with hbad
  · have hend := replies_endCommand rest_uddCall answering_uddCall setsSense_cdbInvalid
      { d with msc := { d.msc with cbw := { d.msc.cbw with bCBWLUN := d.msc.cbw.bCBWLUN &&& 0x0F } } }
    refine ⟨⟨(congrArg UsbMscCbw.dCBWTag hend.cbw :), fun hzero => ?_⟩, hend.answer, hend.data⟩
    rw [hlun, hzero] at hbad
    exact absurd hbad (BitVec.lt_irrefl 0)
  · have hcommand := replies_scsiCommand rest_uddCall answering_uddCall lunDesc card
      { d with msc := { d.msc with
          cbw := { d.msc.cbw with bCBWLUN := d.msc.cbw.bCBWLUN &&& 0x0F }
          csw := { d.msc.csw with dCSWDataResidue := d.msc.cbw.dCBWDataTransferLength } } }
    refine ⟨⟨(congrArg UsbMscCbw.dCBWTag hcommand.cbw :), fun _ => ?_⟩, hcommand.answer, hcommand.data⟩
    exact congrArg BitVec.toNat hcommand.residue

/-- The reception of a command block ends. -/
theorem talks_completedOut {s : Sys} {g : Dialogue} {received : Nat} {cbw : UsbMscCbw} {card : CardAnswer}
    {job : UddEpJob} (howner : s.pc.owner s.dev.msc = false) (hfree : FreeTurn s.dev) (hb : Bound s.dev)
    (hrun : s.dev.out.running = true) (hidle : ¬ s.dev.Active)
    (hnext : uddEpTransOutNext received s.dev.out.hwSize s.dev.out.job = .complete job)
    (howner' : s.pc.owner (transferNext .out (completedCallback uddCall lunDesc card) (.complete job)
      (storeReceived cbw s.dev)).msc = false) (pending : List Irq) :
    Talks { s with
        pending := pending
        dev := transferNext .out (completedCallback uddCall lunDesc card) (.complete job)
          (storeReceived cbw s.dev) }
      (g.irq (.transferOut received cbw card) s.dev) := by
  obtain ⟨hinn, hout, hreq, hlun⟩ := storeReceived_frame cbw s.dev
  have hkeeps := uddEpTransOutNext_keeps received s.dev.out.hwSize s.dev.out.job
  rw [hnext] at hkeeps
  have hended : (Irq.transferOut received cbw card).ended s.dev = some job := by
    unfold Irq.ended
    dsimp only
    rw [if_pos hrun, hnext]
  -- While a CBW is waited for, nothing is due on the IN endpoint and no transfer is asked for.
  have hover : ¬ s.dev.inn.status := fun hstatus => hidle (Or.inl hstatus)
  have hnoreq : (storeReceived cbw s.dev).msc.bTransReq = false :=
    hreq.trans (Bool.eq_false_of_not_eq_true fun hreq => hidle (Or.inr hreq))
  have hsilent : ¬ s.dev.inn.answering := fun hdata => hover (Or.inl (Or.inl ⟨hdata.1, Or.inl hdata.2⟩))
  have hdone {cb : Callback} (hcall : s.dev.out.job.call = some cb) :
      transferNext .out (completedCallback uddCall lunDesc card) (.complete job) (storeReceived cbw s.dev) =
        completedCallback uddCall lunDesc card cb job.nbTrans (released .out job (storeReceived cbw s.dev)) := by
    simp only [transferNext, hkeeps.1.trans hcall]
    rfl
  have hstill {d : Dev} (hinn' : d.inn = s.dev.inn) (hreq' : d.msc.bTransReq = false) : ¬ d.Active := by
    rintro (hstatus | hactive)
    · rw [hinn'] at hstatus
      exact hover hstatus
    · exact Bool.noConfusion (hreq'.symm.trans hactive)
  rcases out_call hfree.out hrun (hfree.block .out) with hcall | hcall
  · rw [hdone hcall]
    change Talks { s with
      pending := pending
      dev := udiMscCbwReceived uddCall lunDesc card job.nbTrans (released .out job (storeReceived cbw s.dev)) } _
    have hlun' : (released .out job (storeReceived cbw s.dev)).msc.nbLun = 0 := hlun.trans hb.nbLun
    cases hintact : (storeReceived cbw s.dev).msc.cbwIntact job.nbTrans with
    | true =>
        -- A command begins, and the observer starts over with it.
        have haccepted : (Irq.transferOut received cbw card).acceptedCbw s.dev =
            some (storeReceived cbw s.dev).msc.cbw := by
          unfold Irq.acceptedCbw
          dsimp only
          rw [hended]
          exact if_pos ⟨hkeeps.1.trans hcall, hintact⟩
        have hg : g.irq (.transferOut received cbw card) s.dev = ⟨some (storeReceived cbw s.dev).msc.cbw, 0⟩ := by
          unfold Dialogue.irq
          rw [haccepted]
        obtain ⟨hconcerns, hanswer, hdata⟩ :=
          @concerns_udiMscCbwReceived card job.nbTrans (released .out job (storeReceived cbw s.dev)) hlun' hintact
        have hinn' : (released .out job (storeReceived cbw s.dev)).inn = s.dev.inn := hinn
        rw [hinn'] at hanswer hdata
        rw [hg]
        refine ⟨fun hnone => absurd hnone (Option.some_ne_none _), ?_, fun _ htagged => ?_, ?_, ?_⟩
        · intro cbw' hcommand _ _
          obtain rfl := Option.some.inj hcommand
          exact hconcerns
        · exact Bool.noConfusion (howner.symm.trans (owner_of_tagged htagged s.dev.msc))
        · exact fun _ _ hstatus => (hanswer hstatus).resolve_left hover
        · exact fun _ _ hanswering => (hdata hanswering).resolve_left hsilent
    | false =>
        -- Both endpoints are halted until a reset: no command is on.
        rw [hdone hcall] at howner'
        refine talks_idle _ howner' ?_
        have hready : Ready (released .out job (storeReceived cbw s.dev)) := by
          refine ⟨?_, ?_, ?_⟩
          · exact (congrArg (Endpoint.Typed .inn) hinn).mpr hfree.inn
          · have hsettles : Settles .out (storeReceived cbw s.dev).out _ := settles_released (hout ▸ hkeeps)
            exact hsettles.typed (hout ▸ hfree.out)
          · exact fun hstatus => hover (hinn ▸ hstatus)
        exact not_active_invalid lunDesc card hready hkeeps.2.2 hnoreq hintact
  · -- The halt of the OUT endpoint ended: the next CBW is waited for.
    rw [hdone hcall] at howner' ⊢
    refine talks_idle _ howner' ?_
    change ¬ (udiMscCbwWait uddCall (released .out job (storeReceived cbw s.dev))).Active
    rw [udiMscCbwWait_eq]
    exact hstill hinn hnoreq

theorem talks_transferOut {s : Sys} {g : Dialogue} (received : Nat) (cbw : UsbMscCbw) (card : CardAnswer)
    (h : Talks s g) (howner : s.pc.owner s.dev.msc = false) (hfree : FreeTurn s.dev) (hb : Bound s.dev) :
    Talks (s.afterIrq (.transferOut received cbw card)) (g.irq (.transferOut received cbw card) s.dev) := by
  have hsame : serveIrq lunDesc (.transferOut received cbw card) s.dev =
      transferOut uddCall lunDesc received cbw card s.dev := rfl
  have howner' := owner_serveIrq lunDesc (.transferOut received cbw card) hb howner
  unfold Sys.afterIrq
  rw [hsame] at howner' ⊢
  unfold transferOut at howner' ⊢
  split_ifs at howner' ⊢ with hrun
  · obtain ⟨hinn, hout, hreq, hlun⟩ := storeReceived_frame cbw s.dev
    have hdue : s.dev.out.cbwDue := cbwDue_of_running hfree.out hrun (hfree.block .out)
    have hidle : ¬ s.dev.Active := by
      rintro (hstatus | hactive)
      · exact hfree.command hdue hstatus
      · exact (hfree.pending hactive).1 hdue
    cases hnext : uddEpTransOutNext received s.dev.out.hwSize s.dev.out.job with
    | again job size =>
        have hconf : ((storeReceived cbw s.dev).ep .out).configured = true := by
          rw [Dev.ep_out, hout]
          exact ((running_iff s.dev.out).mp hrun).1
        rw [hnext, transferNext_again .out _ job size hconf] at howner'
        rw [transferNext_again .out _ job size hconf]
        refine talks_idle _ howner' ?_
        rintro (hstatus | hactive)
        · exact hidle (Or.inl (hinn ▸ hstatus))
        · exact hidle (Or.inr (hreq.symm.trans hactive))
    | complete job =>
        rw [hnext] at howner'
        exact talks_completedOut howner hfree hb hrun hidle hnext howner' _
  · have hended : (Irq.transferOut received cbw card).ended s.dev = none := by
      unfold Irq.ended
      dsimp only
      rw [if_neg hrun]
    rw [irq_silent_of_none hended]
    exact talks_hushes h howner howner rfl (hushes_of_inn rfl id)

/-- An interrupt outside of the turn of the main loop. -/
theorem talks_freeIrq {s : Sys} {g : Dialogue} {irq : Irq} (h : Talks s g) (hturn : Turn s)
    (howner : s.pc.owner s.dev.msc = false) (hspares : IrqSparesStatus irq s.dev) :
    Talks (s.afterIrq irq) (g.irq irq s.dev) := by
  have hfree := hturn.free howner
  have hb := hturn.bound.toBound
  have howner' := owner_serveIrq lunDesc irq hb howner
  have hother (hirq : ∀ card, irq ≠ .transferIn card)
      (hirq' : ∀ received cbw card, irq ≠ .transferOut received cbw card) (hended : irq.ended s.dev = none) :
      Talks (s.afterIrq irq) (g.irq irq s.dev) := by
    rw [irq_silent_of_none hended]
    rcases hushes_serveIrq lunDesc hfree hb hspares hirq hirq' with hhush | hidle
    · exact talks_hushes h howner howner' (blocks_serveIrq lunDesc s.dev hirq hirq') hhush
    · exact talks_idle g howner' hidle
  cases irq with
  | transferIn card => exact talks_transferIn card h howner hfree hb
  | transferOut received cbw card => exact talks_transferOut received cbw card h howner hfree hb
  | _ => exact hother (fun _ => Irq.noConfusion) (fun _ _ _ => Irq.noConfusion) rfl

/-! ## Runs -/

/-- **Every step keeps the dialogue**, if it brings no request that is not spared. -/
theorem talks_step {s : Sys} {g : Dialogue} {l : Label} (h : Talks s g) (hturn : Turn s)
    (hspares : SparesTransfer s l) : Talks (step lunDesc s l) (watchDialogue g s l) := by
  cases l with
  | main answer =>
      cases howner : s.pc.owner s.dev.msc with
      | true => exact talks_ownStep answer h (hturn.own howner) howner
      | false =>
          have hsame : watchDialogue g s (.main answer) = g := by
            unfold watchDialogue
            dsimp only
            split
            · rename_i hpc
              rw [hpc] at howner
              exact Bool.noConfusion howner
            · rfl
          rw [hsame]
          exact talks_freeStep answer h howner
  | raise irq =>
      change Talks (raiseIrq irq s) g
      rcases pc_raiseIrq irq s with hstays | ⟨hasleep, hwakes⟩
      · have hactive : (raiseIrq irq s).Active → s.Active := by
          unfold Sys.Active
          rw [hstays]
          exact id
        refine ⟨fun hnone hact => h.quiet hnone (hactive hact),
          fun cbw hcommand hconf hact => h.concerns cbw hcommand hconf (hactive hact), ?_, ?_, ?_⟩ <;>
          rw [hstays]
        · exact h.tagged
        · exact h.status
        · exact h.data
      · -- The interrupt wakes the main loop, which owns nothing before or after.
        have hfree : s.pc.owner s.dev.msc = false := by
          rw [hasleep]
          rfl
        have hfree' : (raiseIrq irq s).pc.owner s.dev.msc = false := by
          rw [hwakes]
          rfl
        exact talks_hushes h hfree hfree' rfl (hushes_of_inn rfl id)
  | serve =>
      change Talks (serveStep lunDesc s) _
      cases hserved : s.served with
      | none =>
          have hsame : watchDialogue g s .serve = g := by
            unfold watchDialogue
            rw [hserved]
            rfl
          rw [serveStep_none hserved, hsame]
          exact h
      | some irq =>
          have hirq : IrqSpares s.pc s.dev irq := hspares rfl irq hserved
          have hwatch : watchDialogue g s .serve = g.irq irq s.dev := by
            unfold watchDialogue
            rw [hserved]
            rfl
          rw [serveStep_some hserved, hwatch]
          cases howner : s.pc.owner s.dev.msc with
          | true => exact talks_ownIrq h hturn howner hirq
          | false =>
              refine talks_freeIrq h hturn howner fun r hr => ?_
              subst hr
              exact sparesStatus_of_spares (beginSetup_bound hturn.bound.toBound) hirq

/-- Nothing was said before the first CBW. -/
def Dialogue.silent : Dialogue := ⟨none, 0⟩

theorem talks_boot (vbusHigh : Bool) : Talks (boot vbusHigh) Dialogue.silent := by
  have hreset : (boot vbusHigh).dev.inn = endpointReset ∧ (boot vbusHigh).dev.msc.bTransReq = false := by
    cases vbusHigh <;> exact ⟨rfl, rfl⟩
  obtain ⟨hinn, hreq⟩ := hreset
  refine talks_idle _ rfl ?_
  rintro (hstatus | hactive)
  · rw [hinn] at hstatus
    rcases hstatus with (⟨hrun, -⟩ | hcall) | hunsent
    · exact Bool.noConfusion hrun
    · exact absurd hcall.symm (Option.some_ne_none _)
    · exact Bool.noConfusion hunsent.1
  · exact Bool.noConfusion (hreq.symm.trans hactive)

/-- A CSW that is sent was waiting on the IN endpoint, out of the turn of the main loop. -/
theorem answered_of_talks {s : Sys} {g : Dialogue} {l : Label} (h : Talks s g) (hturn : Turn s) :
    Answered (s, g) l := by
  rintro - irq hirq hsends
  change ∃ cbw, g.command = some cbw ∧ s.dev.msc.csw.dCSWTag = cbw.dCBWTag ∧
    (cbw.bCBWLUN &&& 0x0F = 0 →
      s.dev.msc.csw.dCSWDataResidue.toNat + g.counted = cbw.dCBWDataTransferLength.toNat)
  change irq.sendsCsw s.dev = true at hsends
  unfold Irq.sendsCsw at hsends
  cases hended : irq.ended s.dev with
  | none =>
      rw [hended] at hsends
      exact Bool.noConfusion hsends
  | some job =>
      rw [hended] at hsends
      have hjob : job.call = some .cswSent := beq_iff_eq.mp hsends
      have howner : s.pc.owner s.dev.msc = false := by
        refine Bool.eq_false_of_not_eq_true fun howner => ?_
        have hsector := (hturn.own howner).ended hturn.bound.toBound hended
        exact Callback.noConfusion (Option.some.inj (hjob.symm.trans hsector))
      have hfree := hturn.free howner
      obtain ⟨e, hrun, hcall⟩ := ended_running hended
      have hinn : e = .inn := by
        cases e with
        | inn => rfl
        | out => exact absurd (hfree.out.belongs .cswSent (hcall.symm.trans hjob)) Bool.noConfusion
      subst hinn
      have hsent : s.dev.inn.job.call = some .cswSent := hcall.symm.trans hjob
      have hstatus : s.dev.inn.status := Or.inl (Or.inl ⟨hrun, Or.inr hsent⟩)
      have hconf : s.dev.inn.configured = true := ((running_iff s.dev.inn).mp hrun).1
      have hactive : s.Active := Or.inr (Or.inl hstatus)
      cases hcommand : g.command with
      | none => exact absurd hactive (h.quiet hcommand)
      | some cbw =>
          have hconcerns := h.concerns cbw hcommand hconf hactive
          have htagged : s.dev.Tagged := by
            rcases h.status hconf howner hstatus with hdata | htagged
            · exact Callback.noConfusion (Option.some.inj (hdata.1.symm.trans hsent))
            · exact htagged
          exact ⟨cbw, rfl, htagged.trans hconcerns.tag, hconcerns.length⟩

/-- **Every CSW answers a CBW.**  In every run in which no request starts the reception of a CBW beside a
transfer of the main loop or an open status phase, a CSW that is sent answers the last accepted CBW, which no
CSW has answered yet: it has its tag, and its residue is what was not counted of its length. -/
theorem answered_of_sparesTransfer (vbusHigh : Bool) (ls : List Label)
    (h : EveryStep (step lunDesc) SparesTransfer (boot vbusHigh) ls) :
    EveryStep (observed (step lunDesc) watchDialogue) Answered (boot vbusHigh, Dialogue.silent) ls := by
  refine @everyStep_of_invariant _ _ (observed (step lunDesc) watchDialogue)
    (fun p => Turn p.1 ∧ Talks p.1 p.2) (fun p l => SparesTransfer p.1 l) ?_ Answered ?_
    (boot vbusHigh, Dialogue.silent) ⟨turn_boot vbusHigh, talks_boot vbusHigh⟩ ls ?_
  · rintro ⟨s, g⟩ l ⟨hturn, htalks⟩ hspares
    exact ⟨turn_step s l hturn hspares, talks_step htalks hturn hspares⟩
  · rintro ⟨s, g⟩ l ⟨hturn, htalks⟩ -
    exact answered_of_talks htalks hturn
  · exact everyStep_observed watchDialogue Dialogue.silent h

/-- A READ(10) of one block with its CSW, and the next command with its own. -/
theorem answered_readTaken :
    EveryStep (observed (step lunDesc) watchDialogue) Answered (boot true, Dialogue.silent)
      (readTaken ++ List.replicate 14 (.main .ok) ++ serveAll [.transferIn presentCard]
        ++ List.replicate 19 (.main .ok)
        ++ serveAll [.transferIn presentCard, testUnitReady, .transferIn presentCard]) :=
  answered_of_sparesTransfer true _ (by decide)

end Firmware
end SoundingSoil
