import Bootflash.Proofs.Chronicle
import Bootflash.Proofs.Pass

namespace Bootflash

/-- A call of the link failed, and no answer of the device is behind it. -/
def Failure.OfCall (failure : Failure) : Prop :=
  failure.isTransport = true ∧ failure.isCommand = false

theorem Failure.linkSort_ofCall : LinkSort OfCall :=
  ⟨fun _ h => h, fun h => h.2⟩

/-- What a pass that tolerates so many failures of the link per page is sure to get over: no call
failed but in a try at a page, and no page had more tries hit than that, or more than one answered
wrongly. -/
structure Chronicle.Tolerable (c : Chronicle) (retries : Nat) : Prop where
  strays : c.strays = 0
  hits : ∀ addr, (c.trials.countP fun trial => trial.addr = addr && trial.hit) ≤ retries
  misled : ∀ addr, (c.trials.countP fun trial => trial.addr = addr && trial.misled) ≤ 1

section Tolerable

variable {c : Chronicle} {retries : Nat} {new trials : List Trial} {addr : UInt32}

/-- Among tries at one page, those at this page that are of some sort are those that are of the sort. -/
theorem countP_of_forall_addr (haddr : ∀ trial ∈ new, trial.addr = addr) (sort : Trial → Bool) :
    (new.countP fun trial => trial.addr = addr && sort trial) = new.countP sort := by
  apply List.countP_congr
  intro trial htrial
  simp [haddr trial htrial]

theorem Chronicle.Tolerable.countP_hit_le (h : c.Tolerable retries) (htrials : c.trials = new ++ trials)
    (haddr : ∀ trial ∈ new, trial.addr = addr) : new.countP Trial.hit ≤ retries := by
  have hle := h.hits addr
  rw [htrials, List.countP_append, countP_of_forall_addr haddr] at hle
  omega

theorem Chronicle.Tolerable.countP_misled_le (h : c.Tolerable retries) (htrials : c.trials = new ++ trials)
    (haddr : ∀ trial ∈ new, trial.addr = addr) : new.countP Trial.misled ≤ 1 := by
  have hle := h.misled addr
  rw [htrials, List.countP_append, countP_of_forall_addr haddr] at hle
  omega

end Tolerable

namespace Session

variable {plan : Plan} {s₀ s after : Session (Faulty Bootloader)} {retries : Nat} {trials : List Trial}

/-- A faulty link to a bootloader whose faults are failures of its calls. -/
abbrev callWire : Wire (Faulty Bootloader) :=
  Faulty.wire Failure.OfCall Failure.linkSort_ofCall

/-- If what happened is tolerable, the pass is complete, with the image in the flash and nothing
else changed, and it recovered once for every try that was hit or answered wrongly. -/
def Recovered (s₀ : Session (Faulty Bootloader)) (plan : Plan) (retries : Nat) (pass : Pass)
    (after : Session (Faulty Bootloader)) : Prop :=
  let tries := chronicle s₀ after
  tries.Tolerable retries →
    ∃ tally, pass = .complete tally ∧ tally.exitFailure = none ∧
      tally.resyncs = tries.trials.countP Trial.hit + tries.trials.countP Trial.misled ∧
      (∀ i, plan.start.toNat ≤ i → i < plan.stop.toNat →
        after.link.link.flash.byteAt i = plan.image.getD i erased) ∧
      plan.device.flash.AgreesOutside plan.start.toNat plan.stop.toNat after.link.link.flash

/-- Between two pages no call has failed outside of a try, and the recoveries so far are those of
the tries so far. -/
def Settling (s₀ : Session (Faulty Bootloader)) (state : PassState)
    (s : Session (Faulty Bootloader)) : Prop :=
  ∃ trials, Chronicled s₀ s trials false 0 ∧
    state.tally.resyncs = trials.countP Trial.hit + trials.countP Trial.misled

theorem Chronicled.not_tolerable_of_struck (h : Chronicled s₀ s trials false 0) (hstruck : Struck s after) :
    ¬(chronicle s₀ after).Tolerable retries := by
  obtain ⟨n, hn, h'⟩ := h.stray hstruck
  intro htolerable
  have hstrays := htolerable.strays
  rw [h'.chronicle_eq] at hstrays
  have : n = 0 := hstrays
  omega

/-- A page was given up only if that is not tolerable. -/
theorem GivenUp.not_tolerable {task : PageTask (Faulty Bootloader)} {failure : Failure}
    (h : GivenUp callWire task failure after) (hreach : reachable task.cursor.next = true)
    (hs : Chronicled s₀ task.session trials false 0) : ¬(chronicle s₀ after).Tolerable task.retries := by
  intro htolerable
  cases h with
  | hit hunderway hreports hspent hstruck =>
    obtain ⟨hits, wrongs, hhistory, hhits, -, -⟩ := hunderway.history
    obtain ⟨new, running, hnew, haddr, hcount, -⟩ := hhistory.chronicled hs
    have hfinal := hnew.struckAttempt hstruck
    rw [hfinal.chronicle_eq] at htolerable
    have hle := htolerable.countP_hit_le rfl (List.forall_mem_cons.mpr ⟨rfl, haddr⟩)
    rw [List.countP_cons_of_pos rfl, hcount] at hle
    have hfaults := hspent hreports.1
    omega
  | misled hunderway hspent hcalm hreplaced =>
    obtain ⟨hits, wrongs, hhistory, -, hwrongs, -⟩ := hunderway.history
    obtain ⟨new, running, hnew, haddr, -, hcount⟩ := hhistory.chronicled hs
    have hfinal := hnew.calmAttempt hcalm
    rw [hfinal.chronicle_eq] at htolerable
    have hle := htolerable.countP_misled_le rfl (List.forall_mem_cons.mpr ⟨rfl, haddr⟩)
    rw [List.countP_cons_of_pos (by simp [Trial.misled, hreplaced.wrongAcks_eq]), hcount] at hle
    omega
  | unreachable hnext => exact absurd (hreach.symm.trans hnext) (by decide)
  | unrecovered hunderway htried hreports hstruck =>
    obtain ⟨hits, wrongs, hhistory, -, -, -⟩ := hunderway.history
    obtain ⟨new, running, hnew, -⟩ := hhistory.chronicled hs
    obtain ⟨entries, hleg, hquiet⟩ := htried
    exact (hnew.attempt hleg hquiet).recovering.not_tolerable_of_struck hstruck htolerable

/-- A page that was dealt with adds its tries, and its recoveries are those that were hit or misled. -/
theorem Settling.concluded {task : PageTask (Faulty Bootloader)} {allowance : Allowance}
    {state state' : PassState} {s₁ : Session (Faulty Bootloader)} {b₁ b' : Bootloader}
    {handling : Handling} {done total : Nat}
    (h : Settling s₀ state task.session) (htally : task.tally = state.tally)
    (hconcluded : Concluded callWire task allowance state' s₁ b₁ after b')
    (hacks : b'.wrongAcks = b₁.wrongAcks) :
    Settling s₀ (state'.count handling) (record (.progressed done total) after).2 := by
  obtain ⟨trials, hchronicled, hresyncs⟩ := h
  obtain ⟨hits, wrongs, hhistory, -, -, htally'⟩ := hconcluded.underway.history
  obtain ⟨new, running, hnew, -, hhits, hwrongs⟩ := hhistory.chronicled hchronicled
  have hkept : after.link.link.wrongAcks = s₁.link.link.wrongAcks := by
    rw [hconcluded.carries.link, hacks, hconcluded.underway.carries.link]
  refine ⟨_, (hnew.calmAttempt hconcluded.calm).progressed done total, ?_⟩
  have hcount : (state'.count handling).tally.resyncs = state'.tally.resyncs := by cases handling <;> rfl
  rw [hcount, htally', htally, List.countP_cons_of_neg (by simp),
    List.countP_cons_of_neg (by simp [Trial.misled, hkept]),
    List.countP_append, List.countP_append, hhits, hwrongs]
  simp only [hresyncs]
  omega

/-- A pass that is through with its pages is recovered, unless a call fails after the last of them. -/
theorem PassEnd.recovered {cursor : PageCursor} {state : PassState} {b : Bootloader} {tally : Tally}
    (hend : PassEnd callWire state.tally s b tally after)
    (hprogress : Progress callWire plan plan.total cursor state s b) (hsound : plan.Sound)
    (hsettling : Settling s₀ state s)
    (herased : ∀ i, plan.start.toNat ≤ i → i < plan.stop.toNat → plan.device.flash.byteAt i = erased) :
    Recovered s₀ plan retries (.complete tally) after := by
  intro htolerable
  obtain ⟨trials, hchronicled, hresyncs⟩ := hsettling
  obtain ⟨-, -, hstruck⟩ | ⟨hexit, hcalm, -, hcarries⟩ := hend.clean
  · exact absurd htolerable (hchronicled.not_tolerable_of_struck hstruck)
  have hflash : after.link.link.flash = b.flash := by
    rw [hcarries.link]
    rfl
  have hstop : cursor.current.toNat = plan.stop.toNat := by rw [hprogress.current, hsound.stop_eq]
  refine ⟨tally, rfl, hexit, ?_, ?_, ?_⟩
  · rw [(hchronicled.calm hcalm).chronicle_eq, hend.kept]
    exact hresyncs
  · intro i hlow hhigh
    rw [hflash]
    exact hprogress.byteAt hsound herased hlow hhigh
  · rw [hflash, ← hstop]
    exact hprogress.confined.flash

/-- Take a device that answers as it should, except that rules may replace acknowledgements of
blocks by single wrong bytes, and an accepted range that is erased and low enough for its addresses
to be sent. Whatever faults hit the link: as long as they hit nothing but tries at pages, no page
has more tries hit than the options allow for, and at most one try at a page that is not hit is
answered wrongly, the pass is complete without a failure, the range holds the image and nothing else
has changed, and it recovered once for every try that was hit or answered wrongly. -/
theorem programRange_recovers (image : Image) (start stop : UInt32) (device : Device)
    (options : Options) (cursor : PageCursor) (s : Session (Faulty Bootloader))
    (hidle : s.link.link.stage = .idle) (hheard : s.link.link.output = [])
    (hbuffer : s.link.link.buffer.size = s.link.link.firmware.pageSize) (htame : s.link.link.firmware.Tame)
    (hpageSize : s.link.link.firmware.pageSize = device.geometry.flashPageSize.toNat)
    (heven : device.geometry.flashPageSize.toNat % 2 = 0) (hroom : stop.toNat ≤ s.link.link.flash.size)
    (hlow : stop.toNat ≤ 0x1fffe)
    (herased : ∀ i, start.toNat ≤ i → i < stop.toNat → s.link.link.flash.byteAt i = erased)
    (hcursor : PageCursor.spanning start stop device.geometry.flashPageSize = .ok cursor)
    (himage : ¬image.length32 < stop) (hfaults : ∀ fault ∈ s.link.faults, fault.Reported Failure.OfCall)
    (htolerable :
      (chronicle s (programRange image start stop device options s).2).Tolerable options.retries) :
    let run := programRange image start stop device options s
    let trials := (chronicle s run.2).trials
    ∃ tally, run.1 = .complete tally ∧ tally.exitFailure = none ∧
      tally.resyncs = trials.countP Trial.hit + trials.countP Trial.misled ∧
      (∀ i, start.toNat ≤ i → i < stop.toNat → run.2.link.link.flash.byteAt i = image.getD i erased) ∧
      s.link.link.flash.AgreesOutside start.toNat stop.toNat run.2.link.link.flash := by
  let plan : Plan := ⟨⟨start, stop, device.geometry.flashPageSize⟩, image, s.link.link⟩
  obtain ⟨rfl, hsound⟩ := Plan.sound_of_spanning hcursor himage hpageSize heven hroom
  have hrest : plan.device.AtRest := ⟨hidle, hheard, htame, hbuffer⟩
  have hcarries : callWire.Carries s.link plan.device := ⟨rfl, hfaults⟩
  have hreachable : plan.stop.toNat ≤ 0x1ffff := Nat.le_succ_of_le hlow
  have hopening : Chronicled s (s.opening start stop device) [] false 0 :=
    ((Chronicled.refl s).calm (calm_note _ s)).calm (calm_update _ _)
  have hrecovered : Yields (programRange plan.image plan.start plan.stop device options) s
      (Recovered s plan options.retries) := by
    refine programRange_yields (Settling s) hsound hrest hcarries hcursor himage ?_ ?_ ?_ ?_ ?_
    · intro failure after b' hfails _ _ htolerable
      cases hfails with
      | hit _ hstruck => exact absurd htolerable (hopening.not_tolerable_of_struck hstruck)
      | unreachable hreach => exact absurd ((hsound.reachable_start hreachable).symm.trans hreach) (by decide)
    · intro after hcalm
      exact ⟨[], (hopening.calm hcalm).calm (calm_update _ _), rfl⟩
    · intro n cursor state s' b _ _ hsettling allowance state' s₁ b₁ after b' handling done total
        hconcluded hacks
      exact hsettling.concluded rfl hconcluded hacks
    · intro n cursor state s' b hn hprogress hsettling tally failure after hgivenUp _ htolerable
      obtain ⟨trials, hchronicled, -⟩ := hsettling
      exact absurd htolerable
        (hgivenUp.not_tolerable (hprogress.reachable_next hsound hn hreachable) hchronicled)
    · intro cursor state s' b hprogress hsettling tally after hend
      exact hend.recovered hprogress hsound hsettling herased
  exact hrecovered htolerable

/-- A device that answers the first block wrongly, behind a link that loses an acknowledgement and
then a command while the last page is tried. -/
def limping : Session (Faulty Bootloader) :=
  .start (.start (.start (.tiny [⟨blockCode, 0, some 1, [0x3f]⟩]) (.filled 8 erased))
    [⟨.read, 14, 1, some (.transport "read" (.other "lost")), false, []⟩,
      ⟨.write, 20, 1, some (.transport "write" (.other "lost")), false, []⟩])

set_option maxRecDepth 10000 in
theorem programRange_recovers_limping :
    let run := programRange (.ofBytes ⟨#[1, 2, 0xff, 0xff, 3, 4]⟩) 0 6 .tiny .none limping
    let trials := (chronicle limping run.2).trials
    trials.countP Trial.hit = 2 ∧ trials.countP Trial.misled = 1 ∧
      ∃ tally, run.1 = .complete tally ∧ tally.exitFailure = none ∧
        tally.resyncs = trials.countP Trial.hit + trials.countP Trial.misled ∧
        (∀ i, 0 ≤ i → i < 6 →
          run.2.link.link.flash.byteAt i = (Image.ofBytes ⟨#[1, 2, 0xff, 0xff, 3, 4]⟩).getD i erased) ∧
        (Memory.filled 8 erased).AgreesOutside 0 6 run.2.link.link.flash := by
  let run := programRange (.ofBytes ⟨#[1, 2, 0xff, 0xff, 3, 4]⟩) 0 6 .tiny .none limping
  have htame : limping.link.link.firmware.Tame := by
    refine ⟨rfl, by decide, ?_⟩
    intro rule hrule
    rw [List.mem_singleton.mp hrule]
    exact ⟨rfl, 0x3f, by decide, rfl⟩
  have herased : ∀ i, (0 : UInt32).toNat ≤ i → i < (6 : UInt32).toNat →
      limping.link.link.flash.byteAt i = erased := by
    intro i _ _
    change (Memory.filled 8 erased).byteAt i = erased
    rw [Memory.byteAt_filled]
    split <;> rfl
  have hfaults : ∀ fault ∈ limping.link.faults, fault.Reported Failure.OfCall := by
    intro fault hfault
    rcases List.mem_cons.mp hfault with rfl | hfault
    · exact ⟨_, rfl, rfl, rfl⟩
    · rw [List.mem_singleton.mp hfault]
      exact ⟨_, rfl, rfl, rfl⟩
  have htrials : (chronicle limping run.2).trials =
      [⟨4, false, 1, 1⟩, ⟨4, true, 1, 1⟩, ⟨4, true, 1, 1⟩, ⟨2, false, 1, 1⟩, ⟨0, false, 1, 1⟩,
        ⟨0, false, 0, 1⟩] := by
    decide +kernel
  have htolerable : (chronicle limping run.2).Tolerable Options.none.retries := by
    have hle : ∀ (sort : Trial → Bool) (addr : UInt32),
        ((chronicle limping run.2).trials.countP fun trial => trial.addr = addr && sort trial) ≤
          (chronicle limping run.2).trials.countP sort := by
      intro sort addr
      exact List.countP_mono_left fun _ _ hboth => (Bool.and_eq_true_iff.mp hboth).2
    refine ⟨by decide +kernel, fun addr => Nat.le_trans (hle Trial.hit addr) ?_,
      fun addr => Nat.le_trans (hle Trial.misled addr) ?_⟩
    · rw [htrials]
      decide
    · rw [htrials]
      decide
  refine ⟨by rw [htrials]; rfl, by rw [htrials]; rfl, ?_⟩
  exact programRange_recovers (.ofBytes ⟨#[1, 2, 0xff, 0xff, 3, 4]⟩) 0 6 .tiny .none
    ⟨0, 6, 2⟩ limping rfl rfl rfl htame rfl rfl (by decide)
    (by decide) herased rfl (by decide) hfaults htolerable

end Session

end Bootflash
