import Bootflash.Proofs.FaultyWire
import Bootflash.Proofs.Retry

namespace Bootflash

/-- A try at a page, as a journal shows it: whether a call of it failed, and how many
acknowledgements of blocks the device had replaced before it and after it. -/
structure Trial where
  addr : UInt32
  hit : Bool
  before : Nat
  after : Nat
deriving DecidableEq

/-- No call of the try failed, but the acknowledgement of its block was replaced. -/
def Trial.misled (trial : Trial) : Bool :=
  !trial.hit && trial.before != trial.after

structure Chronicle where
  /-- The link as of the last entry. -/
  link : Faulty Bootloader
  /-- The tries, the latest first. -/
  trials : List Trial
  /-- Whether the latest of them is going on. -/
  running : Bool
  /-- How many failing calls belong to no try. -/
  strays : Nat

namespace Chronicle

/-- Nothing has been read yet. -/
def start (link : Faulty Bootloader) : Chronicle :=
  ⟨link, [], false, 0⟩

/-- Takes in something that is no milestone. -/
def call (c : Chronicle) (link : Faulty Bootloader) (failed : Bool) : Chronicle :=
  match c.running, c.trials with
  | true, trial :: trials =>
    ⟨link, { trial with hit := trial.hit || failed, after := link.link.wrongAcks } :: trials, true, c.strays⟩
  | running, trials => ⟨link, trials, running, c.strays + failed.toNat⟩

/-- Reads one entry. -/
def follow (c : Chronicle) (entry : Entry) : Chronicle :=
  let link := Link.follow c.link entry
  match entry.event with
  | .attempt addr =>
    ⟨link, ⟨addr, false, link.link.wrongAcks, link.link.wrongAcks⟩ :: c.trials, true, c.strays⟩
  | .recovery _ | .progressed _ _ => { c with link, running := false }
  | event => c.call link event.failed

variable {link : Faulty Bootloader} {trials : List Trial} {strays : Nat} {entries : List Entry}

theorem follow_of_quiet {entry : Entry} (hquiet : entry.event.milestone = false) (c : Chronicle) :
    c.follow entry = c.call (Link.follow c.link entry) entry.event.failed := by
  obtain ⟨before, host, event⟩ := entry
  cases event <;> first | rfl | cases hquiet

/-- Up to the next milestone, the try that is going on collects what happens. -/
theorem foldl_running {addr : UInt32} {hit : Bool} {before : Nat}
    (hquiet : ∀ entry ∈ entries, entry.event.milestone = false) :
    entries.foldl follow ⟨link, ⟨addr, hit, before, link.link.wrongAcks⟩ :: trials, true, strays⟩ =
      let link' := entries.foldl Link.follow link
      ⟨link', ⟨addr, hit || entries.any (·.event.failed), before, link'.link.wrongAcks⟩ :: trials,
        true, strays⟩ := by
  induction entries generalizing link hit with
  | nil => simp
  | cons entry rest ih =>
    rw [List.foldl_cons, follow_of_quiet (hquiet entry List.mem_cons_self)]
    simp only [call]
    rw [ih fun entry hentry => hquiet entry (List.mem_cons_of_mem _ hentry)]
    simp [Bool.or_assoc]

/-- Up to the next milestone, with no try going on, failing calls are counted. -/
theorem foldl_idle (hquiet : ∀ entry ∈ entries, entry.event.milestone = false) :
    entries.foldl follow ⟨link, trials, false, strays⟩ =
      ⟨entries.foldl Link.follow link, trials, false, strays + entries.countP (·.event.failed)⟩ := by
  induction entries generalizing link strays with
  | nil => rfl
  | cons entry rest ih =>
    rw [List.foldl_cons, follow_of_quiet (hquiet entry List.mem_cons_self)]
    simp only [call]
    rw [ih fun entry hentry => hquiet entry (List.mem_cons_of_mem _ hentry), List.countP_cons]
    cases entry.event.failed <;> simp [Nat.add_assoc, Nat.add_comm]

end Chronicle

namespace Session

variable {s₀ s s' after : Session (Faulty Bootloader)} {trials : List Trial} {running : Bool} {strays : Nat}

/-- What the journal tells about the way from the first state to the second. -/
def chronicle (s₀ s : Session (Faulty Bootloader)) : Chronicle :=
  (s.journal.toList.drop s₀.journal.size).foldl Chronicle.follow (.start s₀.link)

/-- The way from the first state to the second is told by these tries. -/
def Chronicled (s₀ s : Session (Faulty Bootloader)) (trials : List Trial) (running : Bool)
    (strays : Nat) : Prop :=
  ∃ entries, Leg s₀ s entries ∧
    entries.foldl Chronicle.follow (.start s₀.link) = ⟨s.link, trials, running, strays⟩

namespace Chronicled

theorem refl (s : Session (Faulty Bootloader)) : Chronicled s s [] false 0 :=
  ⟨[], .refl s, rfl⟩

theorem chronicle_eq (h : Chronicled s₀ s trials running strays) :
    chronicle s₀ s = ⟨s.link, trials, running, strays⟩ := by
  obtain ⟨entries, hleg, hfold⟩ := h
  rw [chronicle, hleg.journal, ← hfold, ← Journal.length_toList, List.drop_left]

theorem leg {entries : List Entry} (h : Chronicled s₀ s trials running strays) (hleg : Leg s s' entries) :
    ∃ entries', Leg s₀ s' entries' ∧ entries'.foldl Chronicle.follow (.start s₀.link) =
      entries.foldl Chronicle.follow ⟨s.link, trials, running, strays⟩ := by
  obtain ⟨entries₀, hleg₀, hfold⟩ := h
  exact ⟨entries₀ ++ entries, hleg₀.trans hleg, by rw [List.foldl_append, hfold]⟩

/-- A stretch outside of any try on which no call failed adds nothing. -/
theorem calm (h : Chronicled s₀ s trials false strays)
    (hcalm : Calm s s') : Chronicled s₀ s' trials false strays := by
  obtain ⟨entries, hleg, hcalm⟩ := hcalm
  obtain ⟨entries', hleg', hfold⟩ := h.leg hleg
  rw [Chronicle.foldl_idle fun entry hentry => (hcalm entry hentry).1, ← hleg.link] at hfold
  have hnone : entries.countP (·.event.failed) = 0 := by
    rw [List.countP_eq_zero]
    intro entry hentry
    simp [(hcalm entry hentry).2]
  rw [hnone] at hfold
  exact ⟨entries', hleg', hfold⟩

/-- A call that failed outside of any try shows. -/
theorem stray (h : Chronicled s₀ s trials false strays) (hstruck : Struck s s') :
    ∃ n, 0 < n ∧ Chronicled s₀ s' trials false n := by
  obtain ⟨entries, hleg, hquiet, hfailed⟩ := hstruck
  obtain ⟨entries', hleg', hfold⟩ := h.leg hleg
  rw [Chronicle.foldl_idle hquiet, ← hleg.link] at hfold
  have hsome : 0 < entries.countP (·.event.failed) := List.countP_pos_iff.mpr hfailed
  exact ⟨_, by omega, entries', hleg', hfold⟩

/-- A try, as far as it has come. -/
theorem attempt {cursor : PageCursor} {entries : List Entry} (h : Chronicled s₀ s trials running strays)
    (hleg : Leg (s.attempting cursor) s' entries)
    (hquiet : ∀ entry ∈ entries, entry.event.milestone = false) :
    Chronicled s₀ s'
      (⟨cursor.current, entries.any (·.event.failed),
        s.link.link.wrongAcks, s'.link.link.wrongAcks⟩ :: trials)
      true strays := by
  have hattempt : Leg s (s.attempting cursor) [⟨s.host, s.host, .attempt cursor.current⟩] := .single rfl rfl
  obtain ⟨entries', hleg', hfold⟩ := h.leg (hattempt.trans hleg)
  have hlink : s'.link = entries.foldl Link.follow s.link := hleg.link
  rw [List.singleton_append, List.foldl_cons] at hfold
  refine ⟨entries', hleg', ?_⟩
  rw [hfold, hlink]
  exact Chronicle.foldl_running hquiet

theorem calmAttempt {cursor : PageCursor} (h : Chronicled s₀ s trials running strays)
    (hcalm : Calm (s.attempting cursor) s') :
    Chronicled s₀ s'
      (⟨cursor.current, false, s.link.link.wrongAcks, s'.link.link.wrongAcks⟩ :: trials) true strays := by
  obtain ⟨entries, hleg, hcalm⟩ := hcalm
  have hnone : entries.any (·.event.failed) = false := by
    rw [List.any_eq_false]
    intro entry hentry
    simp [(hcalm entry hentry).2]
  have h' := h.attempt hleg fun entry hentry => (hcalm entry hentry).1
  rwa [hnone] at h'

theorem struckAttempt {cursor : PageCursor} (h : Chronicled s₀ s trials running strays)
    (hstruck : Struck (s.attempting cursor) s') :
    Chronicled s₀ s'
      (⟨cursor.current, true, s.link.link.wrongAcks, s'.link.link.wrongAcks⟩ :: trials) true strays := by
  obtain ⟨entries, hleg, hquiet, hfailed⟩ := hstruck
  have hsome : entries.any (·.event.failed) = true := List.any_eq_true.mpr hfailed
  have h' := h.attempt hleg hquiet
  rwa [hsome] at h'

/-- The recovery from a failed try is no part of it. -/
theorem recovering {cursor : PageCursor} {failure : Failure} {addr : UInt32} {hit : Bool} {before : Nat}
    (h : Chronicled s₀ s (⟨addr, hit, before, s.link.link.wrongAcks⟩ :: trials) true strays) :
    Chronicled s₀ (s.recovering cursor failure)
      (⟨addr, hit, before, s.link.link.wrongAcks⟩ :: trials) false strays := by
  have hnote : Leg s (note (.pageFailed s.host.mode cursor.current failure) s).2
      [⟨s.host, s.host, .noted (.pageFailed s.host.mode cursor.current failure)⟩] := .single rfl rfl
  have hrecovery : Leg (note (.pageFailed s.host.mode cursor.current failure) s).2
      (s.recovering cursor failure) [⟨s.host, s.host, .recovery cursor.current⟩] := .single rfl rfl
  obtain ⟨entries, hleg, hfold⟩ := h.leg (hnote.trans hrecovery)
  refine ⟨entries, hleg, ?_⟩
  rw [hfold]
  cases hit <;> rfl

theorem progressed (h : Chronicled s₀ s trials running strays) (done total : Nat) :
    Chronicled s₀ (record (.progressed done total) s).2 trials false strays := by
  have hprogressed : Leg s (record (.progressed done total) s).2
      [⟨s.host, s.host, .progressed done total⟩] := .single rfl rfl
  exact h.leg hprogressed

end Chronicled

variable {Reports : Failure → Prop} {hsort : Failure.LinkSort Reports} {cursor : PageCursor}
  {firmware : Firmware} {hits wrongs n : Nat}

theorem Replaced.wrongAcks_eq (h : Replaced (Faulty.wire Reports hsort) firmware n s s') :
    s'.link.link.wrongAcks = s.link.link.wrongAcks + n := by
  obtain ⟨b, b', hb, hb', -, -, hacks⟩ := h
  rw [hb.link, hb'.link, hacks]

/-- The tries that a page has had are in the chronicle, told apart as the history of the page tells
them apart. -/
theorem History.chronicled (h : History (Faulty.wire Reports hsort) cursor firmware s hits wrongs s')
    (hs : Chronicled s₀ s trials running strays) :
    ∃ new running', Chronicled s₀ s' (new ++ trials) running' strays ∧
      (∀ trial ∈ new, trial.addr = cursor.current) ∧
      new.countP Trial.hit = hits ∧ new.countP Trial.misled = wrongs := by
  induction h with
  | start => exact ⟨[], running, hs, by simp, rfl, rfl⟩
  | hit before reports struck recovered ih =>
    obtain ⟨new, running', hnew, haddr, hhits, hwrongs⟩ := ih
    refine ⟨_ :: new, false, (hnew.struckAttempt struck).recovering.calm recovered, ?_, ?_, ?_⟩
    · simpa using haddr
    · simp [hhits]
    · simp [hwrongs, Trial.misled]
  | misled before calm replaced recovered ih =>
    obtain ⟨new, running', hnew, haddr, hhits, hwrongs⟩ := ih
    refine ⟨_ :: new, false, (hnew.calmAttempt calm).recovering.calm recovered, ?_, ?_, ?_⟩
    · simpa using haddr
    · simp [hhits]
    · simp [hwrongs, Trial.misled, replaced.wrongAcks_eq]
  | redone before calm kept ih =>
    obtain ⟨new, running', hnew, haddr, hhits, hwrongs⟩ := ih
    refine ⟨_ :: new, true, hnew.calmAttempt calm, ?_, ?_, ?_⟩
    · simpa using haddr
    · simp [hhits]
    · simp [hwrongs, Trial.misled, kept.wrongAcks_eq]

end Session

end Bootflash
