import Bootflash.Link.Faulty
import Bootflash.Link.Scripted
import Bootflash.Proofs.Moves

namespace Bootflash

/-- The timeout that the event sets. -/
def Event.timeout? : Event → Option Int
  | timeoutSet ms => some ms
  | _ => none

/-- The timeout that the link was given last. -/
def lastTimeout? (entries : List Entry) : Option Int :=
  (entries.filterMap fun entry => entry.event.timeout?).getLast?

theorem lastTimeout?_append {entries later : List Entry} :
    lastTimeout? (entries ++ later) = (lastTimeout? later).or (lastTimeout? entries) := by
  rw [lastTimeout?, List.filterMap_append, List.getLast?_append]
  rfl

/-- The entry is part of an excursion: it stands between the two entries that set the excursion's
timeout and put the former one back, and the calls between these two are those of the excursion. -/
def Excursion.Frames (excursion : Excursion) (ms : Int) (past : List Entry) (entry : Entry)
    (later : List Entry) : Prop :=
  ∃ before opening inside inside' closing after, past = before ++ opening :: inside ∧
    later = inside' ++ closing :: after ∧
    opening.event = .timeoutSet excursion.timeout ∧ closing.event = .timeoutSet ms ∧
    excursion.Calls (callsOf (inside ++ entry :: inside'))

theorem Excursion.Frames.extend {excursion : Excursion} {ms : Int} {past later : List Entry} {entry : Entry}
    (h : excursion.Frames ms past entry later) (earlier rest : List Entry) :
    excursion.Frames ms (earlier ++ past) entry (later ++ rest) := by
  obtain ⟨before, opening, inside, inside', closing, after, rfl, rfl, hframe⟩ := h
  refine ⟨earlier ++ before, opening, inside, inside', closing, after ++ rest, ?_, ?_, hframe⟩
  · rw [List.append_assoc]
  · rw [List.append_assoc, List.cons_append]

/-- How some entries keep to a timeout that was in force before them. -/
structure Punctual (allowed : List Excursion) (ms : Int) (entries : List Entry) : Prop where
  /-- It is in force after them. -/
  restored : ∀ prior, lastTimeout? prior = some ms → lastTimeout? (prior ++ entries) = some ms
  /-- It is in force whenever bytes are written or read, except on an excursion. -/
  kept : ∀ prior, lastTimeout? prior = some ms → ∀ past entry later, entries = past ++ entry :: later →
    entry.event.exchanges = true →
      lastTimeout? (prior ++ past) = some ms ∨ ∃ excursion ∈ allowed, excursion.Frames ms past entry later

namespace Punctual

variable {allowed : List Excursion} {ms : Int} {entries later : List Entry}

/-- Entries that set no timeout. -/
theorem of_silent (h : ∀ entry ∈ entries, entry.event.timeout? = none) : Punctual allowed ms entries := by
  have hsilent : ∀ past, past ⊆ entries → lastTimeout? past = none := by
    intro past hpast
    have hnone : past.filterMap (fun entry => entry.event.timeout?) = [] :=
      List.filterMap_eq_nil_iff.mpr fun entry hentry => h entry (hpast hentry)
    rw [lastTimeout?, hnone]
    rfl
  refine ⟨?_, ?_⟩
  · intro prior hprior
    rw [lastTimeout?_append, hsilent entries (List.Subset.refl _), hprior]
    rfl
  · rintro prior hprior past entry later rfl -
    rw [lastTimeout?_append, hsilent past (List.subset_append_left _ _), hprior]
    exact .inl rfl

theorem append (h : Punctual allowed ms entries) (h' : Punctual allowed ms later) :
    Punctual allowed ms (entries ++ later) := by
  refine ⟨?_, ?_⟩
  · intro prior hprior
    rw [← List.append_assoc]
    exact h'.restored _ (h.restored prior hprior)
  · intro prior hprior past entry rest hsplit hexchanges
    rcases split_of_append hsplit with ⟨between, rfl, hlater⟩ | ⟨between, hentries, rfl⟩
    · rcases h'.kept _ (h.restored prior hprior)
        between entry rest hlater hexchanges with hforce | ⟨excursion, hmem, hframes⟩
      · rw [List.append_assoc] at hforce
        exact .inl hforce
      · refine .inr ⟨excursion, hmem, ?_⟩
        simpa using hframes.extend entries []
    · rcases h.kept prior hprior past entry between hentries hexchanges with
        hforce | ⟨excursion, hmem, hframes⟩
      · exact .inl hforce
      · refine .inr ⟨excursion, hmem, ?_⟩
        simpa using hframes.extend [] later

/-- A whole excursion. -/
theorem of_excursion {excursion : Excursion} (host host' : Host) {inside : List Entry}
    (hmem : excursion ∈ allowed) (hcalls : excursion.Calls (callsOf inside)) :
    Punctual allowed ms (host.timeoutEntry excursion.timeout :: inside ++ [host'.timeoutEntry ms]) := by
  refine ⟨?_, ?_⟩
  · intro prior _
    rw [lastTimeout?_append, lastTimeout?_append]
    rfl
  · intro prior _ past entry later hsplit hexchanges
    cases past with
    | nil =>
      obtain ⟨rfl, -⟩ := List.cons.inj hsplit
      cases hexchanges
    | cons first past =>
      obtain ⟨rfl, hrest⟩ := List.cons.inj hsplit
      rcases List.eq_nil_or_concat later with rfl | ⟨rest, last, hlater⟩
      · obtain ⟨-, hlast⟩ := List.append_inj' hrest rfl
        obtain rfl := List.singleton_inj.mp hlast
        cases hexchanges
      · rw [List.concat_eq_append] at hlater
        subst hlater
        have hconcat : inside ++ [host'.timeoutEntry ms] = past ++ entry :: rest ++ [last] := by
          simpa using hrest
        obtain ⟨rfl, hlast⟩ := List.append_inj' hconcat rfl
        obtain rfl := List.singleton_inj.mp hlast
        exact .inr ⟨excursion, hmem, [], _, past, rest, _, [], rfl, rfl, rfl, rfl, hcalls⟩

end Punctual

namespace Session

variable {ω : Type} [Link ω] {allowed : List Excursion} {s s' : Session ω}

/-- A stretch on which the timeout is kept, by the host and as the journal shows it. -/
def KeepsTimeout (allowed : List Excursion) (s s' : Session ω) : Prop :=
  s'.host.timeout = s.host.timeout ∧
    ∃ entries, s'.journal.toList = s.journal.toList ++ entries ∧ Punctual allowed s.host.timeout entries

theorem Move.keepsTimeout (h : Move s s') : KeepsTimeout allowed s s' := by
  have hentry : ∀ entry : Entry, entry.event.timeout? = none → Punctual allowed s.host.timeout [entry] :=
    fun entry hentry => .of_silent (by simpa using hentry)
  cases h with
  | write bytes htimeout => exact ⟨htimeout, [_], Journal.toList_push, hentry _ rfl⟩
  | read limit => exact ⟨rfl, [_], Journal.toList_push, hentry _ rfl⟩
  | @remark event haside =>
    refine ⟨rfl, [⟨s.host, s.host, event⟩], Journal.toList_push, hentry _ ?_⟩
    cases event with
    | noted | progressed | attempt | recovery => rfl
    | _ => cases haside
  | believe htimeout => exact ⟨htimeout, [], (List.append_nil _).symm, .of_silent (by simp)⟩

theorem Stride.keepsTimeout (h : Stride allowed s s') : KeepsTimeout allowed s s' := by
  cases h with
  | move hmove => exact hmove.keepsTimeout
  | @excursion within excursion entries hmem _ hjournal hcalls =>
    refine ⟨rfl, s.host.timeoutEntry excursion.timeout :: entries ++
      [within.host.timeoutEntry s.host.timeout], ?_, .of_excursion s.host within.host hmem hcalls⟩
    have hafter : (setTimeout s.host.timeout within).2.journal.toList = within.journal.toList ++
        [_] := Journal.toList_push
    have hbegun : (setTimeout excursion.timeout s).2.journal.toList = s.journal.toList ++ [_] :=
      Journal.toList_push
    rw [hafter, hjournal, hbegun]
    simp

theorem Course.keepsTimeout (h : Course allowed s s') : KeepsTimeout allowed s s' := by
  induction h with
  | refl => exact ⟨rfl, [], (List.append_nil _).symm, .of_silent (by simp)⟩
  | tail _ hlast ih =>
    obtain ⟨htimeout, entries, hjournal, hpunctual⟩ := ih
    obtain ⟨htimeout', entries', hjournal', hpunctual'⟩ := hlast.keepsTimeout
    refine ⟨htimeout'.trans htimeout, entries ++ entries', ?_, hpunctual.append (htimeout ▸ hpunctual')⟩
    rw [hjournal', hjournal, List.append_assoc]

end Session

/-- What a session can do, a whole programming pass and a whole cycle for a chip included. -/
inductive Undertaking where
  | single (procedure : Procedure)
  | programRange (image : Image) (start stop : UInt32) (device : Device) (options : Options)
  | programChip (image : Image) (id : UInt8) (options : Options)

namespace Undertaking

/-- The undertaking, apart from what it returns. -/
def perform {ω : Type} [Link ω] : Undertaking → StateM (Session ω) Unit
  | single procedure => do let _ ← procedure.perform.run
  | programRange image start stop device options => do
    let _ ← Session.programRange image start stop device options
  | programChip image id options => do let _ ← Session.programChip image id options

/-- The excursions that the undertaking makes. -/
def excursions : Undertaking → List Excursion
  | single procedure => procedure.excursions
  | programRange .. => [.drain]
  | programChip .. => [.erase, .drain]

end Undertaking

namespace Session

variable {ω : Type} [Link ω]

theorem TakesStep.undertaking (undertaking : Undertaking) :
    TakesStep undertaking.excursions (undertaking.perform : StateM (Session ω) Unit) := by
  cases undertaking with
  | single procedure => exact bind (run (.of_routine (.procedure procedure))) fun _ => pure ()
  | programRange image start stop device options =>
    exact bind (programRange (List.mem_singleton_self _) image start stop device options) fun _ => pure ()
  | programChip image id options =>
    exact bind (programChip (List.mem_cons_of_mem _ (List.mem_singleton_self _))
      List.mem_cons_self image id options) fun _ => pure ()

end Session

namespace Undertaking

/-- Whatever a session does and whatever the link does, the timeout is put back: if the session's
timeout is the one that the link was given last, then it is so afterwards, and it is still the same
one. All that is written or read outside of the excursions that the undertaking makes is written or
read under it. -/
theorem perform_restores_timeout {ω : Type} [Link ω] (undertaking : Undertaking) (s : Session ω)
    (hforce : lastTimeout? s.journal.toList = some s.host.timeout) :
    let after := (undertaking.perform s).2
    after.host.timeout = s.host.timeout ∧ lastTimeout? after.journal.toList = some s.host.timeout ∧
      ∃ entries, after.journal.toList = s.journal.toList ++ entries ∧
        ∀ past entry later, entries = past ++ entry :: later → entry.event.exchanges = true →
          lastTimeout? (s.journal.toList ++ past) = some s.host.timeout ∨
            ∃ excursion ∈ undertaking.excursions, excursion.Frames s.host.timeout past entry later := by
  intro after
  have hcourse : Session.Course undertaking.excursions s after := Session.TakesStep.undertaking undertaking s
  obtain ⟨htimeout, entries, hjournal, hpunctual⟩ := hcourse.keepsTimeout
  refine ⟨htimeout, ?_, entries, hjournal, hpunctual.kept _ hforce⟩
  rw [hjournal]
  exact hpunctual.restored _ hforce

/-- The link is closed while the chip is being erased: the erase is on its way under the longer
timeout, and its answer fails. -/
def cutErase : Session (Faulty Script) :=
  .start (.start (.stream [ack, ack]) [⟨.read, 1, 1, some (.transport "read" .closed), false, []⟩])

/-- The longer timeout is put back although the erase failed under it. -/
theorem perform_restores_timeout_cutErase :
    let after := ((single (.asked .eraseChip)).perform cutErase).2
    lastTimeout? cutErase.journal.toList = some cutErase.host.timeout ∧
      (after.journal.toList.filterMap fun entry => entry.event.timeout?) = [100, 3000, 100] ∧
      after.host.timeout = 100 ∧ lastTimeout? after.journal.toList = some 100 := by
  intro after
  have hforce : lastTimeout? cutErase.journal.toList = some cutErase.host.timeout := by decide +kernel
  obtain ⟨htimeout, hlast, -⟩ := perform_restores_timeout (single (.asked .eraseChip)) cutErase hforce
  exact ⟨hforce, by decide +kernel, htimeout, hlast⟩

end Undertaking

end Bootflash
