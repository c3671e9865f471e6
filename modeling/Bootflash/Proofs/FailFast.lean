import Bootflash.Link.Faulty
import Bootflash.Link.Scripted
import Bootflash.Proofs.Conduct

namespace Bootflash

/-- Whether the failure is that of an operation of the link, with no response of a device behind it. -/
def Failure.ofLink : Failure → Bool
  | transport _ cause => !cause.isCommand
  | _ => false

theorem Failure.isTransport_of_ofLink {failure : Failure} (h : failure.ofLink = true) :
    failure.isTransport = true ∧ failure.isCommand = false := by
  cases failure with
  | transport operation cause => exact ⟨rfl, Bool.not_inj h⟩
  | _ => simp [ofLink] at h

/-- However it is handed on, a failure of the link is not taken for anything else. -/
theorem Failure.PassesOn.isTransport {cause failure : Failure} (h : cause.PassesOn failure)
    (hlink : cause.ofLink = true) :
    failure.isTransport = true ∧ failure.isCommand = false := by
  induction h with
  | itself => exact isTransport_of_ofLink hlink
  | context text _ ih => exact ih
  | unsupported text hresponse =>
    rw [(isTransport_of_ofLink hlink).2] at hresponse
    cases hresponse

theorem Event.failed_eq_isSome (event : Event) : event.failed = event.failure?.isSome := by
  cases event <;> rfl

/-- An entry of two stretches is in the later one or in the earlier one. -/
theorem split_of_append {entries later past rest : List Entry} {entry : Entry}
    (h : entries ++ later = past ++ entry :: rest) :
    (∃ between, past = entries ++ between ∧ later = between ++ entry :: rest) ∨
      ∃ between, entries = past ++ entry :: between ∧ rest = between ++ later := by
  rcases List.append_eq_append_iff.mp h with hlater | ⟨between, hentries, hrest⟩
  · exact .inl hlater
  · cases between with
    | nil => exact .inl ⟨[], by simpa using hentries.symm, hrest.symm⟩
    | cons first between =>
      obtain ⟨rfl, rfl⟩ := List.cons.inj hrest
      exact .inr ⟨between, hentries, rfl⟩

/-- How the calls of an operation and the failure it reports belong together. -/
structure FailsFast (entries : List Entry) (outcome : Option Failure) : Prop where
  /-- The link is blamed just if a call to it failed. -/
  blames : (∃ failure ∈ outcome, failure.isTransport = true) ↔ ∃ entry ∈ entries, entry.event.failed = true
  /-- Nothing is written or read after a call that failed. -/
  stops : ∀ before entry later, entries = before ++ entry :: later → entry.event.failed = true →
    ∀ after ∈ later, after.event.exchanges = false
  /-- The link is never blamed together with the device. -/
  either : ∀ failure ∈ outcome, ¬(failure.isTransport = true ∧ failure.isCommand = true)

namespace FailsFast

variable {entries : List Entry} {outcome : Option Failure}

/-- No call failed, and the link is not blamed. -/
theorem of_calm (hcalm : ∀ entry ∈ entries, entry.event.failure? = none)
    (houtcome : ∀ failure ∈ outcome, failure.isTransport = false) : FailsFast entries outcome := by
  have hwell : ∀ entry ∈ entries, entry.event.failed = false := by
    intro entry hentry
    rw [Event.failed_eq_isSome, hcalm entry hentry]
    rfl
  refine ⟨⟨?_, ?_⟩, ?_, ?_⟩
  · rintro ⟨failure, hfailure, htransport⟩
    exact absurd (houtcome failure hfailure) (by simp [htransport])
  · rintro ⟨entry, hentry, hfailed⟩
    exact absurd (hwell entry hentry) (by simp [hfailed])
  · rintro before entry later rfl hfailed
    exact absurd (hwell entry (by simp)) (by simp [hfailed])
  · rintro failure hfailure ⟨htransport, -⟩
    exact absurd (houtcome failure hfailure) (by simp [htransport])

/-- A call failed, nothing was said after it, and the link is blamed for it. -/
theorem of_cut {before rest : List Entry} {entry : Entry} {failure : Failure}
    (hcalm : ∀ entry ∈ before, entry.event.failure? = none) (hfailed : entry.event.failed = true)
    (hsilent : ∀ entry ∈ rest, entry.event.exchanges = false) (htransport : failure.isTransport = true)
    (hcommand : failure.isCommand = false) : FailsFast (before ++ entry :: rest) (some failure) := by
  refine ⟨⟨fun _ => ⟨entry, by simp, hfailed⟩, fun _ => ⟨failure, rfl, htransport⟩⟩, ?_, ?_⟩
  · intro before' entry' later hsplit hfailed' after hafter
    -- The entry that failed is the one: nothing before it did, and nothing behind it is a call.
    rcases split_of_append hsplit with ⟨between, -, hrest⟩ | ⟨between, rfl, -⟩
    · cases between with
      | nil =>
        obtain ⟨-, rfl⟩ := List.cons.inj hrest
        exact hsilent after hafter
      | cons first between =>
        obtain ⟨-, rfl⟩ := List.cons.inj hrest
        exact hsilent after (by simp [hafter])
    · rw [Event.failed_eq_isSome, hcalm entry' (by simp)] at hfailed'
      cases hfailed'
  · intro failure' hfailure' hboth
    obtain rfl : failure = failure' := Option.some.inj hfailure'
    exact absurd hboth.2 (by simp [hcommand])

end FailsFast

/-- An operation whose calls bear out how it ended fails fast, provided that the link blames nothing
but itself. -/
theorem Verdict.failsFast {entries : List Entry} {outcome : Option Failure} (h : Verdict entries outcome)
    (hlink : ∀ entry ∈ entries, ∀ failure ∈ entry.event.failure?, failure.ofLink = true) :
    FailsFast entries outcome := by
  cases h with
  | well hcalm => exact .of_calm hcalm (by simp)
  | own hcalm hown => exact .of_calm hcalm (by simpa using hown.isTransport)
  | @cut before rest entry cause failure hcalm hfailed hsilent hpasses =>
    obtain ⟨htransport, hcommand⟩ := hpasses.isTransport (hlink entry (by simp) cause hfailed)
    have hcall : entry.event.failed = true := by rw [Event.failed_eq_isSome, hfailed]; rfl
    exact .of_cut hcalm hcall hsilent htransport hcommand

namespace Procedure

/-- Whatever a session does and whatever the link answers, it fails fast: provided that every
failing call reported a failure of the link itself, the link is blamed just if a call failed, that
call was the last one, and the device is not blamed as well. -/
theorem perform_failsFast {ω : Type} [Link ω] (procedure : Procedure) (s : Session ω) :
    let run := Session.failureOf procedure.perform s
    ∃ entries, run.2.journal.toList = s.journal.toList ++ entries ∧
      ((∀ entry ∈ entries, ∀ failure ∈ entry.event.failure?, failure.ofLink = true) →
        FailsFast entries run.1) := by
  intro run
  have hconducted : Session.Conducted s run.2 run.1 :=
    (Session.Routine.procedure procedure).conducts.failureOf s
  obtain ⟨entries, hjournal, -, hverdict⟩ := hconducted.told
  exact ⟨entries, hjournal, hverdict.failsFast⟩

/-- A session in fast mode, on a link that fails at its third read. -/
def failing : Session (Faulty Script) :=
  ⟨.start (Script.chunks [[], [ack]]) [⟨.read, 2, 1, some (.transport "read" (.other "gone")), false, []⟩],
    { Host.initial with mode := .fast }, .empty⟩

/-- The page is erased in vain: the answer to the erase is not read, and the pointer is not put back. -/
theorem perform_failsFast_unerased :
    let run := Session.failureOf (recoverPage 128 2).perform failing
    run.1 = some (.transport "read" (.other "gone")) ∧ FailsFast run.2.journal.toList run.1 := by
  intro run
  obtain ⟨entries, hjournal, hfast⟩ := perform_failsFast (recoverPage 128 2) failing
  obtain rfl : run.2.journal.toList = entries := hjournal
  exact ⟨by decide +kernel, hfast (by decide +kernel)⟩

end Procedure

end Bootflash
