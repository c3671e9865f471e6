import Bootflash.Proofs.Conduct
import Bootflash.Proofs.Pass

namespace Bootflash

/-- Whether a bad or missing response alone is behind the failure. -/
def Failure.isMismatch (failure : Failure) : Bool :=
  !failure.isTransport && failure.isCommand

namespace Allowance

variable {a rest last : Allowance} {failure : Failure} {failures more : List Failure}

/-- A failure that is allowed for is taken from the share of its sort. -/
theorem cases_of_spend (h : a.spend failure = some rest) :
    (failure.isTransport = true ∧ failure.isMismatch = false ∧ a.faults = rest.faults + 1 ∧
      a.mismatches = rest.mismatches) ∨
      (failure.isTransport = false ∧ failure.isMismatch = true ∧ a.faults = rest.faults ∧
        a.mismatches = rest.mismatches + 1) := by
  obtain ⟨faults, mismatches⟩ := a
  cases htransport : failure.isTransport with
  | true =>
    cases faults with
    | zero => simp [spend, htransport] at h
    | succ n =>
      simp only [spend, htransport, if_true, Option.some.injEq] at h
      subst h
      exact .inl ⟨rfl, by simp [Failure.isMismatch, htransport], rfl, rfl⟩
  | false =>
    cases hcommand : failure.isCommand with
    | false => simp [spend, htransport, hcommand] at h
    | true =>
      cases mismatches with
      | zero => simp [spend, htransport, hcommand] at h
      | succ n =>
        simp only [spend, htransport, hcommand, if_true, Bool.false_eq_true, if_false, Option.some.injEq] at h
        subst h
        exact .inr ⟨rfl, by simp [Failure.isMismatch, htransport, hcommand], rfl, rfl⟩

/-- A failure that is not allowed for is one too many of its sort, or of a sort that nothing is set
aside for. -/
theorem cases_of_spend_eq_none (h : a.spend failure = none) :
    (failure.isTransport = true ∧ a.faults = 0) ∨ (failure.isMismatch = true ∧ a.mismatches = 0) ∨
      (failure.isTransport = false ∧ failure.isCommand = false) := by
  obtain ⟨faults, mismatches⟩ := a
  cases htransport : failure.isTransport with
  | true => exact .inl ⟨rfl, faults_of_spend_eq_none htransport h⟩
  | false =>
    cases hcommand : failure.isCommand with
    | false => exact .inr (.inr ⟨rfl, rfl⟩)
    | true =>
      cases mismatches with
      | zero => exact .inr (.inl ⟨by simp [Failure.isMismatch, htransport, hcommand], rfl⟩)
      | succ n => simp [spend, htransport, hcommand] at h

/-- Failures that are all allowed for, one after the other, and what they leave. -/
inductive Spends : Allowance → List Failure → Allowance → Prop
  | nothing {a : Allowance} : Spends a [] a
  | next {a rest last : Allowance} {failure : Failure} {failures : List Failure}
    (spend : a.spend failure = some rest) (more : Spends rest failures last) :
    Spends a (failure :: failures) last

theorem Spends.append (h : Spends a failures rest) (h' : Spends rest more last) :
    Spends a (failures ++ more) last := by
  induction h with
  | nothing => exact h'
  | next hspend _ ih => exact .next hspend (ih h')

/-- Each sort of failure is paid for from its own share, and no other sort is. -/
theorem Spends.counts (h : Spends a failures rest) :
    failures.countP Failure.isTransport + rest.faults = a.faults ∧
      failures.countP Failure.isMismatch + rest.mismatches = a.mismatches ∧
      failures.length = failures.countP Failure.isTransport + failures.countP Failure.isMismatch := by
  induction h with
  | nothing => simp
  | next hspend _ ih =>
    rcases cases_of_spend hspend with
      ⟨htransport, hmismatch, hfaults, hmismatches⟩ | ⟨htransport, hmismatch, hfaults, hmismatches⟩
    · simp only [List.countP_cons, htransport, hmismatch, if_true, List.length_cons,
        Bool.false_eq_true, if_false]
      omega
    · simp only [List.countP_cons, htransport, hmismatch, if_true, List.length_cons,
        Bool.false_eq_true, if_false]
      omega

end Allowance

namespace Event

/-- The page that is about to be tried. -/
def tried? : Event → Option UInt32
  | attempt addr => some addr
  | _ => none

/-- The page for whose sake the link is about to be put back into a known state. -/
def recovered? : Event → Option UInt32
  | recovery addr => some addr
  | _ => none

/-- The failure after which the page at `addr` is tried again. -/
def retried? (addr : UInt32) : Event → Option Failure
  | noted (.pageFailed _ page failure) => if page = addr then some failure else none
  | _ => none

theorem marks_of_not_ofLoop {event : Event} (h : event.ofLoop = false) (addr : UInt32) :
    event.tried? = none ∧ event.recovered? = none ∧ event.retried? addr = none := by
  cases event with
  | progressed | attempt | recovery => simp [ofLoop, milestone] at h
  | noted notice =>
    cases notice with
    | pageFailed => simp [ofLoop] at h
    | _ => exact ⟨rfl, rfl, rfl⟩
  | _ => exact ⟨rfl, rfl, rfl⟩

end Event

/-- The pages tried, once for every try. -/
def triesOf (entries : List Entry) : List UInt32 :=
  entries.filterMap fun entry => entry.event.tried?

/-- The pages recovered, once for every recovery. -/
def recoveriesOf (entries : List Entry) : List UInt32 :=
  entries.filterMap fun entry => entry.event.recovered?

/-- The failures after which the page at `addr` was tried again. -/
def failuresAt (addr : UInt32) (entries : List Entry) : List Failure :=
  entries.filterMap fun entry => entry.event.retried? addr

section Marks

variable {entries later : List Entry} {addr : UInt32}

@[simp]
theorem triesOf_append : triesOf (entries ++ later) = triesOf entries ++ triesOf later :=
  List.filterMap_append

@[simp]
theorem recoveriesOf_append : recoveriesOf (entries ++ later) = recoveriesOf entries ++ recoveriesOf later :=
  List.filterMap_append

@[simp]
theorem failuresAt_append : failuresAt addr (entries ++ later) = failuresAt addr entries ++
    failuresAt addr later :=
  List.filterMap_append

theorem marks_eq_nil (h : ∀ entry ∈ entries, entry.event.ofLoop = false) :
    triesOf entries = [] ∧ recoveriesOf entries = [] ∧ ∀ addr, failuresAt addr entries = [] := by
  refine ⟨?_, ?_, fun addr => ?_⟩ <;> refine List.filterMap_eq_nil_iff.mpr fun entry hentry => ?_
  · exact (Event.marks_of_not_ofLoop (h entry hentry) 0).1
  · exact (Event.marks_of_not_ofLoop (h entry hentry) 0).2.1
  · exact (Event.marks_of_not_ofLoop (h entry hentry) addr).2.2

end Marks

/-- What a page has cost: it was tried again after the failures, with a recovery in between, and
tried so many times without a recovery after that. -/
structure Spent (addr : UInt32) (failures : List Failure) (last : Nat) (entries : List Entry) : Prop where
  tries : triesOf entries = List.replicate (failures.length + last) addr
  recoveries : recoveriesOf entries = List.replicate failures.length addr
  failures : ∀ other, failuresAt other entries = if other = addr then failures else []

namespace Spent

variable {addr : UInt32} {failures failures' : List Failure} {last last' : Nat}
  {entries entries' : List Entry}

theorem nothing (h : ∀ entry ∈ entries, entry.event.ofLoop = false) : Spent addr [] 0 entries := by
  obtain ⟨htries, hrecoveries, hfailures⟩ := marks_eq_nil h
  exact ⟨htries, hrecoveries, fun other => by simp [hfailures]⟩

theorem attempt (host : Host) : Spent addr [] 1 [⟨host, host, .attempt addr⟩] :=
  ⟨rfl, rfl, fun other => by simp [failuresAt, Event.retried?]⟩

theorem append (h : Spent addr failures last entries) (h' : Spent addr failures' last' entries') :
    Spent addr (failures ++ failures') (last + last') (entries ++ entries') := by
  refine ⟨?_, ?_, fun other => ?_⟩
  · rw [triesOf_append, h.tries, h'.tries, List.replicate_append_replicate, List.length_append]
    congr 1
    omega
  · rw [recoveriesOf_append, h.recoveries, h'.recoveries, List.replicate_append_replicate, List.length_append]
  · rw [failuresAt_append, h.failures, h'.failures]
    split <;> simp

/-- A try that failed counts as one with a recovery after it as soon as that is announced. -/
theorem recover (h : Spent addr failures (last + 1) entries) (host : Host) (mode : WriteMode)
    (failure : Failure) :
    Spent addr (failures ++ [failure]) last
      (entries ++ [⟨host, host, .noted (.pageFailed mode addr failure)⟩, ⟨host, host, .recovery addr⟩]) := by
  refine ⟨?_, ?_, fun other => ?_⟩
  · rw [triesOf_append, h.tries, List.length_append, List.length_singleton]
    simp only [triesOf, Event.tried?, List.filterMap_cons, List.filterMap_nil, List.append_nil]
    congr 1
    omega
  · rw [recoveriesOf_append, h.recoveries, List.length_append,
      List.length_singleton, ← List.replicate_append_replicate]
    rfl
  · rw [failuresAt_append, h.failures]
    by_cases hother : other = addr
    · simp [failuresAt, Event.retried?, hother]
    · simp [failuresAt, Event.retried?, hother, Ne.symm hother]

end Spent

namespace Session

variable {ω α : Type} {s middle s' : Session ω} {cursor : PageCursor}
  {failures failures' : List Failure} {last last' : Nat}

/-- What the page under the cursor cost between two states of a session. -/
def Charged (cursor : PageCursor) (failures : List Failure) (last : Nat) (s s' : Session ω) : Prop :=
  ∃ entries, s'.journal.toList = s.journal.toList ++ entries ∧ Spent cursor.current failures last entries

theorem Charged.trans (h : Charged cursor failures last s middle)
    (h' : Charged cursor failures' last' middle s') :
    Charged cursor (failures ++ failures') (last + last') s s' := by
  obtain ⟨entries, hjournal, hspent⟩ := h
  obtain ⟨entries', hjournal', hspent'⟩ := h'
  exact ⟨entries ++ entries', by rw [hjournal', hjournal, List.append_assoc], hspent.append hspent'⟩

theorem Charged.unmarked (h : Charged cursor failures last s middle) (h' : Unmarked middle s') :
    Charged cursor failures last s s' := by
  obtain ⟨entries, hjournal, hmarks⟩ := h'
  have hnothing : Charged cursor [] 0 middle s' := ⟨entries, hjournal, .nothing hmarks⟩
  simpa using h.trans hnothing

theorem charged_attempting (cursor : PageCursor)
    (s : Session ω) : Charged cursor [] 1 s (s.attempting cursor) :=
  ⟨[⟨s.host, s.host, .attempt cursor.current⟩], Journal.toList_push, .attempt s.host⟩

theorem Charged.recovering (h : Charged cursor failures (last + 1) s middle) (failure : Failure) :
    Charged cursor (failures ++ [failure]) last s (middle.recovering cursor failure) := by
  obtain ⟨entries, hjournal, hspent⟩ := h
  refine ⟨_, ?_, hspent.recover middle.host middle.host.mode failure⟩
  rw [← List.append_assoc, ← hjournal]
  change ((middle.journal.push _).push _).toList = _
  simp

/-- The second session came out of the first, and is in slow mode if that was. -/
structure Later (s s' : Session ω) : Prop where
  journal : s.journal.toList <+: s'.journal.toList
  slow : s.host.mode = .slow → s'.host.mode = .slow

theorem Later.trans (h : Later s middle) (h' : Later middle s') : Later s s' :=
  ⟨h.journal.trans h'.journal, fun hslow => h'.slow (h.slow hslow)⟩

theorem Unmarked.later (h : Unmarked s s') (hslow : s.host.mode = .slow → s'.host.mode = .slow) :
    Later s s' := by
  obtain ⟨entries, hjournal, -⟩ := h
  exact ⟨⟨entries, hjournal.symm⟩, hslow⟩

theorem later_attempting (cursor : PageCursor) (s : Session ω) : Later s (s.attempting cursor) := by
  obtain ⟨entries, hjournal, -⟩ := charged_attempting cursor s
  exact ⟨⟨entries, hjournal.symm⟩, fun hslow => hslow⟩

theorem later_recovering (cursor : PageCursor) (failure : Failure)
    (s : Session ω) : Later s (s.recovering cursor failure) := by
  refine ⟨?_, fun hslow => hslow⟩
  change _ <+: ((s.journal.push _).push _).toList
  simp

variable [Link ω] {attempt : Bool → StateM (Session ω) (Attempt α)} {rest a : Allowance} {state : PassState}

/-- How the tries at a page end: with one that went through, with one whose failure the rest of the
allowance does not cover, or with a recovery that failed. The number says how many tries had no
recovery after them. -/
inductive RetryEnd (cursor : PageCursor) (attempt : Bool → StateM (Session ω) (Attempt α)) (s : Session ω)
    (rest : Allowance) (after : Session ω) : Except Failure α → Nat → Prop
  | through {before : Session ω} {probed probed' : Bool} {outcome : α} (later : Later s before)
    (run : attempt probed before = (⟨outcome, none, probed'⟩, after)) :
    RetryEnd cursor attempt s rest after (.ok outcome) 1
  | exhausted {before : Session ω} {probed probed' : Bool} {outcome : α} {cause : Failure}
    (later : Later s before) (run : attempt probed before = (⟨outcome, some cause, probed'⟩, after))
    (spent : rest.spend cause = none) :
    RetryEnd cursor attempt s rest after (.error cause) 1
  | unrecovered {before : Session ω} {cause : Failure} (later : Later s before)
    (run : (recoverPage cursor.current cursor.pageSize).run before = (.error cause, after)) :
    RetryEnd cursor attempt s rest after (.error cause) 0

theorem RetryEnd.earlier {after : Session ω} {result : Except Failure α}
    (h : RetryEnd cursor attempt middle rest after result last) (hlater : Later s middle) :
    RetryEnd cursor attempt s rest after result last := by
  cases h with
  | through hlater' hrun => exact .through (hlater.trans hlater') hrun
  | exhausted hlater' hrun hspent => exact .exhausted (hlater.trans hlater') hrun hspent
  | unrecovered hlater' hrun => exact .unrecovered (hlater.trans hlater') hrun

/-- What the tries at a page cost and how they ended. -/
structure TriesCost (cursor : PageCursor) (attempt : Bool → StateM (Session ω) (Attempt α))
    (a : Allowance) (tally : Tally) (s : Session ω) (retried : Retried α) (after : Session ω)
    (failures : List Failure) (last : Nat) : Prop where
  charged : Charged cursor failures last s after
  spends : a.Spends failures retried.allowance
  tally : retried.state.tally = { tally with resyncs := tally.resyncs + failures.length }
  tried : 0 < failures.length + last
  ended : RetryEnd cursor attempt s retried.allowance after retried.result last

/-- A failed try with the recovery after it, in front of the others. -/
theorem TriesCost.again {retried : Retried α} {after : Session ω} {failure : Failure} {tally : Tally}
    (h : TriesCost cursor attempt rest { tally with resyncs := tally.resyncs + 1 }
      middle retried after failures last)
    (hcharged : Charged cursor [failure] 0 s middle) (hspend : a.spend failure = some rest)
    (hlater : Later s middle) :
    TriesCost cursor attempt a tally s retried after (failure :: failures) last where
  charged := by simpa using hcharged.trans h.charged
  spends := .next hspend h.spends
  tally := by
    rw [h.tally, List.length_cons, Nat.add_comm failures.length, Nat.add_assoc]
  tried := by
    rw [List.length_cons]
    omega
  ended := h.ended.earlier hlater

/-- One try, and the recovery if it fails and the allowance covers that. -/
theorem retry_tries_step {tries : Nat}
    (hattempt : ∀ probed s, Yields (attempt probed) s fun _ after =>
      Unmarked s after ∧ (s.host.mode = .slow → after.host.mode = .slow))
    (htries : a.total ≤ tries)
    (hagain : ∀ n rest (state' : PassState) s', tries = n + 1 → rest.total ≤ n →
      Yields (retry cursor attempt n rest state') s' fun retried after =>
        ∃ failures last, TriesCost cursor attempt rest state'.tally s' retried after failures last) :
    Yields (retry cursor attempt tries a state) s fun retried after =>
      ∃ failures last, TriesCost cursor attempt a state.tally s retried after failures last := by
  rw [retry]
  refine Yields.step (Yields.bind ((hattempt state.probed (s.attempting cursor)).and (.outcome _ _)) ?_)
  rintro ⟨outcome, failure, probed⟩ failed ⟨⟨hmarks, hslow⟩, hrun⟩
  have hbefore := later_attempting cursor s
  have hcharged : Charged cursor [] 1 s failed := (charged_attempting cursor s).unmarked hmarks
  cases failure with
  | none => exact ⟨[], 1, hcharged, .nothing, rfl, Nat.one_pos, .through hbefore hrun⟩
  | some failure =>
    cases hspend : a.spend failure with
    | none =>
      simp only [hspend]
      exact ⟨[], 1, hcharged, .nothing, rfl, Nat.one_pos, .exhausted hbefore hrun hspend⟩
    | some rest =>
      -- The allowance is not used up, so there is a further try to be had.
      have htotal := Allowance.total_of_spend hspend
      obtain ⟨n, rfl⟩ : ∃ n, tries = n + 1 := ⟨tries - 1, by omega⟩
      simp only [hspend]
      have hrecovering : Charged cursor [failure] 0 s (failed.recovering cursor failure) :=
        hcharged.recovering failure
      have hfailed : Later s failed := hbefore.trans (hmarks.later hslow)
      have hlater : Later s (failed.recovering cursor failure) :=
        hfailed.trans (later_recovering cursor failure failed)
      refine Yields.step (Yields.step (Yields.step (Yields.bind
        ((Conducts.of_routine (.recoverPage (by decide) _ _) (failed.recovering cursor failure)).and
          (.outcome _ _)) ?_)))
      rintro (cause | ⟨⟩) after ⟨hafter, hrun'⟩
      · exact ⟨[failure], 0, hrecovering.unmarked hafter.told.unmarked, .next hspend .nothing, rfl,
          Nat.one_pos, .unrecovered hlater hrun'⟩
      · refine (hagain n rest _ after rfl (by omega)).mono ?_
        rintro retried final ⟨failures, last, htried⟩
        have hslow' : (failed.recovering cursor failure).host.mode = .slow → after.host.mode = .slow :=
          fun hslow => hafter.mode.trans hslow
        exact ⟨failure :: failures, last, htried.again (hrecovering.unmarked hafter.told.unmarked) hspend
          (hlater.trans (hafter.told.unmarked.later hslow'))⟩

/-- However often a page is tried, its allowance is what it costs at most. -/
theorem retry_tries {tries : Nat}
    (hattempt : ∀ probed s, Yields (attempt probed) s fun _ after =>
      Unmarked s after ∧ (s.host.mode = .slow → after.host.mode = .slow))
    (htries : a.total ≤ tries) :
    Yields (retry cursor attempt tries a state) s fun retried after =>
      ∃ failures last, TriesCost cursor attempt a state.tally s retried after failures last := by
  induction tries generalizing a state s with
  | zero =>
    refine retry_tries_step hattempt htries ?_
    intro n _ _ _ hn
    omega
  | succ tries ih =>
    refine retry_tries_step hattempt htries ?_
    intro n rest state' s' hn htotal
    obtain rfl : tries = n := by omega
    exact ih htotal

variable {page : List UInt8} {after : Session ω}

theorem tryPage_keeps (probed : Bool) (s : Session ω) :
    Yields (tryPage cursor page probed) s fun _ after =>
      Unmarked s after ∧ (s.host.mode = .slow → after.host.mode = .slow) :=
  (tryPage_told s).mono fun _ _ hafter => ⟨hafter.1.unmarked, hafter.2.slow⟩

theorem trySlowly_keeps (probed : Bool) (s : Session ω) :
    Yields (trySlowly cursor page probed) s fun _ after =>
      Unmarked s after ∧ (s.host.mode = .slow → after.host.mode = .slow) :=
  (trySlowly_told s).mono fun _ _ hafter => ⟨hafter.told.unmarked, fun hslow => hafter.mode.trans hslow⟩

/-- Slow mode lasts to the end of the tries. -/
theorem RetryEnd.slow {result : Except Failure α} (h : RetryEnd cursor attempt s rest after result last)
    (hattempt : ∀ probed s, Yields (attempt probed) s fun _ after =>
      Unmarked s after ∧ (s.host.mode = .slow → after.host.mode = .slow))
    (hslow : s.host.mode = .slow) : after.host.mode = .slow := by
  have hlast : ∀ {before : Session ω} {probed : Bool} {tried : Attempt α}, Later s before →
      attempt probed before = (tried, after) → after.host.mode = .slow := by
    intro before probed tried hlater hrun
    have hkeeps := hattempt probed before
    rw [Yields, hrun] at hkeeps
    exact hkeeps.2 (hlater.slow hslow)
  cases h with
  | through hlater hrun => exact hlast hlater hrun
  | exhausted hlater hrun _ => exact hlast hlater hrun
  | @unrecovered before cause hlater hrun =>
    have hconducted := Conducts.of_routine (.recoverPage (by decide) cursor.current cursor.pageSize) before
    rw [Ends, Yields, hrun] at hconducted
    exact hconducted.mode.trans (hlater.slow hslow)

theorem RetryEnd.last_le {result : Except Failure α}
    (h : RetryEnd cursor attempt s rest after result last) : last ≤ 1 := by
  cases h <;> simp

/-- Once blocks are refused, tries byte by byte are what tries in the session's mode are. -/
theorem RetryEnd.of_slow {result : Except Failure Handling}
    (h : RetryEnd cursor (trySlowly cursor page) s rest after result last) (hblank : isBlank page = false)
    (hslow : s.host.mode = .slow) :
    RetryEnd cursor (tryPage cursor page) s rest after (result.map .settled) last := by
  have hlast : ∀ {before : Session ω} {probed : Bool} {tried : Attempt Handling}, Later s before →
      trySlowly cursor page probed before = (tried, after) →
      tryPage cursor page probed before = (⟨.settled tried.outcome, tried.failure, tried.probed⟩, after) := by
    intro before probed tried hlater hrun
    have htried : (trySlowly cursor page probed before).1 = tried := congrArg Prod.fst hrun
    subst htried
    rw [tryPage_of_slow hblank (hlater.slow hslow), hrun]
    rfl
  cases h with
  | through hlater hrun => exact .through hlater (hlast hlater hrun)
  | exhausted hlater hrun hspent => exact .exhausted hlater (hlast hlater hrun) hspent
  | unrecovered hlater hrun => exact .unrecovered hlater hrun

/-- How often blocks were given up on the way to a mode. -/
def downgrades (mode : WriteMode) : Nat :=
  if mode = .slow then 1 else 0

theorem downgrades_le (mode : WriteMode) : downgrades mode ≤ 1 := by
  unfold downgrades
  split <;> omega

theorem downgrades_mono {mode mode' : WriteMode} (h : mode = .slow → mode' = .slow) :
    downgrades mode ≤ downgrades mode' := by
  unfold downgrades
  by_cases hslow : mode = .slow
  · simp [hslow, h hslow]
  · simp [hslow]

/-- What a page cost and how it ended. A try is for nothing only when the mode is settled by it. -/
structure Visited (cursor : PageCursor) (page : List UInt8) (a : Allowance) (tally : Tally) (s : Session ω)
    (retried : Retried Handling) (after : Session ω) (failures : List Failure) (last : Nat) : Prop where
  charged : Charged cursor failures last s after
  spends : a.Spends failures retried.allowance
  tally : retried.state.tally = { tally with resyncs := tally.resyncs + failures.length }
  tried : 0 < failures.length + last
  ended : ∃ n, RetryEnd cursor (tryPage cursor page) s retried.allowance after (retried.result.map .settled) n
  mode : downgrades s.host.mode + last ≤ 1 + downgrades after.host.mode

/-- Tries in the session's mode that did not end with a refusal. -/
theorem visited_of_tries {tally : Tally} (retried : Retried Handling)
    (h : TriesCost cursor (tryPage cursor page) a tally s
      ⟨retried.result.map .settled, retried.allowance, retried.state⟩ after failures last) :
    Visited cursor page a tally s retried after failures last := by
  refine ⟨h.charged, h.spends, h.tally, h.tried, ⟨last, h.ended⟩, ?_⟩
  have hlast := h.ended.last_le
  have hmode := downgrades_mono (h.ended.slow tryPage_keeps)
  omega

/-- Tries that ended with a refusal, and those byte by byte after that. -/
theorem visited_of_refusal {tally : Tally} {rest : Allowance} {state' : PassState}
    {retried : Retried Handling}
    (h : TriesCost cursor (tryPage cursor page) a tally s ⟨.ok .redo, rest, state'⟩ middle failures last)
    (h' : TriesCost cursor (trySlowly cursor page) rest state'.tally middle retried after failures' last') :
    Visited cursor page a tally s retried after (failures ++ failures') (last + last') := by
  obtain ⟨hcharged, hspends, htally, -, hended⟩ := h
  obtain @⟨before, probed, probed', -, hlater, hrun⟩ := hended
  have htold : Yields (tryPage cursor page probed) before _ := tryPage_told before
  rw [Yields, hrun] at htold
  obtain ⟨htold, _ | ⟨hblank, hbefore, hslow⟩⟩ := htold
  have hmiddle : Later s middle := hlater.trans (htold.unmarked.later fun _ => hslow)
  have hfresh : s.host.mode ≠ .slow := fun hs => hbefore (hlater.slow hs)
  refine ⟨hcharged.trans h'.charged, hspends.append h'.spends, ?_, ?_,
    ⟨last', (h'.ended.of_slow hblank hslow).earlier hmiddle⟩, ?_⟩
  · rw [h'.tally, htally, List.length_append, Nat.add_assoc]
  · omega
  · have hlast := h'.ended.last_le
    have hafter : after.host.mode = .slow := h'.ended.slow trySlowly_keeps hslow
    simp only [downgrades, if_neg hfresh, if_pos hafter]
    omega

theorem settlePage_visited :
    Yields (settlePage cursor page a state) s fun retried after =>
      ∃ failures last, Visited cursor page a state.tally s retried after failures last := by
  refine Yields.bind (retry_tries tryPage_keeps (Nat.le_refl _)) ?_
  rintro ⟨(failure | (handling | -)), allowance, state'⟩ middle ⟨failures, last, htried⟩
  · exact ⟨failures, last, visited_of_tries ⟨.error failure, allowance, state'⟩ htried⟩
  · exact ⟨failures, last, visited_of_tries ⟨.ok handling, allowance, state'⟩ htried⟩
  · refine (retry_tries trySlowly_keeps (Nat.le_refl _)).mono ?_
    rintro retried after ⟨failures', last', htried'⟩
    exact ⟨failures ++ failures', last + last', visited_of_refusal htried htried'⟩

end Session

/-- A page stays within its budget: each sort of failure is retried only so often, no other sort is,
and each retry comes after one recovery. -/
structure WithinBudget (retries : Nat) (addr : UInt32) (entries : List Entry) : Prop where
  faults : (failuresAt addr entries).countP Failure.isTransport ≤ retries
  mismatches : (failuresAt addr entries).countP Failure.isMismatch ≤ 1
  sorts : (failuresAt addr entries).length =
    (failuresAt addr entries).countP Failure.isTransport + (failuresAt addr entries).countP Failure.isMismatch
  recoveries : (recoveriesOf entries).count addr = (failuresAt addr entries).length

/-- What a pass has cost once `n` pages were visited, the last of them possibly in vain. -/
structure PassCost (retries : Nat) (span : Span) (n : Nat) (mode : WriteMode)
    (entries : List Entry) : Prop where
  tried : ∀ addr, addr ∈ triesOf entries ↔ addr ∈ firstPages span.start span.pageSize n
  fresh : ∀ addr, addr ∉ firstPages span.start span.pageSize n → failuresAt addr entries = []
  within : ∀ addr, WithinBudget retries addr entries
  recoveries : (recoveriesOf entries).length ≤ n * (retries + 1)
  tries : (triesOf entries).length ≤ (recoveriesOf entries).length + n + Session.downgrades mode

namespace PassCost

variable {retries n last : Nat} {span : Span} {mode mode' : WriteMode} {entries later : List Entry}
  {addr : UInt32} {failures : List Failure} {rest : Allowance}

theorem start (h : ∀ entry ∈ entries, entry.event.ofLoop = false) (mode : WriteMode) :
    PassCost retries span 0 mode entries := by
  obtain ⟨htries, hrecoveries, hfailures⟩ := marks_eq_nil h
  refine ⟨?_, fun addr _ => hfailures addr, fun addr => ⟨?_, ?_, ?_, ?_⟩, ?_, ?_⟩ <;>
    simp [htries, hrecoveries, hfailures, firstPages]

/-- Entries without marks cost nothing. -/
theorem append (h : PassCost retries span n mode entries) (htries : triesOf later = [])
    (hrecoveries : recoveriesOf later = []) (hfailures : ∀ addr, failuresAt addr later = []) :
    PassCost retries span n mode (entries ++ later) := by
  refine ⟨?_, ?_, fun addr => ⟨?_, ?_, ?_, ?_⟩, ?_, ?_⟩ <;>
    simp only [triesOf_append, recoveriesOf_append, failuresAt_append, htries, hrecoveries,
      hfailures, List.append_nil]
  · exact h.tried
  · exact h.fresh
  · exact (h.within addr).faults
  · exact (h.within addr).mismatches
  · exact (h.within addr).sorts
  · exact (h.within addr).recoveries
  · exact h.recoveries
  · exact h.tries

/-- One more page is visited. -/
theorem visit (h : PassCost retries span n mode entries) (hspent : Spent addr failures last later)
    (hspends : (Allowance.forPage retries).Spends failures rest) (htried : 0 < failures.length + last)
    (hmode : Session.downgrades mode + last ≤ 1 + Session.downgrades mode')
    (hfresh : addr ∉ firstPages span.start span.pageSize n)
    (hpages : firstPages span.start span.pageSize (n + 1) = firstPages span.start span.pageSize n ++ [addr]) :
    PassCost retries span (n + 1) mode' (entries ++ later) := by
  obtain ⟨hfaults, hmismatches, hsorts⟩ := hspends.counts
  simp only [Allowance.forPage] at hfaults hmismatches
  refine ⟨?_, ?_, ?_, ?_, ?_⟩
  · intro other
    rw [triesOf_append, hspent.tries, hpages, List.mem_append, List.mem_append, h.tried, List.mem_replicate,
      List.mem_singleton]
    exact or_congr_right ⟨fun hother => hother.2, fun hother => ⟨by omega, hother⟩⟩
  · intro other hother
    rw [hpages, List.mem_append, List.mem_singleton, not_or] at hother
    rw [failuresAt_append, h.fresh other hother.1, hspent.failures, if_neg hother.2, List.append_nil]
  · intro other
    have hwithin := h.within other
    by_cases hother : other = addr
    · subst hother
      have hnone := h.fresh other hfresh
      have hcount : (recoveriesOf entries).count other = 0 := by
        rw [hwithin.recoveries, hnone, List.length_nil]
      refine ⟨?_, ?_, ?_, ?_⟩ <;>
        simp only [failuresAt_append, recoveriesOf_append, hnone, hspent.failures, if_true,
          List.nil_append, List.count_append,
          hspent.recoveries, List.count_replicate_self, hcount] <;>
        omega
    · have hcount : (List.replicate failures.length addr).count other = 0 := by
        rw [List.count_eq_zero, List.mem_replicate]
        exact fun hmem => hother hmem.2
      refine ⟨?_, ?_, ?_, ?_⟩ <;>
        simp only [failuresAt_append, recoveriesOf_append, hspent.failures, if_neg hother,
          List.append_nil, List.count_append, hspent.recoveries, hcount, Nat.add_zero]
      · exact hwithin.faults
      · exact hwithin.mismatches
      · exact hwithin.sorts
      · exact hwithin.recoveries
  · have hbefore := h.recoveries
    rw [recoveriesOf_append, List.length_append, hspent.recoveries, List.length_replicate, Nat.succ_mul]
    omega
  · have hbefore := h.tries
    rw [recoveriesOf_append, triesOf_append, List.length_append, List.length_append,
      hspent.recoveries, hspent.tries, List.length_replicate, List.length_replicate]
    omega

/-- What the pages visited may cost bounds what the whole range may cost. -/
theorem bounds (h : PassCost retries span n mode entries) {total : Nat} (hn : n ≤ total) :
    (recoveriesOf entries).length ≤ total * (retries + 1) ∧
      (triesOf entries).length ≤ total * (retries + 2) + 1 := by
  have hrecoveries := h.recoveries
  have htries := h.tries
  have hmode := Session.downgrades_le mode
  have hmul := Nat.mul_le_mul_right (retries + 1) hn
  have hsplit : total * (retries + 2) = total * (retries + 1) + total := Nat.mul_succ total (retries + 1)
  omega

end PassCost

theorem WithinBudget.count_recoveries {retries : Nat} {addr : UInt32} {entries : List Entry}
    (h : WithinBudget retries addr entries) : (recoveriesOf entries).count addr ≤ retries + 1 := by
  have hfaults := h.faults
  have hmismatches := h.mismatches
  rw [h.recoveries, h.sorts]
  omega

namespace Session

variable {ω : Type} {image : Image} {span : Span} {retries n : Nat} {cursor : PageCursor} {page : List UInt8}
  {state : PassState} {s opened after : Session ω} {earlier : List Failure} {cause : Failure}

/-- What a pass that began with session `s` has cost by now, according to the journal and to the tally. -/
structure Costs (retries : Nat) (span : Span) (s : Session ω) (n : Nat) (tally : Tally) (mode : WriteMode)
    (after : Session ω) (entries : List Entry) : Prop where
  journal : after.journal.toList = s.journal.toList ++ entries
  cost : PassCost retries span n mode entries
  resyncs : tally.resyncs = (recoveriesOf entries).length

/-- Entries without marks cost nothing. -/
theorem Costs.append {tally tally' : Tally} {mode : WriteMode} {entries later : List Entry}
    (h : Costs retries span opened n tally mode s entries)
    (hjournal : after.journal.toList = s.journal.toList ++ later) (htries : triesOf later = [])
    (hrecoveries : recoveriesOf later = []) (hfailures : ∀ addr, failuresAt addr later = [])
    (hresyncs : tally'.resyncs = tally.resyncs) :
    Costs retries span opened n tally' mode after (entries ++ later) := by
  refine ⟨by rw [hjournal, h.journal, List.append_assoc], h.cost.append htries hrecoveries hfailures, ?_⟩
  rw [recoveriesOf_append, hrecoveries, List.append_nil, hresyncs, h.resyncs]

variable [Link ω]

/-- Why a page was given up, in a run that began with session `s`, after the page was tried again
for the earlier failures. -/
inductive StopReason (retries : Nat) (cursor : PageCursor) (page : List UInt8) (s : Session ω)
    (earlier : List Failure) (cause : Failure) (after : Session ω) : Prop
  /-- The recovery itself failed. -/
  | unrecovered {before : Session ω} (since : s.journal.toList <+: before.journal.toList)
    (run : (recoverPage cursor.current cursor.pageSize).run before = (.error cause, after))
  /-- The try failed for a reason that trying again does not help with. -/
  | hopeless {before : Session ω} {probed probed' : Bool} {outcome : PageOutcome}
    (since : s.journal.toList <+: before.journal.toList)
    (run : tryPage cursor page probed before = (⟨outcome, some cause, probed'⟩, after))
    (transport : cause.isTransport = false) (command : cause.isCommand = false)
  /-- The link failed once more than is tolerated. -/
  | faults {before : Session ω} {probed probed' : Bool} {outcome : PageOutcome}
    (since : s.journal.toList <+: before.journal.toList)
    (run : tryPage cursor page probed before = (⟨outcome, some cause, probed'⟩, after))
    (transport : cause.isTransport = true) (spent : earlier.countP Failure.isTransport = retries)
  /-- The device answered wrongly a second time. -/
  | mismatches {before : Session ω} {probed probed' : Bool} {outcome : PageOutcome}
    (since : s.journal.toList <+: before.journal.toList)
    (run : tryPage cursor page probed before = (⟨outcome, some cause, probed'⟩, after))
    (mismatch : cause.isMismatch = true) (spent : earlier.countP Failure.isMismatch = 1)

/-- Tries that ended with a failure ended for one of the reasons. -/
theorem RetryEnd.stopReason {rest : Allowance} {last : Nat}
    (h : RetryEnd cursor (tryPage cursor page) s rest after (.error cause) last)
    (hspends : (Allowance.forPage retries).Spends earlier rest)
    (hsince : opened.journal.toList <+: s.journal.toList) :
    StopReason retries cursor page opened earlier cause after := by
  obtain ⟨hfaults, hmismatches, -⟩ := hspends.counts
  simp only [Allowance.forPage] at hfaults hmismatches
  cases h with
  | unrecovered hlater hrun => exact .unrecovered (hsince.trans hlater.journal) hrun
  | exhausted hlater hrun hspent =>
    have hsince' := hsince.trans hlater.journal
    rcases Allowance.cases_of_spend_eq_none hspent with
      ⟨htransport, hnone⟩ | ⟨hmismatch, hnone⟩ | ⟨htransport, hcommand⟩
    · exact .faults hsince' hrun htransport (by omega)
    · exact .mismatches hsince' hrun hmismatch (by omega)
    · exact .hopeless hsince' hrun htransport hcommand

/-- Page `n` could not be dealt with. -/
structure Abandoned (retries : Nat) (image : Image) (span : Span) (s : Session ω) (tally : Tally)
    (failure : Failure) (after : Session ω) (n : Nat) (addr : UInt32) (cause : Failure)
    (entries : List Entry) : Prop where
  inside : n < span.total
  page : addr.toNat = span.start.toNat + n * span.pageSize.toNat
  failure : failure = .pageWrite addr cause
  costs : Costs retries span s (n + 1) tally after.host.mode after entries
  reason : StopReason retries ⟨addr, span.stop, span.pageSize⟩ (image.page addr span.pageSize) s
    (failuresAt addr entries) cause after

/-- One page of a pass, and what it adds to the cost. -/
theorem Costs.settlePage {addr : UInt32} {entries : List Entry}
    (h : Costs retries span opened n state.tally s.host.mode s entries) (hsound : span.Sound)
    (hn : n < span.total) (haddr : addr.toNat = span.start.toNat + n * span.pageSize.toNat) :
    Yields (settlePage ⟨addr, span.stop, span.pageSize⟩ (image.page addr span.pageSize)
      (.forPage retries) state) s fun retried after => match retried.result with
      | .ok _ => ∃ entries, Costs retries span opened
          (n + 1) retried.state.tally after.host.mode after entries
      | .error cause => ∃ entries, Abandoned retries image span opened retried.state.tally
          (.pageWrite addr cause) after n addr cause entries := by
  refine settlePage_visited.mono ?_
  rintro retried after ⟨failures, last, hvisited⟩
  obtain ⟨later, hjournal, hspent⟩ := hvisited.charged
  have hfresh : addr ∉ firstPages span.start span.pageSize n := by
    rw [hsound.mem_firstPages (Nat.le_of_lt hn)]
    rintro ⟨k, hk, hk'⟩
    have hmul := Nat.mul_lt_mul_of_pos_right hk hsound.positive
    omega
  have hcosts : Costs retries span opened (n + 1) retried.state.tally after.host.mode after
      (entries ++ later) := by
    refine ⟨by rw [hjournal, h.journal, List.append_assoc], ?_, ?_⟩
    · exact h.cost.visit hspent hvisited.spends hvisited.tried hvisited.mode hfresh (firstPages_add_one haddr)
    · rw [hvisited.tally, recoveriesOf_append, List.length_append, hspent.recoveries,
        List.length_replicate, ← h.resyncs]
  obtain ⟨last', hended⟩ := hvisited.ended
  cases hresult : retried.result with
  | ok handling => exact ⟨_, hcosts⟩
  | error cause =>
    rw [hresult] at hended
    have hfailures : failuresAt addr (entries ++ later) = failures := by
      rw [failuresAt_append, h.cost.fresh addr hfresh, hspent.failures, if_pos rfl, List.nil_append]
    refine ⟨_, hn, haddr, rfl, hcosts, ?_⟩
    rw [hfailures]
    exact hended.stopReason hvisited.spends ⟨entries, h.journal.symm⟩

/-- The pages of a pass, one after the other. -/
theorem Costs.programPages {entries : List Entry}
    (h : Costs retries span opened 0 state.tally s.host.mode s entries) (hsound : span.Sound) :
    Yields (programPages image retries span.total span.total ⟨span.start, span.stop, span.pageSize⟩ state) s
      fun result after => match result.2 with
      | none => ∃ entries, Costs retries span opened span.total result.1.tally after.host.mode after entries
      | some failure => ∃ n addr cause entries,
          Abandoned retries image span opened result.1.tally failure after n addr cause entries := by
  -- The loop counts the pages left, and the cost those visited.
  let Inv (left : Nat) (cursor : PageCursor) (state : PassState) (s' : Session ω) : Prop :=
    left ≤ span.total ∧ ∃ addr entries, cursor = ⟨addr, span.stop, span.pageSize⟩ ∧
      addr.toNat = span.start.toNat + (span.total - left) * span.pageSize.toNat ∧
      Costs retries span opened (span.total - left) state.tally s'.host.mode s' entries
  have hstart : Inv span.total ⟨span.start, span.stop, span.pageSize⟩ state s := by
    refine ⟨Nat.le_refl _, span.start, entries, rfl, by simp, ?_⟩
    rwa [Nat.sub_self]
  refine (programPages_yields image retries span.total Inv
    (fun state failure after => ∃ n addr cause entries,
      Abandoned retries image span opened state.tally failure after n addr cause entries) ?_ hstart).mono ?_
  · rintro left cursor state s' ⟨hleft, addr, entries, rfl, haddr, hcosts⟩
    have hn : span.total - (left + 1) < span.total := by omega
    have hsucc : span.total - (left + 1) + 1 = span.total - left := by omega
    refine (hcosts.settlePage hsound hn haddr).mono ?_
    intro retried after hafter
    cases hresult : retried.result with
    | error cause =>
      rw [hresult] at hafter
      obtain ⟨entries', habandoned⟩ := hafter
      exact ⟨_, addr, cause, entries', habandoned⟩
    | ok handling =>
      rw [hresult, hsucc] at hafter
      obtain ⟨entries', hcosts'⟩ := hafter
      have hnext := hsound.toNat_next hn haddr
      rw [hsucc] at hnext
      have hresyncs : (retried.state.count handling).tally.resyncs =
          retried.state.tally.resyncs := by cases handling <;> rfl
      exact ⟨by omega, addr + span.pageSize, _, rfl, hnext,
        hcosts'.append Journal.toList_push rfl rfl (fun _ => rfl) hresyncs⟩
  · intro result after hafter
    cases hfailure : result.2 with
    | none =>
      rw [hfailure] at hafter
      obtain ⟨last, -, addr, entries', -, -, hcosts⟩ := hafter
      exact ⟨entries', hcosts⟩
    | some failure =>
      rw [hfailure] at hafter
      exact hafter

/-- How a pass over an accepted range ends, and what it has cost by then. -/
inductive Billed (retries : Nat) (image : Image) (span : Span) (device : Device)
    (s : Session ω) : Pass → Session ω → Prop
  | unready {failure : Failure} {after : Session ω} {entries : List Entry}
    (run : (beginPass span.start).run (s.opening span.start span.stop device) = (.error failure, after))
    (costs : Costs retries span s 0 .empty after.host.mode after entries) :
    Billed retries image span device s (.stopped .empty failure) after
  | gaveUp {tally : Tally} {failure cause : Failure} {after : Session ω} {n : Nat} {addr : UInt32}
    {entries : List Entry}
    (abandoned : Abandoned retries image span s tally failure after n addr cause entries) :
    Billed retries image span device s (.stopped tally failure) after
  | through {tally : Tally} {after : Session ω} {mode : WriteMode} {entries : List Entry}
    (costs : Costs retries span s span.total tally mode after entries) :
    Billed retries image span device s (.complete tally) after

theorem programRange_billed {start stop : UInt32} {device : Device} {options : Options}
    (hcursor : PageCursor.spanning start stop device.geometry.flashPageSize =
      .ok ⟨start, stop, device.geometry.flashPageSize⟩)
    (himage : ¬image.length32 < stop) :
    Yields (programRange image start stop device options) s
      (Billed options.retries image ⟨start, stop, device.geometry.flashPageSize⟩ device s) := by
  obtain ⟨-, hsound⟩ := Span.sound_of_spanning hcursor
  have hopened : Unmarked s (s.opening start stop device) := (remarked_note rfl s).told.unmarked
  have hnothing : ∀ {entries : List Entry}, (∀ entry ∈ entries, entry.event.ofLoop = false) →
      Tally.empty.resyncs = (recoveriesOf entries).length := by
    intro entries hmarks
    rw [(marks_eq_nil hmarks).2.1]
    rfl
  refine programRange_parts (Unmarked s) hcursor himage ?_ ?_
  · refine ((Conducts.of_routine (.beginPass start) (s.opening start stop device)).and
      (.outcome _ _)).mono ?_ ?_
    · rintro - ready ⟨hready, -⟩
      exact hopened.trans hready.told.unmarked
    · rintro failure after ⟨hafter, hrun⟩
      obtain ⟨entries, hjournal, hmarks⟩ := hopened.trans hafter.told.unmarked
      exact .unready hrun ⟨hjournal, .start hmarks _, hnothing hmarks⟩
  · rintro ready ⟨entries, hjournal, hmarks⟩
    have hcosts : Costs options.retries ⟨start, stop, device.geometry.flashPageSize⟩
        s 0 PassState.start.tally .fast
        (setMode .fast ready).2 entries := ⟨hjournal, .start hmarks _, hnothing hmarks⟩
    refine (hcosts.programPages (s := (setMode .fast ready).2) hsound).mono ?_
    rintro ⟨state, - | failure⟩ after hafter
    · obtain ⟨entries, hcosts⟩ := hafter
      refine (endPass_unmarked state.tally after).mono ?_
      rintro tally final ⟨⟨later, hjournal', hmarks'⟩, hresyncs⟩
      obtain ⟨htries, hrecoveries, hfailures⟩ := marks_eq_nil hmarks'
      exact .through (hcosts.append hjournal' htries hrecoveries hfailures hresyncs)
    · obtain ⟨n, addr, cause, entries, habandoned⟩ := hafter
      exact .gaveUp habandoned

theorem Billed.exists_cost {device : Device} {pass : Pass}
    (h : Billed retries image span device s pass after) :
    ∃ n mode entries, n ≤ span.total ∧ after.journal.toList = s.journal.toList ++ entries ∧
      PassCost retries span n mode entries ∧
        (∀ tally, pass.tally? = some tally → tally.resyncs = (recoveriesOf entries).length) ∧
      (∀ tally, pass = .complete tally → n = span.total) ∧
      ∀ tally failure, pass = .stopped tally failure →
        (beginPass span.start).run (s.opening span.start span.stop device) = (.error failure, after) ∨
          ∃ n addr cause, n < span.total ∧ addr.toNat = span.start.toNat + n * span.pageSize.toNat ∧
            failure = .pageWrite addr cause ∧ StopReason retries ⟨addr, span.stop, span.pageSize⟩
              (image.page addr span.pageSize) s (failuresAt addr entries) cause after := by
  cases h with
  | unready hrun hcosts =>
    refine ⟨0, _, _, Nat.zero_le _, hcosts.journal, hcosts.cost, ?_, by simp, ?_⟩
    · intro tally htally
      obtain rfl := Option.some.inj htally
      exact hcosts.resyncs
    · intro tally failure hstopped
      cases hstopped
      exact .inl hrun
  | @gaveUp tally failure cause after n addr entries habandoned =>
    refine ⟨n + 1, _, entries, habandoned.inside, habandoned.costs.journal, habandoned.costs.cost,
      ?_, by simp, ?_⟩
    · intro tally htally
      obtain rfl := Option.some.inj htally
      exact habandoned.costs.resyncs
    · intro tally failure hstopped
      cases hstopped
      exact .inr ⟨n, addr, cause, habandoned.inside, habandoned.page, habandoned.failure, habandoned.reason⟩
  | through hcosts =>
    refine ⟨span.total, _, _, Nat.le_refl _, hcosts.journal, hcosts.cost, ?_, fun _ _ => rfl, by simp⟩
    intro tally htally
    obtain rfl := Option.some.inj htally
    exact hcosts.resyncs

/-- Whatever the link does, a pass ends within its budget. Every page is recovered at most once more
than failures of the link are tolerated, which bounds the recoveries and the tries of the pass by
the number of its pages. A pass that gets through has tried every page, and one that stops at a page
does so for one of four reasons. -/
theorem programRange_within_budget (image : Image) (start stop : UInt32) (device : Device) (options : Options)
    (s : Session ω) :
    let run := programRange image start stop device options s
    let span : Span := ⟨start, stop, device.geometry.flashPageSize⟩
    ∃ entries, run.2.journal.toList = s.journal.toList ++ entries ∧
      (∀ addr, WithinBudget options.retries addr entries ∧
        (recoveriesOf entries).count addr ≤ options.retries + 1) ∧
      (recoveriesOf entries).length ≤ span.total * (options.retries + 1) ∧
      (triesOf entries).length ≤ span.total * (options.retries + 2) + 1 ∧
      (∀ tally, run.1.tally? = some tally → tally.resyncs = (recoveriesOf entries).length) ∧
      (∀ addr ∈ triesOf entries, IsPage start stop span.pageSize addr) ∧
      (∀ tally, run.1 = .complete tally → ∀ addr, IsPage start stop span.pageSize addr →
        addr ∈ triesOf entries) ∧
      ∀ tally failure, run.1 = .stopped tally failure →
        (beginPass start).run (s.opening start stop device) = (.error failure, run.2) ∨
          ∃ addr cause, IsPage start stop span.pageSize addr ∧ failure = .pageWrite addr cause ∧
            StopReason options.retries ⟨addr, stop, span.pageSize⟩ (image.page addr span.pageSize) s
              (failuresAt addr entries) cause run.2 := by
  intro run span
  rcases programRange_refused_or_accepted image start stop device options s with
    ⟨failure, -, hrun⟩ | ⟨hcursor, himage⟩
  · have hrun' : run = (.refused failure, s) := hrun
    have hcost : PassCost options.retries span 0 .fast [] := .start (by simp) _
    obtain ⟨hrecoveries, htries⟩ := hcost.bounds (Nat.zero_le span.total)
    rw [hrun']
    refine ⟨[], by simp, ?_, hrecoveries, htries, by simp [Pass.tally?], by simp [triesOf], by simp, by simp⟩
    exact fun addr => ⟨hcost.within addr, (hcost.within addr).count_recoveries⟩
  · obtain ⟨-, hsound⟩ := Span.sound_of_spanning hcursor
    have hbilled : Billed options.retries image span device s run.1 run.2 :=
      programRange_billed hcursor himage
    obtain ⟨n, mode, entries, hn, hjournal, hcost, hresyncs, hcomplete, hstopped⟩ := hbilled.exists_cost
    obtain ⟨hrecoveries, htries⟩ := hcost.bounds hn
    refine ⟨entries, hjournal,
      fun addr => ⟨hcost.within addr, (hcost.within addr).count_recoveries⟩, hrecoveries, htries,
      hresyncs, ?_, ?_, ?_⟩
    · intro addr haddr
      rw [hcost.tried, hsound.mem_firstPages hn] at haddr
      obtain ⟨k, hk, haddr⟩ := haddr
      exact hsound.isPage (Nat.lt_of_lt_of_le hk hn) haddr
    · intro tally htally addr haddr
      rw [hcost.tried, hcomplete tally htally]
      exact hsound.mem_pageAddresses.mpr haddr
    · intro tally failure htally
      rcases hstopped tally failure htally with hunready | ⟨k, addr, cause, hk, haddr, hfailure, hreason⟩
      · exact .inl hunready
      · exact .inr ⟨addr, cause, hsound.isPage hk haddr, hfailure, hreason⟩

end Session

end Bootflash
