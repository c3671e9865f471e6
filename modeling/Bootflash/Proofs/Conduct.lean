import Bootflash.Proofs.Routine

namespace Bootflash

namespace Event

/-- The failure that a call to the link reported. -/
def failure? : Event → Option Failure
  | wrote _ failure => failure
  | read _ reading => reading.failure
  | _ => none

/-- Whether bytes were written or read. -/
def exchanges : Event → Bool
  | wrote _ _ | read _ _ => true
  | _ => false

theorem failure?_of_not_exchanges {event : Event} (h : event.exchanges = false) : event.failure? = none := by
  cases event with
  | wrote | read => simp [exchanges] at h
  | _ => rfl

end Event

/-- How the calls among some entries bear on how an operation ended. -/
inductive Verdict : List Entry → Option Failure → Prop
  | well {entries : List Entry} (calm : ∀ entry ∈ entries, entry.event.failure? = none) : Verdict entries none
  | own {entries : List Entry} {failure : Failure} (calm : ∀ entry ∈ entries, entry.event.failure? = none)
    (own : failure.Own) : Verdict entries (some failure)
  /-- A call failed, and nothing was written or read after it. -/
  | cut {before rest : List Entry} {entry : Entry} {cause failure : Failure}
    (calm : ∀ entry ∈ before, entry.event.failure? = none) (failed : entry.event.failure? = some cause)
    (silent : ∀ entry ∈ rest, entry.event.exchanges = false) (passes : cause.PassesOn failure) :
    Verdict (before ++ entry :: rest) (some failure)

namespace Verdict

variable {before entries rest : List Entry} {outcome : Option Failure} {failure failure' : Failure}

theorem calm_of_none (h : Verdict entries none) : ∀ entry ∈ entries, entry.event.failure? = none := by
  cases h with
  | well hcalm => exact hcalm

/-- What came before without a failing call makes no difference. -/
theorem after (hcalm : ∀ entry ∈ before, entry.event.failure? = none) (h : Verdict entries outcome) :
    Verdict (before ++ entries) outcome := by
  cases h with
  | well hcalm' => exact .well (List.forall_mem_append.mpr ⟨hcalm, hcalm'⟩)
  | own hcalm' hown => exact .own (List.forall_mem_append.mpr ⟨hcalm, hcalm'⟩) hown
  | cut hcalm' hfailed hsilent hpasses =>
    rw [← List.append_assoc]
    exact .cut (List.forall_mem_append.mpr ⟨hcalm, hcalm'⟩) hfailed hsilent hpasses

/-- What comes after makes no difference if nothing is written or read. -/
theorem aside (h : Verdict entries outcome) (hrest : ∀ entry ∈ rest, entry.event.exchanges = false) :
    Verdict (entries ++ rest) outcome := by
  have hcalm' : ∀ entry ∈ rest, entry.event.failure? = none :=
    fun entry hentry => Event.failure?_of_not_exchanges (hrest entry hentry)
  cases h with
  | well hcalm => exact .well (List.forall_mem_append.mpr ⟨hcalm, hcalm'⟩)
  | own hcalm hown => exact .own (List.forall_mem_append.mpr ⟨hcalm, hcalm'⟩) hown
  | cut hcalm hfailed hsilent hpasses =>
    rw [List.append_assoc, List.cons_append]
    exact .cut hcalm hfailed (List.forall_mem_append.mpr ⟨hsilent, hrest⟩) hpasses

/-- A failure may be replaced by one that passes it on. -/
theorem replace (h : Verdict entries (some failure)) (hown : failure.Own → failure'.Own)
    (hpasses : ∀ cause : Failure, cause.PassesOn failure → cause.PassesOn failure') :
    Verdict entries (some failure') := by
  cases h with
  | own hcalm hfailure => exact .own hcalm (hown hfailure)
  | cut hcalm hfailed hsilent hpassed => exact .cut hcalm hfailed hsilent (hpasses _ hpassed)

/-- What is said about a range was said by the link. -/
theorem exists_call (h : Verdict entries (some failure)) (hroot : failure.root = .invalidRange) :
    ∃ entry ∈ entries, ∃ cause, entry.event.failure? = some cause ∧ cause.root = .invalidRange := by
  cases h with
  | own _ hown => exact absurd hroot hown.root
  | cut _ hfailed _ hpasses => exact ⟨_, by simp, _, hfailed, hpasses.root hroot⟩

end Verdict

namespace Session

section Journal

variable {ω : Type} {s middle s' : Session ω} {outcome : Option Failure} {failure failure' : Failure}

/-- Nothing that belongs to the loop over the pages was entered between two states of a session. -/
def Unmarked (s s' : Session ω) : Prop :=
  ∃ entries, s'.journal.toList = s.journal.toList ++ entries ∧ ∀ entry ∈ entries, entry.event.ofLoop = false

/-- Nothing but remarks was entered: nothing was written or read, either. -/
def Remarked (s s' : Session ω) : Prop :=
  ∃ entries, s'.journal.toList = s.journal.toList ++ entries ∧
    ∀ entry ∈ entries, entry.event.ofLoop = false ∧ entry.event.exchanges = false

/-- What was entered bears out how an operation ended. -/
def Told (s s' : Session ω) (outcome : Option Failure) : Prop :=
  ∃ entries, s'.journal.toList = s.journal.toList ++ entries ∧
    (∀ entry ∈ entries, entry.event.ofLoop = false) ∧ Verdict entries outcome

theorem Told.unmarked (h : Told s s' outcome) : Unmarked s s' := by
  obtain ⟨entries, hjournal, hmarks, -⟩ := h
  exact ⟨entries, hjournal, hmarks⟩

theorem Remarked.told (h : Remarked s s') : Told s s' none := by
  obtain ⟨entries, hjournal, hremarks⟩ := h
  refine ⟨entries, hjournal, fun entry hentry => (hremarks entry hentry).1, .well ?_⟩
  intro entry hentry
  exact Event.failure?_of_not_exchanges (hremarks entry hentry).2

theorem Unmarked.trans (h : Unmarked s middle) (h' : Unmarked middle s') : Unmarked s s' := by
  obtain ⟨entries, hjournal, hmarks⟩ := h
  obtain ⟨entries', hjournal', hmarks'⟩ := h'
  exact ⟨entries ++ entries', by rw [hjournal', hjournal, List.append_assoc],
    List.forall_mem_append.mpr ⟨hmarks, hmarks'⟩⟩

theorem Told.trans (h : Told s middle none) (h' : Told middle s' outcome) : Told s s' outcome := by
  obtain ⟨entries, hjournal, hmarks, hverdict⟩ := h
  obtain ⟨entries', hjournal', hmarks', hverdict'⟩ := h'
  exact ⟨entries ++ entries', by rw [hjournal', hjournal, List.append_assoc],
    List.forall_mem_append.mpr ⟨hmarks, hmarks'⟩, hverdict'.after hverdict.calm_of_none⟩

/-- Remarks made once an operation has ended. -/
theorem Told.remarked (h : Told s middle outcome) (h' : Remarked middle s') : Told s s' outcome := by
  obtain ⟨entries, hjournal, hmarks, hverdict⟩ := h
  obtain ⟨entries', hjournal', hremarks⟩ := h'
  refine ⟨entries ++ entries', by rw [hjournal', hjournal, List.append_assoc], ?_, ?_⟩
  · exact List.forall_mem_append.mpr ⟨hmarks, fun entry hentry => (hremarks entry hentry).1⟩
  · exact hverdict.aside fun entry hentry => (hremarks entry hentry).2

theorem Told.replace (h : Told s s' (some failure)) (hown : failure.Own → failure'.Own)
    (hpasses : ∀ cause : Failure, cause.PassesOn failure → cause.PassesOn failure') :
    Told s s' (some failure') := by
  obtain ⟨entries, hjournal, hmarks, hverdict⟩ := h
  exact ⟨entries, hjournal, hmarks, hverdict.replace hown hpasses⟩

theorem Remarked.of_journal_eq (h : s'.journal = s.journal) : Remarked s s' :=
  ⟨[], by simp [h], by simp⟩

theorem Remarked.push {entry : Entry} (hjournal : s'.journal = s.journal.push entry)
    (hloop : entry.event.ofLoop = false) (hexchanges : entry.event.exchanges = false) : Remarked s s' :=
  ⟨[entry], by rw [hjournal, Journal.toList_push], by simp [hloop, hexchanges]⟩

/-- One call, and the failure it reports. -/
theorem Told.call {entry : Entry} (hjournal : s'.journal = s.journal.push entry)
    (hloop : entry.event.ofLoop = false) (hfailure : entry.event.failure? = outcome) : Told s s' outcome := by
  refine ⟨[entry], by rw [hjournal, Journal.toList_push], by simp [hloop], ?_⟩
  cases outcome with
  | none => exact .well (by simp [hfailure])
  | some cause =>
    change Verdict ([] ++ entry :: []) (some cause)
    exact .cut (by simp) hfailure (by simp) .itself

theorem Told.own (h : failure.Own) : Told s s (some failure) :=
  ⟨[], by simp, by simp, .own (by simp) h⟩

end Journal

/-- What an operation did to its session: the journal bears out how it ended, and the mode is what it was. -/
structure Conducted {ω : Type} (s s' : Session ω) (outcome : Option Failure) : Prop where
  told : Told s s' outcome
  mode : s'.host.mode = s.host.mode

/-- The operation conducts itself, whatever session it is run on. -/
def Conducts {ω α : Type} (operation : SessionM ω α) : Prop :=
  ∀ s, Ends operation s (fun _ after => Conducted s after none) fun failure after =>
    Conducted s after (some failure)

section Rules

variable {ω α β : Type} {s middle s' : Session ω} {outcome : Option Failure}

theorem Conducted.trans (h : Conducted s middle none) (h' : Conducted middle s' outcome) :
    Conducted s s' outcome :=
  ⟨h.told.trans h'.told, h'.mode.trans h.mode⟩

theorem Conducted.refl (s : Session ω) : Conducted s s none :=
  ⟨(Remarked.of_journal_eq rfl).told, rfl⟩

theorem Conducted.remarked (h : Conducted s middle outcome) (h' : Remarked middle s')
    (hmode : s'.host.mode = middle.host.mode) :
    Conducted s s' outcome :=
  ⟨h.told.remarked h', hmode.trans h.mode⟩

theorem remarked_note {notice : Notice} (hnotice : (Event.noted notice).ofLoop = false) (s : Session ω) :
    Remarked s (note notice s).2 :=
  .push rfl hnotice rfl

/-- There is no more to a remark than the remark. -/
theorem Aside.remarked {remark : SessionM ω Unit} {bad : Failure → Session ω → Prop}
    (h : Aside remark) (s : Session ω) :
    Ends remark s (fun _ after => Remarked s after ∧ after.host = s.host) bad := by
  cases h with
  | nothing => exact Ends.pure ⟨.of_journal_eq rfl, rfl⟩
  | note hnotice => exact Ends.lift ⟨remarked_note hnotice s, rfl⟩

namespace Conducts

variable {operation : SessionM ω α}

theorem pure (a : α) : Conducts (Pure.pure a : SessionM ω α) :=
  fun s => Ends.pure (.refl s)

theorem throw {failure : Failure} (h : failure.Own) : Conducts (throw failure : SessionM ω α) :=
  fun _ => Ends.throw ⟨.own h, rfl⟩

/-- An operation that goes on from where another has got. -/
theorem after (h : Conducts operation) (hmiddle : Conducted s middle none) :
    Ends operation middle (fun _ after => Conducted s after none) fun failure after =>
      Conducted s after (some failure) :=
  (h middle).mono (fun _ _ hafter => hmiddle.trans hafter) fun _ _ hafter => hmiddle.trans hafter

theorem bind {next : α → SessionM ω β} (h : Conducts operation) (hnext : ∀ a, Conducts (next a)) :
    Conducts (operation >>= next) := by
  intro s
  exact Ends.bind (h s) fun a _ hmiddle => (hnext a).after hmiddle

theorem note {notice : Notice} (hnotice : (Event.noted notice).ofLoop = false) :
    Conducts (lift (note notice) : SessionM ω Unit) :=
  fun s => Ends.lift ⟨(remarked_note hnotice s).told, rfl⟩

theorem update {change : Host → Host} (hchange : Host.KeepsModeAndTimeout change) :
    Conducts (lift (update change) : SessionM ω Unit) :=
  fun s => Ends.lift ⟨(Remarked.of_journal_eq rfl).told, hchange.mode s.host⟩

theorem host? : Conducts (lift host? : SessionM ω Host) :=
  fun s => Ends.lift (.refl s)

/-- A failure is handed on under another name once it has been remarked on. -/
theorem tryCatch {handler : Failure → SessionM ω α} (h : Conducts operation)
    (hhands : ∀ failure, HandsOn failure (handler failure)) : Conducts (tryCatch operation handler) := by
  intro s
  refine Ends.tryCatch (h s) fun failure middle hmiddle => ?_
  obtain ⟨remark, failure', haside, hown, hpasses, hhandled⟩ := hhands failure
  rw [hhandled]
  refine Ends.bind (haside.remarked middle) ?_
  rintro - after ⟨hremarked, hhost⟩
  exact Ends.throw ⟨(hmiddle.told.remarked hremarked).replace hown hpasses,
    (congrArg Host.mode hhost).trans hmiddle.mode⟩

/-- Whether to go on is up to the call that was just made. -/
theorem check {failure : Option Failure} (h : Conducted s middle failure) :
    Ends (check failure : SessionM ω Unit) middle (fun _ after => Conducted s after none)
      fun failure after => Conducted s after (some failure) := by
  cases failure with
  | none => exact Ends.pure h
  | some failure => exact Ends.throw h

variable [Link ω]

theorem withTimeout (ms : Int) (h : Conducts operation) : Conducts (withTimeout ms operation) := by
  intro s
  have hset : ∀ ms (s : Session ω), Remarked s (setTimeout ms s).2 := fun ms s => .push rfl rfl rfl
  have hstart : Conducted s (setTimeout ms s).2 none := ⟨(hset ms s).told, rfl⟩
  refine Ends.withTimeout ((h.after hstart).mono ?_ ?_)
  · intro _ after hafter
    exact hafter.remarked (hset s.host.timeout after) rfl
  · intro _ after hafter
    exact hafter.remarked (hset s.host.timeout after) rfl

theorem transmit {change : Host → Host} (hchange : Host.KeepsModeAndTimeout change) (bytes : List UInt8) :
    Conducts (transmit change bytes : SessionM ω Unit) := by
  intro s
  let sent : Session ω := ⟨(Link.write bytes s.link).2, change s.host,
    s.journal.push ⟨s.host, change s.host, .wrote bytes (Link.write bytes s.link).1⟩⟩
  have hsent : Conducted s sent (Link.write bytes s.link).1 := ⟨.call rfl rfl rfl, hchange.mode s.host⟩
  exact Ends.step (Link.write bytes s.link).1 sent rfl (check hsent)

theorem read {remark : Reading → SessionM ω Unit} {next : Reading → SessionM ω α} (limit : Nat)
    (haside : ∀ reading, Aside (remark reading)) (hnext : ∀ reading, Conducts (next reading)) :
    Conducts (lift (read limit) >>= fun reading => remark reading >>= fun _ =>
      Session.check reading.failure >>= fun _ => next reading) := by
  intro s
  have hread : Conducted s (Session.read limit s).2 (Session.read limit s).1.failure :=
    ⟨.call rfl rfl rfl, rfl⟩
  refine Ends.step _ _ rfl (Ends.bind ((haside _).remarked _) ?_)
  rintro - middle ⟨hremarked, hhost⟩
  exact Ends.bind (check (hread.remarked hremarked (congrArg Host.mode hhost))) fun _ _ hchecked =>
    (hnext _).after hchecked

end Conducts

theorem Routine.conducts [Link ω] {r : Repertoire} {operation : SessionM ω α}
    (h : Routine r operation) : Conducts operation := by
  induction h with
  | pure a => exact .pure a
  | throw hown => exact .throw hown
  | bind _ _ hfirst hrest => exact .bind hfirst hrest
  | note hnotice => exact .note hnotice
  | host? => exact .host?
  | update hsteady _ => exact .update hsteady
  | transmit hsteady _ _ => exact .transmit hsteady _
  | read limit haside _ hrest => exact .read limit haside hrest
  | tryCatch _ hhands hfirst => exact .tryCatch hfirst hhands
  | excursion _ _ _ hfirst => exact .withTimeout _ hfirst

/-- Everything that is put together in the usual ways conducts itself. -/
theorem Conducts.of_routine [Link ω] {operation : SessionM ω α} (h : Routine .full operation) :
    Conducts operation :=
  h.conducts

/-- A failure that a run is known to have ended with. -/
theorem Conducts.told_of_run {operation : SessionM ω α} {before after : Session ω}
    {failure : Failure} (h : Conducts operation)
    (hrun : operation.run before = (.error failure, after)) : Told before after (some failure) := by
  have hbefore := h before
  rw [Ends, Yields, hrun] at hbefore
  exact hbefore.told

theorem Conducts.failureOf {operation : SessionM ω Unit} (h : Conducts operation) (s : Session ω) :
    Yields (failureOf operation) s fun failure after => Conducted s after failure :=
  Yields.failureOf (h s)

variable [Link ω] {cursor : PageCursor} {page : List UInt8} {probed : Bool}

/-- What a try does to the mode: it settles on byte by byte when blocks are refused, and changes in
no other way. -/
inductive ModeCourse (page : List UInt8) (mode mode' : WriteMode) : PageOutcome → Prop
  | kept {handling : Handling} (same : mode' = mode) : ModeCourse page mode mode' (.settled handling)
  | refused (notBlank : isBlank page = false) (before : mode ≠ .slow) (after : mode' = .slow) :
    ModeCourse page mode mode' .redo

theorem ModeCourse.slow {mode mode' : WriteMode} {outcome : PageOutcome}
    (h : ModeCourse page mode mode' outcome) (hslow : mode = .slow) : mode' = .slow := by
  cases h with
  | kept hsame => exact hsame.trans hslow
  | refused _ hbefore _ => exact absurd hslow hbefore

theorem trySlowly_told (s : Session ω) :
    Yields (trySlowly cursor page probed) s fun tried after => Conducted s after tried.failure :=
  Yields.bind ((Conducts.of_routine (.writeSlowly cursor page)).failureOf s) fun _ _ hafter => hafter

theorem tryPage_told (s : Session ω) :
    Yields (tryPage cursor page probed) s fun tried after =>
      Told s after tried.failure ∧ ModeCourse page s.host.mode after.host.mode tried.outcome := by
  have hsettled : ∀ {after : Session ω} {failure : Option Failure} {handling : Handling},
      Conducted s after failure →
      Told s after failure ∧ ModeCourse page s.host.mode after.host.mode (.settled handling) :=
    fun hafter => ⟨hafter.told, .kept hafter.mode⟩
  unfold tryPage
  split
  · exact Yields.bind ((Conducts.of_routine (.setAddress _)).failureOf s) fun _ _ hafter => hsettled hafter
  next hblank =>
  refine Yields.step ?_
  split
  · exact Yields.bind ((Conducts.of_routine (.writeSlowly _ _)).failureOf s) fun _ _ hafter => hsettled hafter
  next hmode =>
  refine Yields.bind (Conducts.of_routine (.offerBlock probed) s) ?_
  rintro (failure | taken) middle hmiddle
  · exact hsettled hmiddle
  cases taken with
  | false =>
    let refused : Session ω := (setMode .slow (note .blocksRefused middle).2).2
    have hremarked : Remarked middle refused := remarked_note rfl middle
    refine Yields.step (Yields.step
      (Yields.bind ((Conducts.of_routine (.setAddress cursor.current)).failureOf refused) ?_))
    intro failure after hafter
    exact ⟨(hmiddle.told.remarked hremarked).trans hafter.told,
      .refused (by simpa using hblank) hmode hafter.mode⟩
  | true =>
    refine Yields.bind (Conducts.of_routine (.sendBlock page) middle) ?_
    rintro (failure | ⟨⟩) sent hsent
    · exact hsettled (hmiddle.trans hsent)
    · refine Yields.bind ((Conducts.of_routine (.setAddress cursor.next)).failureOf sent) ?_
      intro failure after hafter
      exact hsettled ((hmiddle.trans hsent).trans hafter)

theorem told_of_tryPage {before after : Session ω} {probed' : Bool} {outcome : PageOutcome}
    {failure : Failure} (hrun : tryPage cursor page probed before =
      (⟨outcome, some failure, probed'⟩, after)) : Told before after (some failure) := by
  have hbefore : Yields (tryPage cursor page probed) before _ := tryPage_told before
  rw [Yields, hrun] at hbefore
  exact hbefore.1

/-- In slow mode a try at a page with something in it is one byte by byte. -/
theorem tryPage_of_slow {s : Session ω} (hblank : isBlank page = false) (hslow : s.host.mode = .slow) :
    tryPage cursor page probed s =
      (⟨.settled .written, (trySlowly cursor page probed s).1.failure, probed⟩,
        (trySlowly cursor page probed s).2) := by
  unfold tryPage
  rw [if_neg (by simp [hblank])]
  change (if s.host.mode = .slow then _ else _ : StateM (Session ω) (Attempt PageOutcome)) s = _
  rw [if_pos hslow]
  rfl

/-- Ending a pass adds nothing to the count of recoveries. -/
theorem endPass_unmarked (tally : Tally) (s : Session ω) :
    Yields (endPass tally) s fun tally' after => Unmarked s after ∧ tally'.resyncs = tally.resyncs := by
  have hnote : ∀ (s : Session ω) {notice : Notice}, (Event.noted notice).ofLoop = false →
      Unmarked s (note notice s).2 :=
    fun s _ hnotice => (remarked_note hnotice s).told.unmarked
  refine Yields.step (Yields.step (Yields.bind ((Conducts.of_routine (.dimLed trivial)).failureOf _) ?_))
  rintro (- | failure) middle hmiddle
  · refine Yields.bind ((Conducts.of_routine .leaveProgramming).failureOf _) ?_
    have hbefore := (hnote s rfl).trans hmiddle.told.unmarked
    rintro (- | failure) after hafter
    · exact ⟨hbefore.trans hafter.told.unmarked, rfl⟩
    · exact ⟨(hbefore.trans hafter.told.unmarked).trans (hnote after rfl), rfl⟩
  · refine Yields.step (Yields.bind ((Conducts.of_routine .leaveProgramming).failureOf _) ?_)
    have hstuck : Unmarked middle (note (.ledStuck failure) middle).2 := hnote middle rfl
    have hbefore := ((hnote s rfl).trans hmiddle.told.unmarked).trans hstuck
    rintro (- | failure) after hafter
    · exact ⟨hbefore.trans hafter.told.unmarked, rfl⟩
    · exact ⟨(hbefore.trans hafter.told.unmarked).trans (hnote after rfl), rfl⟩

end Rules

end Session

end Bootflash
