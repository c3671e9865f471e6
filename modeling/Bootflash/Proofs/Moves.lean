import Bootflash.Proofs.FailFast
import Bootflash.Proofs.PassJournal
import Mathlib.Logic.Relation

namespace Bootflash

/-- The calls by which a board is looked for with `left` sync frames at most: one frame after the
other while there is no answer. -/
inductive SyncCalls : (left : Nat) → List Event → Prop
  | over : SyncCalls 0 []
  | unsent {left failure} : SyncCalls (left + 1) [.wrote Session.syncFrame (some failure)]
  | ended {left reading} : SyncCalls (left + 1) [.wrote Session.syncFrame none, .read 100 reading]
  | unanswered {left calls} (next : SyncCalls left calls) :
    SyncCalls (left + 1) (.wrote Session.syncFrame none :: .read 100 ⟨[], none⟩ :: calls)

/-- The calls of an excursion. -/
inductive Excursion.Calls : Excursion → List Event → Prop
  | erase {calls outcome} (exchanged : Exchanged "erase" [Opcode.eraseChip.byte] calls outcome) :
      Calls erase calls
  | word {reading} : Calls word [.read 2 reading]
  | drain {missing reading} : Calls drain [.read (Session.flushLength missing) reading]
  | sync {calls} (attempts : SyncCalls Session.syncAttempts calls) : Calls sync calls

namespace Session

variable {ω : Type} [Link ω]

/-- One thing that a session does under the timeout it has. -/
inductive Move : Session ω → Session ω → Prop
  | write (s : Session ω) {host : Host} (bytes : List UInt8) (timeout : host.timeout = s.host.timeout) :
    Move s ⟨(Link.write bytes s.link).2, host,
      s.journal.push ⟨s.host, host, .wrote bytes (Link.write bytes s.link).1⟩⟩
  | read (s : Session ω) (limit : Nat) : Move s (read limit s).2
  | remark (s : Session ω) {event : Event} (aside : event.isCall = false) : Move s (record event s).2
  | believe (s : Session ω) {host : Host} (timeout : host.timeout = s.host.timeout) :
      Move s ⟨s.link, host, s.journal⟩

/-- A move, or a whole excursion of a sort that is allowed. -/
inductive Stride (allowed : List Excursion) : Session ω → Session ω → Prop
  | move {s s' : Session ω} (move : Move s s') : Stride allowed s s'
  | excursion {s within : Session ω} {excursion : Excursion} {entries : List Entry}
    (mem : excursion ∈ allowed) (moves : Relation.ReflTransGen Move (setTimeout excursion.timeout s).2 within)
    (journal : within.journal.toList = (setTimeout excursion.timeout s).2.journal.toList ++ entries)
    (calls : excursion.Calls (callsOf entries)) : Stride allowed s (setTimeout s.host.timeout within).2

/-- Any number of moves and allowed excursions. -/
def Course (allowed : List Excursion) : Session ω → Session ω → Prop :=
  Relation.ReflTransGen (Stride allowed)

namespace Course

variable {allowed : List Excursion} {s s' s'' : Session ω}

theorem refl (s : Session ω) : Course allowed s s :=
  Relation.ReflTransGen.refl

theorem trans (h : Course allowed s s') (h' : Course allowed s' s'') : Course allowed s s'' :=
  Relation.ReflTransGen.trans h h'

theorem of_move (h : Move s s') : Course allowed s s' :=
  Relation.ReflTransGen.single (.move h)

/-- Without excursions there are only moves. -/
theorem moves (h : Course [] s s') : Relation.ReflTransGen Move s s' := by
  refine Relation.ReflTransGen.mono ?_ _ _ h
  rintro s s' (hmove | hmem)
  · exact hmove
  · cases hmem

/-- What every move and every change of the timeout keeps, a course keeps. -/
theorem keeps {R : Session ω → Session ω → Prop} (hrefl : ∀ s, R s s)
    (htrans : ∀ {s s' s''}, R s s' → R s' s'' → R s s'') (hmove : ∀ {s s'}, Move s s' → R s s')
    (htimeout : ∀ ms s, R s (setTimeout ms s).2) (h : Course allowed s s') : R s s' := by
  have hmoves : ∀ {s s' : Session ω}, Relation.ReflTransGen Move s s' → R s s' := by
    intro s s' hmoves
    induction hmoves with
    | refl => exact hrefl s
    | tail _ hlast ih => exact htrans ih (hmove hlast)
  induction h with
  | refl => exact hrefl s
  | tail _ hlast ih =>
    cases hlast with
    | move hlast => exact htrans ih (hmove hlast)
    | excursion _ hwithin _ _ =>
      exact htrans ih (htrans (htrans (htimeout _ _) (hmoves hwithin)) (htimeout _ _))

end Course

/-- Whatever the link does, the operation is a course with no excursions but the allowed ones. -/
def Takes {α : Type} (allowed : List Excursion) (operation : SessionM ω α) : Prop :=
  ∀ s, Ends operation s (fun _ after => Course allowed s after) fun _ after => Course allowed s after

/-- The same for a step that cannot fail. -/
def TakesStep {α : Type} (allowed : List Excursion) (step : StateM (Session ω) α) : Prop :=
  ∀ s, Yields step s fun _ after => Course allowed s after

/-- On any link, the calls that the operation makes are of this sort. -/
def MakesCalls {α : Type} (operation : SessionM ω α) (sort : List Event → Prop) : Prop :=
  ∀ seen host, Observed callObserver operation seen host
    (fun _ seen' _ => ∃ calls, seen' = seen ++ calls ∧ sort calls)
    fun _ seen' _ => ∃ calls, seen' = seen ++ calls ∧ sort calls

section Rules

variable {allowed : List Excursion} {α β : Type}

namespace TakesStep

variable {step : StateM (Session ω) α}

theorem pure (a : α) : TakesStep allowed (Pure.pure a : StateM (Session ω) α) :=
  fun s => .refl s

theorem bind {next : α → StateM (Session ω) β} (h : TakesStep allowed step)
    (hnext : ∀ a, TakesStep allowed (next a)) :
    TakesStep allowed (step >>= next) :=
  fun s => Course.trans (h s) (hnext _ _)

theorem run {operation : SessionM ω α} (h : Takes allowed operation) : TakesStep allowed operation.run :=
  fun s => Yields.run (h s)

theorem failureOf {operation : SessionM ω Unit} (h : Takes allowed operation) :
    TakesStep allowed (failureOf operation) :=
  fun s => Yields.failureOf (h s)

theorem record {event : Event} (haside : event.isCall = false) :
    TakesStep allowed (record event : StateM (Session ω) Unit) :=
  fun s => .of_move (.remark s haside)

theorem note (notice : Notice) : TakesStep allowed (note notice : StateM (Session ω) Unit) :=
  record rfl

theorem update {change : Host → Host} (hchange : ∀ host, (change host).timeout = host.timeout) :
    TakesStep allowed (update change : StateM (Session ω) Unit) :=
  fun s => .of_move (.believe s (hchange s.host))

theorem host? : TakesStep allowed (host? : StateM (Session ω) Host) :=
  fun s => .refl s

end TakesStep

namespace Takes

variable {operation : SessionM ω α}

theorem pure (a : α) : Takes allowed (Pure.pure a : SessionM ω α) :=
  fun s => Ends.pure (.refl s)

theorem throw (failure : Failure) : Takes allowed (throw failure : SessionM ω α) :=
  fun s => Ends.throw (.refl s)

theorem lift {step : StateM (Session ω) α} (h : TakesStep allowed step) : Takes allowed (lift step) :=
  fun s => Ends.lift (h s)

/-- A course that an operation goes on with. -/
theorem after (h : Takes allowed operation) {s middle : Session ω} (hmiddle : Course allowed s middle) :
    Ends operation middle (fun _ after => Course allowed s after) fun _ after => Course allowed s after :=
  (h middle).mono (fun _ _ hafter => hmiddle.trans hafter) fun _ _ hafter => hmiddle.trans hafter

theorem bind {next : α → SessionM ω β} (h : Takes allowed operation) (hnext : ∀ a, Takes allowed (next a)) :
    Takes allowed (operation >>= next) :=
  fun s => Ends.bind (h s) fun a _ hmiddle => (hnext a).after hmiddle

theorem tryCatch {handler : Failure → SessionM ω α} (h : Takes allowed operation)
    (hhandler : ∀ failure, Takes allowed (handler failure)) : Takes allowed (tryCatch operation handler) :=
  fun s => Ends.tryCatch (h s) fun failure _ hmiddle => (hhandler failure).after hmiddle

theorem check (failure : Option Failure) : Takes allowed (check failure : SessionM ω Unit) := by
  cases failure with
  | none => exact pure ()
  | some failure => exact throw failure

theorem transmit {change : Host → Host} (hchange : Host.KeepsModeAndTimeout change) (bytes : List UInt8) :
    Takes allowed (transmit change bytes : SessionM ω Unit) := by
  intro s
  exact Ends.step (Link.write bytes s.link).1 _ rfl
    ((check _).after (.of_move (.write s bytes (hchange.timeout s.host))))

theorem aside {remark : SessionM ω Unit} (h : Aside remark) : Takes allowed remark := by
  cases h with
  | nothing => exact pure ()
  | note _ => exact lift (.note _)

theorem read {remark : Reading → SessionM ω Unit} {next : Reading → SessionM ω α} (limit : Nat)
    (haside : ∀ reading, Aside (remark reading)) (hnext : ∀ reading, Takes allowed (next reading)) :
    Takes allowed (Session.lift (read limit) >>= fun reading => remark reading >>= fun _ =>
      Session.check reading.failure >>= fun _ => next reading) :=
  bind (fun s => Ends.lift (.of_move (.read s limit))) fun reading =>
    bind (aside (haside reading)) fun _ => bind (check _) fun _ => hnext reading

end Takes

namespace MakesCalls

variable {operation : SessionM ω α} {sort : List Event → Prop}

theorem exec (name : String) (bytes : List UInt8) :
    MakesCalls (exec name bytes : SessionM ω Unit) fun calls =>
      ∃ outcome, Exchanged name bytes calls outcome := by
  intro seen host
  refine Observed.execCalls.mono ?_ ?_
  · rintro - seen' host' ⟨calls, hseen, hexchanged⟩
    exact ⟨calls, hseen, none, hexchanged⟩
  · rintro failure seen' host' ⟨calls, hseen, hexchanged⟩
    exact ⟨calls, hseen, some failure, hexchanged⟩

theorem receive (limit : Nat) :
    MakesCalls (receive limit : SessionM ω (List UInt8)) fun calls =>
      ∃ reading, calls = [.read limit reading] := by
  intro seen host
  refine (Observed.receive limit (fun _ => rfl) fun bytes failure => ⟨_, rfl, _, rfl⟩).returning ?_
  rintro bytes seen' host' ⟨rfl, -⟩
  exact ⟨_, rfl, _, rfl⟩

/-- What is left on the link is read at once, whatever is made of it. -/
theorem drain (limit : Nat) :
    MakesCalls (Session.drain limit : SessionM ω Unit) fun calls =>
      ∃ reading, calls = [.read limit reading] := by
  intro seen host
  refine Observed.bind (Observed.lift (.read limit fun _ => rfl)) ?_
  rintro reading seen' host' ⟨rfl, rfl⟩
  have hcheck : Observed callObserver (Session.check reading.failure : SessionM ω Unit)
      (callObserver.follow seen ⟨host', host', .read limit reading⟩) host'
      (fun _ seen' _ => ∃ calls, seen' = seen ++ calls ∧ ∃ reading, calls = [.read limit reading])
      fun _ seen' _ => ∃ calls, seen' = seen ++ calls ∧ ∃ reading, calls = [.read limit reading] :=
    .check (fun _ => ⟨_, rfl, reading, rfl⟩) fun _ _ => ⟨_, rfl, reading, rfl⟩
  split
  · exact hcheck
  · refine Observed.bind (Observed.lift note_calls) ?_
    rintro - seen' host'' ⟨rfl, rfl⟩
    exact hcheck

theorem awaitBoard (left : Nat) :
    MakesCalls (awaitBoard left : SessionM ω (List UInt8)) (SyncCalls left) := by
  induction left with
  | zero => exact fun seen host => .pure ⟨[], (List.append_nil _).symm, .over⟩
  | succ left ih =>
    intro seen host
    refine Observed.bind (Observed.transmit id (fun _ => rfl) fun failure => ⟨_, rfl, .unsent⟩) ?_
    rintro - seen' host' ⟨rfl, rfl⟩
    have hread (reading : Reading) : callObserver.follow
        (callObserver.follow seen ⟨host', id host', .wrote syncFrame none⟩)
        ⟨host', host', .read 100 reading⟩ = seen ++ [.wrote syncFrame none, .read 100 reading] :=
      List.append_assoc ..
    refine Observed.bind (Observed.receive 100 (fun _ => rfl) fun bytes failure => ⟨_, hread _, .ended⟩) ?_
    rintro answer seen' host' ⟨rfl, rfl⟩
    rw [hread]
    cases answer with
    | cons b rest => exact .pure ⟨_, rfl, .ended⟩
    | nil =>
      refine Observed.bind (Observed.lift note_calls) ?_
      rintro - seen' host' ⟨rfl, rfl⟩
      have hagain : ∀ seen',
          (∃ calls, seen' = seen ++ [.wrote syncFrame none, .read 100 ⟨[], none⟩] ++ calls ∧
            SyncCalls left calls) →
          ∃ calls, seen' = seen ++ calls ∧ SyncCalls (left + 1) calls := by
        rintro seen' ⟨calls, rfl, hcalls⟩
        exact ⟨_, List.append_assoc .., .unanswered hcalls⟩
      exact (ih _ _).mono (fun _ seen' _ hafter => hagain seen' hafter) fun _ seen' _ hafter =>
        hagain seen' hafter

omit [Link ω] in
theorem mono {sort' : List Event → Prop} (h : MakesCalls operation sort)
    (himp : ∀ calls, sort calls → sort' calls) :
    MakesCalls operation sort' := by
  have hseen : ∀ seen seen' : List Event, (∃ calls, seen' = seen ++ calls ∧ sort calls) →
      ∃ calls, seen' = seen ++ calls ∧ sort' calls := by
    rintro seen seen' ⟨calls, hcalls, hsort⟩
    exact ⟨calls, hcalls, himp calls hsort⟩
  exact fun seen host => (h seen host).mono (fun _ seen' _ => hseen seen seen') fun _ seen' _ =>
    hseen seen seen'

/-- What is done on an excursion makes its calls. -/
theorem of_runs {excursion : Excursion} (h : excursion.Runs operation) :
    MakesCalls operation excursion.Calls := by
  cases h with
  | erase => exact (exec _ _).mono fun calls hcalls => hcalls.elim fun _ => .erase
  | word => exact (receive 2).mono fun calls hcalls => hcalls.elim fun _ hcall => hcall ▸ .word
  | drain missing => exact (drain _).mono fun calls hcalls => hcalls.elim fun _ hcall => hcall ▸ .drain
  | sync => exact (awaitBoard _).mono fun _ => .sync

end MakesCalls

namespace Takes

variable {operation : SessionM ω α}

/-- An operation under the timeout of an excursion, if it is what is done on the excursion. -/
theorem withTimeout {excursion : Excursion} (hallowed : excursion ∈ allowed)
    (hruns : excursion.Runs operation) (hmoves : Takes [] operation) :
    Takes allowed (withTimeout excursion.timeout operation) := by
  intro s
  let begun : Session ω := (setTimeout excursion.timeout s).2
  have hback : ∀ within : Session ω, Course [] begun within →
      (∃ seen, Watched callObserver begun [] within seen ∧ ∃ calls, seen = [] ++ calls ∧
        excursion.Calls calls) →
      Course allowed s (setTimeout s.host.timeout within).2 := by
    rintro within hcourse ⟨seen, hwatched, calls, hseen, hcalls⟩
    obtain ⟨entries, hjournal, hentries⟩ := hwatched.callsOf_eq
    refine Relation.ReflTransGen.single (.excursion hallowed hcourse.moves hjournal ?_)
    rw [hentries, hseen]
    exact hcalls
  refine Ends.withTimeout (((hmoves begun).and (MakesCalls.of_runs hruns [] begun.host begun rfl)).mono ?_ ?_)
  · rintro _ within ⟨hcourse, hcalls⟩
    exact hback within hcourse hcalls
  · rintro _ within ⟨hcourse, hcalls⟩
    exact hback within hcourse hcalls

end Takes

/-- A routine makes moves, and the excursions of its repertoire. -/
theorem Routine.takes {r : Repertoire} {operation : SessionM ω α} (h : Routine r operation) :
    Takes r.excursions operation := by
  induction h with
  | pure a => exact .pure a
  | throw _ => exact .throw _
  | bind _ _ hfirst hrest => exact .bind hfirst hrest
  | note _ => exact .lift (.note _)
  | host? => exact .lift .host?
  | update hsteady _ => exact .lift (.update hsteady.timeout)
  | transmit hsteady _ _ => exact .transmit hsteady _
  | read limit haside _ hrest => exact .read limit haside hrest
  | tryCatch _ hhands hfirst =>
    refine .tryCatch hfirst fun failure => ?_
    obtain ⟨remark, failure', haside, -, -, hhandled⟩ := hhands failure
    rw [hhandled]
    exact .bind (.aside haside) fun _ => .throw failure'
  | excursion hmem hruns _ hfirst => exact .withTimeout hmem hruns hfirst

/-- The same for a routine to which no more is denied than some excursions. -/
theorem Takes.of_routine {operation : SessionM ω α} (h : Routine (.any allowed) operation) :
    Takes allowed operation :=
  h.takes

theorem Takes.prepareChip (hallowed : .erase ∈ allowed) (image : Image) (device : Device) :
    Takes allowed (prepareChip image device : SessionM ω UInt32) :=
  bind (of_routine (.within _ (.readFuse trivial))) fun _ => bind (lift (.note _)) fun _ =>
    bind (check _) fun _ =>
    bind (of_routine (.within _ (.eraseChip hallowed trivial trivial trivial))) fun _ => pure _

namespace TakesStep

variable {step : StateM (Session ω) α}

/-- An operation whose outcome decides how to go on. -/
theorem andThen {operation : SessionM ω α} {next : Except Failure α → StateM (Session ω) β}
    (h : Takes allowed operation) (hnext : ∀ outcome, TakesStep allowed (next outcome)) :
    TakesStep allowed (operation.run >>= next) :=
  bind (run h) hnext

theorem tryPage (cursor : PageCursor) (page : List UInt8) (probed : Bool) :
    TakesStep allowed (tryPage cursor page probed : StateM (Session ω) (Attempt PageOutcome)) := by
  unfold Session.tryPage
  split
  · exact bind (failureOf (.of_routine (.setAddress _))) fun _ => pure _
  refine bind host? fun host => ?_
  split
  · exact bind (failureOf (.of_routine (.writeSlowly _ _))) fun _ => pure _
  refine andThen (.of_routine (.offerBlock probed)) ?_
  rintro (failure | - | -)
  · exact pure _
  · exact bind (note _) fun _ => bind (update fun _ => rfl) fun _ =>
      bind (failureOf (.of_routine (.setAddress _))) fun _ => pure _
  · refine andThen (.of_routine (.sendBlock page)) ?_
    rintro (failure | ⟨⟩)
    · exact pure _
    · exact bind (failureOf (.of_routine (.setAddress _))) fun _ => pure _

theorem trySlowly (cursor : PageCursor) (page : List UInt8) (probed : Bool) :
    TakesStep allowed (trySlowly cursor page probed : StateM (Session ω) (Attempt Handling)) :=
  bind (failureOf (.of_routine (.writeSlowly _ _))) fun _ => pure _

variable (hallowed : .drain ∈ allowed)
include hallowed

/-- One try of a page, and what it leads to. -/
theorem retry_step {cursor : PageCursor} {attempt : Bool → StateM (Session ω) (Attempt α)}
    {tries : Nat} {allowance : Allowance} {state : PassState}
    (hattempt : ∀ probed, TakesStep allowed (attempt probed))
    (hagain : ∀ left rest state', tries = left + 1 →
      TakesStep allowed (Session.retry cursor attempt left rest state')) :
    TakesStep allowed (Session.retry cursor attempt tries allowance state) := by
  rw [Session.retry]
  refine bind (record rfl) fun _ => bind (hattempt _) ?_
  rintro ⟨outcome, - | failure, probed⟩
  · exact pure _
  cases hspend : allowance.spend failure with
  | none =>
    simp only [hspend]
    exact pure _
  | some rest =>
    simp only [hspend]
    cases tries with
    | zero => exact pure _
    | succ left =>
      refine bind host? fun host => bind (note _) fun _ => bind (record rfl) fun _ => ?_
      refine andThen (.of_routine (.recoverPage hallowed _ _)) ?_
      rintro (failure | ⟨⟩)
      · exact pure _
      · exact hagain left _ _ rfl

theorem retry {cursor : PageCursor} {attempt : Bool → StateM (Session ω) (Attempt α)}
    (hattempt : ∀ probed, TakesStep allowed (attempt probed)) (tries : Nat) (allowance : Allowance)
    (state : PassState) :
    TakesStep allowed (retry cursor attempt tries allowance state) := by
  induction tries generalizing allowance state with
  | zero =>
    refine retry_step hallowed hattempt fun left rest state' hleft => ?_
    cases hleft
  | succ tries ih =>
    refine retry_step hallowed hattempt fun left rest state' hleft => ?_
    cases hleft
    exact ih rest state'

theorem settlePage (cursor : PageCursor) (page : List UInt8) (allowance : Allowance) (state : PassState) :
    TakesStep allowed (settlePage cursor page allowance state : StateM (Session ω) (Retried Handling)) := by
  refine bind (retry hallowed (tryPage cursor page) _ _ _) ?_
  rintro ⟨failure | handling | -, rest, state'⟩
  · exact pure _
  · exact pure _
  · exact retry hallowed (trySlowly cursor page) _ _ _

theorem programPages (image : Image) (retries total left : Nat) (cursor : PageCursor) (state : PassState) :
    TakesStep allowed (programPages image retries total left cursor state :
      StateM (Session ω) (PassState × Option Failure)) := by
  induction left generalizing cursor state with
  | zero => exact pure _
  | succ left ih =>
    refine bind (settlePage hallowed _ _ _ _) ?_
    rintro ⟨failure | handling, rest, state'⟩
    · exact pure _
    · exact bind (record rfl) fun _ => ih _ _

omit hallowed in
theorem endPass (tally : Tally) : TakesStep allowed (endPass tally : StateM (Session ω) Tally) := by
  refine bind host? fun host => bind (note _) fun _ => bind (failureOf (.of_routine (.dimLed trivial))) ?_
  rintro (- | stuck)
  · refine bind (failureOf (.of_routine .leaveProgramming)) ?_
    rintro (- | unconfirmed)
    · exact pure _
    · exact bind (note _) fun _ => pure _
  · refine bind (note _) fun _ => bind (failureOf (.of_routine .leaveProgramming)) ?_
    rintro (- | unconfirmed)
    · exact pure _
    · exact bind (note _) fun _ => pure _

theorem programRange (image : Image) (start stop : UInt32) (device : Device) (options : Options) :
    TakesStep allowed (programRange image start stop device options : StateM (Session ω) Pass) := by
  unfold Session.programRange
  split
  · exact pure _
  split
  · exact pure _
  refine bind (note _) fun _ => bind (update fun _ => rfl) fun _ =>
    andThen (.of_routine (.beginPass start)) ?_
  rintro (failure | ⟨⟩)
  · exact pure _
  refine bind (update fun _ => rfl) fun _ => bind (programPages hallowed _ _ _ _ _ _) ?_
  rintro ⟨state, - | failure⟩
  · exact bind (endPass _) fun _ => pure _
  · exact pure _

theorem programChip (herase : .erase ∈ allowed) (image : Image) (id : UInt8) (options : Options) :
    TakesStep allowed (programChip image id options : StateM (Session ω) Pass) := by
  unfold Session.programChip
  split
  · exact pure _
  refine andThen (.prepareChip herase image _) ?_
  rintro (failure | boot)
  · exact pure _
  · exact programRange hallowed _ _ _ _ _

end TakesStep

end Rules

end Session

end Bootflash
