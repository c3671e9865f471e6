import Bootflash.Proofs.Pass
import Bootflash.Proofs.PassCourse

namespace Bootflash

namespace Event

/-- Whether the event is a call to the link. -/
def isCall : Event → Bool
  | wrote _ _ | read _ _ | timeoutSet _ | opened | closed _ => true
  | noted _ | progressed _ _ | attempt _ | recovery _ => false

/-- The progress that the event reports. -/
def report? : Event → Option (Nat × Nat)
  | progressed done total => some (done, total)
  | _ => none

end Event

/-- The calls to the link among some entries. -/
def callsOf (entries : List Entry) : List Event :=
  (entries.map Entry.event).filter Event.isCall

theorem callsOf_append {entries entries' : List Entry} :
    callsOf (entries ++ entries') = callsOf entries ++ callsOf entries' := by
  simp [callsOf]

/-- The progress reports among some entries. -/
def reportsOf (entries : List Entry) : List (Nat × Nat) :=
  entries.filterMap fun entry => entry.event.report?

/-- The calls of one command: its bytes do not go out, or they do and one read decides about it. -/
inductive Exchanged (name : String) (bytes : List UInt8) : List Event → Option Failure → Prop
  | unsent {failure} : Exchanged name bytes [.wrote bytes (some failure)] (some failure)
  | cut {data failure} : Exchanged name bytes [.wrote bytes none, .read 1 ⟨data, some failure⟩] (some failure)
  | wrong {data} (unacknowledged : data ≠ [ack]) :
    Exchanged name bytes [.wrote bytes none, .read 1 ⟨data, none⟩]
      (some (.command name (if data.length = 1 then data else [])))
  | acknowledged : Exchanged name bytes [.wrote bytes none, .read 1 ⟨[ack], none⟩] none

/-- Takes down the calls, on a stretch without milestones. -/
def callObserver : Observer (List Event) where
  follow seen entry := seen ++ callsOf [entry]
  Admits _ entry := entry.event.milestone = false

theorem callObserver_after {seen : List Event} {entries : List Entry} :
    callObserver.after seen entries = seen ++ callsOf entries := by
  induction entries generalizing seen with
  | nil => simp [Observer.after, callsOf]
  | cons entry rest ih =>
    change callObserver.after (seen ++ callsOf [entry]) rest = _
    rw [ih, List.append_assoc, callsOf, callsOf,
      callsOf, ← List.filter_append, ← List.map_append, List.singleton_append]

theorem callObserver_accepts {seen : List Event} {entries : List Entry}
    (h : callObserver.Accepts seen entries) :
    ∀ entry ∈ entries, entry.event.milestone = false := by
  induction entries generalizing seen with
  | nil => simp
  | cons entry rest ih =>
    obtain ⟨hentry, hrest⟩ := h
    exact List.forall_mem_cons.mpr ⟨hentry, ih hrest⟩

namespace Session

variable {ω : Type} {seen : List Event} {host : Host}

theorem Watched.callsOf_eq {s after : Session ω} {calls : List Event}
    (h : Watched callObserver s [] after calls) :
    ∃ entries, after.journal.toList = s.journal.toList ++ entries ∧ callsOf entries = calls := by
  obtain ⟨entries, hjournal, -, hcalls⟩ := h
  exact ⟨entries, hjournal, by rwa [callObserver_after, List.nil_append] at hcalls⟩

theorem note_calls {notice : Notice} :
    ObservedStep callObserver (note notice : StateM (Session ω) Unit) seen host
    fun _ seen' host' => seen' = seen ∧ host' = host := by
  have hadmits : callObserver.Admits seen ⟨host, host, .noted notice⟩ := rfl
  refine (ObservedStep.record hadmits).mono ?_
  intro _ seen' host' hnoted
  exact ⟨hnoted.1.trans (List.append_nil _), hnoted.2⟩

variable [Link ω]

namespace Observed

theorem expectCalls {name : String} {bytes : List UInt8} :
    Observed callObserver (Session.expect name ack : SessionM ω Unit) (seen ++ [.wrote bytes none]) host
      (fun _ seen' _ => ∃ calls, seen' = seen ++ calls ∧ Exchanged name bytes calls none)
      (fun failure seen' _ => ∃ calls, seen' = seen ++ calls ∧
        Exchanged name bytes calls (some failure)) := by
  have hread : ∀ reading, callObserver.follow (seen ++ [.wrote bytes none]) ⟨host, host, .read 1 reading⟩ =
      seen ++ [.wrote bytes none, .read 1 reading] := by
    intro reading
    change seen ++ [_] ++ [_] = _
    simp
  refine bind (receiveByte (fun _ => rfl) ?_) ?_
  · intro data failure
    exact ⟨_, hread _, .cut⟩
  · intro byte seen' host' hheard
    obtain ⟨data, hbyte, rfl, rfl⟩ := hheard
    cases byte with
    | none =>
      have hlength : data.length ≠ 1 := by
        intro hone
        obtain ⟨b, hdata⟩ := List.length_eq_one_iff.mp hone
        simpa using (hbyte b).mpr hdata
      have hwrong : Exchanged name bytes [.wrote bytes none, .read 1 ⟨data, none⟩] _ :=
        .wrong fun hdata => hlength (congrArg List.length hdata)
      rw [if_neg hlength] at hwrong
      exact throw ⟨_, hread _, hwrong⟩
    | some b =>
      obtain rfl := (hbyte b).mp rfl
      by_cases hb : b = ack
      · simp only [hb, if_true]
        exact pure ⟨_, hread _, .acknowledged⟩
      · simp only [hb, if_false]
        exact throw ⟨_, hread _, .wrong (by simpa using hb)⟩

/-- A command makes the calls of one command, and fails as they tell. -/
theorem execCalls {name : String} {bytes : List UInt8} :
    Observed callObserver (exec name bytes : SessionM ω Unit) seen host
      (fun _ seen' _ => ∃ calls, seen' = seen ++ calls ∧ Exchanged name bytes calls none)
      (fun failure seen' _ => ∃ calls, seen' = seen ++ calls ∧
        Exchanged name bytes calls (some failure)) := by
  refine bind (transmit id (fun _ => rfl) fun failure => ⟨_, rfl, .unsent⟩) ?_
  intro _ seen' host' hsent
  obtain ⟨rfl, rfl⟩ := hsent
  refine tryCatch expectCalls ?_
  intro failure seen' host' hfailed
  refine bind (lift (.record rfl)) ?_
  intro _ seen'' host'' hnoted
  obtain ⟨rfl, rfl⟩ := hnoted
  refine throw ?_
  obtain ⟨calls, rfl, hexchanged⟩ := hfailed
  exact ⟨calls, List.append_nil _, hexchanged⟩

end Observed

/-- The calls that end a pass, with what the tally keeps of them: two commands, and the first failure. -/
def Farewell (calls : List Event) (exitFailure : Option Failure) : Prop :=
  ∃ dim leave dimFailure leaveFailure, calls = dim ++ leave ∧
    Exchanged "clearLED" [Opcode.ledOff.byte, 0] dim dimFailure ∧
    Exchanged "leaveProgramming" [Opcode.leaveProgramming.byte] leave leaveFailure ∧
      exitFailure = dimFailure.or leaveFailure

theorem dimLed_calls : ObservedStep callObserver
    (failureOf dimLed : StateM (Session ω) (Option Failure)) seen host
    fun failure seen' _ => ∃ calls, seen' = seen ++ calls ∧
      Exchanged "clearLED" [Opcode.ledOff.byte, 0] calls failure := by
  refine .failureOf (.bind .execCalls ?_)
  intro _ seen' host' hdone
  refine (Observed.lift .update).returning ?_
  intro _ seen'' host'' hupdated
  obtain ⟨rfl, -⟩ := hupdated
  exact hdone

theorem leaveProgramming_calls :
    ObservedStep callObserver (failureOf leaveProgramming : StateM (Session ω) (Option Failure)) seen host
      fun failure seen' _ => ∃ calls, seen' = seen ++ calls ∧
        Exchanged "leaveProgramming" [Opcode.leaveProgramming.byte] calls failure :=
  .failureOf .execCalls

section EndPass

variable {σ : Type} {o : Observer σ} {w : σ} {Calm : σ → Host → Prop}

/-- The device is told to leave, and a notice follows if that fails. -/
theorem leave_observed {post : Option Failure → σ → Host → Prop} (dim : Option Failure) (tally : Tally)
    (hnote : ∀ notice w host, notice ≠ .blocksRefused → Calm w host →
      ObservedStep o (note notice : StateM (Session ω) Unit) w host fun _ w' host' => w' = w ∧ host' = host)
    (hleave : ObservedStep o (failureOf leaveProgramming : StateM (Session ω) (Option Failure)) w host
      fun leave w' host' => Calm w' host' ∧ post leave w' host') :
    ObservedStep o
      (do
        let leave ← failureOf leaveProgramming
        if let some failure := leave then
          note (.exitUnconfirmed failure)
        return { tally with exitFailure := dim.or leave } : StateM (Session ω) Tally) w host
      fun tally' w' host' => ∃ leave, tally' = { tally with exitFailure := dim.or leave } ∧
        post leave w' host' := by
  refine .bind hleave ?_
  intro leave w' host' hleft
  cases leave with
  | none => exact .pure ⟨none, rfl, hleft.2⟩
  | some failure =>
    refine .bind (hnote _ _ _ (by simp) hleft.1) ?_
    intro _ w'' host'' hnoted
    obtain ⟨rfl, rfl⟩ := hnoted
    exact .pure ⟨some failure, rfl, hleft.2⟩

/-- The end of a pass, taken apart: a notice, then both commands, each followed by a notice if it failed. -/
theorem endPass_observed {mid : Option Failure → σ → Host → Prop}
    {post : Option Failure → Option Failure → σ → Host → Prop} {tally : Tally}
    (hnote : ∀ notice w host, notice ≠ .blocksRefused → Calm w host →
      ObservedStep o (note notice : StateM (Session ω) Unit) w host fun _ w' host' => w' = w ∧ host' = host)
    (hcalm : Calm w host)
    (hdim : ObservedStep o (failureOf dimLed : StateM (Session ω) (Option Failure)) w host
      fun dim w' host' => Calm w' host' ∧ mid dim w' host')
    (hleave : ∀ dim w host, mid dim w host →
      ObservedStep o (failureOf leaveProgramming : StateM (Session ω) (Option Failure)) w host
        fun leave w' host' => Calm w' host' ∧ post dim leave w' host') :
    ObservedStep o (endPass tally : StateM (Session ω) Tally) w host fun tally' w' host' =>
      ∃ dim leave, tally' = { tally with mode := host.mode, exitFailure := dim.or leave } ∧
        post dim leave w' host' := by
  refine .bind .host? ?_
  intro host' w' host'' hhost
  obtain ⟨rfl, rfl, rfl⟩ := hhost
  refine .bind (hnote _ _ _ (by simp) hcalm) ?_
  intro _ w' host' hnoted
  obtain ⟨rfl, rfl⟩ := hnoted
  refine .bind hdim ?_
  intro dim w₁ host₁ hdimmed
  have hrest := leave_observed dim { tally with mode := host'.mode } hnote (hleave dim w₁ host₁ hdimmed.2)
  cases dim with
  | none => exact hrest.mono fun _ _ _ hleft => ⟨none, hleft⟩
  | some failure =>
    refine .bind (hnote _ _ _ (by simp) hdimmed.1) ?_
    intro _ w₂ host₂ hnoted
    obtain ⟨rfl, rfl⟩ := hnoted
    exact hrest.mono fun _ _ _ hleft => ⟨some failure, hleft⟩

end EndPass

/-- A pass that is through with its pages is ended by both commands, whatever comes of the first. -/
theorem endPass_calls {tally : Tally} :
    ObservedStep callObserver (endPass tally : StateM (Session ω) Tally) [] host fun tally' calls _ =>
      tally' = { tally with mode := host.mode, exitFailure := tally'.exitFailure } ∧
        Farewell calls tally'.exitFailure := by
  have hdim : ObservedStep callObserver (failureOf dimLed : StateM (Session ω) (Option Failure)) [] host
      fun failure seen _ => True ∧ Exchanged "clearLED" [Opcode.ledOff.byte, 0] seen failure := by
    refine dimLed_calls.mono ?_
    intro failure seen host' hdimmed
    obtain ⟨calls, rfl, hexchanged⟩ := hdimmed
    exact ⟨trivial, hexchanged⟩
  have hleave : ∀ dim seen host, Exchanged "clearLED" [Opcode.ledOff.byte, 0] seen dim →
      ObservedStep callObserver (failureOf leaveProgramming : StateM (Session ω) (Option Failure)) seen host
        fun leave seen' _ => True ∧ Farewell seen' (dim.or leave) := by
    intro dim seen host hexchanged
    refine leaveProgramming_calls.mono ?_
    intro leave seen' host' hleft
    obtain ⟨calls, rfl, hexchanged'⟩ := hleft
    exact ⟨trivial, seen, calls, dim, leave, rfl, hexchanged, hexchanged', rfl⟩
  refine (endPass_observed (fun _ _ _ _ _ => note_calls) trivial hdim hleave).mono ?_
  intro tally' calls host' hended
  obtain ⟨dim, leave, rfl, hfarewell⟩ := hended
  exact ⟨rfl, hfarewell⟩

end Session

namespace Placement

variable {placement : Placement} {n : Nat} {cursor : PageCursor} {state : PassState} {w w' : Watch}
  {host host' : Host}

/-- The tally counts the first `n` pages. -/
structure Counted (placement : Placement) (n : Nat) (tally : Tally) : Prop where
  written : tally.written =
    (firstPages placement.start placement.pageSize n).countP fun addr => !isBlank (placement.page addr)
  skipped : tally.skipped = (firstPages placement.start placement.pageSize n).countP fun addr =>
    isBlank (placement.page addr)

theorem Counted.of_resyncs {tally tally' : Tally} (h : placement.Counted n tally)
    (htally : ∃ resyncs, tally' = { tally with resyncs }) : placement.Counted n tally' := by
  obtain ⟨resyncs, rfl⟩ := htally
  exact ⟨h.written, h.skipped⟩

theorem Counted.count {tally : Tally} (h : placement.Counted n tally) (hat : placement.AtNthPage n cursor) :
    placement.Counted (n + 1) (tally.count (.of (placement.page cursor.current))) := by
  constructor
  · rw [firstPages_add_one hat.current, List.countP_append, ← h.written]
    cases hblank : isBlank (placement.page cursor.current) <;> simp [Tally.count, Handling.of, hblank]
  · rw [firstPages_add_one hat.current, List.countP_append, ← h.skipped]
    cases hblank : isBlank (placement.page cursor.current) <;> simp [Tally.count, Handling.of, hblank]

theorem reports_succ : placement.reports (n + 1) = placement.reports n ++ [(n + 1, placement.total)] := by
  simp [reports, List.range_succ]

/-- The first `n` pages are dealt with, and the cursor and the pointer are at the next one. -/
structure PagesDone (placement : Placement) (n : Nat) (cursor : PageCursor) (state : PassState) (w : Watch)
    (host : Host) : Prop extends placement.toSpan.At n cursor where
  earlier : placement.EarlierPages n state.probed w host
  counted : placement.Counted n state.tally
  pointer : host.pointer? = some cursor.current
  ease : 0 < n → w.AtEase host

/-- Before the first page. -/
theorem PagesDone.start (hpointer : host.pointer? = some placement.start) :
    placement.PagesDone 0 ⟨placement.start, placement.stop, placement.pageSize⟩ .start .start
      { host with mode := .fast } where
  toAt := placement.at_start
  earlier :=
    { mode := rfl
      unsent := by simp [Watch.start]
      negotiated := by simp [firstPages]
      sent := by simp [firstPages]
      progress := rfl }
  counted := ⟨rfl, rfl⟩
  pointer := hpointer
  ease := by simp

/-- A page that is dealt with is one more, once it is counted and reported. -/
theorem PagesDone.advance {retried : Retried Handling} {handling : Handling}
    (h : placement.PagesDone n cursor state w host) (hat : placement.AtNthPage n cursor)
    (hretrial : placement.Retrial n (placement.Through cursor) state retried w' host')
    (hresult : retried.result = .ok handling) :
    placement.PagesDone (n + 1) cursor.advance (retried.state.count handling)
      (w'.follow ⟨host', host', .progressed (n + 1) placement.total⟩) host' := by
  have hthrough := hretrial.done handling hresult
  have hearlier := hretrial.earlier
  refine ⟨h.toAt.advance hat.sound hat.lt, ⟨hearlier.mode, hearlier.unsent, ?_, ?_, ?_⟩, ?_, hthrough.pointer,
    fun _ => ⟨rfl, rfl, hthrough.ease.mode⟩⟩
  · intro hprobed hfast addr haddr
    rw [firstPages_add_one hat.current, List.mem_append, List.mem_singleton] at haddr
    rcases haddr with haddr | rfl
    · exact hearlier.negotiated hprobed hfast addr haddr
    · exact hthrough.negotiated hprobed hfast
  · intro addr haddr hwritten
    rw [firstPages_add_one hat.current, List.mem_append, List.mem_singleton] at haddr
    rcases haddr with haddr | rfl
    · exact hearlier.sent addr haddr hwritten
    · exact hthrough.sent hwritten
  · change w'.progress ++ _ = _
    rw [hearlier.progress, reports_succ]
  · rw [hthrough.handling]
    exact (h.counted.of_resyncs hretrial.tally).count hat

end Placement

namespace Session

variable {ω : Type} {placement : Placement} {w : Watch} {host : Host} {s : Session ω}

/-- A pass begins with a notice. -/
theorem toList_journal_opening (start stop : UInt32) (device : Device) (s : Session ω) :
    (s.opening start stop device).journal.toList =
      s.journal.toList ++ [⟨s.host, s.host, .noted (.programming start stop device.name)⟩] :=
  Journal.toList_push

variable [Link ω]

/-- The page under the cursor could not be dealt with, after some others that could. -/
structure GaveUp (placement : Placement) (tally : Tally) (failure : Failure) (w : Watch)
    (host : Host) : Prop where
  exists_page : ∃ n cursor probed cause, placement.AtNthPage n cursor ∧
    failure = .pageWrite cursor.current cause ∧
    placement.EarlierPages n probed w host ∧ placement.Counted n tally
  mode : host.mode = w.mode

/-- One page of a pass: it is dealt with and reported, and the pass is one page further, or it is given up. -/
theorem settlePage_watched {n retries : Nat} {cursor : PageCursor} {state : PassState}
    (hat : placement.AtNthPage n cursor) (hdone : placement.PagesDone n cursor state w s.host) :
    Yields (settlePage cursor (placement.image.page cursor.current cursor.pageSize)
      (.forPage retries) state) s fun retried after => match retried.result with
      | .ok handling => ∃ w', Watched placement.observer s w
          (record (.progressed (n + 1) placement.total) after).2 w' ∧
          placement.PagesDone (n + 1) cursor.advance (retried.state.count handling) w' after.host
      | .error cause => ∃ w', Watched placement.observer s w after w' ∧
          GaveUp placement retried.state.tally (.pageWrite cursor.current cause) w' after.host := by
  have hsettle := settlePage_observed hat (.forPage retries) state hdone.earlier hdone.pointer s rfl
  rw [Placement.page, ← hat.pageSize] at hsettle
  refine hsettle.mono ?_
  intro retried after hafter
  obtain ⟨w', hwatched, hretrial⟩ := hafter
  cases hresult : retried.result with
  | ok handling =>
    have hreport : Watched placement.observer after w'
        (record (.progressed (n + 1) placement.total) after).2 _ :=
      .push rfl ⟨hretrial.mode, .silent rfl⟩
    exact ⟨_, hwatched.trans hreport, hdone.advance hat hretrial hresult⟩
  | error cause =>
    refine ⟨w', hwatched, ⟨n, cursor, _, cause, hat, rfl, hretrial.earlier, ?_⟩, hretrial.mode⟩
    exact hdone.counted.of_resyncs hretrial.tally

theorem programPages_watched {cursor : PageCursor} {state : PassState} {retries : Nat}
    (hsound : placement.Sound) (hdone : placement.PagesDone 0 cursor state w s.host) :
    Yields (programPages placement.image retries placement.total placement.total cursor state)
      s fun result after =>
      match result.2 with
      | none => ∃ cursor w', Watched placement.observer s w after w' ∧
          placement.PagesDone placement.total cursor result.1 w' after.host
      | some failure => ∃ w', Watched placement.observer s w after w' ∧
          GaveUp placement result.1.tally failure w' after.host := by
  -- The loop counts the pages left, and the course those dealt with.
  let Inv (left : Nat) (cursor : PageCursor) (state : PassState) (s' : Session ω) : Prop :=
    left ≤ placement.total ∧ ∃ w', Watched placement.observer s w s' w' ∧
      placement.PagesDone (placement.total - left) cursor state w' s'.host
  have hstart : Inv placement.total cursor state s := by
    refine ⟨Nat.le_refl _, w, .of_journal_eq rfl, ?_⟩
    rwa [Nat.sub_self]
  refine (programPages_yields placement.image retries placement.total Inv
    (fun state failure after => ∃ w', Watched placement.observer s w after w' ∧
      GaveUp placement state.tally failure w' after.host) ?_ hstart).mono ?_
  · intro left cursor state s' hinv
    obtain ⟨hleft, w', hwatched, hdone'⟩ := hinv
    have hat : placement.AtNthPage (placement.total - (left + 1)) cursor := ⟨hdone'.toAt, hsound, by omega⟩
    have hsucc : placement.total - (left + 1) + 1 = placement.total - left := by omega
    refine (settlePage_watched hat hdone').mono ?_
    intro retried after hafter
    cases hresult : retried.result with
    | ok handling =>
      rw [hresult, hsucc] at hafter
      obtain ⟨w'', hwatched', hdone''⟩ := hafter
      exact ⟨by omega, w'', hwatched.trans hwatched', hdone''⟩
    | error cause =>
      rw [hresult] at hafter
      obtain ⟨w'', hwatched', hgaveUp⟩ := hafter
      exact ⟨w'', hwatched.trans hwatched', hgaveUp⟩
  · intro result after hafter
    cases hfailure : result.2 with
    | none =>
      rw [hfailure] at hafter
      obtain ⟨last, -, w', hwatched, hdone'⟩ := hafter
      exact ⟨last, w', hwatched, hdone'⟩
    | some failure =>
      rw [hfailure] at hafter
      exact hafter

/-- The device is made ready for the first page, or not: nothing is said about any page yet. -/
theorem beginPass_watched {start : UInt32} (hease : w.AtEase host) (hborders : placement.Borders start) :
    Observed placement.observer (beginPass start : SessionM ω Unit) w host
      (fun _ w' host' => w' = w ∧ host'.pointer? = some start)
        (fun _ w' host' => w' = w ∧ host'.mode = host.mode) := by
  refine .bind (.lightLed hease fun _ => ⟨rfl, rfl⟩) ?_
  intro _ w' host' hdone
  obtain ⟨rfl, rfl⟩ := hdone
  have hlit : w'.AtEase { host with led := true } := hease.of_mode rfl
  refine .bind (.requireAutoIncrement hlit fun _ => ⟨rfl, rfl⟩) ?_
  intro _ w' host' hanswered
  obtain ⟨rfl, rfl⟩ := hanswered
  refine .bind (.within (.enterProgramming hlit fun _ => ⟨rfl, rfl⟩)) ?_
  intro _ w' host' hentered
  obtain ⟨rfl, rfl⟩ := hentered
  refine (Observed.setAddress hlit hborders fun _ _ hmode => ⟨rfl, hmode⟩).returning ?_
  intro _ w' host' hpointed
  obtain ⟨rfl, rfl, -⟩ := hpointed
  exact ⟨rfl, rfl⟩

theorem endPass_watched {tally : Tally} (hease : w.AtEase host) :
    ObservedStep placement.observer (endPass tally : StateM (Session ω) Tally) w host
      fun _ w' host' => w' = w ∧ host'.mode = host.mode := by
  have hdim : ObservedStep placement.observer (failureOf dimLed : StateM (Session ω) (Option Failure)) w host
      fun _ w' host' => host'.mode = w'.mode ∧ w' = w ∧ host'.mode = host.mode := by
    refine .failureOf ((Observed.dimLed hease fun _ => ⟨hease.mode, rfl, rfl⟩).returning ?_)
    intro _ w' host' hdimmed
    obtain ⟨rfl, rfl⟩ := hdimmed
    exact ⟨hease.mode, rfl, rfl⟩
  have hleave : ∀ (dim : Option Failure) w' host', w' = w ∧ host'.mode = host.mode →
      ObservedStep placement.observer
        (failureOf leaveProgramming : StateM (Session ω) (Option Failure)) w' host'
        fun _ w'' host'' => host''.mode = w''.mode ∧ w'' = w ∧ host''.mode = host.mode := by
    intro dim w' host' hdimmed
    obtain ⟨rfl, hmode⟩ := hdimmed
    have hease' := hease.of_mode hmode
    refine .failureOf ((Observed.leaveProgramming hease' fun _ => ⟨hease'.mode, rfl, hmode⟩).returning ?_)
    intro _ w' host' hleft
    obtain ⟨rfl, rfl⟩ := hleft
    exact ⟨hease'.mode, rfl, hmode⟩
  refine (endPass_observed (fun _ _ _ hnotice hmode => .note hmode hnotice) hease.mode hdim hleave).mono ?_
  intro tally' w' host' hended
  obtain ⟨dim, leave, -, hsame⟩ := hended
  exact hsame

/-- How a pass over an accepted range can end, seen from the moment at which the device is to be
made ready. -/
inductive Ending (placement : Placement) (opened : Session ω) : Pass → Session ω → Prop
  | unready {failure after} (failed : (beginPass placement.start).run opened = (.error failure, after))
    (watched : Watched placement.observer opened .start after .start) (mode : after.host.mode = .unknown) :
    Ending placement opened (.stopped .empty failure) after
  | gaveUp {tally failure w after} (watched : Watched placement.observer opened .start after w)
    (gaveUp : GaveUp placement tally failure w after.host) :
    Ending placement opened (.stopped tally failure) after
  | through {tally : Tally} {probed w middle calls after}
    (pages : Watched placement.observer opened .start middle w)
    (rest : Watched placement.observer middle w after w) (mode : after.host.mode = w.mode)
    (earlier : placement.EarlierPages placement.total probed w after.host)
    (counted : placement.Counted placement.total tally)
    (closing : Watched callObserver middle [] after calls) (farewell : Farewell calls tally.exitFailure)
    (reported : tally.mode = after.host.mode) : Ending placement opened (.complete tally) after

/-- However a pass ends, its entries are accepted; and if it goes through, each page with any data
was delivered in the mode it reports. -/
theorem Ending.watched {opened after : Session ω} {pass : Pass} (h : Ending placement opened pass after)
    (hsound : placement.toSpan.Sound) :
    ∃ w, Watched placement.observer opened .start after w ∧ after.host.mode = w.mode ∧
      ∀ tally, pass = .complete tally → tally.mode = w.mode ∧ ∀ addr, placement.HasPage addr →
        isBlank (placement.page addr) = false →
          (addr, Delivery.of tally.mode (placement.page addr)) ∈ w.delivered := by
  cases h with
  | unready _ hwatched hmode => exact ⟨_, hwatched, hmode, by simp⟩
  | gaveUp hwatched hgaveUp => exact ⟨_, hwatched, hgaveUp.mode, by simp⟩
  | through hpages hrest hmode hearlier _ _ _ hreported =>
    refine ⟨_, hpages.trans hrest, hmode, ?_⟩
    intro tally htally
    obtain rfl := Pass.complete.inj htally
    refine ⟨hreported.trans hmode, ?_⟩
    intro addr haddr hblank
    rw [hreported]
    exact hearlier.sent addr (hsound.mem_pageAddresses.mpr haddr) hblank

/-- A pass over an accepted range, whatever the link does. -/
theorem programRange_ending {image : Image} {start stop : UInt32} {device : Device}
    {options : Options} {cursor : PageCursor}
    (hcursor : PageCursor.spanning start stop device.geometry.flashPageSize = .ok cursor)
    (himage : ¬image.length32 < stop) :
    Yields (programRange image start stop device options) s
      (Ending ⟨⟨start, stop, device.geometry.flashPageSize⟩, image⟩ (s.opening start stop device)) := by
  obtain ⟨rfl, hsound⟩ := Span.sound_of_spanning hcursor
  let placement : Placement := ⟨⟨start, stop, device.geometry.flashPageSize⟩, image⟩
  have hborders : placement.Borders start := by
    have hstart : start.toNat = start.toNat + 0 * device.geometry.flashPageSize.toNat := by simp
    obtain ⟨hlow, hhigh, haligned⟩ := hsound.isPage hsound.total_pos hstart
    exact ⟨hlow, UInt32.le_of_lt hhigh, haligned⟩
  have hease : Watch.start.AtEase (s.opening start stop device).host := ⟨rfl, rfl, rfl⟩
  have hbegin := (beginPass_watched hease hborders (s.opening start stop device) rfl).and
    (Ends.outcome (beginPass start) (s.opening start stop device))
  unfold programRange
  rw [hcursor]
  simp only [if_neg himage]
  refine Yields.step (Yields.step (Yields.bind hbegin ?_))
  intro result ready hready
  cases result with
  | error failure =>
    obtain ⟨⟨w, hwatched, rfl, hmode⟩, hrun⟩ := hready
    exact .unready hrun hwatched hmode
  | ok =>
    obtain ⟨⟨w, hwatched, rfl, hpointer⟩, -⟩ := hready
    have hdone : placement.PagesDone 0 _ .start .start (setMode .fast ready).2.host := .start hpointer
    refine Yields.step ?_
    rw [hsound.pagesFrom_eq]
    refine Yields.bind (programPages_watched (s := (setMode .fast ready).2) hsound hdone) ?_
    intro result after hafter
    obtain ⟨state, failure⟩ := result
    cases failure with
    | some failure =>
      obtain ⟨w, hpages, hgaveUp⟩ := hafter
      exact Ending.gaveUp (hwatched.trans hpages) hgaveUp
    | none =>
      obtain ⟨last, w, hpages, hdone'⟩ := hafter
      have hend : ObservedStep placement.observer (endPass state.tally : StateM (Session ω) Tally)
          w after.host _ :=
        endPass_watched (hdone'.ease hsound.total_pos)
      have hcalls : ObservedStep callObserver (endPass state.tally : StateM (Session ω) Tally)
          [] after.host _ := endPass_calls
      have hboth : Yields (endPass state.tally) after _ := (hend after rfl).and (hcalls after rfl)
      refine Yields.bind hboth ?_
      intro tally final hfinal
      obtain ⟨⟨w', hwatched', rfl, hmode⟩, calls, hclosing, hkept, hfarewell⟩ := hfinal
      have hease' := (hdone'.ease hsound.total_pos).of_mode hmode
      have hcounted : placement.Counted placement.total tally := by
        rw [hkept]
        exact ⟨hdone'.counted.written, hdone'.counted.skipped⟩
      have hreported : tally.mode = final.host.mode := (congrArg Tally.mode hkept).trans hmode.symm
      exact .through (hwatched.trans hpages) hwatched' hease'.mode
        (hdone'.earlier.same rfl rfl rfl hmode) hcounted hclosing hfarewell hreported

/-- A range that is not accepted is refused, and nothing has happened. -/
theorem programRange_refused_or_ending (image : Image) (start stop : UInt32) (device : Device)
    (options : Options) (s : Session ω) :
    let run := programRange image start stop device options s
    let span : Span := ⟨start, stop, device.geometry.flashPageSize⟩
    (∃ failure, run = (.refused failure, s)) ∨
      (span.Sound ∧ Ending ⟨span, image⟩ (s.opening start stop device) run.1 run.2) := by
  cases hcursor : PageCursor.spanning start stop device.geometry.flashPageSize with
  | error failure =>
    refine .inl ⟨failure, ?_⟩
    unfold programRange
    rw [hcursor]
    rfl
  | ok cursor =>
    by_cases himage : image.length32 < stop
    · refine .inl ⟨.imageEndsEarly image.size stop, ?_⟩
      unfold programRange
      rw [hcursor]
      simp only [if_pos himage]
      rfl
    · exact .inr ⟨(Span.sound_of_spanning hcursor).2, programRange_ending hcursor himage⟩

end Session

end Bootflash
