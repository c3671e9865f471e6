import Bootflash.Proofs.Outcome

namespace Bootflash

/-- A reader of journals: what it takes from an entry, and which entries it admits. -/
structure Observer (σ : Type) where
  follow : σ → Entry → σ
  Admits : σ → Entry → Prop

namespace Observer

variable {σ : Type} {o : Observer σ} {w : σ} {entries later : List Entry} {entry : Entry}

/-- What the observer knows after some entries. -/
def after (o : Observer σ) (w : σ) (entries : List Entry) : σ :=
  entries.foldl o.follow w

/-- Every entry is admitted in the light of those before it. -/
def Accepts (o : Observer σ) : σ → List Entry → Prop
  | _, [] => True
  | w, entry :: rest => o.Admits w entry ∧ Accepts o (o.follow w entry) rest

theorem after_append : o.after w (entries ++ later) = o.after (o.after w entries) later :=
  List.foldl_append

theorem accepts_append : o.Accepts w (entries ++ later) ↔
    o.Accepts w entries ∧ o.Accepts (o.after w entries) later := by
  induction entries generalizing w with
  | nil => simp [Accepts, after]
  | cons entry rest ih =>
    simp only [List.cons_append, Accepts, ih, and_assoc]
    rfl

/-- An entry among accepted ones is admitted by what the entries before it tell. -/
theorem Accepts.admits (h : o.Accepts w (entries ++ entry :: later)) : o.Admits (o.after w entries) entry :=
  (accepts_append.mp h).2.1

end Observer

namespace Session

variable {ω σ α β : Type} {o : Observer σ} {w w' w'' : σ} {host : Host} {s s' s'' : Session ω}

/-- The entries made between two states of a session are accepted, and take the observer from `w` to `w'`. -/
def Watched (o : Observer σ) (s : Session ω) (w : σ) (s' : Session ω) (w' : σ) : Prop :=
  ∃ entries, s'.journal.toList = s.journal.toList ++ entries ∧ o.Accepts w entries ∧ o.after w entries = w'

theorem Watched.of_journal_eq (h : s'.journal = s.journal) : Watched o s w s' w :=
  ⟨[], by simp [h], trivial, rfl⟩

theorem Watched.trans (h : Watched o s w s' w') (h' : Watched o s' w' s'' w'') : Watched o s w s'' w'' := by
  obtain ⟨entries, hjournal, haccepts, rfl⟩ := h
  obtain ⟨entries', hjournal', haccepts', rfl⟩ := h'
  refine ⟨entries ++ entries', ?_, Observer.accepts_append.mpr ⟨haccepts, haccepts'⟩, Observer.after_append⟩
  rw [hjournal', hjournal, List.append_assoc]

theorem Watched.push {entry : Entry} (hjournal : s'.journal = s.journal.push entry)
    (hadmits : o.Admits w entry) :
    Watched o s w s' (o.follow w entry) :=
  ⟨[entry], by rw [hjournal, Journal.toList_push], ⟨hadmits, trivial⟩, rfl⟩

/-- Run with this host under the eyes of an observer that knows `w`, the operation makes accepted
entries only. If it returns, what the observer and the host then have satisfies `good`, and if it
fails, `bad`. -/
def Observed (o : Observer σ) (operation : SessionM ω α) (w : σ) (host : Host) (good : α → σ → Host → Prop)
    (bad : Failure → σ → Host → Prop) : Prop :=
  ∀ s : Session ω, s.host = host →
    Ends operation s (fun a after => ∃ w', Watched o s w after w' ∧ good a w' after.host)
      (fun failure after => ∃ w', Watched o s w after w' ∧ bad failure w' after.host)

/-- The same for a step that cannot fail. -/
def ObservedStep (o : Observer σ) (step : StateM (Session ω) α) (w : σ) (host : Host)
    (post : α → σ → Host → Prop) : Prop :=
  ∀ s : Session ω, s.host = host → Yields step s fun a after =>
    ∃ w', Watched o s w after w' ∧ post a w' after.host

namespace ObservedStep

variable {step : StateM (Session ω) α} {post : α → σ → Host → Prop}

theorem mono {post' : α → σ → Host → Prop} (h : ObservedStep o step w host post)
    (himp : ∀ a w' host', post a w' host' → post' a w' host') : ObservedStep o step w host post' := by
  intro s hs
  refine (h s hs).mono ?_
  intro a after hafter
  obtain ⟨w', hwatched, hpost⟩ := hafter
  exact ⟨w', hwatched, himp a w' _ hpost⟩

theorem bind {next : α → StateM (Session ω) β} {mid : α → σ → Host → Prop} {post : β → σ → Host → Prop}
    (h : ObservedStep o step w host mid)
    (hnext : ∀ a w' host', mid a w' host' → ObservedStep o (next a) w' host' post) :
    ObservedStep o (step >>= next) w host post := by
  intro s hs
  refine (h s hs).bind ?_
  intro a middle hmiddle
  obtain ⟨w', hwatched, hmid⟩ := hmiddle
  refine (hnext a w' middle.host hmid middle rfl).mono ?_
  intro b after hafter
  obtain ⟨w'', hwatched', hpost⟩ := hafter
  exact ⟨w'', hwatched.trans hwatched', hpost⟩

theorem pure {a : α} (h : post a w host) :
    ObservedStep o (Pure.pure a : StateM (Session ω) α) w host post := by
  intro s hs
  exact ⟨w, .of_journal_eq rfl, hs ▸ h⟩

theorem record {event : Event} (hadmits : o.Admits w ⟨host, host, event⟩) :
    ObservedStep o (record event : StateM (Session ω) Unit) w host
      fun _ w' host' => w' = o.follow w ⟨host, host, event⟩ ∧ host' = host := by
  intro s hs
  subst hs
  exact ⟨_, .push rfl hadmits, rfl, rfl⟩

theorem update {change : Host → Host} :
    ObservedStep o (update change : StateM (Session ω) Unit) w host fun _ w' host' =>
      w' = w ∧ host' = change host := by
  intro s hs
  exact ⟨w, .of_journal_eq rfl, rfl, congrArg change hs⟩

theorem host? :
    ObservedStep o (host? : StateM (Session ω) Host) w host fun a w' host' =>
      a = host ∧ w' = w ∧ host' = host := by
  intro s hs
  exact ⟨w, .of_journal_eq rfl, hs, rfl, hs⟩

/-- An operation whose outcome decides how to go on. -/
theorem run {operation : SessionM ω α} {next : Except Failure α → StateM (Session ω) β}
    {mid : α → σ → Host → Prop} {cut : Failure → σ → Host → Prop} {post : β → σ → Host → Prop}
    (h : Observed o operation w host mid cut)
    (hok : ∀ a w' host', mid a w' host' → ObservedStep o (next (.ok a)) w' host' post)
    (herror : ∀ failure w' host', cut failure w' host' →
      ObservedStep o (next (.error failure)) w' host' post) :
    ObservedStep o (operation.run >>= next) w host post := by
  intro s hs
  refine Yields.bind (h s hs) ?_
  intro result middle hmiddle
  cases result with
  | ok a =>
    obtain ⟨w', hwatched, hmid⟩ := hmiddle
    refine (hok a w' middle.host hmid middle rfl).mono ?_
    intro b after hafter
    obtain ⟨w'', hwatched', hpost⟩ := hafter
    exact ⟨w'', hwatched.trans hwatched', hpost⟩
  | error failure =>
    obtain ⟨w', hwatched, hcut⟩ := hmiddle
    refine (herror failure w' middle.host hcut middle rfl).mono ?_
    intro b after hafter
    obtain ⟨w'', hwatched', hpost⟩ := hafter
    exact ⟨w'', hwatched.trans hwatched', hpost⟩

theorem failureOf {operation : SessionM ω Unit} {post : Option Failure → σ → Host → Prop}
    (h : Observed o operation w host (fun _ => post none) (fun failure => post (some failure))) :
    ObservedStep o (failureOf operation) w host post := by
  intro s hs
  exact Yields.failureOf (h s hs)

theorem read [Link ω] (limit : Nat) (hadmits : ∀ reading, o.Admits w ⟨host, host, .read limit reading⟩) :
    ObservedStep o (read limit : StateM (Session ω) Reading) w host
      fun reading w' host' => w' = o.follow w ⟨host, host, .read limit reading⟩ ∧ host' = host := by
  intro s hs
  subst hs
  exact ⟨_, .push rfl (hadmits _), rfl, rfl⟩

end ObservedStep

namespace Observed

variable {operation : SessionM ω α} {good : α → σ → Host → Prop} {bad : Failure → σ → Host → Prop}

theorem mono {good' : α → σ → Host → Prop} {bad' : Failure → σ → Host → Prop}
    (h : Observed o operation w host good bad) (hgood : ∀ a w' host', good a w' host' → good' a w' host')
    (hbad : ∀ failure w' host', bad failure w' host' → bad' failure w' host') :
    Observed o operation w host good' bad' := by
  intro s hs
  refine (h s hs).mono ?_ ?_
  · intro a after hafter
    obtain ⟨w', hwatched, hpost⟩ := hafter
    exact ⟨w', hwatched, hgood a w' _ hpost⟩
  · intro failure after hafter
    obtain ⟨w', hwatched, hpost⟩ := hafter
    exact ⟨w', hwatched, hbad failure w' _ hpost⟩

theorem returning {good' : α → σ → Host → Prop} (h : Observed o operation w host good bad)
    (hgood : ∀ a w' host', good a w' host' → good' a w' host') : Observed o operation w host good' bad :=
  h.mono hgood fun _ _ _ hbad => hbad

theorem bind {next : α → SessionM ω β} {mid : α → σ → Host → Prop} {good : β → σ → Host → Prop}
    (h : Observed o operation w host mid bad)
    (hnext : ∀ a w' host', mid a w' host' → Observed o (next a) w' host' good bad) :
    Observed o (operation >>= next) w host good bad := by
  intro s hs
  refine (h s hs).bind ?_
  intro a middle hmiddle
  obtain ⟨w', hwatched, hmid⟩ := hmiddle
  refine (hnext a w' middle.host hmid middle rfl).mono ?_ ?_
  · intro b after hafter
    obtain ⟨w'', hwatched', hpost⟩ := hafter
    exact ⟨w'', hwatched.trans hwatched', hpost⟩
  · intro failure after hafter
    obtain ⟨w'', hwatched', hpost⟩ := hafter
    exact ⟨w'', hwatched.trans hwatched', hpost⟩

theorem pure {a : α} (h : good a w host) : Observed o (Pure.pure a : SessionM ω α) w host good bad := by
  intro s hs
  exact Ends.pure ⟨w, .of_journal_eq rfl, hs ▸ h⟩

theorem throw {failure : Failure} (h : bad failure w host) :
    Observed o (throw failure : SessionM ω α) w host good bad := by
  intro s hs
  exact Ends.throw ⟨w, .of_journal_eq rfl, hs ▸ h⟩

theorem lift {step : StateM (Session ω) α} (h : ObservedStep o step w host good) :
    Observed o (lift step) w host good bad := by
  intro s hs
  exact Ends.lift (h s hs)

theorem tryCatch {handler : Failure → SessionM ω α} {mid : Failure → σ → Host → Prop}
    (h : Observed o operation w host good mid)
    (hhandler : ∀ failure w' host', mid failure w' host' → Observed o (handler failure) w' host' good bad) :
    Observed o (tryCatch operation handler) w host good bad := by
  intro s hs
  refine Ends.tryCatch (h s hs) ?_
  intro failure middle hmiddle
  obtain ⟨w', hwatched, hmid⟩ := hmiddle
  refine (hhandler failure w' middle.host hmid middle rfl).mono ?_ ?_
  · intro a after hafter
    obtain ⟨w'', hwatched', hpost⟩ := hafter
    exact ⟨w'', hwatched.trans hwatched', hpost⟩
  · intro failure' after hafter
    obtain ⟨w'', hwatched', hpost⟩ := hafter
    exact ⟨w'', hwatched.trans hwatched', hpost⟩

theorem within {text : String}
    (h : Observed o operation w host good fun failure => bad (.context text failure)) :
    Observed o (within text operation) w host good bad :=
  tryCatch h fun _ _ _ hbad => throw hbad

theorem check {failure : Option Failure} {good : Unit → σ → Host → Prop}
    (hgood : failure = none → good () w host) (hbad : ∀ cause, failure = some cause → bad cause w host) :
    Observed o (check failure : SessionM ω Unit) w host good bad := by
  cases failure with
  | none => exact pure (hgood rfl)
  | some cause => exact throw (hbad cause rfl)

variable [Link ω]

theorem withTimeout {ms : Int} (hset : o.Admits w (host.timeoutEntry ms))
    (h : Observed o operation (o.follow w (host.timeoutEntry ms)) { host with timeout := ms }
      (fun a w' host' => o.Admits w' (host'.timeoutEntry host.timeout) ∧
        good a (o.follow w' (host'.timeoutEntry host.timeout)) { host' with timeout := host.timeout })
      (fun failure w' host' => o.Admits w' (host'.timeoutEntry host.timeout) ∧
        bad failure (o.follow w' (host'.timeoutEntry host.timeout)) { host' with timeout := host.timeout })) :
    Observed o (withTimeout ms operation) w host good bad := by
  intro s hs
  subst hs
  have hstart : Watched o s w (setTimeout ms s).2 _ := .push rfl hset
  refine Ends.withTimeout ((h (setTimeout ms s).2 rfl).mono ?_ ?_)
  · intro a after hafter
    obtain ⟨w', hwatched, hadmits, hpost⟩ := hafter
    exact ⟨_, (hstart.trans hwatched).trans (.push rfl hadmits), hpost⟩
  · intro failure after hafter
    obtain ⟨w', hwatched, hadmits, hpost⟩ := hafter
    exact ⟨_, (hstart.trans hwatched).trans (.push rfl hadmits), hpost⟩

theorem transmit (change : Host → Host) {bytes : List UInt8}
    (hadmits : ∀ failure, o.Admits w ⟨host, change host, .wrote bytes failure⟩)
    (hbad : ∀ failure, bad failure (o.follow w ⟨host, change host, .wrote bytes (some failure)⟩)
      (change host)) :
    Observed o (transmit change bytes : SessionM ω Unit) w host
      (fun _ w' host' => w' = o.follow w ⟨host, change host, .wrote bytes none⟩ ∧
        host' = change host) bad := by
  intro s hs
  subst hs
  have hwatched : Watched o s w ⟨(Link.write bytes s.link).2, change s.host,
      s.journal.push ⟨s.host, change s.host, .wrote bytes (Link.write bytes s.link).1⟩⟩
        (o.follow w ⟨s.host, change s.host, .wrote bytes (Link.write bytes s.link).1⟩) :=
        .push rfl (hadmits _)
  refine Ends.step (Link.write bytes s.link).1 _ rfl ?_
  cases hfailure : (Link.write bytes s.link).1 with
  | none => exact Ends.pure ⟨_, hfailure ▸ hwatched, rfl, rfl⟩
  | some failure => exact Ends.throw ⟨_, hfailure ▸ hwatched, hbad failure⟩

theorem receive (limit : Nat) (hadmits : ∀ reading, o.Admits w ⟨host, host, .read limit reading⟩)
    (hbad : ∀ bytes failure, bad failure (o.follow w ⟨host, host, .read limit ⟨bytes, some failure⟩⟩) host) :
    Observed o (receive limit : SessionM ω (List UInt8)) w host
      (fun bytes w' host' => w' = o.follow w ⟨host, host, .read limit ⟨bytes, none⟩⟩ ∧ host' = host) bad := by
  refine bind (lift (.read limit hadmits)) ?_
  intro reading w' host' hread
  obtain ⟨bytes, failure⟩ := reading
  obtain ⟨rfl, rfl⟩ := hread
  cases failure with
  | none => exact pure ⟨rfl, rfl⟩
  | some failure => exact throw (hbad bytes failure)

theorem receiveByte (hadmits : ∀ reading, o.Admits w ⟨host, host, .read 1 reading⟩)
    (hbad : ∀ bytes failure, bad failure (o.follow w ⟨host, host, .read 1 ⟨bytes, some failure⟩⟩) host) :
    Observed o (receiveByte : SessionM ω (Option UInt8)) w host
      (fun byte w' host' => ∃ bytes, (∀ b, byte = some b ↔ bytes = [b]) ∧
        w' = o.follow w ⟨host, host, .read 1 ⟨bytes, none⟩⟩ ∧ host' = host) bad := by
  refine bind (receive 1 hadmits hbad) ?_
  intro bytes w' host' hread
  split
  · next b => exact pure ⟨[b], by simp, hread⟩
  · next hbytes =>
    refine pure ⟨bytes, fun b => ?_, hread⟩
    simpa using hbytes b

/-- One byte is read. The operation fails on everything but the byte it insists on. -/
theorem expect {name : String} {want : UInt8} (hadmits : ∀ reading, o.Admits w ⟨host, host, .read 1 reading⟩)
    (hbad : ∀ failure reading, reading ≠ ⟨[want], none⟩ →
      bad failure (o.follow w ⟨host, host, .read 1 reading⟩) host) :
    Observed o (expect name want : SessionM ω Unit) w host
      (fun _ w' host' => w' = o.follow w ⟨host, host, .read 1 ⟨[want], none⟩⟩ ∧ host' = host) bad := by
  refine bind (receiveByte hadmits fun bytes failure => hbad failure _ (by simp)) ?_
  intro byte w' host' hread
  obtain ⟨bytes, hbyte, rfl, rfl⟩ := hread
  cases byte with
  | none => exact throw (hbad _ _ (by simp [← hbyte]))
  | some b =>
    obtain rfl := (hbyte b).mp rfl
    by_cases hb : b = want
    · simp only [hb, if_true]
      exact pure ⟨rfl, rfl⟩
    · simp only [hb, if_false]
      exact throw (hbad _ _ (by simp [hb]))

end Observed

end Session

end Bootflash
