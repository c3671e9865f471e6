import Bootflash.Bench
import Bootflash.Proofs.FaultyWire
import Bootflash.Proofs.Moves

namespace Bootflash

/-- What can be asked of a chip. -/
inductive Errand where
  | connect
  | close
  | identify
  | fuses
  | program (payload : Image)

/-- The errand, apart from what it returns. -/
def Errand.perform {ω : Type} [Station ω] : Errand → StateM (Microcontroller ω) Unit
  | connect => do let _ ← Microcontroller.connect
  | close => do let _ ← Microcontroller.close
  | identify => do let _ ← Microcontroller.identify
  | fuses => do let _ ← Microcontroller.fuses
  | program payload => do let _ ← Microcontroller.program payload

/-- The chip after some errands, each of which may have failed. -/
def Microcontroller.performAll {ω : Type} [Station ω] (errands : List Errand)
    (mcu : Microcontroller ω) : Microcontroller ω :=
  errands.foldl (fun mcu errand => (errand.perform mcu).2) mcu

/-- What becomes of a link. -/
inductive LinkTurn where
  | opened
  | closed
deriving DecidableEq, Repr

/-- What the event says about a link as a whole. -/
def Event.linkTurn? : Event → Option LinkTurn
  | opened => some .opened
  | closed _ => some .closed
  | _ => none

/-- When links were opened and closed, in order. -/
def linkTurns (entries : List Entry) : List LinkTurn :=
  entries.filterMap fun entry => entry.event.linkTurn?

@[simp]
theorem linkTurns_append (entries later : List Entry) :
    linkTurns (entries ++ later) = linkTurns entries ++ linkTurns later :=
  List.filterMap_append

/-- So many links, each opened and then closed before the next one is opened. -/
def closedInTurn (count : Nat) : List LinkTurn :=
  (List.replicate count [.opened, .closed]).flatten

theorem closedInTurn_succ (count : Nat) : closedInTurn (count + 1) = closedInTurn count ++
    [.opened, .closed] := by
  simp [closedInTurn, List.replicate_succ']

namespace Session

variable {ω : Type}

/-- Between two states of a session, no link was opened or closed. -/
def OnOneLink (s s' : Session ω) : Prop :=
  linkTurns s'.journal.toList = linkTurns s.journal.toList

theorem OnOneLink.of_push {s s' : Session ω} {entry : Entry} (hjournal : s'.journal = s.journal.push entry)
    (hentry : entry.event.linkTurn? = none) : OnOneLink s s' := by
  have hturns : linkTurns [entry] = [] := List.filterMap_cons_none hentry
  rw [OnOneLink, hjournal, Journal.toList_push, linkTurns_append, hturns, List.append_nil]

variable [Link ω] {allowed : List Excursion} {s s' : Session ω}

/-- A session on a link that was just opened. -/
def onOpened (link : ω) (journal : Journal) : Session ω :=
  (setTimeout responseTimeout ⟨link, .initial, journal.push ⟨.initial, .initial, .opened⟩⟩).2

theorem linkTurns_onOpened (link : ω) (journal : Journal) :
    linkTurns (onOpened link journal).journal.toList = linkTurns journal.toList ++ [.opened] := by
  have hset : OnOneLink ⟨link, .initial, journal.push ⟨.initial, .initial, .opened⟩⟩
      (onOpened link journal) := .of_push rfl rfl
  rw [hset, Journal.toList_push, linkTurns_append]
  rfl

theorem Move.onOneLink (h : Move s s') : OnOneLink s s' := by
  cases h with
  | write bytes => exact .of_push rfl rfl
  | read limit => exact .of_push rfl rfl
  | @remark event haside =>
    refine .of_push rfl ?_
    cases event with
    | noted | progressed | attempt | recovery => rfl
    | _ => cases haside
  | believe _ => rfl

/-- Whatever a session does, it stays on its link. -/
theorem Course.onOneLink (h : Course allowed s s') : OnOneLink s s' := by
  refine h.keeps (fun _ => rfl) (fun h h' => h'.trans h) Move.onOneLink ?_
  intro ms s
  exact .of_push rfl rfl

/-- The link is closed, and the journal says so, even if that fails. -/
theorem failureOf_close (s : Session ω) : Yields (failureOf close) s fun _ after =>
    linkTurns after.journal.toList = linkTurns s.journal.toList ++ [.closed] := by
  let closed : Session ω :=
    ⟨(Link.close s.link).2, s.host, s.journal.push ⟨s.host, s.host, .closed (Link.close s.link).1⟩⟩
  have hafter : ∀ after, Course [] closed after →
      linkTurns after.journal.toList = linkTurns s.journal.toList ++ [.closed] := by
    intro after hcourse
    rw [hcourse.onOneLink, Journal.toList_push, linkTurns_append]
    rfl
  have hcheck : Takes [] (check (Link.close s.link).1 : SessionM ω Unit) := .check _
  exact Yields.failureOf (Ends.step _ closed rfl ((hcheck closed).mono (fun _ => hafter) fun _ => hafter))

end Session

namespace Microcontroller

variable {ω α β : Type}

/-- There is no session, and every link has been closed. -/
structure Unlinked (mcu : Microcontroller ω) : Prop where
  session : mcu.session = none
  turns : ∃ count, linkTurns mcu.journal.toList = closedInTurn count

/-- There is no session, every link has been closed, and the reset pin has been given back. -/
structure Shut (mcu : Microcontroller ω) : Prop extends Unlinked mcu where
  resetPin : mcu.resetPin = none

/-- There is a session, on the only link that has not been closed. -/
structure Linked (mcu : Microcontroller ω) (host : Host) : Prop where
  session : mcu.session = some host
  turns : ∃ count, linkTurns mcu.journal.toList = closedInTurn count ++ [.opened]

theorem Unlinked.isOpen_eq {mcu : Microcontroller ω} (h : mcu.Unlinked) : mcu.isOpen = false := by
  rw [isOpen, h.session]
  rfl

theorem Linked.isOpen_eq {mcu : Microcontroller ω} {host : Host}
    (h : mcu.Linked host) : mcu.isOpen = true := by
  rw [isOpen, h.session]
  rfl

/-- Done to `mcu`, the act gives a value and a chip that satisfy `post`. -/
def ActYields (act : StateM (Microcontroller ω) α) (mcu : Microcontroller ω)
    (post : α → Microcontroller ω → Prop) : Prop :=
  post (act mcu).1 (act mcu).2

namespace ActYields

variable {mcu : Microcontroller ω} {post : α → Microcontroller ω → Prop}

theorem bind {act : StateM (Microcontroller ω) β} {next : β → StateM (Microcontroller ω) α}
    {mid : β → Microcontroller ω → Prop} (h : ActYields act mcu mid)
    (hnext : ∀ b after, mid b after → ActYields (next b) after post) :
    ActYields (act >>= next) mcu post :=
  hnext _ _ h

theorem get {next : Microcontroller ω → StateM (Microcontroller ω) α} (h : ActYields (next mcu) mcu post) :
    ActYields (MonadState.get >>= next) mcu post :=
  h

theorem alter {change : Microcontroller ω → Microcontroller ω} {next : PUnit → StateM (Microcontroller ω) α}
    (h : ActYields (next ()) (change mcu) post) : ActYields (modify change >>= next) mcu post :=
  h

/-- What is done at the station changes nothing else. -/
theorem atStation (act : ω → α × ω) : ActYields (atStation act) mcu fun _ after =>
    ∃ station, after = { mcu with station } :=
  ⟨_, rfl⟩

/-- What is done in a session, and where that leaves the session. -/
theorem inSession {host : Host} {step : StateM (Session ω) α} {post : α → Session ω → Prop}
    (h : Session.Yields step ⟨mcu.station, host, mcu.journal⟩ post) :
    ActYields (inSession host step) mcu fun a after => ∃ s, post a s ∧
      after = { mcu with station := s.link, session := some s.host, journal := s.journal } :=
  ⟨_, h, rfl⟩

theorem withReset (act : Nat → ω → ω) : ActYields (withReset act) mcu fun _ after =>
    ∃ station, after = { mcu with station } := by
  refine get ?_
  split
  · exact ⟨mcu.station, rfl⟩
  · exact atStation _

/-- A link that was opened is in the journal. -/
theorem openBy (act : ω → Option Failure × ω) : ActYields (openBy act) mcu fun failure after =>
    ∃ station, after =
      { mcu with
        station
        journal :=
          if failure.isSome then mcu.journal
          else mcu.journal.push ⟨.initial, .initial, .opened⟩ } := by
  refine bind (atStation act) ?_
  rintro (- | failure) after ⟨station, rfl⟩
  · exact ⟨station, rfl⟩
  · exact ⟨station, rfl⟩

end ActYields

variable [Station ω]

/-- The discovery is what looking for a bootloader returned in the session that is open, which has
gone on from there ever since. -/
def Discovered (mcu : Microcontroller ω) (host : Host) (discovery : Discovery) : Prop :=
  ∃ link journal found, Session.discover.run (Session.onOpened link journal) = (.ok discovery, found) ∧
    Session.Course [.erase, .drain] found ⟨mcu.station, host, mcu.journal⟩

/-- There is a session, on the only link that has not been closed, and it is known what the
bootloader answered there. -/
structure Connected (mcu : Microcontroller ω) (host : Host) : Prop extends Linked mcu host where
  discovered : ∃ discovery, mcu.discovery = some discovery ∧ mcu.Discovered host discovery

/-- How an attempt to connect leaves a chip. -/
def ConnectLeaves (outcome : Except Failure Host) (mcu : Microcontroller ω) : Prop :=
  match outcome with
  | .ok host => mcu.Connected host
  | .error _ => mcu.Shut

namespace ActYields

variable {mcu : Microcontroller ω} {host : Host}

theorem claimReset (h : mcu.Shut) :
    ActYields claimReset mcu fun failure after =>
      after.Unlinked ∧ (failure.isSome → after.resetPin = none) := by
  refine get ?_
  split
  · exact ⟨h.toUnlinked, fun _ => h.resetPin⟩
  · refine bind (atStation _) ?_
    rintro (- | failure) after ⟨station, rfl⟩
    · exact ⟨⟨h.session, h.turns⟩, fun hfailed => (Bool.false_ne_true hfailed).elim⟩
    · exact ⟨⟨h.session, h.turns⟩, fun _ => h.resetPin⟩

theorem releaseReset (h : mcu.Unlinked) : ActYields releaseReset mcu fun _ after => after.Shut := by
  refine bind (withReset _) ?_
  rintro - after ⟨station, rfl⟩
  exact ⟨⟨h.session, h.turns⟩, rfl⟩

theorem openLink : ActYields openLink mcu fun failure after =>
    ∃ station, after =
      { mcu with
        station
        journal :=
          if failure.isSome then mcu.journal
          else mcu.journal.push ⟨.initial, .initial, .opened⟩ } := by
  refine get ?_
  change ActYields (if mcu.config.bridgeUrl = "" then _ else _) mcu _
  split
  · exact openBy _
  · exact openBy _

/-- The end of closing a chip, once its link is closed. -/
theorem forget {failure : Option Failure} (h : ∃ count, linkTurns mcu.journal.toList = closedInTurn count) :
    ActYields (do
      modify fun mcu => { mcu with session := none }
      Microcontroller.releaseReset
      return failure) mcu fun _ after => after.Shut := by
  have hunlinked : Unlinked { mcu with session := none } := ⟨rfl, h⟩
  exact alter (bind (releaseReset hunlinked) fun _ _ hafter => hafter)

theorem close_unlinked (h : mcu.Unlinked) : ActYields close mcu fun _ after => after.Shut := by
  refine get ?_
  rw [h.session]
  exact forget h.turns

theorem close_linked (h : mcu.Linked host) : ActYields close mcu fun _ after => after.Shut := by
  obtain ⟨count, hturns⟩ := h.turns
  refine get ?_
  rw [h.session]
  refine bind (inSession (Session.failureOf_close _)) ?_
  rintro failure after ⟨s, hclosed, rfl⟩
  refine forget ⟨count + 1, ?_⟩
  rw [closedInTurn_succ]
  rw [hturns] at hclosed
  simpa using hclosed

theorem identifyBootloader {before : Microcontroller ω} {link : ω} (h : before.Unlinked)
    (hopened :
      mcu = { before with station := link, journal := before.journal.push ⟨.initial, .initial, .opened⟩ }) :
    ActYields identifyBootloader mcu ConnectLeaves := by
  obtain ⟨count, hturns⟩ := h.turns
  have hdiscover : Session.Yields (do
      Session.setTimeout Session.responseTimeout
      let outcome ← Session.discover.run
      return (outcome, ← Session.host?)) ⟨mcu.station, .initial, mcu.journal⟩ fun answer s =>
        Session.discover.run (Session.onOpened link before.journal) = (answer.1, s) ∧ answer.2 = s.host := by
    subst hopened
    exact ⟨rfl, rfl⟩
  refine bind (inSession hdiscover) ?_
  rintro ⟨outcome, host⟩ after ⟨s, ⟨hrun, rfl⟩, rfl⟩
  have hcourse : Session.Course [.sync] (Session.onOpened link before.journal) s := by
    have htakes := Session.TakesStep.run (.of_routine (.discover (List.mem_singleton_self _)))
      (Session.onOpened link before.journal)
    rw [Session.Yields, hrun] at htakes
    exact htakes
  have hlinked : linkTurns s.journal.toList = closedInTurn count ++ [.opened] := by
    rw [hcourse.onOneLink, Session.linkTurns_onOpened, hturns]
  cases outcome with
  | ok discovery => exact ⟨⟨rfl, count, hlinked⟩, discovery, rfl, link, before.journal, s, hrun, .refl _⟩
  | error failure =>
    have hforgotten :
        Linked { mcu with station := s.link, session := some s.host, discovery := none, journal := s.journal } s.host :=
      ⟨rfl, count, hlinked⟩
    exact alter (bind (close_linked hforgotten) fun _ _ hshut => hshut)

theorem connect (h : mcu.Shut) : ActYields connect mcu ConnectLeaves := by
  refine get ?_
  rw [h.session]
  refine bind (claimReset h) ?_
  rintro (- | failure) claimed ⟨hclaimed, hpin⟩
  · refine bind (withReset _) ?_
    rintro - reset ⟨station, rfl⟩
    refine bind openLink ?_
    rintro (- | failure) opened ⟨link, rfl⟩
    · exact identifyBootloader hclaimed rfl
    · have hunlinked : Unlinked { claimed with station := link } := ⟨hclaimed.session, hclaimed.turns⟩
      exact bind (releaseReset hunlinked) fun _ _ hafter => hafter
  · exact ⟨hclaimed, hpin rfl⟩

end ActYields

/-- The act gives a value of some kind, and leaves a chip open or shut as it found it. -/
structure KeepsConnection (act : StateM (Microcontroller ω) α) (good : α → Prop) : Prop where
  shut : ∀ {mcu : Microcontroller ω}, mcu.Shut → ActYields act mcu fun a after => good a ∧ after.Shut
  connected : ∀ {mcu : Microcontroller ω} {host : Host}, mcu.Connected host →
    ActYields act mcu fun a after => good a ∧ ∃ host', after.Connected host'

/-- A session goes on from where the chip was. -/
theorem Connected.course {mcu : Microcontroller ω} {host : Host} {s : Session ω} (h : mcu.Connected host)
    (hcourse : Session.Course [.erase, .drain] ⟨mcu.station, host, mcu.journal⟩ s) :
    Connected { mcu with station := s.link, session := some s.host, journal := s.journal } s.host := by
  obtain ⟨count, hturns⟩ := h.turns
  obtain ⟨discovery, hknown, link, journal, found, hrun, hsince⟩ := h.discovered
  exact ⟨⟨rfl, count, hcourse.onOneLink.trans hturns⟩, discovery, hknown, link, journal, found,
    hrun, hsince.trans hcourse⟩

namespace KeepsConnection

/-- What keeps an open chip open keeps a shut one shut if it is opened for it. -/
theorem whileOpen {act : Host → StateM (Microcontroller ω) α} {otherwise : Failure → α} {good : α → Prop}
    (hact : ∀ {mcu : Microcontroller ω} {host : Host}, mcu.Connected host →
      ActYields (act host) mcu fun a after => good a ∧ ∃ host', after.Connected host')
    (hotherwise : ∀ failure, good (otherwise failure)) : KeepsConnection (whileOpen act otherwise) good := by
  refine ⟨?_, ?_⟩
  · intro mcu hshut
    refine ActYields.get ?_
    rw [hshut.session]
    refine ActYields.bind (ActYields.connect hshut) ?_
    rintro (failure | host) after hafter
    · exact ⟨hotherwise failure, hafter⟩
    · refine ActYields.bind (hact hafter) ?_
      rintro a after ⟨hgood, host', hconnected⟩
      refine ActYields.bind (ActYields.close_linked hconnected.toLinked) ?_
      rintro - after hclosed
      exact ⟨hgood, hclosed⟩
  · intro mcu host hconnected
    refine ActYields.get ?_
    rw [hconnected.session]
    exact hact hconnected

/-- The same for what happens in the session alone. -/
theorem whileInSession {step : StateM (Session ω) α} {otherwise : Failure → α}
    (hstep : Session.TakesStep [.erase, .drain] step) :
    KeepsConnection (Microcontroller.whileOpen (fun host => inSession host step) otherwise)
      fun _ => True := by
  refine whileOpen ?_ fun _ => trivial
  intro mcu host hconnected
  obtain ⟨s, hcourse, hafter⟩ := ActYields.inSession (hstep ⟨mcu.station, host, mcu.journal⟩)
  exact ⟨trivial, s.host, hafter ▸ hconnected.course hcourse⟩

theorem identify : KeepsConnection (identify : StateM (Microcontroller ω) _) fun _ => True := by
  have hanswer : KeepsConnection
    (Microcontroller.whileOpen (fun _ => do return .ok (← MonadState.get).discovery) .error :
      StateM (Microcontroller ω) (Except Failure (Option Discovery))) fun _ => True :=
    whileOpen (fun hconnected => ⟨trivial, _, hconnected⟩) fun _ => trivial
  refine ⟨?_, ?_⟩
  · intro mcu hshut
    refine ActYields.get ?_
    split
    · exact ⟨trivial, hshut⟩
    · exact hanswer.shut hshut
  · intro mcu host hconnected
    refine ActYields.get ?_
    split
    · exact ⟨trivial, host, hconnected⟩
    · exact hanswer.connected hconnected

theorem fuses : KeepsConnection (fuses : StateM (Microcontroller ω) _) fun _ => True := by
  refine whileInSession (.andThen (.of_routine (.readFuse trivial)) ?_)
  rintro (failure | low)
  · exact .pure _
  · refine .andThen (.of_routine (.readFuse trivial)) ?_
    rintro (failure | high)
    · exact .pure _
    · exact .pure _

theorem programAs {payload : Image} {selected : UInt8} {mcu : Microcontroller ω} {host : Host}
    (h : mcu.Connected host) :
    ActYields (programAs payload selected host) mcu fun _ after => ∃ host', after.Connected host' := by
  unfold Microcontroller.programAs
  cases Device.lookup selected with
  | error failure => exact ⟨host, h⟩
  | ok device =>
    change ActYields (if payload.length32 > device.geometry.flashSize then _ else _) mcu _
    split
    · exact ⟨host, h⟩
    · have hcycle : Session.TakesStep [.erase, .drain]
          (Session.programChip (payload.pad device.geometry.flashSize.toNat)
          device.id ⟨mcu.config.maxRetries⟩ : StateM (Session ω) Pass) := .programChip (by simp)
            (by simp) _ _ _
      obtain ⟨s, hcourse, hafter⟩ := ActYields.inSession (hcycle ⟨mcu.station, host, mcu.journal⟩)
      exact ⟨s.host, hafter ▸ h.course hcourse⟩

/-- A payload is never programmed without an answer. -/
theorem program (payload : Image) :
    KeepsConnection (program payload : StateM (Microcontroller ω) _) fun pass => pass.isSome := by
  refine whileOpen ?_ fun _ => rfl
  intro mcu host hconnected
  obtain ⟨discovery, hknown, -⟩ := hconnected.discovered
  refine ActYields.get ?_
  rw [hknown]
  refine ActYields.bind (programAs hconnected) ?_
  rintro pass after hafter
  exact ⟨rfl, hafter⟩

end KeepsConnection

/-- Between errands, a chip is shut or connected. -/
def ShutOrConnected (mcu : Microcontroller ω) : Prop :=
  mcu.Shut ∨ ∃ host, mcu.Connected host

namespace ShutOrConnected

variable {mcu : Microcontroller ω}

theorem new (config : Config) (station : ω) : (new config station).ShutOrConnected :=
  .inl ⟨⟨rfl, 0, rfl⟩, rfl⟩

theorem keep {act : StateM (Microcontroller ω) α} {good : α → Prop} (h : mcu.ShutOrConnected)
    (hkeeps : KeepsConnection act good) :
    ActYields act mcu fun _ after => after.ShutOrConnected := by
  rcases h with hshut | ⟨host, hconnected⟩
  · exact .inl (hkeeps.shut hshut).2
  · exact .inr (hkeeps.connected hconnected).2

theorem connect (h : mcu.ShutOrConnected) : ActYields connect mcu fun _ after => after.ShutOrConnected := by
  rcases h with hshut | ⟨host, hconnected⟩
  · have hsettled := ActYields.connect hshut
    rw [ActYields] at hsettled ⊢
    generalize Microcontroller.connect mcu = outcome at hsettled ⊢
    obtain ⟨failure | host, after⟩ := outcome
    · exact .inl hsettled
    · exact .inr ⟨host, hsettled⟩
  · refine ActYields.get ?_
    rw [hconnected.session]
    exact .inr ⟨host, hconnected⟩

theorem close (h : mcu.ShutOrConnected) : ActYields close mcu fun _ after => after.ShutOrConnected := by
  rcases h with hshut | ⟨host, hconnected⟩
  · exact .inl (ActYields.close_unlinked hshut.toUnlinked)
  · exact .inl (ActYields.close_linked hconnected.toLinked)

theorem perform (errand : Errand) (h : mcu.ShutOrConnected) : (errand.perform mcu).2.ShutOrConnected := by
  cases errand with
  | connect => exact h.connect
  | close => exact h.close
  | identify => exact (h.keep KeepsConnection.identify :)
  | fuses => exact (h.keep KeepsConnection.fuses :)
  | program payload => exact (h.keep (KeepsConnection.program payload) :)

theorem performAll (errands : List Errand) (h : mcu.ShutOrConnected) :
    (performAll errands mcu).ShutOrConnected := by
  induction errands generalizing mcu with
  | nil => exact h
  | cons errand rest ih => exact ih (h.perform errand)

end ShutOrConnected

/-- What holds of a chip between errands. -/
structure InOrder (mcu : Microcontroller ω) : Prop where
  /-- With a session there is the answer that the bootloader gave in that very session. -/
  discovered : ∀ host, mcu.session = some host → ∃ discovery, mcu.discovery = some discovery ∧
    mcu.Discovered host discovery
  /-- Without a session the reset pin is not claimed. -/
  released : mcu.session = none → mcu.resetPin = none
  /-- Every link that was opened has been closed once, before another one was opened. Only the link
  of the session has not. -/
  turns : ∃ count, linkTurns mcu.journal.toList = closedInTurn count ++ if mcu.isOpen then [.opened] else []
  /-- Identifying the bootloader leaves the chip open if it was, and shut if it was. -/
  identify_isOpen : (identify mcu).2.isOpen = mcu.isOpen
  /-- So does reading the fuses. -/
  fuses_isOpen : (fuses mcu).2.isOpen = mcu.isOpen
  /-- So does programming a payload, which never fails for want of a discovery. -/
  program_isOpen : ∀ payload, (program payload mcu).1.isSome ∧ (program payload mcu).2.isOpen = mcu.isOpen

/-- An act that leaves a chip as it found it gives a value of its kind, and the chip is open
afterwards if it was before. -/
theorem KeepsConnection.isOpen_eq {act : StateM (Microcontroller ω) α} {good : α → Prop}
    {mcu : Microcontroller ω} (h : KeepsConnection act good) (hstate : mcu.ShutOrConnected) :
    good (act mcu).1 ∧ (act mcu).2.isOpen = mcu.isOpen := by
  rcases hstate with hshut | ⟨host, hconnected⟩
  · obtain ⟨hgood, hafter⟩ := h.shut hshut
    exact ⟨hgood, hafter.isOpen_eq.trans hshut.isOpen_eq.symm⟩
  · obtain ⟨hgood, host', hafter⟩ := h.connected hconnected
    exact ⟨hgood, hafter.isOpen_eq.trans hconnected.isOpen_eq.symm⟩

-- Reading the fuses of a chip that was closed opens a link of its own.
example :
    let firmware : Firmware := { Firmware.tiny [] with board := [65, 86, 82, 66, 79, 79, 84] }
    let bench : Bench :=
      ⟨.serial Config.defaultTty (.unopened (.start firmware (.filled 8 erased))), ⟨[]⟩, []⟩
    let mcu := performAll [.connect, .identify, .close, .fuses, .connect] (new .empty bench)
    mcu.isOpen = true ∧ linkTurns mcu.journal.toList = closedInTurn 2 ++ [.opened] := by
  decide +kernel

end Microcontroller

end Bootflash
