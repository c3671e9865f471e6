import Bootflash.Link.Scripted
import Bootflash.Proofs.PassJournal

namespace Bootflash

namespace Script

/-- What a read is answered with when it takes the chunk with this number. There is nothing after
the last chunk. -/
def reply (chunks : List (List UInt8)) (limit i : Nat) : List UInt8 :=
  (chunks.getD i []).take limit

@[simp]
theorem reply_drop (chunks : List (List UInt8))
    (limit n i : Nat) : reply (chunks.drop n) limit i = reply chunks limit (n + i) := by
  simp [reply, List.getD_eq_getElem?_getD, List.getElem?_drop]

theorem read_chunks (chunks : List (List UInt8)) (limit : Nat) :
    (Script.chunks chunks).read limit = (reply chunks limit 0, .chunks (chunks.drop 1)) := by
  cases chunks <;> simp [Script.read, reply]

end Script

namespace Session

variable {α β : Type} {script rest rest' : Script} {host host' host'' : Host} {calls calls' : List Event}

/-- A read of one byte, and the byte, if there was one. -/
def hearing (b : Option UInt8) : Event :=
  .read 1 ⟨b.toList, none⟩

/-- Between the two states of a session these calls were made, and this is where script and host are now. -/
structure Played (before after : Session Script) (calls : List Event) (rest : Script)
    (host : Host) : Prop where
  link : after.link = rest
  host : after.host = host
  journal : ∃ entries, after.journal.toList = before.journal.toList ++ entries ∧ callsOf entries = calls

/-- In every session with this script and this host the operation has this result, makes these
calls, and leaves the rest of the script. -/
def Plays (operation : SessionM Script α) (script : Script) (host : Host)
    (result : Except Failure α) (calls : List Event) (rest : Script) (host' : Host) : Prop :=
  ∀ s : Session Script, s.link = script → s.host = host →
    Yields operation.run s fun result' after => result' = result ∧ Played s after calls rest host'

theorem Played.of_journal_eq {s after : Session Script} (hlink : after.link = rest)
    (hhost : after.host = host) (hjournal : after.journal = s.journal) : Played s after [] rest host :=
  ⟨hlink, hhost, [], by rw [hjournal, List.append_nil], rfl⟩

theorem Played.push {s after : Session Script} (entry : Entry) (hcalls : callsOf [entry] = calls)
    (hlink : after.link = rest) (hhost : after.host = host)
    (hjournal : after.journal = s.journal.push entry) : Played s after calls rest host :=
  ⟨hlink, hhost, [entry], by rw [hjournal, Journal.toList_push], hcalls⟩

theorem Played.trans {s middle after : Session Script} (h : Played s middle calls rest host)
    (h' : Played middle after calls' rest' host') : Played s after (calls ++ calls') rest' host' := by
  obtain ⟨entries, hjournal, rfl⟩ := h.journal
  obtain ⟨entries', hjournal', rfl⟩ := h'.journal
  exact ⟨h'.link, h'.host, entries ++ entries', by rw [hjournal', hjournal, List.append_assoc],
    callsOf_append⟩

namespace Plays

theorem bind {operation : SessionM Script α} {next : α → SessionM Script β} {a : α}
    {result : Except Failure β} (h : Plays operation script host (.ok a) calls rest host')
    (hnext : Plays (next a) rest host' result calls' rest' host'') :
    Plays (operation >>= next) script host result (calls ++ calls') rest' host'' := by
  intro s hlink hhost
  change Yields (operation.run >>= ExceptT.bindCont next) s _
  refine Yields.bind (h s hlink hhost) ?_
  rintro _ middle ⟨rfl, hmiddle⟩
  refine (hnext middle hmiddle.link hmiddle.host).mono ?_
  rintro result' after ⟨hresult, hafter⟩
  exact ⟨hresult, hmiddle.trans hafter⟩

theorem bind_error {operation : SessionM Script α} {next : α → SessionM Script β} {failure : Failure}
    (h : Plays operation script host (.error failure) calls rest host') :
    Plays (operation >>= next) script host (.error failure) calls rest host' := by
  intro s hlink hhost
  change Yields (operation.run >>= ExceptT.bindCont next) s _
  refine Yields.bind (h s hlink hhost) ?_
  rintro _ middle ⟨rfl, hmiddle⟩
  exact ⟨rfl, hmiddle⟩

theorem pure {a : α} : Plays (Pure.pure a) script host (.ok a) [] script host := by
  intro s hlink hhost
  exact ⟨rfl, .of_journal_eq hlink hhost rfl⟩

theorem throw {failure : Failure} :
    Plays (throw failure : SessionM Script α) script host (.error failure) [] script host := by
  intro s hlink hhost
  exact ⟨rfl, .of_journal_eq hlink hhost rfl⟩

theorem note {notice : Notice} : Plays (lift (note notice)) script host (.ok ()) [] script host := by
  intro s hlink hhost
  exact ⟨rfl, .push ⟨s.host, s.host, .noted notice⟩ rfl hlink hhost rfl⟩

theorem notes {ι : Type} (notice : ι → Notice) (items : List ι) :
    Plays (lift (items.forM fun item => Session.note (notice item))) script host (.ok ()) [] script host := by
  have hsteps : ∀ s : Session Script, Yields (items.forM fun item => Session.note (notice item)) s
      fun _ after => Played s after [] s.link s.host := by
    induction items with
    | nil => exact fun s => .of_journal_eq rfl rfl rfl
    | cons item items ih =>
      intro s
      let noted := (Session.note (notice item) s).2
      have hnoted : Played s noted [] s.link s.host :=
        .push ⟨s.host, s.host, .noted (notice item)⟩ rfl rfl rfl rfl
      refine Yields.step ((ih noted).mono ?_)
      exact fun _ after hafter => hnoted.trans hafter
  intro s hlink hhost
  have h := hsteps s
  rw [hlink, hhost] at h
  exact ⟨rfl, h⟩

theorem transmit (change : Host → Host) (bytes : List UInt8) :
    Plays (transmit change bytes) script host (.ok ()) [.wrote bytes none] script (change host) := by
  intro s hlink hhost
  exact ⟨rfl, .push ⟨s.host, change s.host, .wrote bytes none⟩ rfl hlink (congrArg change hhost) rfl⟩

theorem receive (limit : Nat) (script : Script) (host : Host) :
    Plays (receive limit) script host (.ok (script.read limit).1) [.read limit ⟨(script.read limit).1, none⟩]
      (script.read limit).2 host := by
  rintro s rfl rfl
  exact ⟨rfl, .push ⟨s.host, s.host, .read limit ⟨(s.link.read limit).1, none⟩⟩ rfl rfl rfl rfl⟩

/-- A read takes the next chunk, whatever it needs of it. -/
theorem receiveChunk (limit : Nat) (chunks : List (List UInt8)) (n : Nat) (host : Host) :
    Plays (Session.receive limit) (.chunks (chunks.drop n)) host (.ok (Script.reply chunks limit n))
      [.read limit ⟨Script.reply chunks limit n, none⟩] (.chunks (chunks.drop (n + 1))) host := by
  have h := receive limit (.chunks (chunks.drop n)) host
  rwa [Script.read_chunks, Script.reply_drop, List.drop_drop] at h

/-- The operation runs under another timeout, and the former one is put back however it ends. -/
theorem withTimeout {operation : SessionM Script α} {ms : Int} {result : Except Failure α}
    (h : Plays operation script { host with timeout := ms } result calls rest host') :
    Plays (withTimeout ms operation) script host result
      (.timeoutSet ms :: (calls ++ [.timeoutSet host.timeout])) rest
      { host' with timeout := host.timeout } := by
  rintro s rfl rfl
  let opened := (setTimeout ms s).2
  have hopened : Played s opened [.timeoutSet ms] s.link { s.host with timeout := ms } :=
    .push (s.host.timeoutEntry ms) rfl rfl rfl rfl
  obtain ⟨hresult, hplayed⟩ := h opened rfl rfl
  let closed := (setTimeout s.host.timeout (operation.run opened).2).2
  have hclosed : Played (operation.run opened).2 closed [.timeoutSet s.host.timeout] rest
      { host' with timeout := s.host.timeout } :=
    .push ((operation.run opened).2.host.timeoutEntry s.host.timeout) rfl hplayed.link
      (by rw [← hplayed.host]; rfl) rfl
  exact ⟨hresult, (hopened.trans hplayed).trans hclosed⟩

theorem tryCatch_ok {operation : SessionM Script α} {handler : Failure → SessionM Script α} {a : α}
    (h : Plays operation script host (.ok a) calls rest host') :
    Plays (tryCatch operation handler) script host (.ok a) calls rest host' := by
  intro s hlink hhost
  rw [ExceptT.run_tryCatch]
  refine Yields.bind (h s hlink hhost) ?_
  rintro _ after ⟨rfl, hafter⟩
  exact ⟨rfl, hafter⟩

/-- The handler goes on where the failure left the script. -/
theorem tryCatch_error {operation : SessionM Script α} {handler : Failure → SessionM Script α}
    {failure : Failure} {result : Except Failure α}
    (h : Plays operation script host (.error failure) calls rest host')
    (hhandler : Plays (handler failure) rest host' result calls' rest' host'') :
    Plays (tryCatch operation handler) script host result (calls ++ calls') rest' host'' := by
  intro s hlink hhost
  rw [ExceptT.run_tryCatch]
  refine Yields.bind (h s hlink hhost) ?_
  rintro _ middle ⟨rfl, hmiddle⟩
  refine (hhandler middle hmiddle.link hmiddle.host).mono ?_
  rintro result' after ⟨hresult, hafter⟩
  exact ⟨hresult, hmiddle.trans hafter⟩

theorem within {operation : SessionM Script α} {text : String} {result : Except Failure α}
    (h : Plays operation script host result calls rest host') :
    Plays (within text operation) script host (result.mapError (.context text)) calls rest host' := by
  cases result with
  | ok a => exact tryCatch_ok h
  | error failure =>
    rw [← List.append_nil calls]
    exact tryCatch_error h Plays.throw

/-- One byte is taken from the front of a stream, and none when there is nothing left. -/
theorem receiveByte (bytes : List UInt8) (host : Host) :
    Plays receiveByte (.stream bytes) host (.ok bytes.head?) [hearing bytes.head?]
      (.stream bytes.tail) host := by
  have h := receive 1 (.stream bytes) host
  cases bytes with
  | nil => exact h.bind Plays.pure
  | cons b bytes => exact h.bind Plays.pure

theorem awaitAck_of_acked (name : String) (rest : List UInt8) (host : Host) :
    Plays (awaitAck name) (.stream (ack :: rest)) host (.ok ()) [hearing (some ack)] (.stream rest) host :=
  tryCatch_ok (bind (receiveByte (ack :: rest) host) Plays.pure)

/-- What comes instead of an acknowledgement is used up, and named in the failure. -/
theorem awaitAck_of_unacked (name : String) {bytes : List UInt8} (host : Host) (h : bytes.head? ≠ some ack) :
    Plays (awaitAck name) (.stream bytes) host (.error (.command name bytes.head?.toList))
      [hearing bytes.head?] (.stream bytes.tail) host := by
  have hexpect : Plays (expect name ack) (.stream bytes) host
      (.error (.command name bytes.head?.toList)) [hearing bytes.head?]
      (.stream bytes.tail) host := by
    refine bind (receiveByte bytes host) ?_
    cases hhead : bytes.head? with
    | none => exact Plays.throw
    | some b =>
      have hne : b ≠ ack := fun hb => h (hhead.trans (congrArg some hb))
      dsimp only
      rw [if_neg hne]
      exact Plays.throw
  exact tryCatch_error hexpect (bind Plays.note Plays.throw)

end Plays

end Session

end Bootflash
