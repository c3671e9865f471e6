import Bootflash.Proofs.ScriptedLink
import Bootflash.Session.Discovery

namespace Bootflash

/-- What was heard spells out a discovery: an identifier of seven bytes, and then a list of devices
with a zero behind it, the last of which is selected. -/
structure Discovery.Spelled (discovery : Discovery) (answer list : List UInt8) : Prop where
  board : discovery.board = answer
  length : answer.length = 7
  devices : discovery.supported ≠ []
  list : list = discovery.supported ++ [0]
  selected : discovery.supported.getLast? = some discovery.selected

namespace Session

/-- How many sync frames a search takes, and the answer it ends with. -/
structure Search where
  frames : Nat
  answer : List UInt8
deriving DecidableEq

/-- A search on a script of chunks, with so many sync frames at most: the first chunk that is not
empty ends it. -/
def search (attempts : Nat) (chunks : List (List UInt8)) : Search :=
  match (List.range attempts).find? fun k => Script.reply chunks 100 k ≠ [] with
  | some k => ⟨k + 1, Script.reply chunks 100 k⟩
  | none => ⟨attempts, []⟩

/-- So many sync frames, each with the read that follows it. -/
def syncCalls (chunks : List (List UInt8)) (frames : Nat) : List Event :=
  (List.range frames).flatMap fun i => [.wrote syncFrame none, .read 100 ⟨Script.reply chunks 100 i, none⟩]

/-- The calls of a search, under a timeout of its own. -/
def searchCalls (chunks : List (List UInt8)) (host : Host) : List Event :=
  .timeoutSet syncTimeout ::
    (syncCalls chunks (search syncAttempts chunks).frames ++ [.timeoutSet host.timeout])

/-- The question for the devices, with the read that follows it. -/
def listCalls (list : List UInt8) : List Event :=
  [.wrote [Opcode.listDevices.byte] none, .read 500 ⟨list, none⟩]

section

variable {chunks : List (List UInt8)} {host : Host}

theorem search_succ_of_answered {attempts : Nat} (h : Script.reply chunks 100 0 ≠ []) :
    search (attempts + 1) chunks = ⟨1, Script.reply chunks 100 0⟩ := by
  simp [search, List.range_succ_eq_map, h]

theorem search_succ_of_unanswered {attempts : Nat} (h : Script.reply chunks 100 0 = []) :
    search (attempts + 1) chunks =
      ⟨(search attempts (chunks.drop 1)).frames + 1, (search attempts (chunks.drop 1)).answer⟩ := by
  have hfirst : decide (Script.reply chunks 100 0 ≠ []) = false := by simp [h]
  have hshift : (fun k => decide (Script.reply chunks 100 k ≠ [])) ∘ Nat.succ =
      fun k => decide (Script.reply (chunks.drop 1) 100 k ≠ []) := by
    funext k
    rw [Script.reply_drop, Nat.add_comm]
    rfl
  simp only [search, List.range_succ_eq_map, List.find?_cons, hfirst, List.find?_map, hshift]
  cases (List.range attempts).find? fun k => decide (Script.reply (chunks.drop 1) 100 k ≠ []) with
  | none => rfl
  | some k =>
    simp only [Option.map_some, Script.reply_drop, Nat.add_comm 1 k]

theorem syncCalls_succ (chunks : List (List UInt8)) (frames : Nat) :
    syncCalls chunks (frames + 1) =
      [.wrote syncFrame none] ++
        ([.read 100 ⟨Script.reply chunks 100 0, none⟩] ++ syncCalls (chunks.drop 1) frames) := by
  simp only [syncCalls, List.range_succ_eq_map, List.flatMap_cons, List.flatMap_map,
    Script.reply_drop, Nat.add_comm 1]
  rfl

/-- Frames are sent until one is answered, and each is followed by one read. -/
theorem plays_awaitBoard (attempts : Nat) (chunks : List (List UInt8)) (host : Host) :
    Plays (awaitBoard attempts) (.chunks chunks) host (.ok (search attempts chunks).answer)
      (syncCalls chunks (search attempts chunks).frames)
        (.chunks (chunks.drop (search attempts chunks).frames)) host := by
  -- The induction is on the frames that are left: a frame that goes unanswered costs the script its
  -- first chunk.
  induction attempts generalizing chunks with
  | zero => exact Plays.pure
  | succ attempts ih =>
    have hread := Plays.receiveChunk 100 chunks 0 host
    unfold awaitBoard
    by_cases hanswer : Script.reply chunks 100 0 = []
    · rw [search_succ_of_unanswered hanswer, syncCalls_succ, Nat.add_comm, ← List.drop_drop]
      refine Plays.bind (Plays.transmit id syncFrame) (Plays.bind hread ?_)
      rw [hanswer]
      exact Plays.bind Plays.note (ih (chunks.drop 1))
    · rw [search_succ_of_answered hanswer, syncCalls_succ]
      refine Plays.bind (Plays.transmit id syncFrame) (Plays.bind hread ?_)
      cases hreply : Script.reply chunks 100 0 with
      | nil => exact absurd hreply hanswer
      | cons first rest => exact Plays.pure

theorem plays_search (chunks : List (List UInt8)) (host : Host) :
    Plays (withTimeout syncTimeout (awaitBoard syncAttempts)) (.chunks chunks) host
      (.ok (search syncAttempts chunks).answer)
      (searchCalls chunks host) (.chunks (chunks.drop (search syncAttempts chunks).frames)) host := by
  let waiting : Host := { host with timeout := syncTimeout }
  change Plays _ _ host _ _ _ { waiting with timeout := host.timeout }
  exact Plays.withTimeout (plays_awaitBoard syncAttempts chunks waiting)

theorem plays_findBoard_of_length (h : (search syncAttempts chunks).answer.length = boardIdLength) :
    Plays findBoard (.chunks chunks) host (.ok (search syncAttempts chunks).answer) (searchCalls chunks host)
      (.chunks (chunks.drop (search syncAttempts chunks).frames)) host := by
  rw [← List.append_nil (searchCalls chunks host)]
  refine Plays.bind (plays_search chunks host) ?_
  rw [if_pos h]
  exact Plays.bind Plays.note Plays.pure

theorem plays_findBoard_of_length_ne (h : (search syncAttempts chunks).answer.length ≠ boardIdLength) :
    Plays findBoard (.chunks chunks) host
      (.error (.context s!"got {(search syncAttempts chunks).answer.length} bytes" .boardNotFound))
        (searchCalls chunks host)
      (.chunks (chunks.drop (search syncAttempts chunks).frames)) host := by
  rw [← List.append_nil (searchCalls chunks host)]
  refine Plays.bind (plays_search chunks host) ?_
  rw [if_neg h]
  exact Plays.throw

theorem plays_supportedDevices_of_ended {n : Nat} {devices : List UInt8}
    (h : Script.reply chunks 500 n = devices ++ [0]) :
    Plays supportedDevices (.chunks (chunks.drop n)) host (.ok devices) (listCalls (devices ++ [0]))
      (.chunks (chunks.drop (n + 1))) host := by
  have hread := Plays.receiveChunk 500 chunks n host
  rw [h] at hread
  refine Plays.bind (Plays.transmit id _) (Plays.bind hread ?_)
  rw [if_pos List.getLast?_concat, List.dropLast_concat]
  exact Plays.bind (Plays.notes .deviceSupported devices) Plays.pure

theorem plays_supportedDevices_of_open {n : Nat} {list : List UInt8} (h : Script.reply chunks 500 n = list)
    (hopen : ¬∃ devices, list = devices ++ [0]) :
    Plays supportedDevices (.chunks (chunks.drop n)) host (.error (.command "listDevices" list))
      (listCalls list) (.chunks (chunks.drop (n + 1))) host := by
  have hread := Plays.receiveChunk 500 chunks n host
  rw [h] at hread
  refine Plays.bind (Plays.transmit id _) (Plays.bind hread ?_)
  rw [if_neg (by rwa [List.getLast?_eq_some_iff])]
  exact Plays.throw

theorem plays_discover_of_length_ne (h : (search syncAttempts chunks).answer.length ≠ boardIdLength) :
    Plays discover (.chunks chunks) host
      (.error (.context s!"got {(search syncAttempts chunks).answer.length} bytes" .boardNotFound))
        (searchCalls chunks host)
      (.chunks (chunks.drop (search syncAttempts chunks).frames)) host :=
  Plays.bind_error (plays_findBoard_of_length_ne h)

section

variable (hboard : (search syncAttempts chunks).answer.length = boardIdLength)

include hboard

theorem plays_discover_of_open {list : List UInt8}
    (hlist : Script.reply chunks 500 (search syncAttempts chunks).frames = list)
    (hopen : ¬∃ devices, list = devices ++ [0]) :
    Plays discover (.chunks chunks) host
      (.error (.context "could not list supported devices" (.command "listDevices" list)))
      (searchCalls chunks host ++ listCalls list)
        (.chunks (chunks.drop ((search syncAttempts chunks).frames + 1))) host :=
  Plays.bind (plays_findBoard_of_length hboard)
    (Plays.bind_error (Plays.within (plays_supportedDevices_of_open hlist hopen)))

theorem plays_discover_of_ended {devices : List UInt8}
    (hlist : Script.reply chunks 500 (search syncAttempts chunks).frames = devices ++ [0]) :
    Plays discover (.chunks chunks) host
      (match devices.getLast? with
        | none => .error (.context "bootloader reported no devices" .unknownDeviceType)
        | some selected => .ok ⟨(search syncAttempts chunks).answer, devices, selected⟩)
      (searchCalls chunks host ++ listCalls (devices ++ [0]))
        (.chunks (chunks.drop ((search syncAttempts chunks).frames + 1)))
      host := by
  rw [← List.append_nil (listCalls (devices ++ [0]))]
  refine Plays.bind (plays_findBoard_of_length hboard)
    (Plays.bind (Plays.within (plays_supportedDevices_of_ended hlist)) ?_)
  cases devices.getLast? with
  | none => exact Plays.throw
  | some selected =>
    dsimp only
    split
    · exact Plays.bind Plays.note Plays.pure
    · exact Plays.pure

end

end

/-- A list with a zero behind it spells out just one discovery, if it names any device. -/
theorem spelled_iff {answer devices : List UInt8} {d : Discovery} (hlength : answer.length = 7) :
    d.Spelled answer (devices ++ [0]) ↔ ∃ selected, devices.getLast? = some selected ∧
      d = ⟨answer, devices, selected⟩ := by
  constructor
  · rintro ⟨hboard, -, hdevices, hlist, hselected⟩
    obtain rfl : devices = d.supported := List.append_cancel_right hlist
    exact ⟨d.selected, hselected, by rw [← hboard]⟩
  · rintro ⟨selected, hselected, rfl⟩
    refine ⟨rfl, hlength, ?_, rfl, hselected⟩
    rintro rfl
    cases hselected

/-- On a script of chunks, the search for a board sends sync frames up to the first that is answered
and takes that answer if it has seven bytes. A discovery is accepted just if the next chunk ends
with a zero and has something before it; otherwise the failure tells a missing end from an empty
list. -/
theorem discover_accepts_spelled (chunks : List (List UInt8)) (host : Host) (journal : Journal) :
    let s : Session Script := ⟨.chunks chunks, host, journal⟩
    let heard := search 3 chunks
    let list := Script.reply chunks 500 heard.frames
    let found := findBoard.run s
    let discovered := discover.run s
    (found.1 = if heard.answer.length = 7 then .ok heard.answer
      else .error (.context s!"got {heard.answer.length} bytes" .boardNotFound)) ∧
    Played s found.2 (searchCalls chunks host) (.chunks (chunks.drop heard.frames)) host ∧
    (∀ d, discovered.1 = .ok d ↔ d.Spelled heard.answer list) ∧
    (∀ failure, found.1 = .error failure → discovered.1 = .error failure ∧
      Played s discovered.2 (searchCalls chunks host) (.chunks (chunks.drop heard.frames)) host) ∧
    (heard.answer.length = 7 →
      Played s discovered.2 (searchCalls chunks host ++ listCalls list)
        (.chunks (chunks.drop (heard.frames + 1))) host ∧
      ((¬∃ devices, list = devices ++ [0]) →
        discovered.1 = .error (.context "could not list supported devices" (.command "listDevices" list))) ∧
      (list = [0] →
        discovered.1 = .error (.context "bootloader reported no devices" .unknownDeviceType))) := by
  intro s heard list found discovered
  by_cases hlength : heard.answer.length = 7
  · obtain ⟨hfound, hsearched⟩ := plays_findBoard_of_length hlength s rfl rfl
    rw [if_pos hlength]
    have hpasses : ∀ failure, found.1 = .error failure → discovered.1 = .error failure ∧
        Played s discovered.2 (searchCalls chunks host) (.chunks (chunks.drop heard.frames)) host := by
      intro failure hfailure
      exact absurd (hfound.symm.trans hfailure) (by simp)
    by_cases hended : ∃ devices, list = devices ++ [0]
    · obtain ⟨devices, hdevices⟩ := hended
      obtain ⟨hdiscovered, hplayed⟩ := plays_discover_of_ended hlength hdevices s rfl rfl
      refine ⟨hfound, hsearched, fun d => ?_, hpasses, fun _ => ⟨hdevices ▸ hplayed, ?_, ?_⟩⟩
      · rw [hdevices, spelled_iff hlength]
        change (discover.run s).1 = _ ↔ _
        rw [hdiscovered]
        cases devices.getLast? with
        | none => simp
        | some selected => simp [eq_comm, heard, syncAttempts]
      · exact fun hopen => absurd ⟨devices, hdevices⟩ hopen
      · intro hnone
        obtain rfl : devices = [] := List.append_cancel_right (hdevices.symm.trans hnone)
        exact hdiscovered
    · obtain ⟨hdiscovered, hplayed⟩ := plays_discover_of_open hlength rfl hended s rfl rfl
      refine ⟨hfound, hsearched, fun d => ⟨fun hok => ?_, fun hspelled => ?_⟩, hpasses,
        fun _ => ⟨hplayed, fun _ => hdiscovered, ?_⟩⟩
      · exact absurd (hdiscovered.symm.trans hok) (by simp)
      · exact absurd ⟨d.supported, hspelled.list⟩ hended
      · exact fun hnone => absurd ⟨[], hnone⟩ hended
  · obtain ⟨hfound, hsearched⟩ := plays_findBoard_of_length_ne hlength s rfl rfl
    obtain ⟨hdiscovered, hplayed⟩ := plays_discover_of_length_ne hlength s rfl rfl
    rw [if_neg hlength]
    refine ⟨hfound, hsearched, fun d => ⟨fun hok => ?_, fun hspelled => ?_⟩,
      fun failure hfailure => ?_, fun h => absurd h hlength⟩
    · exact absurd (hdiscovered.symm.trans hok) (by simp)
    · exact absurd hspelled.length hlength
    · obtain rfl := Except.error.inj (hfound.symm.trans hfailure)
      exact ⟨hdiscovered, hplayed⟩

/-- The first frame goes unanswered, and the list names a device twice, with a zero in between. A
list of nothing but its end is no list. -/
theorem discover_accepts_spelled_second_frame :
    (discover.run ⟨Script.chunks [[], [65, 86, 82, 66, 79, 79, 84], [114, 0, 114, 0]], .initial, .empty⟩).1 =
        .ok ⟨[65, 86, 82, 66, 79, 79, 84], [114, 0, 114], 114⟩ ∧
      (discover.run ⟨Script.chunks [[65, 86, 82, 66, 79, 79, 84], [0]], .initial, .empty⟩).1 =
        .error (.context "bootloader reported no devices" .unknownDeviceType) := by
  obtain ⟨-, -, haccepts, -⟩ :=
    discover_accepts_spelled [[], [65, 86, 82, 66, 79, 79, 84], [114, 0, 114, 0]] .initial .empty
  obtain ⟨-, -, -, -, hrefuses⟩ :=
    discover_accepts_spelled [[65, 86, 82, 66, 79, 79, 84], [0]] .initial .empty
  refine ⟨(haccepts _).mpr ⟨?_, ?_, ?_, ?_, ?_⟩, (hrefuses ?_).2.2 ?_⟩ <;> decide

end Session

end Bootflash
