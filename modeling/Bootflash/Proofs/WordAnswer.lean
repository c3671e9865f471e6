import Bootflash.Proofs.ScriptedLink

namespace Bootflash.Session

/-- What is made of the byte behind the fillers. -/
def highVerdict (last : Option UInt8) : Except Failure Unit :=
  if last = some ack then .ok () else .error (.command "writeHigh" last.toList)

/-- The low byte is sent, and this is heard. -/
def lowCalls (low : UInt8) (heard : Option UInt8) : List Event :=
  [.wrote [Opcode.loadLow.byte, low] none, hearing heard]

/-- The low byte is acknowledged, the high byte is sent, and so many fillers are heard before the
last byte. -/
def wordCalls (low high : UInt8) (fillers : Nat) (last : Option UInt8) : List Event :=
  lowCalls low (some ack) ++ .wrote [Opcode.loadHigh.byte, high] none ::
    (List.replicate fillers (hearing (some filler)) ++ [hearing last])

/-- Every stream begins with fillers, of which at most `limit` are counted, and goes on with anything else. -/
theorem exists_fillers (limit : Nat) (bytes : List UInt8) :
    ∃ k ≤ limit, ∃ tail, bytes = List.replicate k filler ++ tail ∧
      (tail.head? = some filler → k = limit) := by
  induction limit generalizing bytes with
  | zero => exact ⟨0, Nat.le_refl 0, bytes, rfl, fun _ => rfl⟩
  | succ limit ih =>
    cases bytes with
    | nil => exact ⟨0, Nat.zero_le _, [], rfl, fun h => by cases h⟩
    | cons b bytes =>
      by_cases hb : b = filler
      · obtain ⟨k, hk, tail, rfl, hlast⟩ := ih bytes
        exact ⟨k + 1, by omega, tail, by rw [hb]; rfl, fun h => by rw [hlast h]⟩
      · exact ⟨0, Nat.zero_le _, b :: bytes, rfl, fun h => absurd (Option.some.inj h) hb⟩

section

variable {host : Host}

/-- The fillers are passed over, and the byte behind them decides. A filler decides only when it is
one too many. -/
theorem plays_awaitHighByte {k limit : Nat} {tail : List UInt8} (hk : k ≤ limit)
    (hlast : tail.head? = some filler → k = limit) :
    Plays (awaitHighByte (limit + 1)) (.stream (List.replicate k filler ++ tail)) host
      (highVerdict tail.head?)
      (List.replicate k (hearing (some filler)) ++ [hearing tail.head?]) (.stream tail.tail) host := by
  -- The induction is on the fillers, each of which costs one read.
  induction k generalizing limit with
  | zero =>
    change Plays _ (.stream tail) _ _ ([hearing tail.head?] ++ []) _ _
    refine Plays.bind (Plays.receiveByte tail host) ?_
    cases hhead : tail.head? with
    | none => exact Plays.throw
    | some b =>
      dsimp only
      split
      · next hack =>
        rw [hack]
        exact Plays.pure
      · next hack =>
        have hverdict : highVerdict (some b) = .error (.command "writeHigh" [b]) :=
          if_neg fun h => hack (Option.some.inj h)
        rw [hverdict]
        split
        · next hfiller =>
          obtain rfl : 0 = limit := hlast (hhead.trans (congrArg some hfiller))
          rw [hfiller]
          exact Plays.throw
        · exact Plays.throw
  | succ k ih =>
    cases limit with
    | zero => omega
    | succ limit =>
      have hfirst := Plays.receiveByte (filler :: (List.replicate k filler ++ tail)) host
      have hrest := ih (Nat.le_of_succ_le_succ hk) fun h => Nat.succ.inj (hlast h)
      change Plays _ _ _ _ ([hearing (some filler)] ++
        (List.replicate k (hearing (some filler)) ++ [hearing tail.head?])) _ _
      exact Plays.bind hfirst hrest

theorem plays_loadWord_of_unacked (low high : UInt8) {bytes : List UInt8} (h : bytes.head? ≠ some ack) :
    Plays (loadWord low high) (.stream bytes) host (.error (.command "writeLow" bytes.head?.toList))
      (lowCalls low bytes.head?) (.stream bytes.tail) host.forget :=
  Plays.bind_error
    (Plays.bind (Plays.transmit Host.forget _) (Plays.awaitAck_of_unacked "writeLow" host.forget h))

theorem plays_loadWord_of_acked (low high : UInt8) {k : Nat} {tail : List UInt8} (hk : k ≤ 4)
    (hlast : tail.head? = some filler → k = 4) :
    Plays (loadWord low high) (.stream (ack :: (List.replicate k filler ++ tail))) host
      (highVerdict tail.head?) (wordCalls low high k tail.head?) (.stream tail.tail) host.forget :=
  Plays.bind (Plays.bind (Plays.transmit Host.forget _) (Plays.awaitAck_of_acked "writeLow" _ host.forget))
    (Plays.bind (Plays.transmit id _) (plays_awaitHighByte hk hlast))

end

/-- Of every stream, so much is heard of the answer to a word and no more. -/
theorem plays_loadWord (low high : UInt8) (bytes : List UInt8) (host : Host) :
    (bytes.head? ≠ some ack ∧
      Plays (loadWord low high) (.stream bytes) host
        (.error (.command "writeLow" bytes.head?.toList)) (lowCalls low bytes.head?)
        (.stream bytes.tail) host.forget) ∨
    ∃ k ≤ 4, ∃ tail, bytes = ack :: (List.replicate k filler ++ tail) ∧ (tail.head? = some filler → k = 4) ∧
      Plays (loadWord low high) (.stream bytes) host (highVerdict tail.head?)
        (wordCalls low high k tail.head?) (.stream tail.tail) host.forget := by
  by_cases hack : bytes.head? = some ack
  · obtain ⟨rest, rfl⟩ := List.head?_eq_some_iff.mp hack
    obtain ⟨k, hk, tail, rfl, hlast⟩ := exists_fillers 4 rest
    exact .inr ⟨k, hk, tail, rfl, hlast, plays_loadWord_of_acked low high hk hlast⟩
  · exact .inl ⟨hack, plays_loadWord_of_unacked low high hack⟩

theorem highVerdict_eq_ok_iff {last : Option UInt8} : highVerdict last = .ok () ↔ last = some ack := by
  unfold highVerdict
  split <;> simp [*]

theorem highVerdict_eq_error_iff {last : Option UInt8} {failure : Failure} :
    highVerdict last = .error failure ↔ last ≠ some ack ∧ failure = .command "writeHigh" last.toList := by
  unfold highVerdict
  split <;> simp [*, eq_comm]

theorem head?_toList_append_tail (bytes : List UInt8) : bytes.head?.toList ++ bytes.tail = bytes := by
  cases bytes <;> rfl

/-- However the answer goes on, at most six bytes of it are heard, and the rest is left. -/
theorem exists_heard (low high : UInt8) (bytes : List UInt8) (host : Host) :
    ∃ heard rest result calls, bytes = heard ++ rest ∧ heard.length ≤ 6 ∧
      Plays (loadWord low high) (.stream bytes) host result calls (.stream rest) host.forget := by
  have hone (bytes : List UInt8) : bytes.head?.toList.length ≤ 1 := by cases bytes <;> simp
  obtain ⟨-, hplays⟩ | ⟨k, hk, tail, hbytes, -, hplays⟩ := plays_loadWord low high bytes host
  · have hfirst := hone bytes
    exact ⟨bytes.head?.toList, bytes.tail, _, _, (head?_toList_append_tail bytes).symm, by omega, hplays⟩
  · have hlast := hone tail
    refine ⟨ack :: (List.replicate k filler ++ tail.head?.toList), tail.tail, _, _, ?_, ?_, hplays⟩
    · rw [hbytes, List.cons_append, List.append_assoc, head?_toList_append_tail]
    · rw [List.length_cons, List.length_append, List.length_replicate]
      omega

/-- On a stream, a word is loaded just if the stream begins with an acknowledgement, up to four
fillers and another acknowledgement. Then these are what was read, and both bytes were sent.
Otherwise the first byte that does not fit is named in the failure, or none if the stream ended
there; the high byte is not sent before the low one is acknowledged. Never are more than six bytes
read, and the pointer is not known afterwards. -/
theorem loadWord_accepts_acked (low high : UInt8) (bytes : List UInt8) (host : Host) (journal : Journal) :
    let s : Session Script := ⟨.stream bytes, host, journal⟩
    let loaded := (loadWord low high).run s
    (loaded.1 = .ok () ↔ ∃ k ≤ 4, ∃ rest, bytes = ack :: (List.replicate k filler ++ ack :: rest)) ∧
    (∀ k ≤ 4, ∀ rest, bytes = ack :: (List.replicate k filler ++ ack :: rest) →
      Played s loaded.2 (wordCalls low high k (some ack)) (.stream rest) host.forget) ∧
    (∀ failure, loaded.1 = .error failure →
      (bytes.head? ≠ some ack ∧ failure = .command "writeLow" bytes.head?.toList ∧
        Played s loaded.2 (lowCalls low bytes.head?) (.stream bytes.tail) host.forget) ∨
      ∃ k ≤ 4, ∃ tail, bytes = ack :: (List.replicate k filler ++ tail) ∧ tail.head? ≠ some ack ∧
        (tail.head? = some filler → k = 4) ∧ failure = .command "writeHigh" tail.head?.toList ∧
        Played s loaded.2 (wordCalls low high k tail.head?) (.stream tail.tail) host.forget) ∧
    (∃ heard rest, bytes = heard ++ rest ∧ heard.length ≤ 6 ∧ loaded.2.link = .stream rest) ∧
    loaded.2.host.pointer? = none := by
  intro s loaded
  have hacked : ∀ k ≤ 4, ∀ rest, bytes = ack :: (List.replicate k filler ++ ack :: rest) →
      loaded.1 = .ok () ∧ Played s loaded.2 (wordCalls low high k (some ack)) (.stream rest) host.forget := by
    rintro k hk rest rfl
    have hlast : (ack :: rest).head? = some filler → k = 4 := fun h => absurd (Option.some.inj h) (by decide)
    exact plays_loadWord_of_acked low high hk hlast s rfl rfl
  obtain ⟨heard, rest, _, _, hheard, hsix, hplays⟩ := exists_heard low high bytes host
  have hleft := (hplays s rfl rfl).2
  refine ⟨⟨fun hok => ?_, fun ⟨k, hk, rest, hbytes⟩ => (hacked k hk rest hbytes).1⟩,
    fun k hk rest hbytes => (hacked k hk rest hbytes).2, fun failure hfailure =>
    ?_, ⟨heard, rest, hheard, hsix, hleft.link⟩, by rw [hleft.host, Host.pointer?_forget]⟩
  · obtain ⟨-, hplays⟩ | ⟨k, hk, tail, hbytes, -, hplays⟩ := plays_loadWord low high bytes host
    · exact absurd ((hplays s rfl rfl).1.symm.trans hok) (by simp)
    · have hverdict := highVerdict_eq_ok_iff.mp ((hplays s rfl rfl).1.symm.trans hok)
      obtain ⟨rest, rfl⟩ := List.head?_eq_some_iff.mp hverdict
      exact ⟨k, hk, rest, hbytes⟩
  · obtain ⟨hhead, hplays⟩ | ⟨k, hk, tail, hbytes, hlast, hplays⟩ := plays_loadWord low high bytes host
    · obtain ⟨hresult, hplayed⟩ := hplays s rfl rfl
      exact .inl ⟨hhead, (Except.error.inj (hresult.symm.trans hfailure)).symm, hplayed⟩
    · obtain ⟨hresult, hplayed⟩ := hplays s rfl rfl
      obtain ⟨hne, hcommand⟩ := highVerdict_eq_error_iff.mp (hresult.symm.trans hfailure)
      exact .inr ⟨k, hk, tail, hbytes, hne, hlast, hcommand, hplayed⟩

/-- Four fillers are passed over and the byte behind the acknowledgement stays; a fifth is one too many. -/
theorem loadWord_accepts_acked_four_fillers :
    ((loadWord 1 2).run ⟨Script.stream [13, 63, 63, 63, 63, 13, 7], .initial, .empty⟩).1 = .ok () ∧
      ((loadWord 1 2).run ⟨Script.stream [13, 63, 63, 63, 63, 13, 7], .initial, .empty⟩).2.link =
        .stream [7] ∧
      ((loadWord 1 2).run ⟨Script.stream [13, 63, 63, 63, 63, 63, 13], .initial, .empty⟩).1 ≠ .ok () := by
  obtain ⟨haccepts, hplayed, -⟩ := loadWord_accepts_acked 1 2 [13, 63, 63, 63, 63, 13, 7] .initial .empty
  obtain ⟨hrefuses, -⟩ := loadWord_accepts_acked 1 2 [13, 63, 63, 63, 63, 63, 13] .initial .empty
  refine ⟨haccepts.mpr ⟨4, by decide, [7], rfl⟩, (hplayed 4 (by decide) [7] rfl).link, fun hok => ?_⟩
  obtain ⟨k, hk, rest, hbytes⟩ := hrefuses.mp hok
  have hcases : k = 0 ∨ k = 1 ∨ k = 2 ∨ k = 3 ∨ k = 4 := by omega
  rcases hcases with rfl | rfl | rfl | rfl | rfl <;> simp [ack, filler, List.replicate_succ] at hbytes

end Bootflash.Session
