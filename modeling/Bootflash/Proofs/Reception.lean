import Bootflash.Link.Line
import Bootflash.Link.Reception

namespace Bootflash.Reception

open ReceiveQueue (capacity)

variable {r r' : Reception}

/-- What can become of a queue and its two sides in one turn. -/
inductive Follows (r : Reception) : Reception → Prop
  | push (b : UInt8) (running : r.ended = none) (room : r.queue.bytes.length < capacity) :
    Follows r { r with queue := { r.queue with bytes := r.queue.bytes ++ [b] }, pushed := r.pushed ++ [b] }
  | fail (failure : Failure) (running : r.ended = none) :
    Follows r { r with queue := r.queue.fail failure, ended := some failure }
  | call (limit : Nat) (idle : r.current = none) : Follows r { r with current := some (.start limit) }
  | expire {read : OpenRead} (current : r.current = some read) :
    Follows r { r with current := some { read with expired := true } }
  | takeByte {read : OpenRead} {b : UInt8} {rest : List UInt8} (current : r.current = some read)
    (calm : read.seized = none) (short : read.collected.length < read.limit)
    (bytes : r.queue.bytes = b :: rest) :
    Follows r { r with
      queue := { r.queue with bytes := rest }
      current := some { read with collected := read.collected ++ [b] } }
  | takeFailure {read : OpenRead} {failure : Failure} (current : r.current = some read)
    (calm : read.seized = none) (short : read.collected.length < read.limit)
    (failed : r.queue.failure = some failure) :
    Follows r
      { r with queue := { r.queue with failure := none }, current := some { read with seized := some failure } }
  | putBack {read : OpenRead} {failure : Failure} (current : r.current = some read)
    (seized : read.seized = some failure) :
    Follows r (close read (some failure) { r with queue := r.queue.fail failure })
  | giveUp {read : OpenRead} (current : r.current = some read) (calm : read.seized = none)
    (short : read.collected.length < read.limit) (expired : read.expired) : Follows r (close read none r)
  | finish {read : OpenRead} (current : r.current = some read) (calm : read.seized = none)
    (full : read.collected.length = read.limit) : Follows r (close read none r)

theorem waiting?_eq_some_iff {read : OpenRead} : r.waiting? = some read ↔
    r.current = some read ∧ read.seized = none ∧ read.collected.length < read.limit := by
  simp [waiting?, OpenRead.wantsMore, Option.filter_eq_some_iff]

theorem seized?_of_current {read : OpenRead} (h : r.current = some read) : r.seized? = read.seized := by
  rw [seized?, h, Option.bind_some]

theorem collected_of_current {read : OpenRead} (h : r.current = some read) :
    r.collected = read.collected := by
  rw [collected, h, Option.elim_some]

theorem follows_of_step {turn : Turn} (h : r.step turn = some r') : Follows r r' := by
  cases turn with
  | push b =>
    simp only [step, ReceiveQueue.offer_singleton] at h
    split at h
    · next queue hrunning hoffer =>
      split at hoffer
      · next hroom =>
        cases hoffer
        cases h
        exact .push b hrunning hroom
      · cases hoffer
    · cases h
  | fail failure =>
    simp only [step] at h
    split at h
    · next hrunning =>
      cases h
      exact .fail failure hrunning
    · cases h
  | call limit =>
    simp only [step] at h
    split at h
    · next hidle =>
      cases h
      exact .call limit hidle
    · cases h
  | expire =>
    simp only [step] at h
    split at h
    · next read hcurrent =>
      cases h
      exact .expire hcurrent
    · cases h
  | takeByte =>
    simp only [step] at h
    split at h
    · next read b rest hwaiting hbytes =>
      obtain ⟨hcurrent, hcalm, hshort⟩ := waiting?_eq_some_iff.mp hwaiting
      cases h
      exact .takeByte hcurrent hcalm hshort hbytes
    · cases h
  | takeFailure =>
    simp only [step] at h
    split at h
    · next read failure hwaiting hfailed =>
      obtain ⟨hcurrent, hcalm, hshort⟩ := waiting?_eq_some_iff.mp hwaiting
      cases h
      exact .takeFailure hcurrent hcalm hshort hfailed
    · cases h
  | putBack =>
    simp only [step] at h
    split at h
    · next read failure hcurrent hseized =>
      rw [seized?_of_current hcurrent] at hseized
      cases h
      exact .putBack hcurrent hseized
    · cases h
  | giveUp =>
    simp only [step] at h
    split at h
    · next read hwaiting =>
      obtain ⟨hcurrent, hcalm, hshort⟩ := waiting?_eq_some_iff.mp hwaiting
      split at h
      · next hexpired =>
        cases h
        exact .giveUp hcurrent hcalm hshort hexpired
      · cases h
    · cases h
  | finish =>
    simp only [step] at h
    split at h
    · next read hcurrent =>
      split at h
      · next hfull =>
        cases h
        exact .finish hcurrent hfull.1 hfull.2
      · cases h
    · cases h

/-- What is true of a read that has returned, if the loop has ended with the recorded failure. -/
structure Proper (recorded : Option Failure) (read : ClosedRead) : Prop where
  /-- It returned no more than it was asked for. -/
  within : read.reading.bytes.length ≤ read.limit
  /-- It returned less only if its timeout had passed or with a failure. -/
  short : read.reading.bytes.length < read.limit → read.expired = true ∨ read.reading.failure.isSome
  /-- It returned no failure but the recorded one. -/
  blamed : ∀ failure, read.reading.failure = some failure → recorded = some failure

theorem Proper.record {read : ClosedRead} (h : Proper none read) (recorded : Option Failure) :
    Proper recorded read := by
  refine ⟨h.within, h.short, ?_⟩
  intro failure hfailure
  cases h.blamed failure hfailure

/-- A read that returned nothing, although it was asked for something. -/
theorem Proper.of_nothing {failure : Failure} {read : ClosedRead} (h : Proper (some failure) read)
    (hlimit : 0 < read.limit) (hbytes : read.reading.bytes = []) :
    read.reading = ⟨[], none⟩ ∧ read.expired = true ∨ read.reading = ⟨[], some failure⟩ := by
  have hshort : read.expired = true ∨ read.reading.failure.isSome := by
    apply h.short
    rw [hbytes]
    exact hlimit
  obtain ⟨limit, expired, bytes, blame⟩ := read
  obtain rfl : bytes = [] := hbytes
  cases blame with
  | none =>
    rcases hshort with hexpired | hnone
    · exact .inl ⟨rfl, hexpired⟩
    · cases hnone
  | some blame =>
    cases h.blamed blame rfl
    exact .inr rfl

/-- What is true of a queue and its two sides whatever they do. -/
structure Faithful (r : Reception) : Prop where
  /-- What the reads returned, what the current one has collected and what is in the queue is what
  was put in. -/
  conserved : r.delivered ++ r.collected ++ r.queue.bytes = r.pushed
  room : r.queue.bytes.length ≤ capacity
  /-- The failure that ended the loop is in the queue, unless the reader is about to put it back. -/
  recorded : r.seized? = none → r.queue.failure = r.ended
  seized : ∀ failure, r.seized? = some failure → r.queue.failure = none ∧ r.ended = some failure
  current : ∀ read, r.current = some read → read.collected.length ≤ read.limit
  returned : ∀ read ∈ r.returned, Proper r.ended read

namespace Faithful

theorem start : start.Faithful where
  conserved := rfl
  room := Nat.zero_le _
  recorded _ := rfl
  seized _ h := by cases h
  current _ h := by cases h
  returned _ h := by cases h

/-- A read that returns, with the failure back in the queue. -/
theorem close {read : OpenRead} {failure : Option Failure} {queue : ReceiveQueue} (h : r.Faithful)
    (hcurrent : r.current = some read) (hbytes : queue.bytes = r.queue.bytes)
    (hrecorded : queue.failure = r.ended)
    (hproper : Proper r.ended ⟨read.limit, read.expired, ⟨read.collected, failure⟩⟩) :
    (close read failure { r with queue }).Faithful where
  conserved := by
    have hconserved := h.conserved
    rw [collected, hcurrent] at hconserved
    simpa [delivered, collected, Reception.close, hbytes] using hconserved
  room := by
    change queue.bytes.length ≤ capacity
    rw [hbytes]
    exact h.room
  recorded _ := hrecorded
  seized _ hseized := by cases hseized
  current _ hnone := by cases hnone
  returned := by
    intro read' hmem
    rcases List.mem_append.mp hmem with hmem | hlast
    · exact h.returned read' hmem
    · rw [List.mem_singleton.mp hlast]
      exact hproper

theorem follow (h : r.Faithful) (hfollows : Follows r r') : r'.Faithful := by
  cases hfollows with
  | push b hrunning hroom =>
    refine ⟨?_, ?_, h.recorded, h.seized, h.current, h.returned⟩
    · change r.delivered ++ r.collected ++ (r.queue.bytes ++ [b]) = r.pushed ++ [b]
      rw [← List.append_assoc, h.conserved]
    · change (r.queue.bytes ++ [b]).length ≤ capacity
      rw [List.length_append]
      exact hroom
  | fail failure hrunning =>
    have hcalm : r.seized? = none := by
      cases hseized : r.seized? with
      | none => rfl
      | some seized =>
        rw [(h.seized seized hseized).2] at hrunning
        cases hrunning
    refine ⟨h.conserved, h.room, ?_, ?_, h.current, ?_⟩
    · intro _
      change r.queue.failure.or (some failure) = some failure
      rw [h.recorded hcalm, hrunning]
      rfl
    · intro seized hseized
      cases hcalm.symm.trans hseized
    · intro read hmem
      exact (hrunning ▸ h.returned read hmem).record _
  | call limit hidle =>
    have hcalm : r.seized? = none := by rw [seized?, hidle, Option.bind_none]
    refine ⟨?_, h.room, fun _ => h.recorded hcalm, ?_, ?_, h.returned⟩
    · have hconserved := h.conserved
      rw [collected, hidle] at hconserved
      exact hconserved
    · intro failure hseized
      cases hseized
    · rintro _ ⟨⟩
      exact Nat.zero_le _
  | @expire read hcurrent =>
    have hseized := seized?_of_current hcurrent
    refine ⟨?_, h.room, ?_, ?_, ?_, h.returned⟩
    · rw [← h.conserved, collected_of_current hcurrent]
      rfl
    · intro hcalm
      exact h.recorded (hseized.trans hcalm)
    · intro failure hheld
      exact h.seized failure (hseized.trans hheld)
    · rintro _ ⟨⟩
      exact h.current read hcurrent
  | @takeByte read b rest hcurrent hcalm hshort hbytes =>
    refine ⟨?_, ?_, ?_, ?_, ?_, h.returned⟩
    · have hconserved := h.conserved
      rw [collected_of_current hcurrent, hbytes] at hconserved
      change r.delivered ++ (read.collected ++ [b]) ++ rest = r.pushed
      simpa using hconserved
    · have hroom := h.room
      rw [hbytes, List.length_cons] at hroom
      exact Nat.le_of_succ_le hroom
    · intro _
      exact h.recorded ((seized?_of_current hcurrent).trans hcalm)
    · intro failure hseized
      cases hcalm.symm.trans hseized
    · rintro _ ⟨⟩
      rw [List.length_append]
      exact hshort
  | @takeFailure read failure hcurrent hcalm hshort hfailed =>
    have hended : r.ended = some failure := by
      rw [← h.recorded ((seized?_of_current hcurrent).trans hcalm), hfailed]
    refine ⟨?_, h.room, ?_, ?_, ?_, h.returned⟩
    · rw [← h.conserved, collected_of_current hcurrent]
      rfl
    · intro hnone
      cases hnone
    · rintro _ ⟨⟩
      exact ⟨rfl, hended⟩
    · rintro _ ⟨⟩
      exact Nat.le_of_lt hshort
  | @putBack read failure hcurrent hseized =>
    obtain ⟨hqueue, hended⟩ := h.seized failure ((seized?_of_current hcurrent).trans hseized)
    refine h.close hcurrent rfl ?_ ⟨h.current read hcurrent, fun _ => .inr rfl, ?_⟩
    · rw [ReceiveQueue.fail, hqueue, hended]
      rfl
    · intro failure' hfailure
      exact hended.trans hfailure
  | @giveUp read hcurrent hcalm hshort hexpired =>
    have hrecorded := h.recorded ((seized?_of_current hcurrent).trans hcalm)
    exact h.close hcurrent rfl hrecorded ⟨h.current read hcurrent, fun _ => .inl hexpired, by simp⟩
  | @finish read hcurrent hcalm hfull =>
    have hrecorded := h.recorded ((seized?_of_current hcurrent).trans hcalm)
    refine h.close hcurrent rfl hrecorded ⟨h.current read hcurrent, ?_, by simp⟩
    intro hshort
    exact absurd hfull (Nat.ne_of_lt hshort)

end Faithful

theorem run_cons (r : Reception) (turn : Turn) (rest : List Turn) :
    r.run (turn :: rest) = (r.step turn).bind fun next => next.run rest :=
  List.foldlM_cons

/-- What every turn keeps, a schedule keeps. -/
theorem run_keeps {P : Reception → Prop} (hstep : ∀ {r r'}, P r → Follows r r' → P r')
    {turns : List Turn} (h : P r) (hrun : r.run turns = some r') : P r' := by
  induction turns generalizing r with
  | nil =>
    cases hrun
    exact h
  | cons turn rest ih =>
    rw [run_cons] at hrun
    obtain ⟨next, hnext, hrest⟩ := Option.bind_eq_some_iff.mp hrun
    exact ih (hstep h (follows_of_step hnext)) hrest

/-- A loop that has ended puts nothing in and does not fail again, and what reads have returned is
not taken back. -/
theorem run_of_ended {failure : Failure} {turns : List Turn} (hended : r.ended = some failure)
    (hrun : r.run turns = some r') :
    r'.ended = some failure ∧ r'.pushed = r.pushed ∧ r.returned <+: r'.returned := by
  have hstep : ∀ {s s' : Reception},
      (s.ended = some failure ∧ s.pushed = r.pushed ∧ r.returned <+: s.returned) →
      Follows s s' → s'.ended = some failure ∧ s'.pushed = r.pushed ∧ r.returned <+: s'.returned := by
    rintro s s' ⟨hended, hpushed, hreturned⟩ hfollows
    cases hfollows with
    | push _ hrunning | fail _ hrunning => cases hrunning.symm.trans hended
    | call | expire | takeByte | takeFailure => exact ⟨hended, hpushed, hreturned⟩
    | putBack | giveUp | finish => exact ⟨hended, hpushed, hreturned.trans (List.prefix_append _ _)⟩
  exact run_keeps hstep ⟨hended, rfl, List.prefix_refl _⟩ hrun

/-- A read waits only while there is nothing to take and its timeout has not passed. -/
theorem Faithful.proceeds {read : OpenRead} (h : r.Faithful) (hcurrent : r.current = some read) :
    (∃ turn, turn.ofRead = true ∧ (r.step turn).isSome) ∨
      read.expired = false ∧ r.queue.bytes = [] ∧ r.queue.failure = none := by
  cases hseized : read.seized with
  | some failure => exact .inl ⟨.putBack, rfl, by simp [step, seized?, hcurrent, hseized]⟩
  | none =>
    rcases Nat.eq_or_lt_of_le (h.current read hcurrent) with hfull | hshort
    · exact .inl ⟨.finish, rfl, by simp [step, hcurrent, hseized, hfull]⟩
    · have hwaiting : r.waiting? = some read := waiting?_eq_some_iff.mpr ⟨hcurrent, hseized, hshort⟩
      cases hbytes : r.queue.bytes with
      | cons b rest => exact .inl ⟨.takeByte, rfl, by simp [step, hwaiting, hbytes]⟩
      | nil =>
        cases hfailed : r.queue.failure with
        | some failure => exact .inl ⟨.takeFailure, rfl, by simp [step, hwaiting, hfailed]⟩
        | none =>
          cases hexpired : read.expired with
          | true => exact .inl ⟨.giveUp, rfl, by simp [step, hwaiting, hexpired]⟩
          | false => exact .inr ⟨rfl, rfl, rfl⟩

/-- Once the loop has ended and its bytes have been read, reads return nothing but its failure. -/
theorem Faithful.drained {failure : Failure} {turns : List Turn} (h : r.Faithful) (h' : r'.Faithful)
    (hended : r.ended = some failure) (hidle : r.current = none) (hempty : r.queue.bytes = [])
    (hrun : r.run turns = some r') :
    ∃ reads, r'.returned = r.returned ++ reads ∧ ∀ read ∈ reads, 0 < read.limit →
      read.reading = ⟨[], none⟩ ∧ read.expired = true ∨ read.reading = ⟨[], some failure⟩ := by
  obtain ⟨hended', hpushed, reads, hreturned⟩ := run_of_ended hended hrun
  refine ⟨reads, hreturned.symm, ?_⟩
  intro read hmem hlimit
  -- All bytes had been returned, and none has come since.
  have hall : r.delivered ++
      ((reads.flatMap fun read => read.reading.bytes) ++ (r'.collected ++ r'.queue.bytes)) =
      r.delivered ++ [] := by
    calc
      _ = r'.delivered ++ r'.collected ++ r'.queue.bytes := by simp [delivered, ← hreturned]
      _ = r.pushed := h'.conserved.trans hpushed
      _ = r.delivered ++ [] := by simpa [collected, hidle, hempty] using h.conserved.symm
  have hnothing := (List.append_eq_nil_iff.mp (List.append_cancel_left hall)).1
  have hproper : Proper (some failure) read := by
    rw [← hended']
    exact h'.returned read (hreturned ▸ List.mem_append_right _ hmem)
  exact hproper.of_nothing hlimit (List.flatMap_eq_nil_iff.mp hnothing read hmem)

theorem run_append (r : Reception) (turns later : List Turn) :
    r.run (turns ++ later) = (r.run turns).bind fun next => next.run later :=
  List.foldlM_append

theorem step_push {b : UInt8} (hrunning : r.ended = none)
    (hroom : r.queue.bytes.length < capacity) : r.step (.push b) =
    some { r with queue := { r.queue with bytes := r.queue.bytes ++ [b] }, pushed := r.pushed ++ [b] } := by
  simp [step, ReceiveQueue.offer_singleton, hrunning, hroom]

/-- Offering some bytes is putting them in one by one for as long as there is room. -/
theorem run_push (r : Reception) {bytes : List UInt8} (hrunning : r.ended = none ∨ bytes = []) :
    r.run ((bytes.take (capacity - r.queue.bytes.length)).map .push) = some { r with
      queue := (r.queue.offer bytes).1
      pushed := r.pushed ++ bytes.take (capacity - r.queue.bytes.length) } := by
  induction bytes generalizing r with
  | nil => simp [run, ReceiveQueue.offer]
  | cons b rest ih =>
    have hended : r.ended = none := hrunning.resolve_right (List.cons_ne_nil _ _)
    rcases Nat.lt_or_ge r.queue.bytes.length capacity with hroom | hfull
    · obtain ⟨room, hsub⟩ : ∃ room, capacity - r.queue.bytes.length = room + 1 :=
        Nat.exists_eq_succ_of_ne_zero (by omega)
      have hsub' : capacity - (r.queue.bytes.length + 1) = room := by omega
      have hrest :=
        ih { r with queue := { r.queue with bytes := r.queue.bytes ++ [b] }, pushed := r.pushed ++ [b] } (.inl hended)
      rw [List.length_append, List.length_singleton, hsub'] at hrest
      rw [hsub, List.take_succ_cons, List.map_cons, run_cons, step_push hended hroom, Option.bind_some, hrest]
      simp [ReceiveQueue.offer, hsub, hsub']
    · have hsub : capacity - r.queue.bytes.length = 0 := Nat.sub_eq_zero_of_le hfull
      simp [run, ReceiveQueue.offer, hsub]

/-- On some schedule, the read under way returns what is read from the queue and from what is in
flight behind it, and the loop puts in just the bytes that have not found room before. -/
def Collects (left : Nat) (collected inFlight : List UInt8) (r : Reception) : Prop :=
  let outcome := ReceiveQueue.read left { r.queue with bytes := r.queue.bytes ++ inFlight }
  ∃ turns expired came still bytes, inFlight = came ++ still ∧ outcome.2 = ⟨bytes ++ still, r.queue.failure⟩ ∧
    r.run turns = some { r with
      queue := ⟨bytes, r.queue.failure⟩
      current := none
      pushed := r.pushed ++ came
      returned := r.returned ++
        [⟨collected.length + left, expired, ⟨collected ++ outcome.1.bytes, outcome.1.failure⟩⟩] }

section Collecting

variable {left : Nat} {collected inFlight : List UInt8}

/-- The state of a read that has collected some bytes and wants some more. -/
def collecting (left : Nat) (collected : List UInt8) : OpenRead :=
  ⟨collected.length + left, collected, false, none⟩

theorem collects_byte {b : UInt8} {rest : List UInt8}
    (hcurrent : r.current = some (collecting (left + 1) collected)) (hbytes : r.queue.bytes = b :: rest)
    (h : Collects left (collected ++ [b]) inFlight { r with
      queue := { r.queue with bytes := rest }, current := some (collecting left (collected ++ [b])) }) :
    Collects (left + 1) collected inFlight r := by
  have hlimit : collected.length + (left + 1) = (collected ++ [b]).length + left := by
    rw [List.length_append, List.length_singleton]
    omega
  have hstep : r.step .takeByte = some { r with
      queue := { r.queue with bytes := rest }, current := some (collecting left (collected ++ [b])) } := by
    simp [step, waiting?, Option.filter, OpenRead.wantsMore, collecting, hcurrent, hbytes,
      Nat.add_assoc, Nat.add_comm 1]
  obtain ⟨turns, expired, came, still, bytes, hinFlight, houtcome, hrun⟩ := h
  refine ⟨.takeByte :: turns, expired, came, still, bytes, hinFlight, ?_, ?_⟩
  · rw [hbytes]
    exact houtcome
  · rw [run_cons, hstep, Option.bind_some, hrun, hbytes, hlimit]
    simp [ReceiveQueue.read]

theorem collects_push {b : UInt8} (hrunning : r.ended = none) (hbytes : r.queue.bytes = [])
    (h : Collects left collected inFlight
      { r with queue := { r.queue with bytes := [b] }, pushed := r.pushed ++ [b] }) :
    Collects left collected (b :: inFlight) r := by
  have hroom : r.queue.bytes.length < capacity := by
    rw [hbytes]
    decide
  obtain ⟨turns, expired, came, still, bytes, hinFlight, houtcome, hrun⟩ := h
  refine ⟨.push b :: turns, expired, b :: came, still, bytes, congrArg _ hinFlight, ?_, ?_⟩
  · rw [hbytes]
    exact houtcome
  · rw [run_cons, step_push hrunning hroom, Option.bind_some, hbytes, List.nil_append, hrun]
    simp

/-- Nothing is left but the failure, if there is one. -/
theorem collects_nothing (hcurrent : r.current = some (collecting (left + 1) collected))
    (hbytes : r.queue.bytes = []) :
    Collects (left + 1) collected [] r := by
  obtain ⟨⟨bytes, failure⟩, current, ended, pushed, returned⟩ := r
  obtain rfl : bytes = [] := hbytes
  obtain rfl : current = some (collecting (left + 1) collected) := hcurrent
  cases failure with
  | none =>
    refine ⟨[.expire, .giveUp], true, [], [], [], rfl, rfl, ?_⟩
    simp [run, step, close, waiting?, Option.filter, OpenRead.wantsMore, collecting, ReceiveQueue.read]
  | some failure =>
    refine ⟨[.takeFailure, .putBack], false, [], [], [], rfl, rfl, ?_⟩
    simp [run, step, close, waiting?, Option.filter, OpenRead.wantsMore, seized?, ReceiveQueue.fail,
      collecting, ReceiveQueue.read]

/-- A read goes on collecting from the queue and then from what is in flight, and takes the failure
or waits for its timeout when there is nothing left. -/
theorem collects (hrunning : r.ended = none ∨ inFlight = [])
    (hcurrent : r.current = some (collecting left collected)) :
    Collects left collected inFlight r := by
  induction left generalizing r inFlight collected with
  | zero =>
    refine ⟨[.finish], false, [], inFlight, r.queue.bytes, rfl, rfl, ?_⟩
    simp [run, step, close, ReceiveQueue.read, collecting, hcurrent]
  | succ left ih =>
    cases hbytes : r.queue.bytes with
    | cons b rest => exact collects_byte hcurrent hbytes (ih hrunning rfl)
    | nil =>
      cases inFlight with
      | nil => exact collects_nothing hcurrent hbytes
      | cons b inFlight =>
        have hended : r.ended = none := hrunning.resolve_right (List.cons_ne_nil _ _)
        exact collects_push hended hbytes (collects_byte hcurrent rfl (ih (.inl hended) rfl))

end Collecting

/-- What a line does for a read is one of the schedules: the reader takes bytes first, then the
failure, and waits for its timeout when there is neither, and the loop puts in what is in flight as
soon as there is room. -/
theorem Faithful.serves (h : r.Faithful) (line : Line) (limit : Nat) (hqueue : r.queue = line.queue)
    (hidle : r.current = none) (hrunning : r.ended = none ∨ line.inFlight = []) :
    ∃ turns expired came, line.inFlight = came ++ (line.read limit).2.inFlight ∧
      r.run turns = some { r with
        queue := (line.read limit).2.queue
        pushed := r.pushed ++ came
        returned := r.returned ++ [⟨limit, expired, (line.read limit).1⟩] } := by
  obtain ⟨device, queue, inFlight⟩ := line
  subst hqueue
  let begun : Reception := { r with current := some (collecting limit []) }
  have hcall : r.step (.call limit) = some begun := by
    simp [step, OpenRead.start, collecting, hidle, begun]
  have hcollects : Collects limit [] inFlight begun := collects hrunning rfl
  obtain ⟨turns, expired, came, still, bytes, hinFlight, houtcome, hrun⟩ := hcollects
  let done : Reception := { r with
    queue := ⟨bytes, r.queue.failure⟩
    pushed := r.pushed ++ came
    returned := r.returned ++ [⟨limit, expired, (Line.read limit ⟨device, r.queue, inFlight⟩).1⟩] }
  have hdone : r.run (.call limit :: turns) = some done := by
    rw [run_cons, hcall, Option.bind_some, hrun]
    simp [begun, done, Line.read, hidle]
  have hroom : bytes.length ≤ capacity := (run_keeps Faithful.follow h hdone).room
  -- What the read has left in flight goes into the queue as far as there is room.
  have hsettled : (Line.read limit ⟨device, r.queue, inFlight⟩).2 =
      Line.settle ⟨device, ⟨[], r.queue.failure⟩, bytes ++ still⟩ := by
    change Line.settle ⟨device, ⟨[], _⟩, _⟩ = _
    rw [houtcome]
  have hstill : done.ended = none ∨ still = [] :=
    hrunning.imp_right fun hnone => (List.append_eq_nil_iff.mp (hinFlight.symm.trans hnone)).2
  refine ⟨.call limit :: turns ++ (still.take (capacity - bytes.length)).map .push, expired,
    came ++ still.take (capacity - bytes.length), ?_, ?_⟩
  · rw [hsettled, hinFlight]
    simp [Line.settle, ReceiveQueue.offer, List.drop_append, List.drop_of_length_le hroom]
  · rw [run_append, hdone, Option.bind_some, run_push done hstill, hsettled]
    simp [Line.settle, ReceiveQueue.offer, List.take_append, List.take_of_length_le hroom, done]

/-- What is true of a queue on every schedule. -/
structure Reliable (r : Reception) : Prop extends Faithful r where
  /-- A read waits only while there is nothing to take and its timeout has not passed. -/
  proceeds : ∀ read, r.current = some read → (∃ turn, turn.ofRead = true ∧ (r.step turn).isSome) ∨
    read.expired = false ∧ r.queue.bytes = [] ∧ r.queue.failure = none
  /-- Once the loop has ended, its failure is in the queue whenever no read is under way. -/
  persists : ∀ failure, r.ended = some failure → ∀ later r', r.run later = some r' → r'.current = none →
    r'.queue.failure = some failure
  /-- Once the loop has ended and the queue is empty, a read that asks for something runs into its
  timeout or returns that failure. -/
  drained : ∀ failure, r.ended = some failure → r.current = none → r.queue.bytes = [] →
    ∀ later r', r.run later = some r' →
    ∃ reads, r'.returned = r.returned ++ reads ∧ ∀ read ∈ reads, 0 < read.limit →
      read.reading = ⟨[], none⟩ ∧ read.expired = true ∨ read.reading = ⟨[], some failure⟩
  /-- What a line does for a read is one of the schedules. -/
  serves : ∀ (line : Line) limit, r.queue = line.queue → r.current = none →
    r.ended = none ∨ line.inFlight = [] →
    ∃ turns expired came, line.inFlight = came ++ (line.read limit).2.inFlight ∧
      r.run turns = some { r with
        queue := (line.read limit).2.queue
        pushed := r.pushed ++ came
        returned := r.returned ++ [⟨limit, expired, (line.read limit).1⟩] }

/-- Whatever the receive loop and the reader do, and whatever a read takes when there are several
things to take: the queue loses, repeats and reorders nothing, holds no more than its capacity and
keeps the failure, and the reads return what they should. -/
theorem run_reliable (turns : List Turn) (r : Reception) (hrun : start.run turns = some r) : r.Reliable := by
  have hfaithful : r.Faithful := run_keeps Faithful.follow .start hrun
  refine ⟨hfaithful, fun _ => hfaithful.proceeds, ?_, ?_, hfaithful.serves⟩
  · intro failure hended later r' hlater hidle
    have hfaithful' : r'.Faithful := run_keeps Faithful.follow hfaithful hlater
    have hcalm : r'.seized? = none := by rw [seized?, hidle, Option.bind_none]
    rw [hfaithful'.recorded hcalm]
    exact (run_of_ended hended hlater).1
  · intro failure hended hidle hempty later r' hlater
    exact hfaithful.drained (run_keeps Faithful.follow hfaithful hlater) hended hidle hempty hlater

/-- A read takes the failure while there is still a byte. It returns what it has, the byte goes to
the next read, and the failure is there for the one after. -/
theorem run_reliable_seized :
    let cut : Failure := .transport "read" .closed
    let turns : List Turn :=
      [.push 1, .push 2, .call 2, .takeByte, .fail cut, .takeFailure, .putBack, .call 1, .takeByte,
      .finish, .call 1, .expire, .takeFailure, .putBack]
    let r : Reception := ⟨⟨[], some cut⟩, none, some cut, [1, 2],
      [⟨2, false, ⟨[1], some cut⟩⟩, ⟨1, false, ⟨[2], none⟩⟩, ⟨1, true, ⟨[], some cut⟩⟩]⟩
    start.run turns = some r ∧ r.Reliable := by
  intro cut turns r
  have hrun : start.run turns = some r := rfl
  exact ⟨hrun, run_reliable turns r hrun⟩

end Bootflash.Reception
