import Bootflash.Proofs.Outcome

namespace Bootflash

namespace Event

/-- Whether the event is a call to the link that failed. -/
def failed : Event → Bool
  | wrote _ failure => failure.isSome
  | read _ reading => reading.failure.isSome
  | _ => false

/-- Whether the event marks a point of a programming pass. -/
def milestone : Event → Bool
  | progressed _ _ | attempt _ | recovery _ => true
  | _ => false

end Event

/-- The state of a link after the call that an entry records. -/
def Link.follow {ω : Type} [Link ω] (link : ω) (entry : Entry) : ω :=
  match entry.event with
  | .wrote bytes _ => (Link.write bytes link).2
  | .read limit _ => (Link.read limit link).2
  | .timeoutSet ms => Link.setTimeout ms link
  | .closed _ => (Link.close link).2
  | _ => link

namespace Session

variable {ω : Type} [Link ω] {s s' s'' : Session ω} {entries entries' : List Entry}

/-- The session got from the first state to the second while these entries were made. -/
structure Leg (s s' : Session ω) (entries : List Entry) : Prop where
  journal : s'.journal.toList = s.journal.toList ++ entries
  link : s'.link = entries.foldl Link.follow s.link

theorem Leg.refl (s : Session ω) : Leg s s [] :=
  ⟨by simp, rfl⟩

theorem Leg.trans (h : Leg s s' entries) (h' : Leg s' s'' entries') : Leg s s'' (entries ++ entries') := by
  refine ⟨?_, ?_⟩
  · rw [h'.journal, h.journal, List.append_assoc]
  · rw [h'.link, h.link, List.foldl_append]

/-- A leg without milestones. -/
def Quiet (s s' : Session ω) : Prop :=
  ∃ entries, Leg s s' entries ∧ ∀ entry ∈ entries, entry.event.milestone = false

/-- A leg without milestones on which no call failed. -/
def Calm (s s' : Session ω) : Prop :=
  ∃ entries, Leg s s' entries ∧ ∀ entry ∈ entries, entry.event.milestone = false ∧ entry.event.failed = false

/-- A leg without milestones on which a call failed. -/
def Struck (s s' : Session ω) : Prop :=
  ∃ entries, Leg s s' entries ∧ (∀ entry ∈ entries, entry.event.milestone = false) ∧
    ∃ entry ∈ entries, entry.event.failed = true

theorem Calm.quiet (h : Calm s s') : Quiet s s' := by
  obtain ⟨entries, hleg, hcalm⟩ := h
  exact ⟨entries, hleg, fun entry hentry => (hcalm entry hentry).1⟩

theorem Struck.quiet (h : Struck s s') : Quiet s s' := by
  obtain ⟨entries, hleg, hquiet, -⟩ := h
  exact ⟨entries, hleg, hquiet⟩

theorem Calm.refl (s : Session ω) : Calm s s :=
  ⟨[], .refl s, by simp⟩

theorem Calm.trans (h : Calm s s') (h' : Calm s' s'') : Calm s s'' := by
  obtain ⟨entries, hleg, hcalm⟩ := h
  obtain ⟨entries', hleg', hcalm'⟩ := h'
  refine ⟨entries ++ entries', hleg.trans hleg', ?_⟩
  intro entry hentry
  rcases List.mem_append.mp hentry with hentry | hentry
  · exact hcalm entry hentry
  · exact hcalm' entry hentry

theorem Calm.struck (h : Calm s s') (h' : Struck s' s'') : Struck s s'' := by
  obtain ⟨entries, hleg, hcalm⟩ := h
  obtain ⟨entries', hleg', hquiet, entry, hentry, hfailed⟩ := h'
  refine ⟨entries ++ entries', hleg.trans hleg', ?_, entry, List.mem_append_right _ hentry, hfailed⟩
  intro entry hentry
  rcases List.mem_append.mp hentry with hentry | hentry
  · exact (hcalm entry hentry).1
  · exact hquiet entry hentry

/-- Whatever happens after a failing call, it has happened. -/
theorem Struck.andThen (h : Struck s s') (h' : Quiet s' s'') : Struck s s'' := by
  obtain ⟨entries, hleg, hquiet, entry, hentry, hfailed⟩ := h
  obtain ⟨entries', hleg', hquiet'⟩ := h'
  refine ⟨entries ++ entries', hleg.trans hleg', ?_, entry, List.mem_append_left _ hentry, hfailed⟩
  intro entry hentry
  rcases List.mem_append.mp hentry with hentry | hentry
  · exact hquiet entry hentry
  · exact hquiet' entry hentry

theorem Struck.calm (h : Struck s s') (h' : Calm s' s'') : Struck s s'' :=
  h.andThen h'.quiet

/-- One entry makes a leg when the link moved as the entry says. -/
theorem Leg.single {entry : Entry} (hjournal : s'.journal = s.journal.push entry)
    (hlink : s'.link = Link.follow s.link entry) :
    Leg s s' [entry] :=
  ⟨by rw [hjournal, Journal.toList_push], hlink⟩

theorem Leg.calm {entry : Entry} (h : Leg s s' [entry]) (hquiet : entry.event.milestone = false)
    (hfailed : entry.event.failed = false) : Calm s s' :=
  ⟨[entry], h, by simp [hquiet, hfailed]⟩

theorem Leg.struck {entry : Entry} (h : Leg s s' [entry]) (hquiet : entry.event.milestone = false)
    (hfailed : entry.event.failed = true) : Struck s s' :=
  ⟨[entry], h, by simp [hquiet], entry, by simp, hfailed⟩

theorem calm_note (notice : Notice) (s : Session ω) : Calm s (note notice s).2 := by
  have hleg : Leg s (note notice s).2 [⟨s.host, s.host, .noted notice⟩] := .single rfl rfl
  exact hleg.calm rfl rfl

theorem calm_update (change : Host → Host) (s : Session ω) : Calm s (update change s).2 :=
  ⟨[], ⟨(List.append_nil _).symm, rfl⟩, by simp⟩

theorem calm_setTimeout (ms : Int) (s : Session ω) : Calm s (setTimeout ms s).2 := by
  have hleg : Leg s (setTimeout ms s).2 [s.host.timeoutEntry ms] := .single rfl rfl
  exact hleg.calm rfl rfl

end Session

end Bootflash
