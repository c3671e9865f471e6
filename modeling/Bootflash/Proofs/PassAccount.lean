import Bootflash.Proofs.FaultyWire
import Bootflash.Proofs.PassJournal

namespace Bootflash

namespace Watch

variable {w : Watch} {entries : List Entry}

theorem progress_follow (entry : Entry) : (w.follow entry).progress = w.progress ++
    entry.event.report?.toList := by
  obtain ⟨before, host, event⟩ := entry
  cases event with
  | read limit reading =>
    obtain ⟨delivered, hfollow⟩ := w.follow_read before host limit reading
    rw [hfollow]
    simp [Event.report?]
  | noted notice => cases notice <;> simp [follow, Event.report?]
  | _ => simp [follow, wrote, turnTo, Event.report?]

/-- The observer of a pass has all progress reports. -/
theorem progress_foldl : (entries.foldl follow w).progress = w.progress ++ reportsOf entries := by
  induction entries generalizing w with
  | nil => simp [reportsOf]
  | cons entry rest ih =>
    rw [List.foldl_cons, ih, progress_follow, reportsOf, reportsOf, List.append_assoc]
    cases hreport : entry.event.report? <;> simp [hreport]

end Watch

theorem reportsOf_eq_nil {entries : List Entry}
    (h : ∀ entry ∈ entries, entry.event.milestone = false) : reportsOf entries = [] := by
  rw [reportsOf, List.filterMap_eq_nil_iff]
  intro entry hentry
  have hquiet := h entry hentry
  cases hevent : entry.event <;> simp_all [Event.report?, Event.milestone]

/-- The reports of a pass are those for the pages it has dealt with. -/
theorem Placement.EarlierPages.reportsOf_eq {placement : Placement} {n : Nat} {probed : Bool}
    {host : Host} {entries : List Entry}
    (h : placement.EarlierPages n probed (placement.observer.after .start entries) host) :
    reportsOf entries = (List.range n).map fun k => (k + 1, placement.total) := by
  have hprogress : (placement.observer.after .start entries).progress = [] ++ reportsOf entries :=
    Watch.progress_foldl
  rw [h.progress] at hprogress
  exact hprogress.symm

namespace Session

variable {ω : Type} [Link ω]

/-- Once the device is ready, the account of a pass is that of its first `k` pages, for some `k`:
these are reported one after the other and counted, and the pass succeeds just if they are all.
Otherwise the page after them is the one it failed at. At the end of a pass that succeeds both
closing commands are given, and the first failure among them is kept. -/
theorem programRange_accounts (image : Image) (start stop : UInt32) (device : Device)
    (options : Options) (cursor : PageCursor) (s : Session ω)
    (hcursor : PageCursor.spanning start stop device.geometry.flashPageSize = .ok cursor)
    (himage : ¬image.length32 < stop)
    (hbegun : ((beginPass start).run (s.opening start stop device)).1 = .ok ()) :
    let run := programRange image start stop device options s
    let pageSize := device.geometry.flashPageSize
    let total := (stop.toNat - start.toNat) / pageSize.toNat
    ∃ k tally pages closing, k ≤ total ∧
      run.2.journal.toList = s.journal.toList ++ (pages ++ closing) ∧
      reportsOf pages = (List.range k).map (fun i => (i + 1, total)) ∧ reportsOf closing = [] ∧
      run.1.tally? = some tally ∧
      tally.written = (firstPages start pageSize k).countP (fun addr => !isBlank (image.page addr pageSize)) ∧
      tally.skipped = (firstPages start pageSize k).countP (fun addr => isBlank (image.page addr pageSize)) ∧
      (run.1.failure? = none ↔ k = total) ∧
      (k < total → ∃ addr cause, addr.toNat = start.toNat + k * pageSize.toNat ∧
        run.1.failure? = some (.pageWrite addr cause)) ∧
      (k = total → Farewell (callsOf closing) tally.exitFailure) := by
  let heading : Entry := ⟨s.host, s.host, .noted (.programming start stop device.name)⟩
  have hending : Ending _ _ (programRange image start stop device options s).1
      (programRange image start stop device options s).2 := programRange_ending hcursor himage
  generalize programRange image start stop device options s = run at hending
  obtain ⟨pass, after⟩ := run
  dsimp only at hending ⊢
  cases hending with
  | unready hfailed =>
    change (beginPass start).run (s.opening start stop device) = _ at hfailed
    rw [hfailed] at hbegun
    simp at hbegun
  | gaveUp hwatched hgaveUp =>
    obtain ⟨entries, hjournal, -, rfl⟩ := hwatched
    obtain ⟨n, last, probed, cause, hat, rfl, hearlier, hcounted⟩ := hgaveUp.exists_page
    have hlt : n < (stop.toNat - start.toNat) / device.geometry.flashPageSize.toNat := hat.lt
    refine ⟨n, _, heading :: entries, [], Nat.le_of_lt hlt, ?_, hearlier.reportsOf_eq, rfl, rfl,
      hcounted.written,
      hcounted.skipped, ?_, fun _ => ⟨last.current, cause, hat.current, rfl⟩, fun heq =>
        absurd heq (Nat.ne_of_lt hlt)⟩
    · rw [hjournal, toList_journal_opening, List.append_nil, List.append_assoc, List.singleton_append]
    · simp [Pass.failure?, Nat.ne_of_lt hlt]
  | through hpages hrest hmode hearlier hcounted hclosing hfarewell =>
    obtain ⟨entries, hjournal, -, rfl⟩ := hpages
    obtain ⟨closing, hjournal', hquiet, rfl⟩ := hclosing
    rw [callObserver_after, List.nil_append] at hfarewell
    refine ⟨_, _, heading :: entries, closing, Nat.le_refl _, ?_, hearlier.reportsOf_eq,
      reportsOf_eq_nil (callObserver_accepts hquiet), rfl, hcounted.written, hcounted.skipped, ?_,
        ?_, fun _ => hfarewell⟩
    · rw [hjournal', hjournal, toList_journal_opening]
      simp [heading]
    · exact ⟨fun _ => rfl, fun _ => rfl⟩
    · intro hlt
      exact absurd hlt (Nat.lt_irrefl _)

/-- A link that loses the block announced for the first page, and breaks when the indicator is to go out. -/
def stumbling : Session (Faulty Bootloader) :=
  .start (.start (.start (.tiny []) (.filled 8 7))
    [⟨.write, 5, 1, some (.transport "write" (.other "lost")), false, []⟩,
      ⟨.read, 15, 1, some (.other "broken"), false, []⟩])

set_option maxRecDepth 10000 in
theorem programRange_accounts_stumbling :
    let run := programRange (.ofBytes ⟨#[1, 2, 0xff, 0xff, 3, 4]⟩) 0 6 .tiny .none stumbling
    run.1.failure? = none ∧ ∃ tally pages closing,
      run.2.journal.toList = stumbling.journal.toList ++ (pages ++ closing) ∧
      reportsOf pages = [(1, 3), (2, 3), (3, 3)] ∧ reportsOf closing = [] ∧ run.1.tally? = some tally ∧
      tally.written = 2 ∧ tally.skipped = 1 ∧ Farewell (callsOf closing) tally.exitFailure := by
  have hfailure : (programRange (.ofBytes ⟨#[1, 2, 0xff, 0xff, 3, 4]⟩)
      0 6 .tiny .none stumbling).1.failure? = none := by decide +kernel
  obtain ⟨k, tally, pages, closing, -, hjournal, hreports, hclosing, htally, hwritten, hskipped,
      hdone, -, hfarewell⟩ :=
    programRange_accounts (.ofBytes ⟨#[1, 2, 0xff, 0xff, 3, 4]⟩) 0 6 .tiny .none
      ⟨0, 6, 2⟩ stumbling rfl (by decide) rfl
  obtain rfl := hdone.mp hfailure
  exact ⟨hfailure, tally, pages, closing, hjournal, hreports, hclosing, htally, hwritten, hskipped,
    hfarewell rfl⟩

end Session

end Bootflash
