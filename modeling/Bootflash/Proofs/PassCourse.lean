import Bootflash.Proofs.Attempt
import Bootflash.Proofs.PassSpeech
import Bootflash.Programming.Retry

namespace Bootflash

/-- The bytes of a page that make up whole words. -/
def wordsOf : List UInt8 → List UInt8
  | low :: high :: rest => low :: high :: wordsOf rest
  | _ => []

/-- How a page goes out in a mode. -/
def Delivery.of (mode : WriteMode) (page : List UInt8) : Delivery :=
  if mode = .slow then .words (wordsOf page) else .block page

/-- The cursor is at a page of the range, the one after `n` others. -/
structure Placement.AtNthPage (placement : Placement) (n : Nat) (cursor : PageCursor) : Prop
    extends placement.toSpan.At n cursor where
  sound : placement.Sound
  lt : n < placement.total

/-- The progress reports for the first `n` pages. -/
def Placement.reports (placement : Placement) (n : Nat) : List (Nat × Nat) :=
  (List.range n).map fun k => (k + 1, placement.total)

namespace Placement

variable {placement : Placement} {n : Nat} {cursor : PageCursor}

theorem AtNthPage.hasPage (h : placement.AtNthPage n cursor) : placement.HasPage cursor.current :=
  h.sound.isPage h.lt h.current

theorem AtNthPage.next (h : placement.AtNthPage n cursor) :
    cursor.next.toNat = placement.start.toNat + (n + 1) * placement.pageSize.toNat :=
  (h.toAt.advance h.sound h.lt).current

theorem AtNthPage.borders (h : placement.AtNthPage n cursor) : placement.Borders cursor.current := by
  obtain ⟨hlow, hhigh, haligned⟩ := h.hasPage
  exact ⟨hlow, UInt32.le_of_lt hhigh, haligned⟩

theorem AtNthPage.borders_next (h : placement.AtNthPage n cursor) : placement.Borders cursor.next := by
  have hle := h.sound.le_stop h.lt
  have hnext := h.next
  rw [Nat.succ_mul] at hnext
  refine ⟨?_, ?_, h.sound.mod_eq_zero h.next⟩
  · rw [UInt32.le_iff_toNat_le]
    omega
  · rw [UInt32.le_iff_toNat_le]
    omega

/-- The pages below the cursor are those dealt with. -/
theorem AtNthPage.mem_firstPages (h : placement.AtNthPage n cursor) {below : UInt32}
    (hbelow : placement.HasPage below) (hlt : below < cursor.current) :
    below ∈ firstPages placement.start placement.pageSize n :=
  (h.sound.mem_firstPages_iff_isPage (Nat.le_of_lt h.lt) h.current).mpr ⟨hbelow.1, hlt, hbelow.2.2⟩

end Placement

namespace Watch

theorem tryMode_of_ne {w : Watch} (h : w.mode ≠ .unknown) : w.tryMode = w.mode :=
  if_neg h

theorem tryMode_ne_unknown (w : Watch) : w.tryMode ≠ .unknown := by
  unfold tryMode
  split
  · simp
  · assumption

end Watch

namespace Placement

variable {placement : Placement} {n : Nat} {cursor : PageCursor} {probed : Bool} {w w' : Watch}
  {host host' : Host}

/-- What is known throughout the work on the page after `n` others: how the earlier ones went out,
and that the mode is not settled for good as long as no block was acknowledged. -/
structure EarlierPages (placement : Placement) (n : Nat) (probed : Bool) (w : Watch)
    (host : Host) : Prop where
  mode : host.mode = w.tryMode
  unsent : probed = false → ∀ delivery ∈ w.delivered, ∀ data, delivery.2 ≠ .block data
  negotiated : probed = false → host.mode = .fast →
    ∀ addr ∈ firstPages placement.start placement.pageSize n, isBlank (placement.page addr) = true
  sent : ∀ addr ∈ firstPages placement.start placement.pageSize n, isBlank (placement.page addr) = false →
    (addr, Delivery.of host.mode (placement.page addr)) ∈ w.delivered
  progress : w.progress = placement.reports n

/-- What is known is still known after further deliveries in the same mode. -/
theorem EarlierPages.grow {probed' : Bool} (h : placement.EarlierPages n probed w host)
    (hmode : w'.mode = w.mode) (hprogress : w'.progress = w.progress) (hhost : host'.mode = host.mode)
    (hdelivered : ∀ delivery ∈ w.delivered, delivery ∈ w'.delivered)
    (hunsent : probed' = false → probed = false ∧
      ∀ delivery ∈ w'.delivered, ∀ data, delivery.2 ≠ .block data) :
    placement.EarlierPages n probed' w' host' where
  mode := by rw [hhost, h.mode, Watch.tryMode, Watch.tryMode, hmode]
  unsent hprobed := (hunsent hprobed).2
  negotiated hprobed hfast := h.negotiated (hunsent hprobed).1 (hhost ▸ hfast)
  sent addr haddr hblank := hhost ▸ hdelivered _ (h.sent addr haddr hblank)
  progress := hprogress.trans h.progress

/-- Nothing that is known depends on what is under way. -/
theorem EarlierPages.same (h : placement.EarlierPages n probed w host) (hmode : w'.mode = w.mode)
    (hprogress : w'.progress = w.progress) (hdelivered : w'.delivered = w.delivered)
    (hhost : host'.mode = host.mode) :
    placement.EarlierPages n probed w' host' := by
  refine h.grow hmode hprogress hhost ?_ ?_
  · intro delivery hdelivery
    rwa [hdelivered]
  · intro hprobed
    rw [hdelivered]
    exact ⟨hprobed, h.unsent hprobed⟩

theorem EarlierPages.words {addr : UInt32} {data : List UInt8}
    (h : placement.EarlierPages n probed w host) (hmode : w'.mode = w.mode)
    (hprogress : w'.progress = w.progress) (hdelivered : w'.delivered = (addr, .words data) :: w.delivered)
    (hhost : host'.mode = host.mode) : placement.EarlierPages n probed w' host' := by
  refine h.grow hmode hprogress hhost ?_ ?_
  · intro delivery hdelivery
    rw [hdelivered]
    exact List.mem_cons_of_mem _ hdelivery
  · intro hprobed
    refine ⟨hprobed, ?_⟩
    intro delivery hdelivery block
    rw [hdelivered] at hdelivery
    rcases List.mem_cons.mp hdelivery with rfl | hdelivery
    · simp
    · exact h.unsent hprobed delivery hdelivery block

/-- A try at the page under the cursor may begin. -/
structure Trying (placement : Placement) (n : Nat) (cursor : PageCursor) (probed : Bool) (w : Watch)
    (host : Host) : Prop extends placement.EarlierPages n probed w host where
  ease : w.AtEase host
  page : w.page = some cursor.current
  loaded : w.loaded = []
  pointer : host.pointer? = some cursor.current

theorem EarlierPages.trying (h : placement.EarlierPages n probed w host)
    (hpointer : host.pointer? = some cursor.current) :
    placement.Trying n cursor probed (w.follow ⟨host, host, .attempt cursor.current⟩) host where
  mode := by
    have hknown : (w.follow ⟨host, host, .attempt cursor.current⟩).mode ≠ .unknown := w.tryMode_ne_unknown
    rw [Watch.tryMode_of_ne hknown]
    exact h.mode
  unsent := h.unsent
  negotiated := h.negotiated
  sent := h.sent
  progress := h.progress
  ease := ⟨rfl, rfl, h.mode⟩
  page := rfl
  loaded := rfl
  pointer := hpointer

/-- The page under the cursor comes after those reported. -/
theorem EarlierPages.working (h : placement.EarlierPages n probed w host) (hat : placement.AtNthPage n cursor)
    (hpage : w.page = some cursor.current) : placement.Working w cursor.current := by
  refine ⟨hpage, hat.hasPage, ?_⟩
  rw [h.progress, reports, List.length_map, List.length_range]
  exact hat.current

theorem Trying.targets (h : placement.Trying n cursor probed w host) (hat : placement.AtNthPage n cursor) :
    placement.Targets w host cursor.current :=
  ⟨h.toEarlierPages.working hat h.page, h.pointer⟩

/-- What one try came to. -/
structure TryObserved {α : Type} (placement : Placement) (n : Nat)
    (Done : α → Bool → Watch → Host → Prop) (attempt : Attempt α) (w : Watch) (host : Host) : Prop where
  earlier : placement.EarlierPages n attempt.probed w host
  mode : host.mode = w.mode
  done : attempt.failure = none → Done attempt.outcome attempt.probed w host

/-- The page under the cursor is dealt with, and the pointer is at the next one. -/
structure Through (placement : Placement) (cursor : PageCursor) (handling : Handling)
    (probed : Bool) (w : Watch) (host : Host) : Prop where
  handling : handling = .of (placement.page cursor.current)
  ease : w.AtEase host
  pointer : host.pointer? = some cursor.next
  negotiated : probed = false → host.mode = .fast → isBlank (placement.page cursor.current) = true
  sent : isBlank (placement.page cursor.current) = false →
    (cursor.current, Delivery.of host.mode (placement.page cursor.current)) ∈ w.delivered

/-- The bootloader refused blocks, and the page under the cursor is to be sent byte by byte. -/
structure ToRedo (placement : Placement) (cursor : PageCursor) (host : Host) : Prop where
  mode : host.mode = .slow
  pointer : host.pointer? = some cursor.current
  written : isBlank (placement.page cursor.current) = false

/-- What a try in the session's mode can come to. -/
def OutcomeObserved (placement : Placement) (cursor : PageCursor) : PageOutcome → Bool → Watch → Host → Prop
  | .settled handling, probed, w, host => placement.Through cursor handling probed w host
  | .redo, _, _, host => placement.ToRedo cursor host

/-- What repeated tries came to. Of the tally they change the number of recoveries only. -/
structure Retrial {α : Type} (placement : Placement) (n : Nat)
    (Done : α → Bool → Watch → Host → Prop) (state : PassState) (retried : Retried α) (w : Watch)
    (host : Host) : Prop where
  earlier : placement.EarlierPages n retried.state.probed w host
  mode : host.mode = w.mode
  tally : ∃ resyncs, retried.state.tally = { state.tally with resyncs }
  done : ∀ outcome, retried.result = .ok outcome → Done outcome retried.state.probed w host

/-- Tries that go on where others left off. -/
theorem Retrial.resume {α : Type} {Done : α → Bool → Watch → Host → Prop} {state state' : PassState}
    {retried : Retried α} (h : placement.Retrial n Done state' retried w host)
    (htally : ∃ resyncs, state'.tally = { state.tally with resyncs }) :
    placement.Retrial n Done state retried w host := by
  obtain ⟨resyncs, htally⟩ := htally
  obtain ⟨resyncs', htally'⟩ := h.tally
  exact ⟨h.earlier, h.mode, ⟨resyncs', by rw [htally', htally]⟩, h.done⟩

end Placement

namespace Session

variable {ω : Type} [Link ω] {placement : Placement} {n : Nat} {cursor : PageCursor} {probed : Bool}
  {w : Watch} {host : Host}

namespace Observed

variable {bad : Failure → Watch → Host → Prop}

theorem loadWords (page : List UInt8) (hease : w.AtEase host) (hslow : w.mode = .slow)
    (hfirst : w.loaded = [] → ∃ addr, placement.Targets w host addr)
    (hbad : ∀ failure loaded host', host'.mode = host.mode → bad failure { w with loaded } host') :
    Observed placement.observer (Session.loadWords page : SessionM ω Unit) w host
      (fun _ w' host' => w' = { w with loaded := w.loaded ++ wordsOf page } ∧
        host'.mode = host.mode) bad := by
  fun_induction wordsOf page generalizing w host with
  | case1 low high rest ih =>
    refine bind (loadWord hease hslow hfirst fun failure loaded => hbad failure loaded _ rfl) ?_
    intro _ w' host' hloaded
    obtain ⟨rfl, rfl⟩ := hloaded
    refine returning (ih ⟨hease.announced, hease.pending, hease.mode⟩ hslow ?_ ?_) ?_
    · -- Something is loaded now, so the pointer is not asked for again.
      simp
    · intro failure loaded host' hmode
      exact hbad failure loaded host' hmode
    · intro _ w' host' hloaded
      obtain ⟨rfl, hmode⟩ := hloaded
      exact ⟨by simp, hmode⟩
  | case2 page hpage =>
    have hnothing : (Session.loadWords page : SessionM ω Unit) = Pure.pure () := by
      rw [Session.loadWords]
      exact hpage
    rw [hnothing, List.append_nil]
    exact pure ⟨rfl, rfl⟩

/-- The page under the cursor goes out byte by byte. Whatever cuts that short, only words were delivered. -/
theorem writeSlowly (hat : placement.AtNthPage n cursor)
    (htrying : placement.Trying n cursor probed w host) (hslow : host.mode = .slow) :
    Observed placement.observer
      (Session.writeSlowly cursor (placement.page cursor.current) : SessionM ω Unit) w host
      (fun _ w' host' => placement.EarlierPages n probed w' host' ∧ w'.AtEase host' ∧ host'.mode = .slow ∧
        host'.pointer? = some cursor.next ∧
        (cursor.current, Delivery.words (wordsOf (placement.page cursor.current))) ∈ w'.delivered)
      (fun _ w' host' => placement.EarlierPages n probed w' host' ∧ host'.mode = w'.mode ∧
        host'.mode = .slow) := by
  have hease := htrying.ease
  have hwatch : w.mode = .slow := hease.mode.symm.trans hslow
  have hloaded : ∀ loaded host', host'.mode = host.mode →
      placement.EarlierPages n probed { w with loaded } host' ∧ host'.mode = w.mode ∧ host'.mode = .slow := by
    intro loaded host' hmode
    exact ⟨htrying.toEarlierPages.same rfl rfl rfl hmode, hmode.trans hease.mode, hmode.trans hslow⟩
  have hcommitted : ∀ loaded data host', host'.mode = host.mode →
      placement.EarlierPages n probed
        { w with loaded, delivered := (cursor.current, .words data) :: w.delivered } host' ∧
        host'.mode = w.mode ∧ host'.mode = .slow := by
    intro loaded data host' hmode
    exact ⟨htrying.toEarlierPages.words rfl rfl rfl hmode, hmode.trans hease.mode, hmode.trans hslow⟩
  refine bind (loadWords _ hease hwatch (fun _ => ⟨_, htrying.targets hat⟩) fun _ loaded host' =>
    hloaded loaded host') ?_
  intro _ w' host₁ hwords
  obtain ⟨rfl, hmode₁⟩ := hwords
  rw [htrying.loaded, List.nil_append]
  have hease₁ : Watch.AtEase { w with loaded := wordsOf (placement.page cursor.current) } host₁ :=
    ⟨hease.announced, hease.pending, hmode₁.trans hease.mode⟩
  refine bind (setAddress hease₁ hat.borders fun _ host' hmode => hloaded _ host' (hmode.trans hmode₁)) ?_
  intro _ w' host₂ hpointed
  obtain ⟨rfl, rfl, -⟩ := hpointed
  have hease₂ : Watch.AtEase { w with loaded := wordsOf (placement.page cursor.current) }
      (host₁.trust cursor.current) :=
    hease₁.of_mode rfl
  have hworking := (hloaded (wordsOf (placement.page cursor.current)) host₁ hmode₁).1.working hat htrying.page
  refine bind (commitPage hease₂ hwatch ⟨hworking, rfl⟩ fun _ => hloaded _ _ hmode₁) ?_
  intro _ w' host₂ hcommit
  obtain ⟨rfl, rfl⟩ := hcommit
  refine returning (setAddress ⟨hease.announced, hease.pending, hmode₁.trans hease.mode⟩ hat.borders_next
    fun _ host' hmode => hcommitted _ _ host' (hmode.trans hmode₁)) ?_
  intro _ w' host₂ hpointed
  obtain ⟨rfl, rfl, -⟩ := hpointed
  obtain ⟨hearlier, hmode, hslow'⟩ := hcommitted (wordsOf (placement.page cursor.current))
    (wordsOf (placement.page cursor.current)) (host₁.trust cursor.next) hmode₁
  exact ⟨hearlier, ⟨hease.announced, hease.pending, hmode⟩, hslow', rfl, List.mem_cons_self⟩

/-- A block is offered for the page under the cursor. It is refused only if no block was
acknowledged before. -/
theorem offerBlock (hat : placement.AtNthPage n cursor)
    (htrying : placement.Trying n cursor probed w host) (hfast : w.mode = .fast) :
    Observed placement.observer (Session.offerBlock probed : SessionM ω Bool) w host
      (fun accepted w' host' => w' = { w with announced := true } ∧ host' = host.forget ∧
        (accepted = false → probed = false))
      (fun _ w' host' => placement.EarlierPages n probed w' host' ∧ host'.mode = w'.mode) := by
  have hease := htrying.ease
  refine bind (announceBlock hease hfast (htrying.targets hat) fun _ =>
    ⟨htrying.toEarlierPages.same rfl rfl rfl rfl, hease.mode⟩) ?_
  intro _ w' host' hannounced
  obtain ⟨rfl, rfl⟩ := hannounced
  cases probed with
  | true => exact pure ⟨rfl, rfl, by simp⟩
  | false =>
    have hwaiting : host.forget.mode = ({ w with announced := true } : Watch).mode := hease.mode
    refine returning (blockAccepted hwaiting hease.pending fun _ =>
      ⟨htrying.toEarlierPages.same rfl rfl rfl rfl, hease.mode⟩) ?_
    intro accepted w' host' haccepted
    exact ⟨haccepted.1, haccepted.2, fun _ => rfl⟩

/-- The link is put back into a known state. In fast mode the page is erased, and its address told twice. -/
theorem recoverPage {addr pageSize : UInt32} (hease : w.AtEase host) (hworking : placement.Working w addr)
    (hborders : placement.Borders addr) :
    Observed placement.observer (Session.recoverPage addr pageSize : SessionM ω Unit) w host
      (fun _ w' host' => w' = w ∧ host'.mode = host.mode ∧ host'.pointer? = some addr)
      (fun _ w' host' => w' = w ∧ host'.mode = host.mode) := by
  refine bind (resync hease hborders fun _ host' hmode => ⟨rfl, hmode⟩) ?_
  intro _ w' host' hsynced
  obtain ⟨rfl, rfl, -⟩ := hsynced
  refine bind (lift .host?) ?_
  intro host' w' host'' hhost
  obtain ⟨rfl, rfl, rfl⟩ := hhost
  split
  · next hfast =>
    refine bind (erasePage (hease.of_mode rfl) (hease.mode.symm.trans hfast) ⟨hworking, rfl⟩
      fun _ => ⟨rfl, rfl⟩) ?_
    intro _ w' host' herased
    obtain ⟨rfl, rfl⟩ := herased
    refine returning (setAddress (hease.of_mode rfl) hborders fun _ host' hmode => ⟨rfl, hmode⟩) ?_
    intro _ w' host' hpointed
    obtain ⟨rfl, rfl, -⟩ := hpointed
    exact ⟨rfl, rfl, rfl⟩
  · exact pure ⟨rfl, rfl, rfl⟩

end Observed

/-- A blank page is skipped. -/
theorem skipPage_observed (hat : placement.AtNthPage n cursor)
    (htrying : placement.Trying n cursor probed w host)
    (hblank : isBlank (placement.page cursor.current) = true) :
    ObservedStep placement.observer
      (failureOf (setAddress cursor.next) : StateM (Session ω) (Option Failure)) w host
      fun failure => placement.TryObserved n (placement.OutcomeObserved cursor)
        ⟨.settled .skipped, failure, probed⟩ := by
  have hease := htrying.ease
  refine .failureOf ((Observed.setAddress hease hat.borders_next ?_).returning ?_)
  · intro failure host' hmode
    exact ⟨htrying.toEarlierPages.same rfl rfl rfl hmode, hmode.trans hease.mode, by simp⟩
  · intro _ w' host' hpointed
    obtain ⟨rfl, rfl, -⟩ := hpointed
    refine ⟨htrying.toEarlierPages.same rfl rfl rfl rfl, hease.mode, fun _ => ?_⟩
    exact ⟨by simp [Handling.of, hblank], hease.of_mode rfl, rfl, fun _ _ => hblank, by simp [hblank]⟩

/-- A page is sent byte by byte. -/
theorem writeSlowly_observed {α : Type} {outcome : α} {Done : α → Bool → Watch → Host → Prop}
    (hat : placement.AtNthPage n cursor) (htrying : placement.Trying n cursor probed w host)
    (hslow : host.mode = .slow)
    (hwritten : isBlank (placement.page cursor.current) = false)
    (hdone : ∀ w' host', placement.Through cursor .written probed w' host' → Done outcome probed w' host') :
    ObservedStep placement.observer
      (failureOf (writeSlowly cursor (placement.page cursor.current)) :
        StateM (Session ω) (Option Failure)) w host
      fun failure w' host' => placement.TryObserved n Done ⟨outcome, failure, probed⟩ w' host' ∧
        host'.mode = .slow := by
  refine .failureOf ((Observed.writeSlowly hat htrying hslow).mono ?_ ?_)
  · intro _ w' host' hsent
    obtain ⟨hearlier, hease, hmode, hpointer, hdelivered⟩ := hsent
    refine ⟨⟨hearlier, hease.mode, fun _ => hdone w' host' ?_⟩, hmode⟩
    refine ⟨by simp [Handling.of, hwritten], hease, hpointer, by simp [hmode], fun _ => ?_⟩
    rw [hmode]
    exact hdelivered
  · intro failure w' host' hfailed
    exact ⟨⟨hfailed.1, hfailed.2.1, by simp⟩, hfailed.2.2⟩

/-- Blocks are refused, and pages go out byte by byte from now on. So far none has gone out at all. -/
theorem refuseBlocks_observed (hat : placement.AtNthPage n cursor)
    (hearlier : placement.EarlierPages n false w host)
    (hwritten : isBlank (placement.page cursor.current) = false) (hmode : host.mode = w.mode)
    (hfast : w.mode = .fast) (hpage : w.page = some cursor.current) (hpending : w.pending = none) :
    ObservedStep placement.observer
      (do
        note .blocksRefused
        update fun host => { host with mode := .slow }
        return ⟨.redo, ← failureOf (setAddress cursor.current), false⟩ :
        StateM (Session ω) (Attempt PageOutcome)) w host
      (placement.TryObserved n (placement.OutcomeObserved cursor)) := by
  let slow : Watch := { w with mode := .slow, announced := false }
  have hblank := hearlier.negotiated rfl (hmode.trans hfast)
  have hfirst : placement.FirstWritten cursor.current :=
    ⟨hat.hasPage, hwritten, fun below hbelow hlt => hblank below (hat.mem_firstPages hbelow hlt)⟩
  have hadmits : placement.observer.Admits w ⟨host, host, .noted .blocksRefused⟩ :=
    ⟨hmode, .refusal hfast (hearlier.working hat hpage) hfirst hpending (hearlier.unsent rfl)⟩
  have hslow : ∀ host' : Host, host'.mode = .slow → placement.EarlierPages n false slow host' := by
    intro host' hmode'
    refine ⟨hmode', hearlier.unsent, ?_, ?_, hearlier.progress⟩
    · intro _ hfast'
      simp [hmode'] at hfast'
    · -- The pages before this one are blank, so none of them was sent in the mode that is given up.
      intro addr haddr hwritten'
      simp [hblank addr haddr] at hwritten'
  refine .bind (.record hadmits) ?_
  intro _ w' host' hnoted
  obtain ⟨rfl, rfl⟩ := hnoted
  refine .bind .update ?_
  intro _ w' host'' hupdated
  obtain ⟨rfl, rfl⟩ := hupdated
  have hease : slow.AtEase { host' with mode := .slow } := ⟨rfl, hpending, rfl⟩
  have hpoint : ObservedStep placement.observer
      (failureOf (setAddress cursor.current) : StateM (Session ω) (Option Failure))
      slow { host' with mode := .slow }
      fun failure => placement.TryObserved n (placement.OutcomeObserved cursor) ⟨.redo, failure, false⟩ := by
    refine .failureOf ((Observed.setAddress hease hat.borders ?_).returning ?_)
    · intro failure host' hmode'
      exact ⟨hslow host' hmode', hmode', by simp⟩
    · intro _ w' host' hpointed
      obtain ⟨rfl, rfl, -⟩ := hpointed
      exact ⟨hslow _ rfl, rfl, fun _ => ⟨rfl, rfl, hwritten⟩⟩
  refine .bind hpoint ?_
  intro failure w' host' htried
  exact .pure htried

/-- The page under the cursor goes out as a block. -/
theorem sendBlock_observed (hat : placement.AtNthPage n cursor)
    (hearlier : placement.EarlierPages n probed w host)
    (hwritten : isBlank (placement.page cursor.current) = false) (hmode : host.mode = w.mode)
    (hfast : w.mode = .fast) (hannounced : w.announced = true)
    (hpage : w.page = some cursor.current) (hpending : w.pending = none) :
    ObservedStep placement.observer
      (do match ← (sendBlock (placement.page cursor.current)).run with
        | .error failure => return ⟨.settled .written, some failure, probed⟩
        | .ok () => return ⟨.settled .written, ← failureOf (setAddress cursor.next), true⟩ :
          StateM (Session ω) (Attempt PageOutcome)) w host
      (placement.TryObserved n (placement.OutcomeObserved cursor)) := by
  let sent : Watch := { w with
    announced := false, delivered := (cursor.current, .block (placement.page cursor.current)) :: w.delivered }
  have hearlier' : ∀ host' : Host, host'.mode = host.mode → placement.EarlierPages n true sent host' := by
    intro host' hmode'
    refine hearlier.grow rfl rfl hmode' ?_ (by simp)
    intro delivery hdelivery
    exact List.mem_cons_of_mem _ hdelivery
  have hease : sent.AtEase host := ⟨rfl, hpending, hmode⟩
  have hpoint : ObservedStep placement.observer
      (failureOf (setAddress cursor.next) : StateM (Session ω) (Option Failure))
      sent host fun failure => placement.TryObserved n (placement.OutcomeObserved cursor)
        ⟨.settled .written, failure, true⟩ := by
    refine .failureOf ((Observed.setAddress hease hat.borders_next ?_).returning ?_)
    · intro failure host' hmode'
      exact ⟨hearlier' host' hmode', hmode'.trans hmode, by simp⟩
    · intro _ w' host' hpointed
      obtain ⟨rfl, rfl, -⟩ := hpointed
      refine ⟨hearlier' _ rfl, hmode, fun _ => ?_⟩
      refine ⟨by simp [Handling.of, hwritten], hease.of_mode rfl, rfl, by simp, fun _ => ?_⟩
      have hof : Delivery.of (host.trust cursor.next).mode (placement.page cursor.current) =
          .block (placement.page cursor.current) := by
        rw [Delivery.of, if_neg]
        change host.mode ≠ .slow
        simp [hmode, hfast]
      rw [hof]
      exact List.mem_cons_self
  have hsend : Observed placement.observer
      (sendBlock (placement.page cursor.current) : SessionM ω Unit) w host _
      (fun _ w' host' => w' = { w with announced := false } ∧ host' = host) :=
    .sendBlock hmode hannounced hpending (hearlier.working hat hpage) fun _ => ⟨rfl, rfl⟩
  refine .run hsend ?_ ?_
  · intro _ w' host' hsent
    obtain ⟨rfl, rfl⟩ := hsent
    refine .bind hpoint ?_
    intro failure w' host' htried
    exact .pure htried
  · intro failure w' host' hfailed
    obtain ⟨rfl, rfl⟩ := hfailed
    exact .pure ⟨hearlier.same rfl rfl rfl rfl, hmode, by simp⟩

/-- One try at the page under the cursor. -/
theorem tryPage_observed (hat : placement.AtNthPage n cursor)
    (htrying : placement.Trying n cursor probed w host) :
    ObservedStep placement.observer
      (tryPage cursor (placement.page cursor.current) probed :
        StateM (Session ω) (Attempt PageOutcome)) w host
      (placement.TryObserved n (placement.OutcomeObserved cursor)) := by
  have hease := htrying.ease
  unfold tryPage
  split
  · next hblank =>
    refine .bind (skipPage_observed hat htrying hblank) ?_
    intro failure w' host' htried
    exact .pure htried
  next hblank =>
  have hwritten : isBlank (placement.page cursor.current) = false := by simpa using hblank
  refine .bind .host? ?_
  intro host' w' host'' hhost
  obtain ⟨rfl, rfl, rfl⟩ := hhost
  split
  · next hslow =>
    have hwords : ObservedStep placement.observer _ w' host'' fun failure w' host' =>
        placement.TryObserved n (placement.OutcomeObserved cursor)
          ⟨.settled .written, failure, probed⟩ w' host' ∧ host'.mode = .slow :=
      writeSlowly_observed (ω := ω) hat htrying hslow hwritten fun _ _ hthrough => hthrough
    refine .bind hwords ?_
    intro failure w' host' htried
    exact .pure htried.1
  next hslow =>
  -- A try settles for a mode before it says anything, so what is not slow is fast.
  have hfast : w'.mode = .fast := by
    have htry : w'.tryMode = w'.mode := htrying.mode.symm.trans hease.mode
    have hunknown := w'.tryMode_ne_unknown
    rw [htry] at hunknown
    rw [hease.mode] at hslow
    cases hmode : w'.mode <;> simp_all
  have hannounced : placement.EarlierPages n probed { w' with announced := true } host''.forget :=
    htrying.toEarlierPages.same rfl rfl rfl rfl
  refine .run (Observed.offerBlock hat htrying hfast) ?_ ?_
  · intro accepted w' host' hoffered
    obtain ⟨rfl, rfl, hrefused⟩ := hoffered
    cases accepted with
    | false =>
      obtain rfl := hrefused rfl
      exact refuseBlocks_observed hat hannounced hwritten hease.mode hfast htrying.page hease.pending
    | true => exact sendBlock_observed hat hannounced hwritten hease.mode hfast rfl htrying.page hease.pending
  · intro failure w' host' hfailed
    exact .pure ⟨hfailed.1, hfailed.2, by simp⟩

/-- One try at the page under the cursor, byte by byte. -/
theorem trySlowly_observed (hat : placement.AtNthPage n cursor)
    (htrying : placement.Trying n cursor probed w host) (hslow : host.mode = .slow)
    (hwritten : isBlank (placement.page cursor.current) = false) :
    ObservedStep placement.observer
      (trySlowly cursor (placement.page cursor.current) probed : StateM (Session ω) (Attempt Handling)) w host
      fun attempt w' host' => placement.TryObserved n (placement.Through cursor) attempt w' host' ∧
        host'.mode = .slow := by
  refine .bind (writeSlowly_observed hat htrying hslow hwritten fun _ _ hthrough => hthrough) ?_
  intro failure w' host' htried
  exact .pure htried

section Retry

variable {α : Type} {attempt : Bool → StateM (Session ω) (Attempt α)} {Done : α → Bool → Watch → Host → Prop}
  (Modes : WriteMode → Prop)

/-- One of repeated tries at a page, and the recovery after it, if that is needed. -/
theorem retry_step_observed (hat : placement.AtNthPage n cursor)
    (hattempt : ∀ probed w host, placement.Trying n cursor probed w host → Modes host.mode →
      ObservedStep placement.observer (attempt probed) w host fun tried w' host' =>
        placement.TryObserved n Done tried w' host' ∧ Modes host'.mode)
    {tries : Nat} {allowance : Allowance} {state : PassState}
    (hearlier : placement.EarlierPages n state.probed w host)
    (hpointer : host.pointer? = some cursor.current) (hmodes : Modes host.mode)
    (hagain : ∀ left rest (state' : PassState) w' host', tries = left + 1 →
      placement.EarlierPages n state'.probed w' host' →
      host'.pointer? = some cursor.current → Modes host'.mode →
        (∃ resyncs, state'.tally = { state.tally with resyncs }) →
      ObservedStep placement.observer (retry cursor attempt left rest state') w' host'
        (placement.Retrial n Done state)) :
    ObservedStep placement.observer (retry cursor attempt tries allowance state) w host
      (placement.Retrial n Done state) := by
  rw [retry]
  refine .bind (.record ⟨hearlier.mode, .silent rfl⟩) ?_
  intro _ w' host' hbegun
  obtain ⟨rfl, rfl⟩ := hbegun
  refine .bind (hattempt _ _ _ (hearlier.trying hpointer) hmodes) ?_
  intro tried w₁ host₁ htried
  obtain ⟨outcome, failure, probed⟩ := tried
  obtain ⟨⟨hearlier₁, hmode₁, hdone⟩, hmodes₁⟩ := htried
  cases failure with
  | none =>
    refine .pure ⟨hearlier₁, hmode₁, ⟨_, rfl⟩, ?_⟩
    intro outcome' hresult
    obtain rfl := Except.ok.inj hresult
    exact hdone rfl
  | some failure =>
    have hgiveUp (allowance' : Allowance) : placement.Retrial n Done state
        ⟨.error failure, allowance', { state with probed }⟩ w₁ host₁ :=
      ⟨hearlier₁, hmode₁, ⟨_, rfl⟩, by simp⟩
    cases hspend : allowance.spend failure with
    | none =>
      simp only [hspend]
      exact .pure (hgiveUp allowance)
    | some rest =>
      simp only [hspend]
      cases tries with
      | zero => exact .pure (hgiveUp allowance)
      | succ left =>
        have hturned : placement.EarlierPages n probed (w₁.turnTo (some cursor.current)) host₁ :=
          hearlier₁.same rfl rfl rfl rfl
        refine .bind .host? ?_
        intro host' w' host'' hhost
        obtain ⟨rfl, rfl, rfl⟩ := hhost
        refine .bind (.note hmode₁ (by simp)) ?_
        intro _ w' host' hnoted
        obtain ⟨rfl, rfl⟩ := hnoted
        refine .bind (.record ⟨hmode₁, .silent rfl⟩) ?_
        intro _ w' host' hrecorded
        obtain ⟨rfl, rfl⟩ := hrecorded
        refine .run (Observed.recoverPage ⟨rfl, rfl, hmode₁⟩ (hturned.working hat rfl) hat.borders) ?_ ?_
        · intro _ w' host' hrecovered
          obtain ⟨rfl, hmode, hpointer'⟩ := hrecovered
          exact hagain left rest _ _ host' rfl (hturned.same rfl rfl rfl hmode) hpointer'
            (hmode ▸ hmodes₁) ⟨_, rfl⟩
        · intro failure' w' host' hfailed
          obtain ⟨rfl, hmode⟩ := hfailed
          exact .pure ⟨hturned.same rfl rfl rfl hmode, hmode.trans hmode₁, ⟨_, rfl⟩, by simp⟩

/-- What every try keeps, repeated tries keep. The tries may rely on the mode as long as they keep to it. -/
theorem retry_observed (hat : placement.AtNthPage n cursor)
    (hattempt : ∀ probed w host, placement.Trying n cursor probed w host → Modes host.mode →
      ObservedStep placement.observer (attempt probed) w host fun tried w' host' =>
        placement.TryObserved n Done tried w' host' ∧ Modes host'.mode)
    (tries : Nat) (allowance : Allowance) (state : PassState)
    (hearlier : placement.EarlierPages n state.probed w host)
    (hpointer : host.pointer? = some cursor.current) (hmodes : Modes host.mode) :
    ObservedStep placement.observer (retry cursor attempt tries allowance state) w host
      (placement.Retrial n Done state) := by
  induction tries generalizing allowance state w host with
  | zero =>
    refine retry_step_observed Modes hat hattempt hearlier hpointer hmodes ?_
    intro left rest state' w' host' hleft
    omega
  | succ tries ih =>
    refine retry_step_observed Modes hat hattempt hearlier hpointer hmodes ?_
    intro left rest state' w' host' hleft hearlier' hpointer' hmodes' htally
    obtain rfl : tries = left := by omega
    exact (ih rest state' hearlier' hpointer' hmodes').mono fun _ _ _ hretrial => hretrial.resume htally

end Retry

/-- The page under the cursor is dealt with, in the session's mode or, once that has changed on the
way, byte by byte. -/
theorem settlePage_observed (hat : placement.AtNthPage n cursor) (allowance : Allowance) (state : PassState)
    (hearlier : placement.EarlierPages n state.probed w host)
    (hpointer : host.pointer? = some cursor.current) :
    ObservedStep placement.observer (settlePage cursor (placement.page cursor.current) allowance state :
      StateM (Session ω) (Retried Handling)) w host
        (placement.Retrial n (placement.Through cursor) state) := by
  have htry : ∀ probed w host, placement.Trying n cursor probed w host → True →
      ObservedStep placement.observer
      (tryPage cursor (placement.page cursor.current) probed : StateM (Session ω)
        (Attempt PageOutcome)) w host
      fun tried w' host' => placement.TryObserved n (placement.OutcomeObserved cursor)
      tried w' host' ∧ True := by
    intro probed w host htrying _
    exact (tryPage_observed hat htrying).mono fun _ _ _ htried => ⟨htried, trivial⟩
  refine .bind (retry_observed (fun _ => True)
    hat htry allowance.total allowance state hearlier hpointer trivial) ?_
  intro retried w₁ host₁ hretrial
  obtain ⟨result, rest, state₁⟩ := retried
  obtain ⟨hearlier₁, hmode₁, htally₁, hdone⟩ := hretrial
  cases result with
  | error failure => exact .pure ⟨hearlier₁, hmode₁, htally₁, by simp⟩
  | ok outcome =>
    have hout := hdone outcome rfl
    cases outcome with
    | settled handling =>
      refine .pure ⟨hearlier₁, hmode₁, htally₁, ?_⟩
      intro handling' hresult
      obtain rfl := Except.ok.inj hresult
      exact hout
    | redo =>
      obtain ⟨hslow, hpointer₁, hwritten⟩ := hout
      have htrySlowly :=
        fun probed w host (htrying : placement.Trying n cursor probed w host) (hslow : host.mode = .slow) =>
        trySlowly_observed (ω := ω) hat htrying hslow hwritten
      refine (retry_observed (· = .slow) hat htrySlowly rest.total rest state₁ hearlier₁
        hpointer₁ hslow).mono ?_
      exact fun _ _ _ hretrial => hretrial.resume htally₁

end Session

end Bootflash
