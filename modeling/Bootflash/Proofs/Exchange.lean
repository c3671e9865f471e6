import Bootflash.Proofs.Device
import Bootflash.Proofs.Transcript

namespace Bootflash

/-- A link with a bootloader at its far end. A call that is not reported as failed has happened as
it should; a write that is may have reached the bootloader or not, and a read that is has taken
nothing from it. -/
structure Wire (ω : Type) [Link ω] where
  /-- The link has this bootloader at its far end. -/
  Carries : ω → Bootloader → Prop
  /-- The failures the link may report. -/
  Reports : Failure → Prop
  reports_context : ∀ {failure} text, Reports failure → Reports (.context text failure)
  /-- A link does not pass its own failures off as answers of the device. -/
  reports_isCommand : ∀ {failure}, Reports failure → failure.isCommand = false
  write : ∀ {link b} bytes, Carries link b →
    ((Link.write bytes link).1 = none ∧ Carries (Link.write bytes link).2 (b.receive bytes)) ∨
      ∃ failure, (Link.write bytes link).1 = some failure ∧ Reports failure ∧
        (Carries (Link.write bytes link).2 b ∨ Carries (Link.write bytes link).2 (b.receive bytes))
  read : ∀ {link b} limit, Carries link b →
    ((Link.read limit link).1 = ⟨b.output.take limit, none⟩ ∧
        Carries (Link.read limit link).2 { b with output := b.output.drop limit }) ∨
      ∃ bytes failure, (Link.read limit link).1 = ⟨bytes, some failure⟩ ∧ Reports failure ∧
        Carries (Link.read limit link).2 b
  setTimeout : ∀ {link b} ms, Carries link b → Carries (Link.setTimeout ms link) b

/-- A wire that works: no call on it fails. -/
def Wire.reliable {ω : Type} [Link ω] (Carries : ω → Bootloader → Prop)
    (write : ∀ {link b} bytes, Carries link b →
      (Link.write bytes link).1 = none ∧ Carries (Link.write bytes link).2 (b.receive bytes))
    (read : ∀ {link b} limit, Carries link b →
      (Link.read limit link).1 = ⟨b.output.take limit, none⟩ ∧
        Carries (Link.read limit link).2 { b with output := b.output.drop limit })
    (setTimeout : ∀ {link b} ms, Carries link b → Carries (Link.setTimeout ms link) b) : Wire ω where
  Carries := Carries
  Reports := fun _ => False
  reports_context := fun _ h => h
  reports_isCommand := False.elim
  write := fun bytes h => .inl (write bytes h)
  read := fun limit h => .inl (read limit h)
  setTimeout := setTimeout

/-- A bootloader is a wire of its own. -/
def Bootloader.wire : Wire Bootloader :=
  .reliable (fun link b => link = b) (fun _ h => ⟨rfl, h ▸ rfl⟩) (fun _ h => ⟨h ▸ rfl, h ▸ rfl⟩) fun _ h => h

namespace Session

variable {ω α β : Type} [Link ω] {wire : Wire ω} {host : Host} {b : Bootloader}

/-- Started by this host on this device, the operation returns with `good` or fails by itself with
`wrong`, in both cases without a failing call, or a failing call cuts it short with `cut`. The
conditions speak about host and device afterwards. -/
def Exchange (wire : Wire ω) (operation : SessionM ω α) (host : Host) (b : Bootloader)
    (good : α → Host → Bootloader → Prop) (wrong : Failure → Host → Bootloader → Prop)
    (cut : Host → Bootloader → Prop) : Prop :=
  ∀ s : Session ω, s.host = host → wire.Carries s.link b →
    Ends operation s
      (fun a after => Calm s after ∧ ∃ b', wire.Carries after.link b' ∧ good a after.host b')
      (fun failure after => (Calm s after ∧ ∃ b', wire.Carries after.link b' ∧ wrong failure after.host b') ∨
        (wire.Reports failure ∧ Struck s after ∧ ∃ b', wire.Carries after.link b' ∧ cut after.host b'))

namespace Exchange

variable {good : α → Host → Bootloader → Prop} {wrong : Failure → Host → Bootloader → Prop}
  {cut : Host → Bootloader → Prop}

theorem mono {operation : SessionM ω α} {good' : α → Host → Bootloader → Prop}
    {wrong' : Failure → Host → Bootloader → Prop} {cut' : Host → Bootloader → Prop}
    (h : Exchange wire operation host b good wrong cut)
    (hgood : ∀ a host' b', good a host' b' → good' a host' b')
    (hwrong : ∀ failure host' b', wrong failure host' b' → wrong' failure host' b')
    (hcut : ∀ host' b', cut host' b' → cut' host' b') : Exchange wire operation host b good' wrong' cut' := by
  intro s hhost hcarries
  refine (h s hhost hcarries).mono ?_ ?_
  · rintro a after ⟨hcalm, b', hb', hafter⟩
    exact ⟨hcalm, b', hb', hgood a _ b' hafter⟩
  · rintro failure after (⟨hcalm, b', hb', hafter⟩ | ⟨hreports, hstruck, b', hb', hafter⟩)
    · exact .inl ⟨hcalm, b', hb', hwrong failure _ b' hafter⟩
    · exact .inr ⟨hreports, hstruck, b', hb', hcut _ b' hafter⟩

theorem returning {operation : SessionM ω α} {good' : α → Host → Bootloader → Prop}
    (h : Exchange wire operation host b good wrong cut)
    (hgood : ∀ a host' b', good a host' b' → good' a host' b') :
    Exchange wire operation host b good' wrong cut :=
  h.mono hgood (fun _ _ _ hafter => hafter) fun _ _ hafter => hafter

theorem bind {operation : SessionM ω α} {next : α → SessionM ω β} {mid : α → Host → Bootloader → Prop}
    {good : β → Host → Bootloader → Prop} (h : Exchange wire operation host b mid wrong cut)
    (hnext : ∀ a host' b', mid a host' b' → Exchange wire (next a) host' b' good wrong cut) :
    Exchange wire (operation >>= next) host b good wrong cut := by
  intro s hhost hcarries
  refine Ends.bind (h s hhost hcarries) ?_
  rintro a middle ⟨hcalm, b', hb', hmid⟩
  refine (hnext a _ b' hmid middle rfl hb').mono ?_ ?_
  · rintro a after ⟨hcalm', hafter⟩
    exact ⟨hcalm.trans hcalm', hafter⟩
  · rintro failure after (⟨hcalm', hafter⟩ | ⟨hreports, hstruck, hafter⟩)
    · exact .inl ⟨hcalm.trans hcalm', hafter⟩
    · exact .inr ⟨hreports, hcalm.struck hstruck, hafter⟩

theorem pure {a : α} (h : good a host b) : Exchange wire (Pure.pure a) host b good wrong cut := by
  rintro s rfl hcarries
  exact Ends.pure ⟨.refl s, b, hcarries, h⟩

theorem throw {failure : Failure} (h : wrong failure host b) :
    Exchange wire (throw failure : SessionM ω α) host b good wrong cut := by
  rintro s rfl hcarries
  exact Ends.throw (.inl ⟨.refl s, b, hcarries, h⟩)

theorem note {notice : Notice} :
    Exchange wire (lift (note notice)) host b (fun _ host' b' => host' = host ∧ b' = b) wrong cut := by
  rintro s rfl hcarries
  have hcalm := calm_note notice s
  exact ⟨hcalm, b, hcarries, rfl, rfl⟩

theorem update {change : Host → Host} :
    Exchange wire (lift (update change)) host b (fun _ host' b' => host' = change host ∧ b' = b)
      wrong cut := by
  rintro s rfl hcarries
  have hcalm := calm_update change s
  exact ⟨hcalm, b, hcarries, rfl, rfl⟩

theorem host? :
    Exchange wire (lift host?) host b (fun known host' b' => known = host ∧ host' = host ∧ b' = b)
      wrong cut := by
  rintro s rfl hcarries
  exact ⟨.refl s, b, hcarries, rfl, rfl, rfl⟩

/-- A handler that passes the failures of the link on, around an operation that has no others. -/
theorem rethrow {operation : SessionM ω α} {handler : Failure → SessionM ω α}
    (h : Exchange wire operation host b good (fun _ _ _ => False) cut)
    (hhandler : ∀ failure, wire.Reports failure → handler failure = MonadExcept.throw failure) :
    Exchange wire (tryCatch operation handler) host b good wrong cut := by
  intro s hhost hcarries
  refine Ends.tryCatch (h s hhost hcarries) ?_
  rintro failure after (⟨-, b', -, hfalse⟩ | hcut)
  · exact hfalse.elim
  · rw [hhandler failure hcut.1]
    exact Ends.throw (.inr hcut)

theorem within {operation : SessionM ω α} {text : String}
    (h : Exchange wire operation host b good (fun failure => wrong (.context text failure)) cut) :
    Exchange wire (within text operation) host b good wrong cut := by
  intro s hhost hcarries
  refine Ends.within ((h s hhost hcarries).failing ?_)
  rintro failure after (hafter | ⟨hreports, hafter⟩)
  · exact .inl hafter
  · exact .inr ⟨wire.reports_context text hreports, hafter⟩

theorem withTimeout {operation : SessionM ω α} {ms : Int}
    (h : Exchange wire operation { host with timeout := ms } b
      (fun a host' => good a { host' with timeout := host.timeout })
      (fun failure host' => wrong failure { host' with timeout := host.timeout })
      (fun host' => cut { host' with timeout := host.timeout })) :
    Exchange wire (withTimeout ms operation) host b good wrong cut := by
  rintro s rfl hcarries
  refine Ends.withTimeout ((h (setTimeout ms s).2 rfl (wire.setTimeout ms hcarries)).mono ?_ ?_)
  · rintro a after ⟨hcalm, b', hb', hafter⟩
    exact ⟨((calm_setTimeout ms s).trans hcalm).trans (calm_setTimeout _ after), b',
      wire.setTimeout _ hb', hafter⟩
  · rintro failure after (⟨hcalm, b', hb', hafter⟩ | ⟨hreports, hstruck, b', hb', hafter⟩)
    · exact .inl
        ⟨((calm_setTimeout ms s).trans hcalm).trans (calm_setTimeout _ after), b',
        wire.setTimeout _ hb', hafter⟩
    · exact .inr ⟨hreports, ((calm_setTimeout ms s).struck hstruck).calm (calm_setTimeout _ after), b',
        wire.setTimeout _ hb', hafter⟩

/-- What leaves the host alone leaves it alone under another timeout. -/
theorem underTimeout {operation : SessionM ω α} {ms : Int} {good : α → Bootloader → Prop}
    (h : Exchange wire operation { host with timeout := ms } b
      (fun a host' b' => host' = { host with timeout := ms } ∧ good a b')
      (fun failure host' => wrong failure { host' with timeout := host.timeout })
      (fun host' => cut { host' with timeout := host.timeout })) :
    Exchange wire (Session.withTimeout ms operation) host b
      (fun a host' b' => host' = host ∧ good a b') wrong cut := by
  refine withTimeout (h.returning ?_)
  rintro a _ b' ⟨rfl, hgood⟩
  exact ⟨rfl, hgood⟩

/-- An exchange whose failure is kept as a value. -/
theorem failureOf {operation : SessionM ω Unit} {good : Unit → Host → Bootloader → Prop} {s : Session ω}
    (h : Exchange wire operation host b good wrong cut) (hhost : s.host = host)
    (hcarries : wire.Carries s.link b) :
    Yields (Session.failureOf operation) s fun failure? after =>
      match failure? with
      | none => Calm s after ∧ ∃ b', wire.Carries after.link b' ∧ good () after.host b'
      | some failure => (Calm s after ∧ ∃ b', wire.Carries after.link b' ∧ wrong failure after.host b') ∨
          (wire.Reports failure ∧ Struck s after ∧ ∃ b', wire.Carries after.link b' ∧ cut after.host b') :=
  Yields.failureOf (h s hhost hcarries)

/-- On a bootloader no call fails, so nothing is cut short. -/
theorem ends {operation : SessionM Bootloader α} {s : Session Bootloader}
    (h : Exchange Bootloader.wire operation s.host s.link good wrong cut) :
    Ends operation s (fun a after => good a after.host after.link) fun failure after =>
      wrong failure after.host after.link := by
  refine (h s rfl rfl).mono ?_ ?_
  · rintro a after ⟨-, _, rfl, hgood⟩
    exact hgood
  · rintro failure after (⟨-, _, rfl, hwrong⟩ | ⟨hreports, -⟩)
    · exact hwrong
    · exact hreports.elim

end Exchange

end Session

end Bootflash
