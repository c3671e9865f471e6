import Bootflash.Session.Basic

namespace Bootflash.Session

variable {ω α β : Type}

/-- Run from `s`, the step gives a value and a session that satisfy `post`. -/
def Yields (step : StateM (Session ω) α) (s : Session ω) (post : α → Session ω → Prop) : Prop :=
  post (step s).1 (step s).2

/-- Run from `s`, the operation returns and satisfies `good`, or fails and satisfies `bad`. -/
def Ends (operation : SessionM ω α) (s : Session ω) (good : α → Session ω → Prop)
    (bad : Failure → Session ω → Prop) : Prop :=
  Yields operation.run s fun result after =>
    match result with
    | .ok a => good a after
    | .error failure => bad failure after

section Steps

variable {s : Session ω} {post : α → Session ω → Prop}

theorem Yields.bind {step : StateM (Session ω) α} {next : α → StateM (Session ω) β}
    {mid : α → Session ω → Prop} {post : β → Session ω → Prop} (h : Yields step s mid)
    (hnext : ∀ a after, mid a after → Yields (next a) after post) :
    Yields (step >>= next) s post :=
  hnext _ _ h

/-- A first step, and what it leaves to be done. -/
theorem Yields.step {step : StateM (Session ω) α} {next : α → StateM (Session ω) β}
    {post : β → Session ω → Prop} (h : Yields (next (step s).1) (step s).2 post) :
    Yields (step >>= next) s post :=
  h

theorem Yields.mono {step : StateM (Session ω) α} {post' : α → Session ω → Prop} (h : Yields step s post)
    (himp : ∀ a after, post a after → post' a after) : Yields step s post' :=
  himp _ _ h

theorem Yields.and {step : StateM (Session ω) α} {post' : α → Session ω → Prop} (h : Yields step s post)
    (h' : Yields step s post') : Yields step s fun a after => post a after ∧ post' a after :=
  ⟨h, h'⟩

/-- What a step gives is what its run gives. -/
theorem Yields.outcome (step : StateM (Session ω) α) (s : Session ω) :
    Yields step s fun a after => step s = (a, after) :=
  rfl

theorem Yields.pure {a : α} (h : post a s) : Yields (Pure.pure a) s post :=
  h

/-- What an operation ended with, taken as a value. -/
theorem Yields.run {operation : SessionM ω α} {post : Except Failure α → Session ω → Prop}
    (h : Ends operation s (fun a => post (.ok a)) (fun failure => post (.error failure))) :
    Yields operation.run s post := by
  refine Yields.mono h ?_
  rintro (failure | a) after hafter <;> exact hafter

theorem Yields.failureOf {operation : SessionM ω Unit} {post : Option Failure → Session ω → Prop}
    (h : Ends operation s (fun _ => post none) (fun failure => post (some failure))) :
    Yields (failureOf operation) s post := by
  refine Yields.bind h ?_
  rintro (failure | ⟨⟩) after hafter <;> exact hafter

end Steps

section Operations

variable {s : Session ω} {good : α → Session ω → Prop} {bad : Failure → Session ω → Prop}

theorem Ends.mono {operation : SessionM ω α} {good' : α → Session ω → Prop}
    {bad' : Failure → Session ω → Prop} (h : Ends operation s good bad)
    (hgood : ∀ a after, good a after → good' a after)
    (hbad : ∀ failure after, bad failure after → bad' failure after) : Ends operation s good' bad' := by
  refine Yields.mono h ?_
  rintro (failure | a) after hafter
  · exact hbad failure after hafter
  · exact hgood a after hafter

theorem Ends.failing {operation : SessionM ω α} {bad' : Failure → Session ω → Prop}
    (h : Ends operation s good bad)
    (hbad : ∀ failure after, bad failure after → bad' failure after) : Ends operation s good bad' :=
  h.mono (fun _ _ hafter => hafter) hbad

theorem Ends.and {operation : SessionM ω α} {good' : α → Session ω → Prop} {bad' : Failure → Session ω → Prop}
    (h : Ends operation s good bad) (h' : Ends operation s good' bad') :
    Ends operation s (fun a after => good a after ∧ good' a after)
      (fun failure after => bad failure after ∧ bad' failure after) := by
  unfold Ends Yields at *
  generalize operation.run s = outcome at *
  obtain ⟨(failure | a), after⟩ := outcome <;> exact ⟨h, h'⟩

/-- What an operation ends with is what its run gives. -/
theorem Ends.outcome (operation : SessionM ω α) (s : Session ω) :
    Ends operation s (fun a after => operation.run s = (.ok a, after))
      fun failure after => operation.run s = (.error failure, after) := by
  unfold Ends Yields
  generalize operation.run s = outcome
  obtain ⟨(failure | a), after⟩ := outcome <;> rfl

/-- An operation that cannot fail returns. -/
theorem Ends.returns {operation : SessionM ω α} (h : Ends operation s good fun _ _ => False) :
    ∃ a after, operation.run s = (.ok a, after) ∧ good a after := by
  unfold Ends Yields at h
  generalize operation.run s = outcome at *
  obtain ⟨(failure | a), after⟩ := outcome
  · exact h.elim
  · exact ⟨a, after, rfl, h⟩

theorem Ends.bind {operation : SessionM ω α} {next : α → SessionM ω β} {mid : α → Session ω → Prop}
    {good : β → Session ω → Prop} (h : Ends operation s mid bad)
    (hnext : ∀ a after, mid a after → Ends (next a) after good bad) :
    Ends (operation >>= next) s good bad := by
  change Yields (operation.run >>= ExceptT.bindCont next) s _
  refine Yields.bind h ?_
  rintro (failure | a) after hafter
  · exact hafter
  · exact hnext a after hafter

/-- A first step that is known to return, and what it leaves to be done. -/
theorem Ends.step {operation : SessionM ω α} {next : α → SessionM ω β} {good : β → Session ω → Prop} (a : α)
    (middle : Session ω) (hrun : operation.run s = (.ok a, middle)) (h : Ends (next a) middle good bad) :
    Ends (operation >>= next) s good bad := by
  have hmiddle : Ends operation s (fun a' after => a' = a ∧ after = middle) bad := by
    rw [Ends, Yields, hrun]
    exact ⟨rfl, rfl⟩
  refine Ends.bind hmiddle ?_
  rintro _ _ ⟨rfl, rfl⟩
  exact h

theorem Ends.pure {a : α} (h : good a s) : Ends (Pure.pure a) s good bad :=
  h

theorem Ends.throw {failure : Failure} (h : bad failure s) : Ends (throw failure : SessionM ω α) s good bad :=
  h

theorem Ends.lift {step : StateM (Session ω) α} (h : Yields step s good) : Ends (lift step) s good bad :=
  h

theorem Ends.tryCatch {operation : SessionM ω α} {handler : Failure → SessionM ω α}
    {mid : Failure → Session ω → Prop} (h : Ends operation s good mid)
    (hhandler : ∀ failure after, mid failure after → Ends (handler failure) after good bad) :
    Ends (tryCatch operation handler) s good bad := by
  rw [Ends, ExceptT.run_tryCatch]
  refine Yields.bind h ?_
  rintro (failure | a) after hafter
  · exact hhandler failure after hafter
  · exact hafter

theorem Ends.within {operation : SessionM ω α} {text : String}
    (h : Ends operation s good (fun failure => bad (.context text failure))) :
    Ends (within text operation) s good bad :=
  Ends.tryCatch h fun _ _ hbad => Ends.throw hbad

/-- An operation under another timeout ends as it does on the session with that timeout, and the
former timeout is put back whichever way it ended. -/
theorem Ends.withTimeout [Link ω] {operation : SessionM ω α} {ms : Int}
    (h : Ends operation (setTimeout ms s).2
      (fun a after => good a (setTimeout s.host.timeout after).2)
      (fun failure after => bad failure (setTimeout s.host.timeout after).2)) :
    Ends (withTimeout ms operation) s good bad := by
  have hrun : Yields operation.run (setTimeout ms s).2 fun outcome after => match outcome with
      | .ok a => good a (setTimeout s.host.timeout after).2
      | .error failure => bad failure (setTimeout s.host.timeout after).2 := Yields.run h
  refine Ends.step s.host s rfl (Ends.step () (setTimeout ms s).2 rfl (Ends.bind (Ends.lift hrun) ?_))
  rintro (failure | a) after hafter <;> exact hafter

end Operations

end Bootflash.Session
