/-
  A flag that a handler sets and clears by hand around an `await`.

      onPressed: async {
        setState(() { flag = true; });
        await operation();
        setState(() { flag = false; });
      }

  The flag is to say whether an operation is in flight.  Without a `finally`, and with a button that
  can be pressed again meanwhile, it does so only if every press and every completion keep it
  honest.  This file knows nothing of the operations: a `BusyButton` says which presses set the flag
  and which of them start an operation, whether the button is offered while the flag is set, and
  after which replies the handler goes on to clear it (it does not after one that throws).

  `truthful_iff_honest` is the exact rule: the flag tells the truth throughout a run exactly when no
  press sets it for nothing, and a completion clears it exactly when it is the last one in flight.
-/
import AttendanceApp.Transition
import AttendanceApp.Navigator

namespace AttendanceApp.BusyFlag

open AttendanceApp.Transition

/-- A button whose presses carry an input `ι`, and whose operations end with a reply `ρ`. -/
structure BusyButton (ι ρ : Type) where
  /-- A press sets the flag. -/
  sets : ι → Bool
  /-- A press starts an operation. -/
  starts : ι → Bool
  sets_of_starts : ∀ input, starts input = true → sets input = true
  /-- The button is on the screen while the flag has this value. -/
  offered : Bool → Bool
  /-- The handler goes on after the `await`, and clears the flag. -/
  resumes : ρ → Bool

/-- The flag, and the number of operations in flight. -/
structure State where
  flag : Bool := false
  inFlight : Nat := 0
  life : Lifecycle := .shown
  deriving DecidableEq, Repr

/-- A press with its input `ι`, the reply `ρ` of an operation, and the end of the screen. -/
inductive Event (ι ρ : Type) where
  | press (input : ι)
  /-- One of the operations in flight ends. -/
  | complete (reply : ρ)
  /-- The route of the screen is taken off the stack. -/
  | leave
  | dispose

namespace BusyButton

variable {ι ρ : Type} (b : BusyButton ι ρ)

/-- One event on the screen of the button; a press is possible while the button is offered. -/
def step (s : State) : Event ι ρ → Option State
  | .press input =>
    if s.life = .shown ∧ b.offered s.flag = true then
      some
        { s with
          flag := s.flag || b.sets input
          inFlight := s.inFlight + if b.starts input then 1 else 0 }
    else none
  | .complete reply =>
    if 0 < s.inFlight then
      -- `setState` of a disposed screen throws
      let clears := s.life ≠ .disposed && b.resumes reply
      some { s with flag := s.flag && !clears, inFlight := s.inFlight - 1 }
    else none
  | .leave => if s.life = .shown then some { s with life := .leaving } else none
  | .dispose => if s.life = .leaving then some { s with life := .disposed } else none

/-- The screen with the button: presses and completions in any order. -/
def screen : Machine State (Event ι ρ) := ⟨b.step⟩

/-- **The flag tells the truth**: it is set exactly while an operation is in flight. -/
def Truthful (s : State) : Prop := s.life ≠ .disposed → (s.flag = true ↔ 0 < s.inFlight)

/-- A press does not set the flag for nothing, and a completion clears it exactly if it is the last
    one. -/
def Honest (s : State) : Event ι ρ → Prop
  | .press input => b.sets input = true → b.starts input = false → 0 < s.inFlight
  | .complete reply => s.life ≠ .disposed → (b.resumes reply = true ↔ s.inFlight = 1)
  | .leave => True
  | .dispose => True

/-- **The step lemma.** -/
theorem truthful_step (s : State) (e : Event ι ρ) (s' : State) (h : Truthful s)
    (hstep : b.screen.step s e = some s') : Truthful s' ↔ b.Honest s e := by
  cases e with
  | press input =>
    obtain ⟨⟨hshown, -⟩, rfl⟩ := guarded_eq_some.mp hstep
    have hmounted : s.life ≠ .disposed := by simp [hshown]
    have htruth := h hmounted
    unfold Truthful Honest
    simp only [Bool.or_eq_true]
    cases hstarts : b.starts input with
    | true => simp [b.sets_of_starts input hstarts]
    | false => simp [hmounted, ← htruth]
  | complete reply =>
    obtain ⟨hpos, rfl⟩ := guarded_eq_some.mp hstep
    unfold Truthful Honest
    refine imp_congr_right fun hmounted => ?_
    have hflag : s.flag = true := (h hmounted).mpr hpos
    cases b.resumes reply with
    | true =>
      have hlast : ¬ 0 < s.inFlight - 1 ↔ s.inFlight = 1 := by omega
      simpa [hflag, hmounted] using hlast
    | false =>
      have hmore : 0 < s.inFlight - 1 ↔ ¬ s.inFlight = 1 := by omega
      simpa [hflag] using hmore
  | leave =>
    obtain ⟨hshown, rfl⟩ := guarded_eq_some.mp hstep
    refine ⟨fun _ => trivial, fun _ _ => h ?_⟩
    simp [hshown]
  | dispose =>
    obtain ⟨-, rfl⟩ := guarded_eq_some.mp hstep
    exact ⟨fun _ => trivial, fun _ hmounted => absurd rfl hmounted⟩

/-- **When a busy flag tells the truth**: in every run, exactly when all its steps are honest. -/
theorem truthful_iff_honest (es : List (Event ι ρ)) (s t : State) (h : Truthful s)
    (hrun : b.screen.exec s es = some t) :
    b.screen.Always Truthful s es ↔ b.screen.Along b.Honest s es :=
  b.screen.always_iff_along (fun _ _ _ _ _ => trivial) (fun s e s' _ => b.truthful_step s e s')
    es s t trivial h hrun

end BusyButton
end AttendanceApp.BusyFlag
