/-
  The four busy flags of the sign-in, sign-up and profile pages.

      LoginScreen   _isProcessing            set after validate()
      SignUp        _isProcessing            set BEFORE validate()
      ProfilePage   _isSendingVerification   the button is hidden while it is set
      ProfilePage   _isSigningOut            the button stays

  Each is a `BusyButton`.  What a press carries is the texts of the form, and what ends an
  operation is what Firebase answers, passed through FireAuth: `registerUsingEmailPassword` catches
  everything, `signInUsingEmailPassword` only a `FirebaseAuthException`, and ProfilePage nothing.
-/
import AttendanceApp.BusyFlag
import AttendanceApp.Credentials
import AttendanceApp.FireAuth

namespace AttendanceApp.BusyIndicators

open BusyFlag Credentials FireAuth Validator

/-- A call that returns; one that throws ends the handler. -/
def returns {α : Type} : Except Exception α → Bool
  | .ok _ => true
  | .error _ => false

/-- 'Sign In' of LoginScreen. -/
def signInButton : BusyButton (LoginField → Text) (Except Exception (Option User)) where
  sets := loginScreen.validate
  starts := loginScreen.validate
  sets_of_starts _ h := h
  offered _ := true
  resumes reply := returns (signInUsingEmailPassword (fun _ _ => reply) [] [])

/-- 'Sign up' of SignUp. -/
def signUpButton : BusyButton (SignUpField → Text) Replies where
  sets _ := true
  starts := signUp.validate
  sets_of_starts _ _ := rfl
  offered _ := true
  -- `registerUsingEmailPassword` always returns
  resumes _ := true

/-- 'Verify email' of ProfilePage. -/
def verifyEmailButton : BusyButton Unit (Except Exception Unit) where
  sets _ := true
  starts _ := true
  sets_of_starts _ _ := rfl
  offered flag := !flag
  resumes := returns

/-- 'Sign out' of ProfilePage. -/
def signOutButton : BusyButton Unit (Except Exception Unit) where
  sets _ := true
  starts _ := true
  sets_of_starts _ _ := rfl
  offered _ := true
  resumes := returns

/-- The one button that is hidden while it is busy never has two operations in flight. -/
theorem verifyEmail_single (es : List (BusyFlag.Event Unit (Except Exception Unit)))
    (s : BusyFlag.State)
    (hrun : verifyEmailButton.screen.exec {} es = some s) : s.inFlight ≤ 1 := by
  -- an operation in flight keeps the flag set, and the flag hides the button
  have hinvariant := verifyEmailButton.screen.exec_invariant
    (I := fun s => s.inFlight ≤ 1 ∧ (0 < s.inFlight → s.flag = true)) ?_ es {} s (by simp) hrun
  · exact hinvariant.1
  intro s e s' hs hstep
  obtain ⟨hle, hflag⟩ := hs
  cases e with
  | press _ =>
    obtain ⟨⟨-, hoffered⟩, rfl⟩ := Transition.guarded_eq_some.mp hstep
    have hidle : s.inFlight = 0 := by
      by_contra hne
      rw [hflag (by omega)] at hoffered
      cases hoffered
    simp [verifyEmailButton, hidle]
  | complete reply =>
    obtain ⟨hpos, rfl⟩ := Transition.guarded_eq_some.mp hstep
    have hlast : s.inFlight - 1 = 0 := by omega
    simp [hlast]
  | leave =>
    obtain ⟨-, rfl⟩ := Transition.guarded_eq_some.mp hstep
    exact ⟨hle, hflag⟩
  | dispose =>
    obtain ⟨-, rfl⟩ := Transition.guarded_eq_some.mp hstep
    exact ⟨hle, hflag⟩

/-! ## The four flags -/

/-- The flags. -/
inductive Indicator where
  | loginIsProcessing
  | signUpIsProcessing
  | isSendingVerification
  | isSigningOut
  deriving DecidableEq, Repr

namespace Indicator

/-- What a press of the button carries. -/
abbrev Input : Indicator → Type
  | .loginIsProcessing => LoginField → Text
  | .signUpIsProcessing => SignUpField → Text
  | .isSendingVerification => Unit
  | .isSigningOut => Unit

/-- What Firebase answers to its operation. -/
abbrev Reply : Indicator → Type
  | .loginIsProcessing => Except Exception (Option User)
  | .signUpIsProcessing => Replies
  | .isSendingVerification => Except Exception Unit
  | .isSigningOut => Except Exception Unit

/-- Its button. -/
def button : (i : Indicator) → BusyButton i.Input i.Reply
  | .loginIsProcessing => signInButton
  | .signUpIsProcessing => signUpButton
  | .isSendingVerification => verifyEmailButton
  | .isSigningOut => signOutButton

/-- What the button sends off: forms of the grammar, and everything where there is no form. -/
def Accepts : (i : Indicator) → i.Input → Prop
  | .loginIsProcessing, texts => Email (texts .email) ∧ 6 ≤ (texts .password).length
  | .signUpIsProcessing, texts =>
    texts .name ≠ [] ∧ Email (texts .email) ∧ 6 ≤ (texts .password).length
  | .isSendingVerification, _ => True
  | .isSigningOut, _ => True

/-- The answers after which the handler goes on. -/
def GoesOn : (i : Indicator) → i.Reply → Prop
  | .loginIsProcessing, reply => reply ≠ .error .other
  | .signUpIsProcessing, _ => True
  | .isSendingVerification, reply => reply = .ok ()
  | .isSigningOut, reply => reply = .ok ()

/-- What an honest step comes to, in texts and answers: Sign up is not pressed on a form it refuses
    while nothing is in flight, and the handler goes on after an operation exactly if it was the
    only one. -/
def Plain (i : Indicator) (s : BusyFlag.State) : BusyFlag.Event i.Input i.Reply → Prop
  | .press input => i = .signUpIsProcessing → ¬ i.Accepts input → 0 < s.inFlight
  | .complete reply => s.life ≠ .disposed → (i.GoesOn reply ↔ s.inFlight = 1)
  | .leave => True
  | .dispose => True

end Indicator

theorem returns_iff (reply : Except Exception Unit) : returns reply = true ↔ reply = .ok () := by
  cases reply with
  | ok _ => exact iff_of_true rfl rfl
  | error e => exact iff_of_false Bool.false_ne_true fun h => by cases h

/-- `signInUsingEmailPassword` throws what is no `FirebaseAuthException`. -/
theorem signIn_returns_iff (reply : Except Exception (Option User)) :
    returns (signInUsingEmailPassword (fun _ _ => reply) [] []) = true ↔ reply ≠ .error .other := by
  cases reply with
  | ok user => exact iff_of_true rfl fun h => by cases h
  | error e =>
    cases e with
    | firebaseAuth code => exact iff_of_true rfl fun h => by cases h
    | other => exact iff_of_false Bool.false_ne_true fun h => h rfl

/-- **What starts an operation.** -/
theorem starts_iff (i : Indicator) (input : i.Input) :
    i.button.starts input = true ↔ i.Accepts input := by
  cases i with
  | loginIsProcessing =>
    exact (loginScreen.validate_iff input).trans (loginScreen_accepts_iff input)
  | signUpIsProcessing => exact (signUp.validate_iff input).trans (signUp_accepts_iff input)
  | isSendingVerification => exact iff_of_true rfl trivial
  | isSigningOut => exact iff_of_true rfl trivial

/-- **What lets the handler go on.** -/
theorem resumes_iff (i : Indicator) (reply : i.Reply) :
    i.button.resumes reply = true ↔ i.GoesOn reply := by
  cases i with
  | loginIsProcessing => exact signIn_returns_iff reply
  | signUpIsProcessing => exact iff_of_true rfl trivial
  | isSendingVerification => exact returns_iff reply
  | isSigningOut => exact returns_iff reply

/-- Only Sign up sets its flag for a press that starts nothing. -/
theorem sets_iff (i : Indicator) (input : i.Input) :
    i.button.sets input = true ↔ i = .signUpIsProcessing ∨ i.Accepts input := by
  cases i with
  | loginIsProcessing =>
    rw [← starts_iff]
    exact ⟨Or.inr, fun h => h.resolve_left fun h => by cases h⟩
  | signUpIsProcessing => exact iff_of_true rfl (Or.inl rfl)
  | isSendingVerification => exact iff_of_true rfl (Or.inr trivial)
  | isSigningOut => exact iff_of_true rfl (Or.inr trivial)

/-- **What honest steps are.** -/
theorem honest_iff_plain (i : Indicator) (s : BusyFlag.State)
    (e : BusyFlag.Event i.Input i.Reply) : i.button.Honest s e ↔ i.Plain s e := by
  cases e with
  | press input =>
    show (i.button.sets input = true → i.button.starts input = false → 0 < s.inFlight) ↔
      (i = .signUpIsProcessing → ¬ i.Accepts input → 0 < s.inFlight)
    rw [sets_iff, ← Bool.not_eq_true, starts_iff]
    constructor
    · intro h hsignUp
      exact h (Or.inl hsignUp)
    · rintro h (hsignUp | haccepts) hrefused
      · exact h hsignUp hrefused
      · exact absurd haccepts hrefused
  | complete reply =>
    show (s.life ≠ .disposed → (i.button.resumes reply = true ↔ s.inFlight = 1)) ↔
      (s.life ≠ .disposed → (i.GoesOn reply ↔ s.inFlight = 1))
    rw [resumes_iff]
  | leave => exact Iff.rfl
  | dispose => exact Iff.rfl

/-- **When the busy indicators tell the truth**: in every run, exactly when all its steps are
    honest; and an honest step is what `Plain` says it is, with the presses that start an operation
    those whose texts are accepted. -/
theorem busy_iff_honest (i : Indicator) (es : List (BusyFlag.Event i.Input i.Reply))
    (s : BusyFlag.State) (hrun : i.button.screen.exec {} es = some s) :
    (i.button.screen.Always BusyButton.Truthful {} es ↔
      i.button.screen.Along i.button.Honest {} es) ∧
    (∀ s e, i.button.Honest s e ↔ i.Plain s e) ∧
    ∀ input, i.button.starts input = true ↔ i.Accepts input :=
  ⟨i.button.truthful_iff_honest es {} s (fun _ => by simp) hrun, honest_iff_plain i, starts_iff i⟩

/-- One sign-out that comes through. -/
theorem sign_out_indicated :
    signOutButton.screen.Always BusyButton.Truthful {} [.press (), .complete (.ok ())] := by
  refine (busy_iff_honest .isSigningOut [.press (), .complete (.ok ())] _ rfl).1.mpr ?_
  refine .cons _ rfl ?_ (.cons _ rfl ?_ trivial)
  · intro _ h
    cases h
  · exact fun _ => ⟨fun _ => rfl, fun _ => rfl⟩

/-- Sign up is pressed on the empty form, which is refused: the indicator turns, with nothing in
    flight. -/
theorem empty_form_busy :
    ¬ ∀ (i : Indicator) (es : List (BusyFlag.Event i.Input i.Reply)) (s : BusyFlag.State),
      i.button.screen.exec {} es = some s → i.button.screen.Always BusyButton.Truthful {} es := by
  intro h
  have hbusy := h .signUpIsProcessing [.press fun _ => []] { flag := true } rfl
  have htruth := (hbusy.2 _ rfl) (by decide)
  exact absurd (htruth.mp rfl) (by decide)

end AttendanceApp.BusyIndicators
