/-
  Sign In and Sign up against one account store.

  The forms (`Credentials.lean`), the calls of FireAuth they make (`Registrations.lean`,
  `FireAuth.lean`) and Firebase are put together here: any number of LoginScreens and SignUps, on
  any phones, edited and submitted in any order, with the calls resuming in any order.

  Two things follow that no part of it shows.

  * SignUp lets no account through but those of a proper email, with a password of six characters or
    more and no empty name (`accounts_proper`).
  * LoginScreen sends the texts of two controllers that belong to no field, that is, two empty
    texts; there is no account for them; so nobody ever signs in (`nobody_signs_in`).

  What Firebase answers to a sign-in is part of the event.  It names a user only for the account of
  that email, if the password is the one of the account (`Genuine`).
-/
import AttendanceApp.Credentials
import AttendanceApp.Registrations

namespace AttendanceApp.Access

open AttendanceApp.Transition Validator FireAuth Credentials
open Registrations (Firebase Answers Act registering Phase named)

/-! ## The forms and Firebase -/

/-- A form, by its phone and its place there. -/
structure Form where
  phone : Nat
  route : Nat
  deriving DecidableEq, Repr

/-- The forms, what goes on at Firebase, and the sign-ins. -/
structure State where
  logins : Form → Credentials.State LoginField LoginController := fun _ => {}
  signUps : Form → Credentials.State SignUpField SignUpController := fun _ => {}
  /-- The accounts and current users, and the calls of `registerUsingEmailPassword`. -/
  registrations : Serial.State Firebase Act Phase
  /-- The phones, emails and passwords of the calls of `signInUsingEmailPassword` that await an
      answer. -/
  signIns : List (Nat × Text × Text) := []
  /-- What the other calls of `signInUsingEmailPassword` have come to. -/
  results : List (Except Exception (Option User)) := []

/-- Nothing has been typed yet. -/
def State.start (firebase : Firebase) : State := { registrations := ⟨firebase, []⟩ }

/-- What can happen next. -/
inductive Event where
  | login (form : Form) (e : Credentials.Event LoginField)
  /-- `answers` is what Firebase will answer to the registration, if the event makes one. -/
  | signUp (form : Form) (e : Credentials.Event SignUpField) (answers : Answers)
  /-- What a registration awaits comes through. -/
  | registration (call : Nat)
  /-- Firebase answers a sign-in. -/
  | answer (call : Nat) (reply : Except Exception (Option User))

/-- A user that Firebase names in answer to a sign-in. -/
def Genuine (store : Store) (email password : Text) : Except Exception (Option User) → Prop
  | .ok (some user) => user.email = email ∧ ∃ account ∈ store email, account.password = password
  | _ => True

instance (store : Store) (email password : Text) : DecidablePred (Genuine store email password)
  | .ok (some user) =>
    inferInstanceAs
      (Decidable (user.email = email ∧ ∃ account ∈ store email, account.password = password))
  | .ok none => isTrue trivial
  | .error _ => isTrue trivial

/-- The call a form has made in this event. -/
def madeCall {φ κ : Type} (s : Credentials.State φ κ) : Credentials.Event φ → Option Call
  | .edit _ _ => none
  | .press => s.presses.getLast?.bind Press.call

/-- A call of FireAuth starts on a phone. -/
def State.begin (s : State) (phone : Nat) (answers : Answers) : Option Call → State
  | none => s
  | some (.signInUsingEmailPassword email password) =>
    { s with signIns := s.signIns ++ [(phone, email, password)] }
  | some (.registerUsingEmailPassword name email password) =>
    { s with
      registrations :=
        { s.registrations with
          calls := s.registrations.calls ++
            [(.register ⟨phone, name, email, password, answers⟩, registering.entry)] } }

/-- Firebase has answered a sign-in on a phone: a user it names is signed in there. -/
def comesIn (registrations : Serial.State Firebase Act Phase) (phone : Nat) :
    Except Exception (Option User) → Serial.State Firebase Act Phase
  | .ok (some user) =>
    { shared := registrations.shared.signIn phone (some user)
      calls := registrations.calls ++ [(.session phone (some user), .returned (some user))] }
  | _ => registrations

/-- No registration comes out of a LoginScreen. -/
def noAnswers : Answers := ⟨.ok (), .ok (), .ok ()⟩

/-- What an event does. -/
def step (s : State) : Event → Option State
  | .login i e =>
    (loginScreen.step (s.logins i) e).map fun form =>
      { s with logins := Function.update s.logins i form }.begin i.phone noAnswers
        (madeCall form e)
  | .signUp i e answers =>
    (signUp.step (s.signUps i) e).map fun form =>
      { s with signUps := Function.update s.signUps i form }.begin i.phone answers
        (madeCall form e)
  | .registration call =>
    (registering.step s.registrations (.resume call)).map fun registrations =>
      { s with registrations := registrations }
  | .answer call reply =>
    match s.signIns[call]? with
    | none => none
    | some (phone, email, password) =>
      if Genuine s.registrations.shared.store email password reply then
        some
          { s with
            registrations := comesIn s.registrations phone reply
            signIns := s.signIns.eraseIdx call
            results := s.results ++
              [signInUsingEmailPassword (fun _ _ => reply) email password] }
      else none

/-- All forms of all phones against one Firebase. -/
def access : Machine State Event := ⟨step⟩

/-! ## What the forms send -/

/-- What LoginScreen sends is empty, whatever it shows. -/
theorem login_call {s form : Credentials.State LoginField LoginController}
    {e : Credentials.Event LoginField} {call : Call} (h : Unattached s)
    (hstep : loginScreen.step s e = some form) (hcall : madeCall form e = some call) :
    call = .signInUsingEmailPassword [] [] := by
  cases e with
  | edit field text => cases hcall
  | press =>
    obtain rfl := Option.some.inj hstep
    unfold madeCall at hcall
    rw [List.getLast?_concat, Option.bind_some] at hcall
    simp only at hcall
    split at hcall
    · obtain rfl := Option.some.inj hcall
      show Call.signInUsingEmailPassword (loginScreen.arguments s .email)
        (loginScreen.arguments s .password) = _
      rw [h .email, h .password]
    · cases hcall

/-- What SignUp sends has been accepted. -/
theorem signUp_call {s form : Credentials.State SignUpField SignUpController}
    {e : Credentials.Event SignUpField} {call : Call} (hstep : signUp.step s e = some form)
    (hcall : madeCall form e = some call) :
    ∃ name email password, call = .registerUsingEmailPassword name email password ∧
      name ≠ [] ∧ Email email ∧ 6 ≤ password.length := by
  cases e with
  | edit field text => cases hcall
  | press =>
    obtain rfl := Option.some.inj hstep
    unfold madeCall at hcall
    rw [List.getLast?_concat, Option.bind_some] at hcall
    simp only at hcall
    split at hcall
    · rename_i hvalid
      obtain rfl := Option.some.inj hcall
      have haccepts := (signUp_accepts_iff _).mp ((signUp.validate_iff _).mp hvalid)
      have hsame : signUp.arguments s = signUp.shown s := by
        funext field
        cases field <;> rfl
      rw [← hsame] at haccepts
      exact ⟨_, _, _, rfl, haccepts⟩
    · cases hcall

/-! ## What a registration does to the accounts -/

/-- The texts of a call that SignUp has let through. -/
structure Accepted (x : Registrations.Call) : Prop where
  name : x.name ≠ []
  email : Email x.email
  password : 6 ≤ x.password.length

/-- An account that SignUp lets through. -/
structure Proper (email : Text) (account : Account) : Prop where
  email : Email email
  password : 6 ≤ account.password.length
  displayName : ∀ name, account.displayName = some name → name ≠ []

/-- A call that has made an account made it for its own email, which had none at the start. -/
def Own (before : Store) (x : Registrations.Call) : Phase → Prop
  | .updateProfile user => user = ⟨x.email⟩ ∧ before x.email = none
  | .reload user => user = ⟨x.email⟩ ∧ before x.email = none
  | _ => True

/-- The accounts: those of the start are as they were, and the others proper. -/
structure Guarded (before store : Store) : Prop where
  kept : ∀ email account, before email = some account → store email = some account
  made : ∀ email account, before email = none → store email = some account → Proper email account

/-- What is under way at Firebase: the registrations are SignUp's. -/
def Fine (before : Store) : Act → Phase → Prop
  | .register x, p => Accepted x ∧ Own before x p
  | .session _ _, _ => True

section Accounts

variable {before store : Store} {firebase : Firebase} {x : Registrations.Call} {p : Phase}

theorem guarded_start (before : Store) : Guarded before before :=
  ⟨fun _ _ h => h, fun _ _ hnone hsome => by rw [hnone] at hsome; cases hsome⟩

/-- Writing a proper account under an email that had none at the start. -/
theorem Guarded.update (h : Guarded before store) {email : Text} {account : Option Account}
    (hnone : before email = none) (hproper : ∀ a, account = some a → Proper email a) :
    Guarded before (Function.update store email account) := by
  refine ⟨?_, ?_⟩
  · intro email' a ha
    have hne : email' ≠ email := by
      rintro rfl
      rw [hnone] at ha
      cases ha
    rw [Function.update_of_ne hne]
    exact h.kept email' a ha
  · intro email' a hnone' ha
    by_cases heq : email' = email
    · subst heq
      rw [Function.update_self] at ha
      exact hproper a ha
    · rw [Function.update_of_ne heq] at ha
      exact h.made email' a hnone' ha

/-- An account that is created has a proper password, and its email was free before. -/
theorem guarded_withAccount (h : Guarded before store) (hx : Accepted x)
    (hfree : ¬ (store x.email).isSome = true) :
    Guarded before (withAccount store x.email x.password none) ∧ before x.email = none := by
  have hnone : before x.email = none := by
    cases hbefore : before x.email with
    | none => rfl
    | some a =>
      rw [h.kept x.email a hbefore] at hfree
      exact absurd rfl hfree
  refine ⟨?_, hnone⟩
  unfold withAccount
  apply h.update hnone
  intro a ha
  obtain rfl := Option.some.inj ha
  refine ⟨hx.email, hx.password, ?_⟩
  intro name hname
  cases hname

/-- Giving it its name changes nothing about that. -/
theorem guarded_named (h : Guarded before store) (hx : Accepted x)
    (hnone : before x.email = none) : Guarded before (named store x.email x.name) := by
  unfold named
  apply h.update hnone
  intro a ha
  obtain ⟨old, hold, rfl⟩ := Option.map_eq_some_iff.mp ha
  have hproper := h.made x.email old hnone hold
  refine ⟨hproper.email, hproper.password, ?_⟩
  intro name hname
  obtain rfl := Option.some.inj hname
  exact hx.name

/-- **A step of a registration** keeps the accounts guarded. -/
theorem guarded_advance (h : Guarded before firebase.store) (hx : Accepted x)
    (hown : Own before x p) :
    Guarded before (x.advance p firebase).1.store ∧ Own before x (x.advance p firebase).2 := by
  cases p with
  | createUser =>
    rw [Registrations.advance_createUser]
    by_cases htaken : (firebase.store x.email).isSome = true
    · rw [if_pos htaken]
      exact ⟨h, trivial⟩
    · rw [if_neg htaken]
      cases x.answers.createUser with
      | error e => exact ⟨h, trivial⟩
      | ok _ =>
        obtain ⟨hguarded, hnone⟩ := guarded_withAccount h hx htaken
        exact ⟨hguarded, rfl, hnone⟩
  | updateProfile user =>
    obtain ⟨rfl, hnone⟩ := hown
    rw [Registrations.advance_updateProfile]
    cases x.answers.updateProfile with
    | error e => exact ⟨h, trivial⟩
    | ok _ => exact ⟨guarded_named h hx hnone, rfl, hnone⟩
  | reload user =>
    obtain ⟨result, hresult⟩ := Registrations.advance_reload x firebase user
    rw [hresult]
    exact ⟨h, trivial⟩
  | refused => exact ⟨h, trivial⟩
  | returned user => exact ⟨h, trivial⟩

/-- So does every step at Firebase. -/
theorem guarded_act {a : Act} (h : Guarded before firebase.store) (ha : Fine before a p) :
    Guarded before (a.advance p firebase).1.store ∧ Fine before a (a.advance p firebase).2 := by
  cases a with
  | session phone user => exact ⟨h, trivial⟩
  | register x =>
    obtain ⟨hguarded, hown⟩ := guarded_advance h ha.1 ha.2
    exact ⟨hguarded, ha.1, hown⟩

end Accounts

/-! ## The invariant -/

/-- Nothing is typed into what LoginScreen reads, so its calls are empty; the registrations are
    SignUp's; and a user comes back only for an account with an empty email. -/
structure Sound (before : Store) (s : State) : Prop where
  logins : ∀ i, Unattached (s.logins i)
  signIns : ∀ x ∈ s.signIns, x.2 = ([], [])
  calls : ∀ c ∈ s.registrations.calls, Fine before c.1 c.2
  store : Guarded before s.registrations.shared.store
  results : before [] = none → ∀ result ∈ s.results, ∀ user, result ≠ .ok (some user)

section Steps

variable {firebase : Firebase} {before : Store} {s s' : State}

theorem sound_start (firebase : Firebase) : Sound firebase.store (.start firebase) where
  logins := fun _ field => by cases field <;> rfl
  signIns := fun _ h => absurd h List.not_mem_nil
  calls := fun _ h => absurd h List.not_mem_nil
  store := guarded_start firebase.store
  results := fun _ _ h => absurd h List.not_mem_nil

/-- An edit or a press on the login form. -/
theorem sound_login (h : Sound before s) {i : Form}
    {form : Credentials.State LoginField LoginController} {e : Credentials.Event LoginField}
    (hstep : loginScreen.step (s.logins i) e = some form) :
    Sound before
      ({ s with logins := Function.update s.logins i form }.begin i.phone noAnswers
        (madeCall form e)) := by
  have hlogins : ∀ j, Unattached (Function.update s.logins i form j) := by
    intro j
    by_cases hj : j = i
    · subst hj
      rw [Function.update_self]
      exact unattached_step (s.logins j) e form (h.logins j) hstep
    · rw [Function.update_of_ne hj]
      exact h.logins j
  cases hcall : madeCall form e with
  | none => exact ⟨hlogins, h.signIns, h.calls, h.store, h.results⟩
  | some call =>
    obtain rfl := login_call (h.logins i) hstep hcall
    refine ⟨hlogins, ?_, h.calls, h.store, h.results⟩
    intro x hx
    rcases List.mem_append.mp hx with hx | hx
    · exact h.signIns x hx
    · rw [List.mem_singleton.mp hx]

/-- An edit or a press on the sign-up form; a press that makes a call has passed the validators. -/
theorem sound_signUp (h : Sound before s) {i : Form}
    {form : Credentials.State SignUpField SignUpController} {e : Credentials.Event SignUpField}
    (answers : Answers) (hstep : signUp.step (s.signUps i) e = some form) :
    Sound before
      ({ s with signUps := Function.update s.signUps i form }.begin i.phone answers
        (madeCall form e)) := by
  cases hcall : madeCall form e with
  | none => exact ⟨h.logins, h.signIns, h.calls, h.store, h.results⟩
  | some call =>
    obtain ⟨name, email, password, rfl, hname, hemail, hpassword⟩ := signUp_call hstep hcall
    refine ⟨h.logins, h.signIns, ?_, h.store, h.results⟩
    intro c hc
    rcases List.mem_append.mp hc with hc | hc
    · exact h.calls c hc
    · obtain rfl := List.mem_singleton.mp hc
      exact ⟨⟨hname, hemail, hpassword⟩, trivial⟩

/-- A registration goes on. -/
theorem sound_registration (h : Sound before s) {call : Nat}
    {registrations : Serial.State Firebase Act Phase}
    (hstep : registering.step s.registrations (.resume call) = some registrations) :
    Sound before { s with registrations := registrations } := by
  have hstep : registering.interleaving.step s.registrations (.resume call) =
      some registrations := hstep
  cases Serial.step_cases hstep with
  | resume _ a p hcall hend =>
    have hfine : Fine before a p := h.calls (a, p) (List.mem_of_getElem? hcall)
    obtain ⟨hguarded, hfine'⟩ := guarded_act h.store hfine
    refine ⟨h.logins, h.signIns, ?_, hguarded, h.results⟩
    intro c hc
    rcases List.mem_or_eq_of_mem_set hc with hc | rfl
    · exact h.calls c hc
    · exact hfine'

/-- A sign-in touches no account. -/
theorem store_comesIn (registrations : Serial.State Firebase Act Phase) (phone : Nat)
    (reply : Except Exception (Option User)) :
    (comesIn registrations phone reply).shared.store = registrations.shared.store := by
  unfold comesIn
  split
  · rfl
  · rfl

/-- It is no registration. -/
theorem calls_comesIn {registrations : Serial.State Firebase Act Phase} {phone : Nat}
    {reply : Except Exception (Option User)} {c : Act × Phase}
    (h : c ∈ (comesIn registrations phone reply).calls) :
    c ∈ registrations.calls ∨ ∃ user, c.1 = .session phone user := by
  unfold comesIn at h
  split at h
  · rename_i user
    rcases List.mem_append.mp h with h | h
    · exact Or.inl h
    · rw [List.mem_singleton.mp h]
      exact Or.inr ⟨some user, rfl⟩
  · exact Or.inl h

/-- **An answer to a sign-in** names nobody: it is about the account of the empty email. -/
theorem sound_answer (h : Sound before s) {call phone : Nat} {email password : Text}
    {reply : Except Exception (Option User)}
    (hcall : s.signIns[call]? = some (phone, email, password))
    (hreply : Genuine s.registrations.shared.store email password reply) :
    Sound before
      { s with
        registrations := comesIn s.registrations phone reply
        signIns := s.signIns.eraseIdx call
        results := s.results ++ [signInUsingEmailPassword (fun _ _ => reply) email password] } := by
  refine ⟨h.logins, ?_, ?_, ?_, ?_⟩
  · intro x hx
    exact h.signIns x (List.mem_of_mem_eraseIdx hx)
  · intro c hc
    show Fine before c.1 c.2
    rcases calls_comesIn hc with hc | ⟨user, hsession⟩
    · exact h.calls c hc
    · rw [hsession]
      trivial
  · rw [store_comesIn]
    exact h.store
  · intro hempty result hresult user
    rcases List.mem_append.mp hresult with hresult | hresult
    · exact h.results hempty result hresult user
    · obtain rfl := List.mem_singleton.mp hresult
      obtain ⟨rfl, rfl⟩ := Prod.mk.inj (h.signIns _ (List.mem_of_getElem? hcall))
      intro hsigned
      -- only a reply that names a user makes the call return one
      have hnamed : reply = .ok (some user) := by
        unfold signInUsingEmailPassword at hsigned
        split at hsigned
        · rename_i _ hanswer
          exact hanswer.trans hsigned
        · cases hsigned
        · cases hsigned
      subst hnamed
      obtain ⟨-, account, haccount, -⟩ := hreply
      exact absurd (h.store.made [] account hempty haccount).email not_email_nil

/-- **The step lemma.** -/
theorem sound_step {e : Event} (h : Sound before s) (hstep : access.step s e = some s') :
    Sound before s' := by
  cases e with
  | login i e =>
    obtain ⟨form, hform, rfl⟩ := Option.map_eq_some_iff.mp hstep
    exact sound_login h hform
  | signUp i e answers =>
    obtain ⟨form, hform, rfl⟩ := Option.map_eq_some_iff.mp hstep
    exact sound_signUp h answers hform
  | registration call =>
    obtain ⟨registrations, hregistrations, rfl⟩ := Option.map_eq_some_iff.mp hstep
    exact sound_registration h hregistrations
  | answer call reply =>
    simp only [access, step] at hstep
    split at hstep
    · cases hstep
    · rename_i phone email password hcall
      obtain ⟨hreply, rfl⟩ := guarded_eq_some.mp hstep
      exact sound_answer h hcall hreply

/-- **The run lemma.** -/
theorem sound_of_run {es : List Event} {t : State}
    (hrun : access.exec (.start firebase) es = some t) : Sound firebase.store t :=
  access.exec_invariant (fun _ _ _ => sound_step) es _ t (sound_start firebase) hrun

/-- The call a form makes is all it does to the registrations. -/
theorem registrations_begin (s : State) (phone : Nat) (answers : Answers) (call : Option Call) :
    ∃ ds, registering.interleaving.exec s.registrations ds =
      some (s.begin phone answers call).registrations := by
  cases call with
  | none => exact ⟨[], rfl⟩
  | some call =>
    cases call with
    | signInUsingEmailPassword email password => exact ⟨[], rfl⟩
    | registerUsingEmailPassword name email password =>
      exact ⟨[.call (.register ⟨phone, name, email, password, answers⟩)], rfl⟩

/-- A sign-in that comes through is a call of one step. -/
theorem registrations_comesIn (registrations : Serial.State Firebase Act Phase) (phone : Nat)
    (reply : Except Exception (Option User)) :
    ∃ ds, registering.interleaving.exec registrations ds =
      some (comesIn registrations phone reply) := by
  unfold comesIn
  split
  · rename_i user
    refine ⟨[.call (.session phone (some user)), .resume registrations.calls.length], ?_⟩
    have hcalled :
        registering.interleaving.step registrations (.call (.session phone (some user))) =
        some { registrations with
          calls := registrations.calls ++ [(.session phone (some user), .createUser)] } := rfl
    refine registering.interleaving.exec_cons_some.mpr ⟨_, hcalled, ?_⟩
    have hresumed := Serial.step_resume (P := registering)
      (t := { registrations with
        calls := registrations.calls ++ [(.session phone (some user), .createUser)] })
      (List.getElem?_concat_length (l := registrations.calls)) rfl
    refine registering.interleaving.exec_cons_some.mpr ⟨_, hresumed, ?_⟩
    rw [List.set_append_right _ _ (Nat.le_refl _), Nat.sub_self]
    rfl
  · exact ⟨[], rfl⟩

/-- **The registrations behind the forms are a run of `registering`**, so what holds of any
    overlapping registrations (`Registrations.lean`) holds of those the forms start. -/
theorem registrations_of_run {es : List Event} {t : State}
    (hrun : access.exec (.start firebase) es = some t) :
    ∃ ds, registering.interleaving.exec ⟨firebase, []⟩ ds = some t.registrations := by
  refine access.exec_simulates registering.interleaving (f := State.registrations)
    (I := fun _ => True) (fun _ _ _ _ _ => trivial) ?_ es _ t trivial hrun
  intro s e s' _ hstep
  cases e with
  | login i e =>
    obtain ⟨form, -, rfl⟩ := Option.map_eq_some_iff.mp hstep
    exact registrations_begin { s with logins := Function.update s.logins i form } _ _ _
  | signUp i e answers =>
    obtain ⟨form, -, rfl⟩ := Option.map_eq_some_iff.mp hstep
    exact registrations_begin { s with signUps := Function.update s.signUps i form } _ _ _
  | registration call =>
    obtain ⟨registrations, hregistrations, rfl⟩ := Option.map_eq_some_iff.mp hstep
    refine ⟨[.resume call], ?_⟩
    exact registering.interleaving.exec_cons_some.mpr ⟨registrations, hregistrations, rfl⟩
  | answer call reply =>
    simp only [access, step] at hstep
    split at hstep
    · cases hstep
    · obtain ⟨-, rfl⟩ := guarded_eq_some.mp hstep
      exact registrations_comesIn s.registrations _ reply

end Steps

/-! ## Who gets in -/

/-- **Nobody signs in**: in every run of any number of forms, on a store that has no account for the
    empty email, no call of `signInUsingEmailPassword` ever returns a user, whatever is typed and
    whoever has an account. -/
theorem nobody_signs_in (before : Firebase) (hempty : before.store [] = none) (es : List Event)
    (t : State) (hrun : access.exec (.start before) es = some t) :
    ∀ result ∈ t.results, ∀ user, result ≠ .ok (some user) :=
  (sound_of_run hrun).results hempty

/-- A student signs up, and then signs in with the same email and password. -/
def visit : List Event :=
  [.signUp ⟨0, 1⟩ (.edit .name (codeUnits "17CK023456")) noAnswers,
    .signUp ⟨0, 1⟩ (.edit .email (codeUnits "s@cu.edu")) noAnswers,
    .signUp ⟨0, 1⟩ (.edit .password (codeUnits "secret")) noAnswers,
    .signUp ⟨0, 1⟩ .press noAnswers, .registration 0, .registration 0, .registration 0,
    .login ⟨0, 0⟩ (.edit .email (codeUnits "s@cu.edu")),
    .login ⟨0, 0⟩ (.edit .password (codeUnits "secret")), .login ⟨0, 0⟩ .press,
    .answer 0 (.error (.firebaseAuth "invalid-email"))]

theorem visit_runs : (access.exec (.start Registrations.noAccounts) visit).isSome = true := by
  decide +kernel

/-- All forms and Firebase after the visit. -/
def afterVisit : State := (access.exec (.start Registrations.noAccounts) visit).get visit_runs

theorem exec_visit : access.exec (.start Registrations.noAccounts) visit = some afterVisit :=
  (Option.some_get visit_runs).symm

/-- A visitor signs up, and fails to sign in with the very email and password. -/
theorem visitor_not_signed_in :
    afterVisit.results.length = 1 ∧
      ∀ result ∈ afterVisit.results, ∀ user, result ≠ .ok (some user) :=
  ⟨by decide +kernel, nobody_signs_in Registrations.noAccounts rfl visit afterVisit exec_visit⟩

/-- **What SignUp lets through**: in every run of any number of forms, every account stays as it was
    at the start, and every other one has an email of the grammar, a password of six characters or
    more and, if it has a name, one that is not empty. -/
theorem accounts_proper (before : Firebase) (es : List Event) (t : State)
    (hrun : access.exec (.start before) es = some t) :
    (∀ email account, before.store email = some account →
      t.registrations.shared.store email = some account) ∧
    ∀ email account, before.store email = none →
      t.registrations.shared.store email = some account → Proper email account :=
  ⟨(sound_of_run hrun).store.kept, (sound_of_run hrun).store.made⟩

/-- The account that this visitor leaves behind is a proper one. -/
theorem visitor_account_proper :
    (∀ email account, Registrations.noAccounts.store email = some account →
      afterVisit.registrations.shared.store email = some account) ∧
    ∀ email account, Registrations.noAccounts.store email = none →
      afterVisit.registrations.shared.store email = some account → Proper email account :=
  accounts_proper Registrations.noAccounts visit afterVisit exec_visit

end AttendanceApp.Access
