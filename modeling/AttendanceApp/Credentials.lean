/-
  The two forms, from the text fields to the FireAuth call.

  A text reaches the call by a detour.  The field shows the text of the controller it is built with,
  and `validate()` judges that text; the handler then reads the texts it sends from controllers
  again.  The two agree when the handler reads the controllers of the fields:

  * `SignUp` builds its fields with `_nameTextController`, `_emailTextController` and
    `_passwordTextController`, and its handler reads the same three;
  * `LoginScreen` builds its fields with `nameController` and `passwordController`, and its handler
    reads `_emailTextController` and `_passwordTextController`, which belong to no field.

  A form is the table of these (`Form`), and its runs are edits of the visible fields and presses of
  the submit button, in any order.
-/
import AttendanceApp.Transition
import AttendanceApp.Validator

namespace AttendanceApp.Credentials

open AttendanceApp.Transition Validator

/-- A call of FireAuth, with its arguments. -/
inductive Call where
  | signInUsingEmailPassword (email password : Text)
  | registerUsingEmailPassword (name email password : Text)
  deriving DecidableEq, Repr

/-- A form with fields `φ` and text controllers `κ`. -/
structure Form (φ κ : Type) where
  /-- The fields inside the `Form` widget, in order. -/
  fields : List φ
  all_fields : ∀ field, field ∈ fields
  /-- The controller a field is built with. -/
  controller : φ → κ
  validator : φ → Option Text → Option String
  /-- The controller the handler reads for a field. -/
  argument : φ → κ
  /-- The call the handler makes, from the texts it reads. -/
  call : (φ → Text) → Call

namespace Form

variable {φ κ : Type} (form : Form φ κ)

/-- `validate()`, on the texts shown. -/
def validate (texts : φ → Text) : Bool :=
  form.fields.all fun field => (form.validator field (some (texts field))).isNone

/-- The validators accept every text. -/
def Accepts (texts : φ → Text) : Prop := ∀ field, form.validator field (some (texts field)) = none

theorem validate_iff (texts : φ → Text) : form.validate texts = true ↔ form.Accepts texts := by
  rw [validate, List.all_eq_true, Accepts]
  constructor
  · intro h field
    exact Option.isNone_iff_eq_none.mp (h field (form.all_fields field))
  · intro h field _
    exact Option.isNone_iff_eq_none.mpr (h field)

end Form

/-! ## The two screens -/

/-- The fields of the login form. -/
inductive LoginField where
  | email
  | password
  deriving DecidableEq, Repr

/-- The controllers of `_LoginScreenState`; two of them are on no field. -/
inductive LoginController where
  | nameController
  | passwordController
  | emailTextController
  | passwordTextController
  deriving DecidableEq, Repr

/-- `_LoginScreenState`. -/
def loginScreen : Form LoginField LoginController where
  fields := [.email, .password]
  all_fields field := by cases field <;> decide
  controller
    | .email => .nameController
    | .password => .passwordController
  validator
    | .email => validateEmail
    | .password => validatePassword
  argument
    | .email => .emailTextController
    | .password => .passwordTextController
  call texts := .signInUsingEmailPassword (texts .email) (texts .password)

/-- The fields of the sign-up form. -/
inductive SignUpField where
  | name
  | email
  | password
  deriving DecidableEq, Repr

/-- The controllers of `_SignUpState`, one for each field. -/
inductive SignUpController where
  | nameTextController
  | emailTextController
  | passwordTextController
  deriving DecidableEq, Repr

/-- `_SignUpState`. -/
def signUp : Form SignUpField SignUpController where
  fields := [.name, .email, .password]
  all_fields field := by cases field <;> decide
  controller
    | .name => .nameTextController
    | .email => .emailTextController
    | .password => .passwordTextController
  validator
    | .name => Validator.validateName
    | .email => validateEmail
    | .password => validatePassword
  argument
    | .name => .nameTextController
    | .email => .emailTextController
    | .password => .passwordTextController
  call texts := .registerUsingEmailPassword (texts .name) (texts .email) (texts .password)

/-- What LoginScreen accepts. -/
theorem loginScreen_accepts_iff (texts : LoginField → Text) :
    loginScreen.Accepts texts ↔ Email (texts .email) ∧ 6 ≤ (texts .password).length := by
  rw [← validateEmail_iff, ← validatePassword_iff]
  constructor
  · intro h
    exact ⟨h .email, h .password⟩
  · rintro ⟨hemail, hpassword⟩ field
    cases field with
    | email => exact hemail
    | password => exact hpassword

/-- What SignUp accepts. -/
theorem signUp_accepts_iff (texts : SignUpField → Text) :
    signUp.Accepts texts ↔
      texts .name ≠ [] ∧ Email (texts .email) ∧ 6 ≤ (texts .password).length := by
  rw [← validateName_iff, ← validateEmail_iff, ← validatePassword_iff]
  constructor
  · intro h
    exact ⟨h .name, h .email, h .password⟩
  · rintro ⟨hname, hemail, hpassword⟩ field
    cases field with
    | name => exact hname
    | email => exact hemail
    | password => exact hpassword

/-- On the pages (`Page.press`), where the name is a Lean string and the rest of the form a flag,
    'Sign up' starts a registration exactly when this form accepts its texts. -/
theorem press_signUp (c : Dart.CaseMap) (name : String) (email password : Text) (route : Nat) :
    Page.press c name route .signUp (.signUp ((validateEmail (some email)).isNone &&
      (validatePassword (some password)).isNone)) =
    some (if signUp.validate fun
        | .name => codeUnits name
        | .email => email
        | .password => password
      then { starts := [.createUser route name] } else {}) := by
  have hname : (AttendanceApp.validateName (some name)).isNone =
      (Validator.validateName (some (codeUnits name))).isNone := by
    rw [← validateName_codeUnits]
    rfl
  rw [Page.press, hname, Form.validate]
  simp only [signUp, List.all_cons, List.all_nil, Bool.and_true]
  split <;> rfl

/-! ## Runs -/

/-- A press of the submit button: the texts shown then, and the call it made. -/
structure Press (φ : Type) where
  shown : φ → Text
  call : Option Call

/-- The text of every controller, and the presses so far. -/
structure State (φ κ : Type) where
  text : κ → Text := fun _ => []
  presses : List (Press φ) := []

/-- The student edits a field or presses the button. -/
inductive Event (φ : Type) where
  | edit (field : φ) (text : Text)
  | press

namespace Form

variable {φ κ : Type} [DecidableEq κ] (form : Form φ κ)

/-- The texts the form shows. -/
def shown (s : State φ κ) (field : φ) : Text := s.text (form.controller field)

/-- The texts the handler reads. -/
def arguments (s : State φ κ) (field : φ) : Text := s.text (form.argument field)

/-- An edit writes to the controller of its field; a press validates the texts SHOWN and sends the
    texts READ. -/
def step (s : State φ κ) : Event φ → Option (State φ κ)
  | .edit field text => some { s with text := Function.update s.text (form.controller field) text }
  | .press =>
    let call := if form.validate (form.shown s) then some (form.call (form.arguments s)) else none
    some { s with presses := s.presses ++ [⟨form.shown s, call⟩] }

/-- The screen of the form: any edits and presses. -/
def machine : Machine (State φ κ) (Event φ) := ⟨form.step⟩

theorem exec_total (s : State φ κ) (es : List (Event φ)) : ∃ t, form.machine.exec s es = some t :=
  form.machine.exec_of_total (fun s e => by cases e <;> exact ⟨_, rfl⟩) s es

/-! ## Validated and sent -/

/-- The press made a call exactly if the validators accept the texts shown, and with those texts. -/
def Faithful (press : Press φ) : Prop :=
  (press.call.isSome ↔ form.Accepts press.shown) ∧
  ∀ call, press.call = some call → call = form.call press.shown

/-- **The texts that are validated are the texts that are sent.** -/
def SendsWhatItShows (s : State φ κ) : Prop := ∀ press ∈ s.presses, form.Faithful press

/-- If the button is pressed on texts that are accepted, the handler reads the same texts. -/
def ReadsWhatItShows (s : State φ κ) : Event φ → Prop
  | .edit _ _ => True
  | .press => form.Accepts (form.shown s) → form.call (form.arguments s) = form.call (form.shown s)

/-- **The step lemma.** -/
theorem sends_step (s : State φ κ) (e : Event φ) (s' : State φ κ) (h : form.SendsWhatItShows s)
    (hstep : form.machine.step s e = some s') :
    form.SendsWhatItShows s' ↔ form.ReadsWhatItShows s e := by
  cases e with
  | edit field text =>
    obtain rfl := Option.some.inj hstep
    exact ⟨fun _ => trivial, fun _ => h⟩
  | press =>
    obtain rfl := Option.some.inj hstep
    -- the earlier presses are faithful, so it is about this one
    unfold SendsWhatItShows
    rw [List.forall_mem_append, List.forall_mem_singleton]
    refine (and_iff_right h).trans ?_
    unfold Faithful ReadsWhatItShows
    rw [← form.validate_iff]
    cases form.validate (form.shown s) <;> simp

/-- **When a form sends what it shows**: in every run, exactly when every accepted press reads what
    is shown. -/
theorem sends_iff_reads (s : State φ κ) (es : List (Event φ)) (h : form.SendsWhatItShows s) :
    form.machine.Always form.SendsWhatItShows s es ↔
      form.machine.Along form.ReadsWhatItShows s es := by
  obtain ⟨t, hrun⟩ := form.exec_total s es
  exact form.machine.always_iff_along (fun _ _ _ _ _ => trivial)
    (fun s e s' _ => form.sends_step s e s') es s t trivial h hrun

end Form

/-! ## SignUp -/

/-- Each field of the sign-up form has the controller its text is read from. -/
theorem signUp_reads (s : State SignUpField SignUpController) (e : Event SignUpField) :
    signUp.ReadsWhatItShows s e := by
  have hsame : signUp.arguments s = signUp.shown s := by
    funext field
    cases field <;> rfl
  cases e with
  | edit field text => trivial
  | press => exact fun _ => by rw [hsame]

/-! ## LoginScreen -/

/-- Nothing is ever typed into the controllers that LoginScreen's handler reads. -/
def Unattached (s : State LoginField LoginController) : Prop :=
  ∀ field, loginScreen.arguments s field = []

/-- No edit reaches a controller that is on no field. -/
theorem unattached_step (s : State LoginField LoginController) (e : Event LoginField)
    (s' : State LoginField LoginController) (h : Unattached s)
    (hstep : loginScreen.machine.step s e = some s') : Unattached s' := by
  cases e with
  | edit field text =>
    obtain rfl := Option.some.inj hstep
    intro other
    have hother : loginScreen.argument other ≠ loginScreen.controller field := by
      cases other <;> cases field <;> decide
    exact (Function.update_of_ne hother text s.text).trans (h other)
  | press =>
    obtain rfl := Option.some.inj hstep
    exact h

/-- An email that is accepted is not empty, so it is not what LoginScreen sends. -/
theorem loginScreen_reads_iff {s : State LoginField LoginController} (h : Unattached s) :
    loginScreen.ReadsWhatItShows s .press ↔ ¬ loginScreen.Accepts (loginScreen.shown s) := by
  refine ⟨fun hreads haccepts => ?_, fun hrejects haccepts => absurd haccepts hrejects⟩
  have hcall := hreads haccepts
  have hemail : loginScreen.arguments s .email = loginScreen.shown s .email := by
    injection hcall
  rw [h .email] at hemail
  have haccepted := ((loginScreen_accepts_iff _).mp haccepts).1
  rw [← hemail] at haccepted
  exact not_email_nil haccepted

/-- The button is only pressed on texts that the validators refuse. -/
def Refused (s : State LoginField LoginController) : Event LoginField → Prop
  | .edit _ _ => True
  | .press => ¬ loginScreen.Accepts (loginScreen.shown s)

/-- **When the validated texts are the sent texts**: on SignUp in every run; on LoginScreen exactly
    in the runs in which every press is refused. -/
theorem validated_sent_iff (history : List (Event SignUpField)) (es : List (Event LoginField)) :
    signUp.machine.Always signUp.SendsWhatItShows {} history ∧
    (loginScreen.machine.Always loginScreen.SendsWhatItShows {} es ↔
      loginScreen.machine.Along Refused {} es) := by
  constructor
  · refine (signUp.sends_iff_reads {} history fun _ h => absurd h List.not_mem_nil).mpr ?_
    exact signUp.machine.along_of_forall signUp_reads {} history
  · obtain ⟨t, hrun⟩ := loginScreen.exec_total {} es
    refine loginScreen.machine.always_iff_along unattached_step (fun s e s' hs h hstep => ?_)
      es {} t (fun field => by cases field <;> rfl) (fun _ h => absurd h List.not_mem_nil) hrun
    rw [loginScreen.sends_step s e s' h hstep]
    cases e with
    | edit field text => exact Iff.rfl
    | press => exact loginScreen_reads_iff hs

/-- The login form with texts typed into both fields. -/
def typed (email password : Text) : State LoginField LoginController where
  text := Function.update (Function.update (fun _ => []) .nameController email) .passwordController
    password

/-- A student types an email and a password that are accepted and presses Sign In: the call is made
    with two empty texts. -/
theorem empty_credentials_sent :
    ¬ ∀ es, loginScreen.machine.Always loginScreen.SendsWhatItShows {} es := by
  intro h
  have hemail : Email (codeUnits "17ck023456@stu.cu.edu.ng") := by decide +kernel
  have hpassword : 6 ≤ (codeUnits "secret").length := by decide +kernel
  generalize codeUnits "17ck023456@stu.cu.edu.ng" = email at hemail
  generalize codeUnits "secret" = password at hpassword
  have haccepts : loginScreen.Accepts (loginScreen.shown (typed email password)) :=
    (loginScreen_accepts_iff _).mpr ⟨hemail, hpassword⟩
  have hunattached : Unattached (typed email password) := fun field => by cases field <;> rfl
  have hreads := (loginScreen.sends_iff_reads {}
    [.edit .email email, .edit .password password, .press] fun _ h => absurd h List.not_mem_nil).mp
    (h _)
  have hpress : loginScreen.ReadsWhatItShows (typed email password) .press :=
    ((hreads.2 _ rfl).2 _ rfl).1
  exact (loginScreen_reads_iff hunattached).mp hpress haccepts

end AttendanceApp.Credentials
