/-
  The pages of the app: what each of them carries, and what its buttons do.

  `main.dart` opens `GettingStarted`; every other page is reached by a `Navigator` call of a
  handler, which hands the page its data through the constructor.  The texts a page displays and
  its layout are left out, and so is `RegisterPage`, which nothing opens.  The emails and passwords
  are left out too: whether a form is valid is part of the press, and what Firebase answers part of
  the reply.

  Buttons that do not navigate have their own files (`PreviewScreen.lean` for Send,
  `CameraController.lean` for switching cameras) or are left out (the two of ProfilePage that mail
  and refresh the user).

  Two fields below are not in the source.  They record where the data of a page came from, and no
  handler reads them:

  * `typed`    — the text of the sign-up's name field that the page's matric number was made of;
                 `none` when the ProfilePage was opened by a sign-in, which passes `''`;
  * `session`  — the number of the RegisterCamera route that took the picture.
-/
import AttendanceApp.Navigator
import AttendanceApp.Dart

namespace AttendanceApp

open Dart

/-- The pages and dialogs of the app, each with the data its constructor is handed. -/
inductive Page where
  | gettingStarted
  /-- The lecturers' page. -/
  | sendMail
  | loginScreen
  | signUp
  | profilePage (user : Nat) (matnumber : String) (typed : Option String)
  | registerCamera (matnumber : String) (typed : Option String)
  /-- `imagePath` is a reference to the one global list `paths`, so it is not a field. -/
  | pageImageScreen (matricNumber imageFile : String) (session : Nat) (typed : Option String)
  | secondRoute
  /-- The dialog `showLoadingIndicator` opens. -/
  | loadingIndicator
  | alertDialog
  | cameraScreen (course : String)
  | previewImageScreen (imageFile : String)
  deriving DecidableEq, Repr

/-- `ModalRoute.withName('/')`: the route of `home`. -/
def Page.isHome : Page → Bool
  | .gettingStarted => true
  | _ => false

/-- The pages meant for a signed-in user. -/
def Page.isProtected : Page → Bool
  | .profilePage _ _ _ => true
  | .registerCamera _ _ => true
  | .pageImageScreen _ _ _ _ => true
  | .secondRoute => true
  | .cameraScreen _ => true
  | .previewImageScreen _ => true
  | _ => false

/-! ## What a press does -/

/-- An awaited operation, with the route of the handler that awaits it and what the handler still
    knows when it resumes. -/
inductive Op where
  | signInUsingEmailPassword (route : Nat)
  /-- The three awaits of `registerUsingEmailPassword`. -/
  | createUser (route : Nat) (name : String)
  | updateProfile (route user : Nat)
  | reload (route user : Nat)
  | signOut (route : Nat)
  /-- `_onCapturePressed` of RegisterCamera and of CameraScreen. -/
  | takePicture (route : Nat) (matnumber : String) (typed : Option String)
  | captureFace (route : Nat)
  /-- `_condition` of SecondRoute. -/
  | condition (route : Nat) (course : String)
  | enrollImage (route : Nat) (imageFile subjectId : String)
  deriving DecidableEq, Repr

/-- The buttons of all pages, each with what decides the branch its handler takes. -/
inductive Button where
  | students
  | lecturers
  | register
  /-- `valid` is what `validate()` says of the form. -/
  | signIn (valid : Bool)
  /-- `valid` is what the validators say of the email and the password. -/
  | signUp (valid : Bool)
  | registerFacePicture
  | takeAttendance
  | signOut
  | capture
  | upload
  | course (index : Nat)
  | goToClass
  deriving DecidableEq, Repr

/-- What a handler does before its first `await`. -/
structure Reaction where
  calls : List (Nav Page) := []
  starts : List Op := []

/-- `Validator.validateName`: the error message, if any. -/
def validateName : Option String → Option String
  | none => none
  | some matric_no => if matric_no.isEmpty then some "Matric Number can't be empty" else none

/-- `List.generate(9, (i) => Courses('EIE 52$i'))`. -/
def todos : List String := (List.range 9).map fun i => "EIE 52" ++ toString i

/-- The `onPressed` of a button of the page on route `route`; `name` is the text of the page's
    name field.  `none` when the page has no such button. -/
def Page.press (c : CaseMap) (name : String) (route : Nat) : Page → Button → Option Reaction
  | .gettingStarted, .students => some { calls := [.push .loginScreen] }
  | .gettingStarted, .lecturers => some { calls := [.push .sendMail] }
  | .loginScreen, .register => some { calls := [.push .signUp] }
  | .loginScreen, .signIn valid =>
    if valid then some { starts := [.signInUsingEmailPassword route] } else some {}
  | .signUp, .signUp valid =>
    if (validateName (some name)).isNone && valid then some { starts := [.createUser route name] }
    else some {}
  | .profilePage _ matnumber typed, .registerFacePicture =>
    some { calls := [.push (.registerCamera (c.toUpperCase matnumber) typed)] }
  | .profilePage _ _ _, .takeAttendance => some { calls := [.push .secondRoute] }
  | .profilePage _ _ _, .signOut => some { starts := [.signOut route] }
  | .registerCamera matnumber typed, .capture =>
    some { starts := [.takePicture route matnumber typed] }
  | .pageImageScreen matricNumber imageFile _ _, .upload =>
    some { starts := [.enrollImage route imageFile matricNumber] }
  | .secondRoute, .course index =>
    todos[index]?.map fun title =>
      { calls := [.push .loadingIndicator], starts := [.condition route title] }
  | .alertDialog, .goToClass => some { calls := [.pop] }
  | .cameraScreen _, .capture => some { starts := [.captureFace route] }
  | _, _ => none

/-- The rest of SecondRoute's `onTap`, once `_condition` has come back: the loading dialog is
    hidden, and the distance decides. -/
def afterCondition (course : String) (confirmed : Bool) : List (Nav Page) :=
  if confirmed then [.pop, .push (.cameraScreen course)] else [.pop, .push .alertDialog]

/-- The rest of SignUp's `onPressed`, once `registerUsingEmailPassword` has returned `user`; `name`
    is the text of the name field, which is read again. -/
def afterRegister (c : CaseMap) (name : String) : Option Nat → List (Nav Page)
  | none => []
  | some user =>
    [.pushAndRemoveUntil (.profilePage user (c.toUpperCase name) (some name)) Page.isHome]

theorem openOnly_afterCondition {Q : Page → Prop} {course : String} {confirmed : Bool}
    (hcamera : confirmed = true → Q (.cameraScreen course)) (halert : Q .alertDialog) :
    Navigator.OpenOnly Q (afterCondition course confirmed) := by
  intro call hcall page hopens
  cases confirmed with
  | true =>
    rcases List.mem_cons.mp hcall with rfl | hcall
    · cases hopens
    · obtain rfl := List.mem_singleton.mp hcall
      obtain rfl := Option.some.inj hopens
      exact hcamera rfl
  | false =>
    rcases List.mem_cons.mp hcall with rfl | hcall
    · cases hopens
    · obtain rfl := List.mem_singleton.mp hcall
      obtain rfl := Option.some.inj hopens
      exact halert

theorem openOnly_afterRegister {Q : Page → Prop} {c : CaseMap} {name : String} {user : Option Nat}
    (h : ∀ user', user = some user' → Q (.profilePage user' (c.toUpperCase name) (some name))) :
    Navigator.OpenOnly Q (afterRegister c name user) := by
  cases user with
  | none => exact Navigator.openOnly_nil
  | some user' => exact Navigator.openOnly_opens rfl (h user' rfl)

/-! ## Where presses lead -/

/-- The page a press on a page brings up. -/
inductive Leads (c : CaseMap) : Page → Page → Prop
  | students : Leads c .gettingStarted .loginScreen
  | lecturers : Leads c .gettingStarted .sendMail
  | register : Leads c .loginScreen .signUp
  | registerFacePicture (user : Nat) (matnumber : String) (typed : Option String) :
      Leads c (.profilePage user matnumber typed)
        (.registerCamera (c.toUpperCase matnumber) typed)
  | takeAttendance (user : Nat) (matnumber : String) (typed : Option String) :
      Leads c (.profilePage user matnumber typed) .secondRoute
  | course : Leads c .secondRoute .loadingIndicator

/-- The operation a press on a page starts. -/
inductive Starts (route : Nat) : Page → Button → Op → Prop
  | signIn : Starts route .loginScreen (.signIn true) (.signInUsingEmailPassword route)
  | signUp (name : String) : Starts route .signUp (.signUp true) (.createUser route name)
  | signOut (user : Nat) (matnumber : String) (typed : Option String) :
      Starts route (.profilePage user matnumber typed) .signOut (.signOut route)
  | capture (matnumber : String) (typed : Option String) :
      Starts route (.registerCamera matnumber typed) .capture (.takePicture route matnumber typed)
  | upload (matricNumber imageFile : String) (session : Nat) (typed : Option String) :
      Starts route (.pageImageScreen matricNumber imageFile session typed) .upload
        (.enrollImage route imageFile matricNumber)
  | course (index : Nat) (title : String) :
      Starts route .secondRoute (.course index) (.condition route title)
  | captureFace (course : String) :
      Starts route (.cameraScreen course) .capture (.captureFace route)

/-- `Upload` is a button of PageImageScreen and enrols its file under its matric number. -/
theorem press_upload {c : CaseMap} {name : String} {route : Nat} {page : Page}
    {reaction : Reaction} (h : page.press c name route .upload = some reaction) :
    ∃ matricNumber imageFile session typed,
      page = .pageImageScreen matricNumber imageFile session typed ∧
      reaction = { starts := [.enrollImage route imageFile matricNumber] } := by
  cases page with
  | pageImageScreen matricNumber imageFile session typed =>
    obtain rfl := Option.some.inj h
    exact ⟨matricNumber, imageFile, session, typed, rfl, rfl⟩
  | _ => cases h

/-- **What a press does**: it brings up at most one page, or starts at most one operation. -/
theorem press_cases {c : CaseMap} {name : String} {route : Nat} {page : Page} {button : Button}
    {reaction : Reaction} (h : page.press c name route button = some reaction) :
    Navigator.OpenOnly (Leads c page) reaction.calls ∧
      (reaction.starts = [] ∨ ∃ op, reaction.starts = [op] ∧ Starts route page button op) := by
  simp only [Page.press] at h
  split at h
  · obtain rfl := Option.some.inj h
    exact ⟨Navigator.openOnly_opens rfl .students, Or.inl rfl⟩
  · obtain rfl := Option.some.inj h
    exact ⟨Navigator.openOnly_opens rfl .lecturers, Or.inl rfl⟩
  · obtain rfl := Option.some.inj h
    exact ⟨Navigator.openOnly_opens rfl .register, Or.inl rfl⟩
  · rename_i valid
    -- an invalid form sends nothing
    cases valid with
    | false =>
      obtain rfl := Option.some.inj h
      exact ⟨Navigator.openOnly_nil, Or.inl rfl⟩
    | true =>
      obtain rfl := Option.some.inj h
      exact ⟨Navigator.openOnly_nil, Or.inr ⟨_, rfl, .signIn⟩⟩
  · rename_i valid
    split at h
    · rename_i hvalid
      obtain rfl := Option.some.inj h
      obtain rfl : valid = true := (Bool.and_eq_true_iff.mp hvalid).2
      exact ⟨Navigator.openOnly_nil, Or.inr ⟨_, rfl, .signUp name⟩⟩
    · obtain rfl := Option.some.inj h
      exact ⟨Navigator.openOnly_nil, Or.inl rfl⟩
  · obtain rfl := Option.some.inj h
    exact ⟨Navigator.openOnly_opens rfl (.registerFacePicture _ _ _), Or.inl rfl⟩
  · obtain rfl := Option.some.inj h
    exact ⟨Navigator.openOnly_opens rfl (.takeAttendance _ _ _), Or.inl rfl⟩
  · obtain rfl := Option.some.inj h
    exact ⟨Navigator.openOnly_nil, Or.inr ⟨_, rfl, .signOut _ _ _⟩⟩
  · obtain rfl := Option.some.inj h
    exact ⟨Navigator.openOnly_nil, Or.inr ⟨_, rfl, .capture _ _⟩⟩
  · obtain rfl := Option.some.inj h
    exact ⟨Navigator.openOnly_nil, Or.inr ⟨_, rfl, .upload _ _ _ _⟩⟩
  · obtain ⟨title, -, rfl⟩ := Option.map_eq_some_iff.mp h
    exact ⟨Navigator.openOnly_opens rfl .course, Or.inr ⟨_, rfl, .course _ title⟩⟩
  · obtain rfl := Option.some.inj h
    exact ⟨Navigator.openOnly_pop, Or.inl rfl⟩
  · obtain rfl := Option.some.inj h
    exact ⟨Navigator.openOnly_nil, Or.inr ⟨_, rfl, .captureFace _⟩⟩
  · cases h

end AttendanceApp
