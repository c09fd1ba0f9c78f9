/-
  The app as a whole: one navigator, the Firebase user, and the operations in flight.

  A press starts the handler of a button of the TOP page.  The handler runs to its first `await`;
  when the awaited operation completes, the rest of the handler runs on the navigator as it is
  THEN.  `Navigator.of(context)` acts on whatever page is on top, and `setState` throws when the
  page of the handler has been disposed meanwhile: `App.resume` is that rule, once for all
  handlers.

  What is kept of the rest of the app:

  * an account is its number, with the name that was given to `registerUsingEmailPassword`;
    the app may start with any accounts and with a remembered user;
  * the replies of Firebase, the cameras, the location check (`ConfirmLocation.lean`) and the
    recogniser (`RegisterPreview.lean`) are part of the event that completes the operation;
  * `_initializeFirebase` runs in every `build` of a LoginScreen, so it may come through at any
    moment while one is mounted.

  `signedOut`, the owner of an enrolment, and the session and matric number of a picture are kept
  for the statements; no handler reads them.
-/
import AttendanceApp.Transition
import AttendanceApp.Pages

namespace AttendanceApp

open Transition Dart

/-! ## The state -/

/-- An entry of `paths`: its path, and the RegisterCamera route and matric number it was taken
    for. -/
structure Picture where
  path : String
  session : Nat
  matnumber : String
  deriving DecidableEq, Repr

/-- A call `enrollImage(imageFile, subjectId)`, with the name under which the account signed in at
    that moment was registered. -/
structure Enrolment where
  imageFile : String
  subjectId : String
  owner : Option String
  deriving DecidableEq, Repr

/-- The navigator, the Firebase accounts as far as the app knows them, and what its handlers have
    started and stored. -/
structure App where
  nav : Navigator Page
  /-- The name each account was registered with. -/
  accounts : List String
  currentUser : Option Nat
  /-- The text of the name field of each SignUp route. -/
  names : Nat → String := fun _ => ""
  inFlight : List Op := []
  /-- The top-level `paths` of `Register_camera.dart`. -/
  paths : List Picture := []
  enrolments : List Enrolment := []
  /-- A sign-out has completed and nobody has signed in since. -/
  signedOut : Bool := false

/-- `main()`. -/
def App.start (accounts : List String) (currentUser : Option Nat) : App where
  nav := { stack := [⟨0, .gettingStarted⟩], nextId := 1 }
  accounts := accounts
  currentUser := currentUser

/-- The name the account that is signed in was registered with. -/
def App.registeredName (s : App) : Option String := s.currentUser.bind (s.accounts[·]?)

/-! ## Handlers -/

/-- Calls of the `Navigator`. -/
def App.go (s : App) (calls : List (Nav Page)) : App := { s with nav := s.nav.navigateAll calls }

/-- The rest of a handler of route `route`: on a disposed page it ends on an error instead. -/
def App.resume (s : App) (route : Nat) (calls : List (Nav Page)) : App :=
  if s.nav.mounted route then s.go calls else s

/-- The enrolment an operation is. -/
def App.enrolment (s : App) : Op → Option Enrolment
  | .enrollImage _ imageFile subjectId => some ⟨imageFile, subjectId, s.registeredName⟩
  | _ => none

/-- The start of a handler. -/
def App.react (s : App) (reaction : Reaction) : App :=
  { s with
    nav := s.nav.navigateAll reaction.calls
    inFlight := s.inFlight ++ reaction.starts
    enrolments := s.enrolments ++ reaction.starts.filterMap s.enrolment }

/-- How an operation ends. -/
inductive Reply where
  /-- It throws, or comes back with nothing. -/
  | failed
  | done
  | user (user : Nat)
  | picture (path : String)
  /-- `_condition` came through, and whether the distance lets the student in. -/
  | confirmed (yes : Bool)
  deriving DecidableEq, Repr

/-- Operation `op` ends with the reply, and the rest of its handler runs.  `none` when `op` cannot
    end so: only registered accounts sign in, and `takePicture` throws when its file exists. -/
def App.complete (c : CaseMap) (s : App) : Op → Reply → Option App
  -- a sign-in knows no matric number and passes `''`
  | .signInUsingEmailPassword route, .user user =>
    if user < s.accounts.length then
      some ({ s with currentUser := some user, signedOut := false }.resume route
        [.pushReplacement (.profilePage user "" none)])
    else none
  | .createUser route name, .done =>
    some
      { s with
        accounts := s.accounts ++ [name]
        currentUser := some s.accounts.length
        signedOut := false
        inFlight := s.inFlight ++ [.updateProfile route s.accounts.length] }
  | .updateProfile route user, .done =>
    some { s with inFlight := s.inFlight ++ [.reload route user] }
  -- the errors of both are caught, and `user` is still the account just made
  | .updateProfile route user, .failed =>
    some (s.resume route (afterRegister c (s.names route) (some user)))
  | .reload route user, .failed =>
    some (s.resume route (afterRegister c (s.names route) (some user)))
  | .reload route _, .done =>
    some (s.resume route (afterRegister c (s.names route) s.currentUser))
  | .signOut route, .done =>
    some ({ s with currentUser := none, signedOut := true }.resume route
      [.pushReplacement .loginScreen])
  -- `paths.add(path)` comes first, on a disposed page too
  | .takePicture route matnumber typed, .picture path =>
    if path ∈ s.paths.map Picture.path then none
    else
      some ({ s with paths := s.paths ++ [Picture.mk path route matnumber] }.resume route
        [.pushReplacement (.pageImageScreen matnumber path route typed)])
  | .captureFace route, .picture path => some (s.resume route [.push (.previewImageScreen path)])
  | .condition route course, .confirmed yes => some (s.resume route (afterCondition course yes))
  | .enrollImage route _ _, .done => some (s.resume route [.pop])
  | _, .failed => some s
  | _, _ => none

/-- A handler that resumes changes nothing but the navigator. -/
theorem resume_eq (s : App) (route : Nat) (calls : List (Nav Page)) :
    s.resume route calls =
      { s with nav := if s.nav.mounted route then s.nav.navigateAll calls else s.nav } := by
  by_cases h : s.nav.mounted route = true
  · rw [App.resume, if_pos h, if_pos h, App.go]
  · rw [App.resume, if_neg h, if_neg h]

section Resume

variable (s : App) (route : Nat) (calls : List (Nav Page))

@[simp] theorem resume_currentUser : (s.resume route calls).currentUser = s.currentUser := by
  rw [resume_eq]

@[simp] theorem resume_inFlight : (s.resume route calls).inFlight = s.inFlight := by
  rw [resume_eq]

@[simp] theorem resume_accounts : (s.resume route calls).accounts = s.accounts := by
  rw [resume_eq]

@[simp] theorem resume_names : (s.resume route calls).names = s.names := by rw [resume_eq]

@[simp] theorem resume_paths : (s.resume route calls).paths = s.paths := by rw [resume_eq]

@[simp] theorem resume_enrolments : (s.resume route calls).enrolments = s.enrolments := by
  rw [resume_eq]

@[simp] theorem resume_signedOut : (s.resume route calls).signedOut = s.signedOut := by
  rw [resume_eq]

end Resume

/-- Whatever a handler does to the stack, a property of all pages survives it that holds of the
    pages it opens. -/
theorem all_resume {Q : Page → Prop} {s : App} {route : Nat} {calls : List (Nav Page)}
    (h : s.nav.All Q) (hcalls : Navigator.OpenOnly Q calls) : (s.resume route calls).nav.All Q := by
  rw [resume_eq]
  by_cases hmounted : s.nav.mounted route = true
  · rw [if_pos hmounted]
    exact h.navigateAll hcalls
  · rw [if_neg hmounted]
    exact h

/-- A handler replaces the top page, if its own page is mounted and there is a top page. -/
theorem nav_resume_pushReplacement (s : App) (route : Nat) (page : Page) :
    (s.resume route [.pushReplacement page]).nav.stack =
      if s.nav.mounted route = true ∧ s.nav.stack ≠ [] then s.nav.fresh page :: s.nav.stack.tail
      else s.nav.stack := by
  rw [resume_eq]
  by_cases hmounted : s.nav.mounted route = true
  · rw [if_pos hmounted]
    show (s.nav.navigate (.pushReplacement page)).stack = _
    by_cases hempty : s.nav.stack = []
    · rw [Navigator.pushReplacement_of_empty hempty, if_neg fun h => h.2 hempty]
    · rw [Navigator.stack_pushReplacement hempty, if_pos ⟨hmounted, hempty⟩]
  · rw [if_neg hmounted, if_neg fun h => hmounted h.1]

/-! ## Runs -/

/-- What can happen to the app: the student does something, or something awaited comes through. -/
inductive Event where
  | press (button : Button)
  | back
  /-- The name field of the SignUp page on top is edited. -/
  | type (text : String)
  /-- The exit animation of a route ends. -/
  | dispose (route : Nat)
  /-- `_initializeFirebase` of a LoginScreen comes through. -/
  | initializeFirebase (route : Nat)
  | complete (op : Op) (reply : Reply)
  deriving DecidableEq, Repr

/-- One event.  `none` when it cannot happen: no page on top has the button, no handler awaits the
    operation. -/
def App.step (c : CaseMap) (s : App) : Event → Option App
  | .press button =>
    match s.nav.stack with
    | [] => none
    | top :: _ => (top.page.press c (s.names top.id) top.id button).map s.react
  | .back =>
    match s.nav.stack with
    | top :: _ :: _ => if top.page ≠ .loadingIndicator then some (s.go [.pop]) else none
    | _ => none -- Back on the last page leaves the app
  | .type text =>
    match s.nav.stack with
    | ⟨id, .signUp⟩ :: _ => some { s with names := Function.update s.names id text }
    | _ => none
  | .dispose route => some { s with nav := s.nav.dispose route }
  | .initializeFirebase route =>
    if ⟨route, .loginScreen⟩ ∈ s.nav.mountedRoutes then
      match s.currentUser with
      | none => some s -- the login form stays
      | some user => some (s.go [.pushReplacement (.profilePage user "" none)])
    else none
  | .complete op reply =>
    if op ∈ s.inFlight then { s with inFlight := s.inFlight.erase op }.complete c op reply
    else none

/-- The app: presses, edits, Back, and completions in any order. -/
def app (c : CaseMap) : Machine App Event := ⟨App.step c⟩

/-! ## What a step does -/

/-- The ways an operation ends. -/
inductive Complete (c : CaseMap) (s : App) : Op → Reply → App → Prop
  | failed (op : Op) (h : ∀ route user, op ≠ .updateProfile route user ∧ op ≠ .reload route user) :
      Complete c s op .failed s
  | signedIn (route user : Nat) :
      Complete c s (.signInUsingEmailPassword route) (.user user)
        ({ s with currentUser := some user, signedOut := false }.resume route
          [.pushReplacement (.profilePage user "" none)])
  | created (route : Nat) (name : String) :
      Complete c s (.createUser route name) .done
        { s with
          accounts := s.accounts ++ [name]
          currentUser := some s.accounts.length
          signedOut := false
          inFlight := s.inFlight ++ [.updateProfile route s.accounts.length] }
  | updated (route user : Nat) :
      Complete c s (.updateProfile route user) .done
        { s with inFlight := s.inFlight ++ [.reload route user] }
  | notUpdated (route user : Nat) :
      Complete c s (.updateProfile route user) .failed
        (s.resume route (afterRegister c (s.names route) (some user)))
  | notReloaded (route user : Nat) :
      Complete c s (.reload route user) .failed
        (s.resume route (afterRegister c (s.names route) (some user)))
  | reloaded (route user : Nat) :
      Complete c s (.reload route user) .done
        (s.resume route (afterRegister c (s.names route) s.currentUser))
  | signedOut (route : Nat) :
      Complete c s (.signOut route) .done
        (({ s with currentUser := none, signedOut := true } : App).resume route
          [.pushReplacement .loginScreen])
  | taken (route : Nat) (matnumber : String) (typed : Option String) (path : String)
      (hfresh : path ∉ s.paths.map Picture.path) :
      Complete c s (.takePicture route matnumber typed) (.picture path)
        ({ s with paths := s.paths ++ [Picture.mk path route matnumber] }.resume route
          [.pushReplacement (.pageImageScreen matnumber path route typed)])
  | captured (route : Nat) (path : String) :
      Complete c s (.captureFace route) (.picture path)
        (s.resume route [.push (.previewImageScreen path)])
  | located (route : Nat) (course : String) (yes : Bool) :
      Complete c s (.condition route course) (.confirmed yes)
        (s.resume route (afterCondition course yes))
  | enrolled (route : Nat) (imageFile subjectId : String) :
      Complete c s (.enrollImage route imageFile subjectId) .done (s.resume route [.pop])

/-- An operation ends in one of these ways only. -/
theorem complete_cases {c : CaseMap} {s s' : App} {op : Op} {reply : Reply}
    (h : s.complete c op reply = some s') : Complete c s op reply s' := by
  simp only [App.complete] at h
  split at h
  · obtain ⟨-, rfl⟩ := guarded_eq_some.mp h
    exact .signedIn _ _
  · obtain rfl := Option.some.inj h
    exact .created _ _
  · obtain rfl := Option.some.inj h
    exact .updated _ _
  · obtain rfl := Option.some.inj h
    exact .notUpdated _ _
  · obtain rfl := Option.some.inj h
    exact .notReloaded _ _
  · obtain rfl := Option.some.inj h
    exact .reloaded _ _
  · obtain rfl := Option.some.inj h
    exact .signedOut _
  · rw [Option.ite_none_left_eq_some] at h
    obtain ⟨hfresh, h⟩ := h
    obtain rfl := Option.some.inj h
    exact .taken _ _ _ _ hfresh
  · obtain rfl := Option.some.inj h
    exact .captured _ _
  · obtain rfl := Option.some.inj h
    exact .located _ _ _
  · obtain rfl := Option.some.inj h
    exact .enrolled _ _ _
  · rename_i hupdate hreload
    obtain rfl := Option.some.inj h
    exact .failed _ fun route user => ⟨hupdate route user, hreload route user⟩
  · cases h

/-- The ways a step of the app can go, with what each presupposes. -/
inductive Step (c : CaseMap) (s : App) : Event → App → Prop
  | press (button : Button) (top : Route Page) (rest : List (Route Page)) (reaction : Reaction)
      (hstack : s.nav.stack = top :: rest)
      (hpress : top.page.press c (s.names top.id) top.id button = some reaction) :
      Step c s (.press button) (s.react reaction)
  | back : Step c s .back (s.go [.pop])
  | type (text : String) (id : Nat) :
      Step c s (.type text) { s with names := Function.update s.names id text }
  | dispose (route : Nat) : Step c s (.dispose route) { s with nav := s.nav.dispose route }
  | nobody (route : Nat) (huser : s.currentUser = none) : Step c s (.initializeFirebase route) s
  | remembered (route user : Nat) (huser : s.currentUser = some user) :
      Step c s (.initializeFirebase route) (s.go [.pushReplacement (.profilePage user "" none)])
  | complete (op : Op) (reply : Reply) (s' : App) (hop : op ∈ s.inFlight)
      (h : Complete c { s with inFlight := s.inFlight.erase op } op reply s') :
      Step c s (.complete op reply) s'

theorem step_cases {c : CaseMap} {s s' : App} {e : Event} (h : (app c).step s e = some s') :
    Step c s e s' := by
  cases e with
  | press button =>
    simp only [app, App.step] at h
    split at h
    · cases h
    · rename_i top rest hstack
      obtain ⟨reaction, hpress, rfl⟩ := Option.map_eq_some_iff.mp h
      exact .press button top rest reaction hstack hpress
  | back =>
    simp only [app, App.step] at h
    split at h
    · obtain ⟨-, rfl⟩ := guarded_eq_some.mp h
      exact .back
    · cases h
  | type text =>
    simp only [app, App.step] at h
    split at h
    · obtain rfl := Option.some.inj h
      exact .type text _
    · cases h
  | dispose route =>
    obtain rfl := Option.some.inj h
    exact .dispose route
  | initializeFirebase route =>
    simp only [app, App.step] at h
    split at h
    · split at h
      · rename_i huser
        obtain rfl := Option.some.inj h
        exact .nobody route huser
      · rename_i user huser
        obtain rfl := Option.some.inj h
        exact .remembered route user huser
    · cases h
  | complete op reply =>
    simp only [app, App.step] at h
    split at h
    · rename_i hop
      exact .complete op reply s' hop (complete_cases h)
    · cases h

end AttendanceApp
