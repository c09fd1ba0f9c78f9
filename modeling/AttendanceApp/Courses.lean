/-
  What the attendance sheet knows of the course: nothing.

  A tap on a course hands its title to CameraScreen in the route's arguments, and CameraScreen never
  looks at them.  So the title goes nowhere else: however the courses are renamed among themselves,
  the renamed events are a run again, and everything but the titles on the CameraScreens and in the
  location checks comes out the same (`retitle_run`), the rows of the sheet included.

  The renaming goes up through the machines of the app, of a phone and of the campus, one commuting
  square each.
-/
import AttendanceApp.Campus
import AttendanceApp.StartPage
import Mathlib.Logic.Equiv.Basic

namespace AttendanceApp

open Transition Dart Navigator

/-- A renaming of the courses: which entry of the list is tapped instead, and what it is called. -/
structure Retitling where
  index : Nat → Nat
  title : String → String
  injective : Function.Injective title
  titles : ∀ i, todos[index i]? = todos[i]?.map title

variable {c : CaseMap} (ρ : Retitling)

/-! ## The app -/

/-- CameraScreen is the page that is handed a course. -/
def Page.retitle (ρ : Retitling) : Page → Page
  | .cameraScreen course => .cameraScreen (ρ.title course)
  | page => page

/-- The location check knows the course it was started for. -/
def Op.retitle (ρ : Retitling) : Op → Op
  | .condition route course => .condition route (ρ.title course)
  | op => op

/-- Another entry of the list is tapped. -/
def Button.retitle (ρ : Retitling) : Button → Button
  | .course index => .course (ρ.index index)
  | button => button

/-- The event, with another entry tapped, and with the check of the renamed course. -/
def Event.retitle (ρ : Retitling) : Event → Event
  | .press button => .press (button.retitle ρ)
  | .complete op reply => .complete (op.retitle ρ) reply
  | e => e

/-- The reaction, with the pages and the operations renamed. -/
def Reaction.retitle (ρ : Retitling) (reaction : Reaction) : Reaction where
  calls := reaction.calls.map (renameCall (Page.retitle ρ))
  starts := reaction.starts.map (Op.retitle ρ)

/-- The app, with the courses renamed on its pages and in its operations. -/
def App.retitle (ρ : Retitling) (s : App) : App :=
  { s with nav := s.nav.rename (Page.retitle ρ), inFlight := s.inFlight.map (Op.retitle ρ) }

theorem Op.retitle_injective : Function.Injective (Op.retitle ρ) := by
  intro op op' h
  cases op with
  | condition route course =>
    cases op' with
    | condition route' course' =>
      obtain ⟨rfl, htitle⟩ := Op.condition.inj h
      rw [ρ.injective htitle]
    | _ => cases h
  | _ => cases op' <;> first | exact h | cases h

/-- A page has the same buttons. -/
theorem press_retitle (name : String) (route : Nat) (page : Page) (button : Button) :
    (page.retitle ρ).press c name route (button.retitle ρ) =
      (page.press c name route button).map (Reaction.retitle ρ) := by
  cases button with
  | course index =>
    cases page with
    | secondRoute =>
      show todos[ρ.index index]?.map _ = (todos[index]?.map _).map _
      rw [ρ.titles, Option.map_map, Option.map_map]
      rfl
    | _ => rfl
  | signIn valid => cases valid <;> cases page <;> rfl
  | signUp valid =>
    cases page with
    | signUp =>
      show (if _ then _ else _ : Option Reaction) = Option.map _ (if _ then _ else _)
      split <;> rfl
    | _ => rfl
  | _ => cases page <;> rfl

/-- No handler's call looks at a title. -/
theorem blind_afterRegister (name : String) (user : Option Nat) :
    ∀ call ∈ afterRegister c name user, Blind (Page.retitle ρ) call := by
  intro call hcall
  cases user with
  | none => cases hcall
  | some user =>
    obtain rfl := List.mem_singleton.mp hcall
    intro page
    cases page <;> rfl

/-- No call of a handler looks at the course of a page. -/
theorem blind_press {name : String} {route : Nat} {page : Page} {button : Button}
    {reaction : Reaction} (h : page.press c name route button = some reaction) :
    ∀ call ∈ reaction.calls, Blind (Page.retitle ρ) call := by
  intro call hcall
  rcases press_calls h with hnone | ⟨page', hpush⟩ | ⟨hpop, -⟩
  · rw [hnone] at hcall
    cases hcall
  · rw [hpush] at hcall
    obtain rfl := List.mem_singleton.mp hcall
    trivial
  · rw [hpop] at hcall
    obtain rfl := List.mem_singleton.mp hcall
    trivial

/-- The rest of a handler, on renamed pages. -/
theorem retitle_resume (s : App) (route : Nat) {calls : List (Nav Page)}
    (hblind : ∀ call ∈ calls, Blind (Page.retitle ρ) call) :
    (s.resume route calls).retitle ρ =
      (s.retitle ρ).resume route (calls.map (renameCall (Page.retitle ρ))) := by
  rw [resume_eq, resume_eq]
  have hmounted : (s.retitle ρ).nav.mounted route = s.nav.mounted route := mounted_rename _ _
  rw [hmounted]
  split
  · simp only [App.retitle, rename_navigateAll hblind]
  · rfl

/-- The start of a handler, on renamed pages. -/
theorem retitle_react (s : App) {name : String} {route : Nat} {page : Page} {button : Button}
    {reaction : Reaction} (h : page.press c name route button = some reaction) :
    (s.react reaction).retitle ρ = (s.retitle ρ).react (reaction.retitle ρ) := by
  have henrolments : (reaction.starts.map (Op.retitle ρ)).filterMap (s.retitle ρ).enrolment =
      reaction.starts.filterMap s.enrolment := by
    rw [List.filterMap_map]
    congr 1
    funext op
    cases op <;> rfl
  simp only [App.retitle, App.react, Reaction.retitle, rename_navigateAll (blind_press ρ h),
    List.map_append]
  rw [← henrolments]
  rfl

theorem blind_pop : ∀ call ∈ [Nav.pop], Blind (Page.retitle ρ) call := by
  intro call hcall
  obtain rfl := List.mem_singleton.mp hcall
  trivial

theorem blind_push (page : Page) : ∀ call ∈ [Nav.push page], Blind (Page.retitle ρ) call := by
  intro call hcall
  obtain rfl := List.mem_singleton.mp hcall
  trivial

theorem blind_pushReplacement (page : Page) :
    ∀ call ∈ [Nav.pushReplacement page], Blind (Page.retitle ρ) call := by
  intro call hcall
  obtain rfl := List.mem_singleton.mp hcall
  trivial

/-- The rest of a handler, with the titles renamed. -/
theorem some_resume (s : App) (route : Nat) {calls calls' : List (Nav Page)}
    (hblind : ∀ call ∈ calls, Blind (Page.retitle ρ) call)
    (hcalls : calls' = calls.map (renameCall (Page.retitle ρ))) :
    some ((s.retitle ρ).resume route calls') =
      (some (s.resume route calls)).map (App.retitle ρ) := by
  rw [Option.map_some, retitle_resume ρ s route hblind, hcalls]

/-- Every operation ends in the same ways. -/
theorem complete_retitle (s : App) (op : Op) (reply : Reply) :
    (s.retitle ρ).complete c (op.retitle ρ) reply =
      (s.complete c op reply).map (App.retitle ρ) := by
  have hregister : ∀ name user,
      afterRegister c name user =
        (afterRegister c name user).map (renameCall (Page.retitle ρ)) := by
    intro name user
    cases user <;> rfl
  cases op with
  | signInUsingEmailPassword route =>
    cases reply with
    | user user =>
      show (if user < s.accounts.length then _ else _) =
        Option.map _ (if user < s.accounts.length then _ else _)
      by_cases h : user < s.accounts.length
      · rw [if_pos h, if_pos h]
        exact some_resume ρ { s with currentUser := some user, signedOut := false } route
          (blind_pushReplacement ρ _) rfl
      · rw [if_neg h, if_neg h]
        rfl
    | _ => rfl
  | createUser route name =>
    cases reply with
    | done =>
      simp only [App.complete, App.retitle, Op.retitle, Option.map_some, List.map_append,
        List.map_cons, List.map_nil]
    | _ => rfl
  | updateProfile route user =>
    cases reply with
    | done =>
      simp only [App.complete, App.retitle, Op.retitle, Option.map_some, List.map_append,
        List.map_cons, List.map_nil]
    | failed => exact some_resume ρ s route (blind_afterRegister ρ _ _) (hregister _ _)
    | _ => rfl
  | reload route user =>
    cases reply with
    | done => exact some_resume ρ s route (blind_afterRegister ρ _ _) (hregister _ _)
    | failed => exact some_resume ρ s route (blind_afterRegister ρ _ _) (hregister _ _)
    | _ => rfl
  | signOut route =>
    cases reply with
    | done =>
      exact some_resume ρ { s with currentUser := none, signedOut := true } route
        (blind_pushReplacement ρ _) rfl
    | _ => rfl
  | takePicture route matnumber typed =>
    cases reply with
    | picture path =>
      show (if path ∈ s.paths.map Picture.path then _ else _) =
        Option.map _ (if path ∈ s.paths.map Picture.path then _ else _)
      by_cases h : path ∈ s.paths.map Picture.path
      · rw [if_pos h, if_pos h]
        rfl
      · rw [if_neg h, if_neg h]
        exact some_resume ρ { s with paths := s.paths ++ [Picture.mk path route matnumber] } route
          (blind_pushReplacement ρ _) rfl
    | _ => rfl
  | captureFace route =>
    cases reply with
    | picture path => exact some_resume ρ s route (blind_push ρ _) rfl
    | _ => rfl
  | condition route course =>
    cases reply with
    | confirmed yes =>
      refine some_resume ρ s route ?_ (by cases yes <;> rfl)
      intro call hcall
      cases yes with
      | true =>
        rcases List.mem_cons.mp hcall with rfl | hcall
        · trivial
        · exact blind_push ρ _ call hcall
      | false =>
        rcases List.mem_cons.mp hcall with rfl | hcall
        · trivial
        · exact blind_push ρ _ call hcall
    | _ => rfl
  | enrollImage route imageFile subjectId =>
    cases reply with
    | done => exact some_resume ρ s route (blind_pop ρ) rfl
    | _ => rfl

/-- Only CameraScreens have another name. -/
theorem retitle_eq_iff {page page' : Page} (h : ∀ course, page' ≠ .cameraScreen course) :
    page.retitle ρ = page' ↔ page = page' := by
  cases page with
  | cameraScreen course =>
    constructor
    · intro heq
      exact absurd heq.symm (h (ρ.title course))
    · intro heq
      exact absurd heq.symm (h course)
  | _ => exact Iff.rfl

theorem mem_retitle_iff (s : App) {r : Route Page} (h : ∀ course, r.page ≠ .cameraScreen course) :
    r ∈ (s.retitle ρ).nav.mountedRoutes ↔ r ∈ s.nav.mountedRoutes := by
  have hmounted : (s.retitle ρ).nav.mountedRoutes =
      s.nav.mountedRoutes.map (renameRoute (Page.retitle ρ)) := mountedRoutes_rename _
  rw [hmounted, List.mem_map]
  constructor
  · rintro ⟨r', hr', rfl⟩
    have hpage : r'.page.retitle ρ = (renameRoute (Page.retitle ρ) r').page := rfl
    have hsame := (retitle_eq_iff ρ h).mp hpage
    have heq : renameRoute (Page.retitle ρ) r' = r' := by rw [renameRoute, hpage, ← hsame]
    exact heq.symm ▸ hr'
  · intro hr
    have hsame := (retitle_eq_iff ρ h).mpr rfl
    exact ⟨r, hr, by rw [renameRoute, hsame]⟩

/-- **The square of the app.** -/
theorem step_retitle (s : App) (e : Event) :
    ((app c).step s e).map (App.retitle ρ) = (app c).step (s.retitle ρ) (e.retitle ρ) := by
  have hstack : (s.retitle ρ).nav.stack = s.nav.stack.map (renameRoute (Page.retitle ρ)) := rfl
  cases e with
  | press button =>
    show Option.map _ (s.step c (.press button)) = (s.retitle ρ).step c (.press (button.retitle ρ))
    simp only [App.step, hstack]
    cases s.nav.stack with
    | nil => rfl
    | cons top rest =>
      have hpress := press_retitle (c := c) ρ (s.names top.id) top.id top.page button
      show Option.map _ ((top.page.press c (s.names top.id) top.id button).map _) =
        ((top.page.retitle ρ).press c (s.names top.id) top.id (button.retitle ρ)).map _
      rw [hpress]
      cases h : top.page.press c (s.names top.id) top.id button with
      | none => rfl
      | some reaction => exact congrArg some (retitle_react ρ s h)
  | back =>
    show Option.map _ (s.step c .back) = (s.retitle ρ).step c .back
    simp only [App.step, hstack]
    rcases s.nav.stack with - | ⟨top, - | ⟨second, rest⟩⟩
    · rfl
    · rfl
    · have hdialog : top.page.retitle ρ ≠ .loadingIndicator ↔ top.page ≠ .loadingIndicator :=
        not_congr (retitle_eq_iff ρ fun _ h => Page.noConfusion h)
      show Option.map _ (if top.page ≠ .loadingIndicator then _ else _) =
        if top.page.retitle ρ ≠ .loadingIndicator then _ else _
      by_cases h : top.page ≠ .loadingIndicator
      · rw [if_pos h, if_pos (hdialog.mpr h)]
        have hpop := rename_navigateAll (blind_pop ρ) s.nav
        simp only [Option.map_some, App.retitle, App.go, hpop]
        rfl
      · rw [if_neg h, if_neg (fun h' => h (hdialog.mp h'))]
        rfl
  | type text =>
    show Option.map _ (s.step c (.type text)) = (s.retitle ρ).step c (.type text)
    simp only [App.step, hstack]
    rcases s.nav.stack with - | ⟨⟨id, page⟩, rest⟩
    · rfl
    · cases page <;> rfl
  | dispose route =>
    show some _ = some _
    simp only [App.retitle, rename_dispose]
  | initializeFirebase route =>
    have hlogin := mem_retitle_iff ρ s (r := ⟨route, .loginScreen⟩)
      fun _ h => Page.noConfusion h
    show Option.map _ (if _ then _ else _) = if _ then _ else _
    by_cases h : ⟨route, .loginScreen⟩ ∈ s.nav.mountedRoutes
    · rw [if_pos h, if_pos (hlogin.mpr h)]
      have huser : (s.retitle ρ).currentUser = s.currentUser := rfl
      rw [huser]
      cases s.currentUser with
      | none => rfl
      | some user =>
        have hgo := rename_navigateAll
          (blind_pushReplacement ρ (.profilePage user "" none)) s.nav
        simp only [Option.map_some, App.retitle, App.go, hgo]
        rfl
    · rw [if_neg h, if_neg (fun h' => h (hlogin.mp h'))]
      rfl
  | complete op reply =>
    have hmem : op.retitle ρ ∈ s.inFlight.map (Op.retitle ρ) ↔ op ∈ s.inFlight :=
      List.mem_map_of_injective (Op.retitle_injective ρ)
    show Option.map _ (if op ∈ s.inFlight then _ else _) =
      if op.retitle ρ ∈ s.inFlight.map (Op.retitle ρ) then _ else _
    by_cases h : op ∈ s.inFlight
    · rw [if_pos h, if_pos (hmem.mpr h), ← complete_retitle]
      have herase : (s.inFlight.erase op).map (Op.retitle ρ) =
          (s.inFlight.map (Op.retitle ρ)).erase (op.retitle ρ) :=
        List.map_erase (Op.retitle_injective ρ) s.inFlight
      simp only [App.retitle, herase]
    · rw [if_neg h, if_neg (fun h' => h (hmem.mp h'))]
      rfl

end AttendanceApp

/-! ## A phone, and the campus -/

namespace AttendanceApp.Campus

open AttendanceApp.Transition AttendanceApp.Dart

variable {c : CaseMap} (ρ : Retitling)

/-- A phone; its PreviewImageScreens know no courses. -/
def Phone.retitle (ρ : Retitling) (s : Phone) : Phone := { s with app := s.app.retitle ρ }

/-- An event of a phone; those of its screens know no courses. -/
def Phone.Event.retitle (ρ : Retitling) : Phone.Event → Phone.Event
  | .app e => .app (e.retitle ρ)
  | .screen route e => .screen route e

/-- The campus, with the courses renamed on all phones. -/
def State.retitle (ρ : Retitling) (s : State) : State :=
  { s with phones := fun i => (s.phones i).retitle ρ }

/-- An event of the campus, with the courses renamed. -/
def Event.retitle (ρ : Retitling) : Event → Event
  | .phone i e => .phone i (e.retitle ρ)
  | .enrolled i enrolment => .enrolled i enrolment

/-- A PreviewImageScreen has the same picture. -/
theorem previewOn_rename (n : Navigator Page) (route : Nat) :
    previewOn (n.rename (Page.retitle ρ)) route = previewOn n route := by
  have hfind : (n.rename (Page.retitle ρ)).stack.find? (·.id == route) =
      (n.stack.find? (·.id == route)).map (Navigator.renameRoute (Page.retitle ρ)) :=
    List.find?_map
  simp only [previewOn, hfind]
  cases n.stack.find? (·.id == route) with
  | none => rfl
  | some r =>
    obtain ⟨id, page⟩ := r
    cases page <;> rfl

/-- What becomes of a screen has nothing to do with the courses. -/
theorem rebuild_rename (n : Navigator Page) (route : Nat) (screen : Option PreviewScreen.Screen) :
    rebuild (n.rename (Page.retitle ρ)) route screen = rebuild n route screen := by
  cases screen with
  | none => simp only [rebuild, previewOn_rename]
  | some screen => simp only [rebuild, Navigator.lifecycle_rename]

/-- **The square of a phone.** -/
theorem phone_step_retitle (s : Phone) (e : Phone.Event) :
    (s.step c e).map (Phone.retitle ρ) = (s.retitle ρ).step c (e.retitle ρ) := by
  cases e with
  | app e =>
    show Option.map _ (Option.map _ _) =
      ((AttendanceApp.app c).step (s.app.retitle ρ) (e.retitle ρ)).map _
    rw [← step_retitle, Option.map_map, Option.map_map]
    congr 1
    funext next
    simp only [Function.comp, Phone.retitle, Phone.mk.injEq, true_and]
    funext route
    exact (rebuild_rename ρ next.nav route (s.screens route)).symm
  | screen route e =>
    have htakes : (s.retitle ρ).Takes route e ↔ s.Takes route e := by
      cases e with
      | send readable =>
        have hhead : (s.retitle ρ).app.nav.stack.head?.map Route.id =
            s.app.nav.stack.head?.map Route.id := by
          show (s.app.nav.stack.map _).head?.map Route.id = _
          rw [List.head?_map, Option.map_map]
          rfl
        show _ = some route ↔ _ = some route
        rw [hhead]
      | _ => exact Iff.rfl
    show Option.map _ (if s.Takes route e then _ else _) =
      if (s.retitle ρ).Takes route e then _ else _
    by_cases h : s.Takes route e
    · rw [if_pos h, if_pos (htakes.mpr h)]
      show Option.map _ ((s.screens route).bind _) = (s.screens route).bind _
      cases s.screens route with
      | none => rfl
      | some screen =>
        show Option.map _ (Option.map _ _) = Option.map _ _
        rw [Option.map_map]
        rfl
    · rw [if_neg h, if_neg fun h' => h (htakes.mp h')]
      rfl

/-- **The square of the campus.** -/
theorem campus_step_retitle (s : State) (e : Event) :
    ((campus c).step s e).map (State.retitle ρ) =
      (campus c).step (s.retitle ρ) (e.retitle ρ) := by
  cases e with
  | phone i e =>
    have honline : ((s.phones i).retitle ρ).online s.accounts =
        ((s.phones i).online s.accounts).retitle ρ := rfl
    show Option.map _ (Option.map _ _) =
      ((((s.phones i).retitle ρ).online s.accounts).step c (e.retitle ρ)).map _
    rw [honline, ← phone_step_retitle, Option.map_map, Option.map_map]
    congr 1
    funext phone
    have hphones : (fun j => (Function.update s.phones i phone j).retitle ρ) =
        Function.update (fun j => (s.phones j).retitle ρ) i (phone.retitle ρ) := by
      funext j
      by_cases hsame : j = i
      · subst hsame
        rw [Function.update_self, Function.update_self]
      · rw [Function.update_of_ne hsame, Function.update_of_ne hsame]
    simp only [Function.comp, State.retitle, hphones]
    rfl
  | enrolled i enrolment =>
    show Option.map _ (if _ then _ else _) =
      if enrolment ∈ ((s.phones i).retitle ρ).app.enrolments then _ else _
    by_cases h : enrolment ∈ (s.phones i).app.enrolments
    · rw [if_pos h, if_pos (show enrolment ∈ ((s.phones i).retitle ρ).app.enrolments from h)]
      rfl
    · rw [if_neg h, if_neg (show enrolment ∉ ((s.phones i).retitle ρ).app.enrolments from h)]
      rfl

/-- **The sheet does not know the course**: in every run of the campus the courses can be exchanged
    for others, and what comes of it is the same on every screen, its rows included, in every
    enrolment, among the accounts and in the gallery. -/
theorem retitle_run (c : CaseMap) (accounts : List String) (remembered : Nat → Option Nat)
    (es : List Event) (s : State)
    (hrun : (campus c).exec (.start accounts remembered) es = some s) (ρ : Retitling) :
    ∃ s', (campus c).exec (.start accounts remembered) (es.map (Event.retitle ρ)) = some s' ∧
      (∀ i, (s'.phones i).screens = (s.phones i).screens ∧
        (s'.phones i).app.enrolments = (s.phones i).app.enrolments ∧
        (s'.phones i).app.paths = (s.phones i).app.paths) ∧
      s'.accounts = s.accounts ∧ s'.gallery = s.gallery := by
  have hsquare := (campus c).exec_rename (campus c) (campus_step_retitle ρ)
    (.start accounts remembered) es
  have hstart : (State.start accounts remembered).retitle ρ = .start accounts remembered := rfl
  rw [hrun, Option.map_some, hstart] at hsquare
  exact ⟨s.retitle ρ, hsquare.symm, fun i => ⟨rfl, rfl, rfl⟩, rfl, rfl⟩

/-- EIE 523 and EIE 524 are exchanged. -/
def exchanged : Retitling where
  index := Equiv.swap 3 4
  title := Equiv.swap "EIE 523" "EIE 524"
  injective := Equiv.injective _
  titles i := by
    rcases Nat.lt_or_ge i 9 with hlt | hge
    · have hall : ∀ i < 9, todos[Equiv.swap 3 4 i]? =
          todos[i]?.map (Equiv.swap "EIE 523" "EIE 524") := by decide
      exact hall i hlt
    · have hnone : todos[i]? = none := List.getElem?_eq_none hge
      rw [Equiv.swap_apply_of_ne_of_ne (by omega) (by omega), hnone]
      rfl

/-- The lecture, with two courses exchanged. -/
theorem lecture_retitled :
    ∃ s', (campus .ascii).exec (.start ["17ck000001"] remembering)
        (lecture.map (Event.retitle exchanged)) = some s' ∧
      (∀ i, (s'.phones i).screens = (afterLecture.phones i).screens ∧
        (s'.phones i).app.enrolments = (afterLecture.phones i).app.enrolments ∧
        (s'.phones i).app.paths = (afterLecture.phones i).app.paths) ∧
      s'.accounts = afterLecture.accounts ∧ s'.gallery = afterLecture.gallery :=
  retitle_run .ascii ["17ck000001"] remembering lecture afterLecture exec_lecture exchanged

end AttendanceApp.Campus
