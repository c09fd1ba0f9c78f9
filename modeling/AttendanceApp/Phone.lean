/-
  One phone: the app with the PreviewImageScreens in it.

  `App.lean` knows of a PreviewImageScreen that it is on a route, `PreviewScreen.lean` what happens
  on one screen that is shown, leaves and is disposed at some time.  A `Phone` is both at once: the
  navigator decides when a screen is created (`initState`), when it leaves and when it is disposed,
  and a press of Send needs the screen on top.

  `runs_of_step` says that the composition adds nothing: whatever the phone does, each of its
  screens goes through a run of `preview`, so what holds of every such run holds of every screen of
  every phone.
-/
import AttendanceApp.Gates
import AttendanceApp.PreviewScreen

namespace AttendanceApp.Campus

open AttendanceApp.Transition AttendanceApp.Dart AttendanceApp.PreviewScreen

/-- The app on one phone, and what has become of the screens it opened. -/
structure Phone where
  app : App
  /-- The screen of each route that is, or has been, a PreviewImageScreen. -/
  screens : Nat → Option Screen := fun _ => none

/-- The picture of the PreviewImageScreen on a route of the stack. -/
def previewOn (n : Navigator Page) (route : Nat) : Option String :=
  match n.stack.find? (·.id == route) with
  | some ⟨_, .previewImageScreen imageFile⟩ => some imageFile
  | _ => none

/-- The screen of a route after a call of the navigator: created with its route, and then at the
    stage of its route. -/
def rebuild (n : Navigator Page) (route : Nat) : Option Screen → Option Screen
  | some screen => some { screen with life := n.lifecycle route }
  | none => (previewOn n route).map Screen.initial

namespace Phone

/-- Something happens in the app, or on one of its screens. -/
inductive Event where
  | app (e : AttendanceApp.Event)
  /-- Something happens on the screen of a route. -/
  | screen (route : Nat) (e : PreviewScreen.Event)

/-- What can happen on a screen by itself: only the page on top takes presses, and leaving is up to
    the navigator. -/
def Takes (s : Phone) (route : Nat) : PreviewScreen.Event → Prop
  | .send _ => s.app.nav.stack.head?.map Route.id = some route
  | .back => False
  | .dispose => False
  | _ => True

instance (s : Phone) (route : Nat) : DecidablePred (s.Takes route)
  | .send _ => inferInstanceAs (Decidable (s.app.nav.stack.head?.map Route.id = some route))
  | .back => isFalse id
  | .dispose => isFalse id
  | .recogReply _ _ => isTrue trivial
  | .sheetAccepts _ => isTrue trivial
  | .postReply _ _ => isTrue trivial
  | .getReply _ _ => isTrue trivial

/-- One event.  The navigator decides at which stage of its life each screen is. -/
def step (c : CaseMap) (s : Phone) : Event → Option Phone
  | .app e =>
    ((AttendanceApp.app c).step s.app e).map fun next =>
      { app := next, screens := fun route => rebuild next.nav route (s.screens route) }
  | .screen route e =>
    if s.Takes route e then
      (s.screens route).bind fun screen =>
        (preview.step screen e).map fun screen' =>
          { s with screens := Function.update s.screens route (some screen') }
    else none

/-- The app has just been started. -/
def start (accounts : List String) (currentUser : Option Nat) : Phone where
  app := .start accounts currentUser

/-! ## What a step does -/

/-- The ways a step of a phone can go. -/
inductive Step (c : CaseMap) (s : Phone) : Event → Phone → Prop
  | app (e : AttendanceApp.Event) (next : App)
      (hstep : (AttendanceApp.app c).step s.app e = some next) :
      Step c s (.app e)
        { app := next, screens := fun route => rebuild next.nav route (s.screens route) }
  | screen (route : Nat) (e : PreviewScreen.Event) (screen screen' : Screen)
      (htakes : s.Takes route e) (hscreen : s.screens route = some screen)
      (hstep : preview.step screen e = some screen') :
      Step c s (.screen route e)
        { s with screens := Function.update s.screens route (some screen') }

theorem step_cases {c : CaseMap} {s s' : Phone} {e : Event} (h : s.step c e = some s') :
    Step c s e s' := by
  cases e with
  | app e =>
    obtain ⟨next, hstep, rfl⟩ := Option.map_eq_some_iff.mp h
    exact .app e next hstep
  | screen route e =>
    simp only [step] at h
    split at h
    · rename_i htakes
      obtain ⟨screen, hscreen, hmap⟩ := Option.bind_eq_some_iff.mp h
      obtain ⟨screen', hstep, rfl⟩ := Option.map_eq_some_iff.mp hmap
      exact .screen route e screen screen' htakes hscreen hstep
    · cases h

end Phone

/-! ## Screens and their routes -/

theorem previewOn_eq_some {n : Navigator Page} {route : Nat} {imageFile : String}
    (h : previewOn n route = some imageFile) :
    ⟨route, .previewImageScreen imageFile⟩ ∈ n.stack := by
  simp only [previewOn] at h
  split at h
  · rename_i id file hfind
    obtain rfl := Option.some.inj h
    obtain rfl : id = route := by simpa using List.find?_some hfind
    exact List.mem_of_find?_eq_some hfind
  · cases h

/-- The invariant: every screen has a route of its own, and is at the stage of its route. -/
structure Synced (s : Phone) : Prop where
  app : Attributed s.app
  given : ∀ route screen, s.screens route = some screen → route < s.app.nav.nextId
  stage : ∀ route screen, s.screens route = some screen → screen.life = s.app.nav.lifecycle route

/-- The stages of a screen are events of its own machine. -/
theorem exec_ages {screen : Screen} {life : Lifecycle} (h : Navigator.Ages screen.life life) :
    ∃ ds, preview.exec screen ds = some { screen with life := life } := by
  generalize hbefore : screen.life = before at h
  cases h with
  | same life =>
    subst hbefore
    exact ⟨[], rfl⟩
  | leave =>
    have hback : preview.step screen .back = some { screen with life := .leaving } := if_pos hbefore
    exact ⟨[.back], by rw [preview.exec_cons, hback]; rfl⟩
  | dispose =>
    have hdispose : preview.step screen .dispose = some { screen with life := .disposed } :=
      if_pos hbefore
    exact ⟨[.dispose], by rw [preview.exec_cons, hdispose]; rfl⟩

/-- A step of the app takes every route one stage further at most. -/
theorem ages_of_step {c : CaseMap} {s s' : App} {e : AttendanceApp.Event}
    (hstep : (AttendanceApp.app c).step s e = some s') {route : Nat}
    (hgiven : route < s.nav.nextId) :
    Navigator.Ages (s.nav.lifecycle route) (s'.nav.lifecycle route) ∧ route < s'.nav.nextId := by
  refine ⟨?_, Nat.lt_of_lt_of_le hgiven (nextId_le_of_step hstep)⟩
  rcases nav_of_step hstep with ⟨calls, hnav⟩ | ⟨disposed, hnav⟩
  · rw [hnav]
    exact Navigator.ages_navigateAll hgiven calls
  · rw [hnav]
    exact Navigator.ages_dispose _ route disposed

/-- No event of a screen but Back and the disposal moves it on. -/
theorem life_of_step {s : Phone} {route : Nat} {e : PreviewScreen.Event} {screen screen' : Screen}
    (htakes : s.Takes route e) (hstep : preview.step screen e = some screen') :
    screen'.life = screen.life := by
  cases PreviewScreen.step_cases hstep with
  | send readable => cases readable <;> rfl
  | recogReply press outcome pending =>
    rcases afterRecognition_cases screen press outcome with
      ⟨e, -, heq⟩ | ⟨info, -, -, heq⟩ | ⟨info, -, -, heq⟩
    · rw [heq]
    · rw [heq]
    · rw [heq]
      rfl
  | sheetAccepts post sent => rfl
  | postReply press reply =>
    obtain ⟨bars, heq⟩ := hear_eq screen press Submitting.isPosting (MarkAttendance.afterPost reply)
    rw [heq]
  | getReply press reply =>
    obtain ⟨bars, heq⟩ :=
      hear_eq screen press Submitting.isFollowing (MarkAttendance.afterGet reply)
    rw [heq]
  | back shown => exact htakes.elim
  | dispose leaving => exact htakes.elim

/-- **The step lemma**: screens come with their routes, and leave with them. -/
theorem synced_step {c : CaseMap} {s s' : Phone} {e : Phone.Event} (h : Synced s)
    (hstep : s.step c e = some s') : Synced s' := by
  cases Phone.step_cases hstep with
  | app e next happ =>
    have hnext : Attributed next := attributed_step s.app e next h.app happ
    -- a screen was there before, or its page is on the stack now
    have hscreen : ∀ route screen, rebuild next.nav route (s.screens route) = some screen →
        route < next.nav.nextId ∧ screen.life = next.nav.lifecycle route := by
      intro route screen hscreen
      cases hbefore : s.screens route with
      | some old =>
        rw [hbefore] at hscreen
        obtain rfl := Option.some.inj hscreen
        exact ⟨(ages_of_step happ (h.given route old hbefore)).2, rfl⟩
      | none =>
        rw [hbefore] at hscreen
        obtain ⟨imageFile, hon, rfl⟩ := Option.map_eq_some_iff.mp hscreen
        have hstack := previewOn_eq_some hon
        refine ⟨hnext.nav.lt _ (Navigator.mem_mounted_of_mem_stack hstack), ?_⟩
        exact (Navigator.lifecycle_of_mem_stack hstack).symm
    exact ⟨hnext, fun route screen hs => (hscreen route screen hs).1,
      fun route screen hs => (hscreen route screen hs).2⟩
  | screen route e screen screen' htakes hscreen hpreview =>
    have hother : ∀ other seen, Function.update s.screens route (some screen') other = some seen →
        ∃ before, s.screens other = some before ∧ seen.life = before.life := by
      intro other seen hseen
      by_cases hsame : other = route
      · subst hsame
        rw [Function.update_self] at hseen
        obtain rfl := Option.some.inj hseen
        exact ⟨screen, hscreen, life_of_step htakes hpreview⟩
      · rw [Function.update_of_ne hsame] at hseen
        exact ⟨seen, hseen, rfl⟩
    refine ⟨h.app, fun other seen hseen => ?_, fun other seen hseen => ?_⟩
    · obtain ⟨before, hbefore, -⟩ := hother other seen hseen
      exact h.given other before hbefore
    · obtain ⟨before, hbefore, hlife⟩ := hother other seen hseen
      rw [hlife]
      exact h.stage other before hbefore

/-- A step of the phone creates a screen, takes it to the next stage, or is a step of its own. -/
theorem screen_of_step {c : CaseMap} {s s' : Phone} {e : Phone.Event} (h : Synced s)
    (hstep : s.step c e = some s') {route : Nat} {screen' : Screen}
    (hscreen : s'.screens route = some screen') :
    (∃ imageFile, screen' = .initial imageFile ∧ s'.app.Mounts (.previewImageScreen imageFile)) ∨
      (∃ screen, s.screens route = some screen ∧ Navigator.Ages screen.life screen'.life ∧
        screen' = { screen with life := screen'.life }) ∨
      ∃ screen own, e = .screen route own ∧ s.screens route = some screen ∧
        preview.step screen own = some screen' := by
  cases Phone.step_cases hstep with
  | app e next happ =>
    have hrebuilt : rebuild next.nav route (s.screens route) = some screen' := hscreen
    cases hbefore : s.screens route with
    | some old =>
      rw [hbefore] at hrebuilt
      obtain rfl := Option.some.inj hrebuilt
      have hages := (ages_of_step happ (h.given route old hbefore)).1
      rw [← h.stage route old hbefore] at hages
      exact Or.inr (Or.inl ⟨old, rfl, hages, rfl⟩)
    | none =>
      rw [hbefore] at hrebuilt
      obtain ⟨imageFile, hon, rfl⟩ := Option.map_eq_some_iff.mp hrebuilt
      have hmounted := Navigator.mem_mounted_of_mem_stack (previewOn_eq_some hon)
      exact Or.inl ⟨imageFile, rfl, _, hmounted, rfl⟩
  | screen changed own screen after htakes hchanged hpreview =>
    right
    by_cases hsame : route = changed
    · subst hsame
      have hafter : Function.update s.screens route (some after) route = some screen' := hscreen
      rw [Function.update_self] at hafter
      obtain rfl := Option.some.inj hafter
      exact Or.inr ⟨screen, own, rfl, hchanged, hpreview⟩
    · have hkept : Function.update s.screens changed (some after) route = some screen' := hscreen
      rw [Function.update_of_ne hsame] at hkept
      exact Or.inl ⟨screen', hkept, .same _, rfl⟩

/-- The screen has been reached by a run of `preview`. -/
def Runs (screen : Screen) : Prop :=
  ∃ ds, preview.exec (.initial screen.imageFile) ds = some screen

/-- A screen has one picture for life. -/
theorem imageFile_of_step {screen screen' : Screen} {e : PreviewScreen.Event}
    (hstep : preview.step screen e = some screen') : screen'.imageFile = screen.imageFile := by
  cases PreviewScreen.step_cases hstep with
  | send readable => cases readable <;> rfl
  | recogReply press outcome pending => exact (afterRecognition_object screen press outcome).2
  | sheetAccepts post sent => rfl
  | postReply press reply =>
    obtain ⟨bars, heq⟩ := hear_eq screen press Submitting.isPosting
      (MarkAttendance.afterPost reply)
    rw [heq]
  | getReply press reply =>
    obtain ⟨bars, heq⟩ := hear_eq screen press Submitting.isFollowing
      (MarkAttendance.afterGet reply)
    rw [heq]
  | back shown => rfl
  | dispose leaving => rfl

/-- **A screen on a phone does what a screen does.** -/
theorem runs_of_step {c : CaseMap} {s s' : Phone} {e : Phone.Event} (h : Synced s)
    (hruns : ∀ route screen, s.screens route = some screen → Runs screen)
    (hstep : s.step c e = some s') {route : Nat} {screen' : Screen}
    (hscreen : s'.screens route = some screen') : Runs screen' := by
  rcases screen_of_step h hstep hscreen with
    ⟨imageFile, rfl, -⟩ | ⟨screen, hbefore, hages, heq⟩ | ⟨screen, own, -, hbefore, hown⟩
  · exact ⟨[], rfl⟩
  · obtain ⟨ds, hds⟩ := hruns route screen hbefore
    obtain ⟨stages, hstages⟩ := exec_ages hages
    refine ⟨ds ++ stages, ?_⟩
    rw [heq, preview.exec_append]
    show ((preview.exec (.initial screen.imageFile) ds).bind _) = _
    rw [hds, Option.bind_some]
    exact hstages
  · obtain ⟨ds, hds⟩ := hruns route screen hbefore
    refine ⟨ds ++ [own], ?_⟩
    rw [imageFile_of_step hown]
    exact preview.exec_concat_some.mpr ⟨screen, hds, hown⟩

end AttendanceApp.Campus
