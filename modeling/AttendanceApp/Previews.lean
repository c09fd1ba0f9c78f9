/-
  Which picture PageImageScreen shows, and which one it enrols.

      RegisterCamera:   paths.add(path)
                        pushReplacement(PageImageScreen(imagePath: paths, File(path), ..))
      PageImageScreen:  Image.file(File(imagePath[0]))
                        enrollImage(imageFile, matricNumber)

  `paths` is one list for the whole process and is never cleared, so `paths[0]` is the first picture
  ever taken; the file that is enrolled is the last one.  They are the same for the first capture of
  the process only.
-/
import AttendanceApp.App

namespace AttendanceApp

open Transition Dart Navigator

variable {c : CaseMap}

/-- A preview displays `paths[0]`, which is the file its Upload button enrols, and all of `paths`
    comes from the session and is for the matric number of the preview. -/
def Shows (paths : List Picture) : Page → Prop
  | .pageImageScreen matricNumber imageFile session _ =>
    paths.head?.map Picture.path = some imageFile ∧
      ∀ p ∈ paths, p.session = session ∧ p.matnumber = matricNumber
  | _ => True

/-- The property, for every preview that is shown or that Back returns to. -/
def PreviewsMatch (s : App) : Prop := s.nav.All (Shows s.paths)

/-- A preview was opened by camera `route`, for the matric number. -/
def OpenedBy (route : Nat) (matnumber : String) : Page → Prop
  | .pageImageScreen matricNumber _ session _ => session = route ∧ matricNumber = matnumber
  | _ => True

/-- A capture that opens a preview is the first one of the process; one that comes too late to open
    a preview belongs to the previews that are open. -/
def FirstPicture (s : App) : Event → Prop
  | .complete (.takePicture route matnumber _) (.picture _) =>
    if s.nav.mounted route = true ∧ s.nav.stack ≠ [] then s.paths = []
    else s.nav.All (OpenedBy route matnumber)
  | _ => True

/-- No button opens a preview. -/
theorem leads_shows {paths : List Picture} {page page' : Page} (h : Leads c page page') :
    Shows paths page' := by
  cases h <;> trivial

/-- One more picture. -/
theorem shows_append {paths : List Picture} {page : Page} (h : Shows paths page) (path : String)
    (route : Nat) (matnumber : String) :
    Shows (paths ++ [⟨path, route, matnumber⟩]) page ↔ OpenedBy route matnumber page := by
  cases page with
  | pageImageScreen matricNumber imageFile session typed =>
    obtain ⟨hhead, hall⟩ := h
    cases paths with
    | nil => cases hhead
    | cons first later =>
      constructor
      · intro hshows
        have hnew := hshows.2 ⟨path, route, matnumber⟩
          (List.mem_append_right _ (List.mem_singleton_self _))
        exact ⟨hnew.1.symm, hnew.2.symm⟩
      · rintro ⟨rfl, rfl⟩
        refine ⟨hhead, fun p hp => ?_⟩
        rcases List.mem_append.mp hp with hp | hp
        · exact hall p hp
        · obtain rfl := List.mem_singleton.mp hp
          exact ⟨rfl, rfl⟩
  | _ => exact Iff.rfl

/-- While no picture has been taken, no preview is open. -/
theorem shows_of_nil {page : Page} (h : Shows [] page) (paths : List Picture) :
    Shows paths page := by
  cases page with
  | pageImageScreen matricNumber imageFile session typed => cases h.1
  | _ => trivial

/-- Only the first picture of the process is displayed by the preview its own capture opens. -/
theorem shows_own_iff {paths : List Picture} {path : String}
    (hfresh : path ∉ paths.map Picture.path) (route : Nat) (matnumber : String)
    (typed : Option String) :
    Shows (paths ++ [⟨path, route, matnumber⟩]) (.pageImageScreen matnumber path route typed) ↔
      paths = [] := by
  constructor
  · rintro ⟨hhead, -⟩
    cases paths with
    | nil => rfl
    | cons first later =>
      have hpath : first.path = path := Option.some.inj hhead
      exact absurd (List.mem_map.mpr ⟨first, List.mem_cons_self, hpath⟩) hfresh
  · rintro rfl
    refine ⟨rfl, fun p hp => ?_⟩
    obtain rfl := List.mem_singleton.mp hp
    exact ⟨rfl, rfl⟩

/-- **The step lemma** of the previews: a capture that completes. -/
theorem previewsMatch_taken {s : App} (h : PreviewsMatch s) {path : String}
    (hfresh : path ∉ s.paths.map Picture.path) (route : Nat) (matnumber : String)
    (typed : Option String) :
    PreviewsMatch ({ s with paths := s.paths ++ [Picture.mk path route matnumber] }.resume route
      [.pushReplacement (.pageImageScreen matnumber path route typed)]) ↔
      FirstPicture s (.complete (.takePicture route matnumber typed) (.picture path)) := by
  rw [PreviewsMatch, All, resume_paths, nav_resume_pushReplacement, FirstPicture]
  by_cases hopens : s.nav.mounted route = true ∧ s.nav.stack ≠ []
  · rw [if_pos hopens, if_pos hopens]
    rw [← shows_own_iff hfresh route matnumber typed]
    constructor
    · intro hall
      exact hall _ List.mem_cons_self
    · intro hown r hr
      have hnone := (shows_own_iff hfresh route matnumber typed).mp hown
      rcases List.mem_cons.mp hr with rfl | hr
      · exact hown
      · have hold := h r (List.mem_of_mem_tail hr)
        rw [hnone] at hold
        exact shows_of_nil hold _
  · rw [if_neg hopens, if_neg hopens]
    constructor
    · intro hall r hr
      exact (shows_append (h r hr) path route matnumber).mp (hall r hr)
    · intro hall r hr
      exact (shows_append (h r hr) path route matnumber).mpr (hall r hr)

/-- **The step lemma** of the previews. -/
theorem previewsMatch_step (s : App) (e : Event) (s' : App) (_ : True) (h : PreviewsMatch s)
    (hstep : (app c).step s e = some s') : PreviewsMatch s' ↔ FirstPicture s e := by
  have hkeeps : ∀ (t : App) route calls, t.nav.All (Shows t.paths) →
      OpenOnly (Shows t.paths) calls → PreviewsMatch (t.resume route calls) := by
    intro t route calls ht hcalls
    rw [PreviewsMatch, resume_paths]
    exact all_resume ht hcalls
  cases step_cases hstep with
  | press button top rest reaction hstack hpress =>
    refine ⟨fun _ => trivial, fun _ => h.navigateAll fun call hcall page hopens => ?_⟩
    exact leads_shows ((press_cases hpress).1 call hcall page hopens)
  | back => exact ⟨fun _ => trivial, fun _ => h.navigateAll openOnly_pop⟩
  | type _ _ => exact ⟨fun _ => trivial, fun _ => h⟩
  | dispose _ => exact ⟨fun _ => trivial, fun _ => h⟩
  | nobody _ _ => exact ⟨fun _ => trivial, fun _ => h⟩
  | remembered route user huser =>
    exact ⟨fun _ => trivial, fun _ => h.navigateAll (openOnly_opens rfl trivial)⟩
  | complete op reply _ _ hc =>
    cases hc with
    | failed op hop =>
      refine ⟨fun _ => ?_, fun _ => h⟩
      cases op <;> trivial
    | signedIn route user =>
      exact ⟨fun _ => trivial, fun _ => hkeeps _ _ _ h (openOnly_opens rfl trivial)⟩
    | created route name => exact ⟨fun _ => trivial, fun _ => h⟩
    | updated route user => exact ⟨fun _ => trivial, fun _ => h⟩
    | notUpdated route user =>
      exact ⟨fun _ => trivial, fun _ => hkeeps _ _ _ h (openOnly_opens rfl trivial)⟩
    | notReloaded route user =>
      exact ⟨fun _ => trivial, fun _ => hkeeps _ _ _ h (openOnly_opens rfl trivial)⟩
    | reloaded route user =>
      exact ⟨fun _ => trivial, fun _ => hkeeps _ _ _ h (openOnly_afterRegister fun _ _ => trivial)⟩
    | signedOut route =>
      exact ⟨fun _ => trivial, fun _ => hkeeps _ _ _ h (openOnly_opens rfl trivial)⟩
    | taken route matnumber typed path hfresh =>
      exact previewsMatch_taken (s := { s with
        inFlight := s.inFlight.erase (.takePicture route matnumber typed) }) h hfresh _ _ _
    | captured route path =>
      exact ⟨fun _ => trivial, fun _ => hkeeps _ _ _ h (openOnly_opens rfl trivial)⟩
    | located route course yes =>
      exact ⟨fun _ => trivial,
        fun _ => hkeeps _ _ _ h (openOnly_afterCondition (fun _ => trivial) trivial)⟩
    | enrolled route _ _ => exact ⟨fun _ => trivial, fun _ => hkeeps _ _ _ h openOnly_pop⟩

/-- **When the previews show what they enrol**: in every run of the app, exactly when every capture
    that opens a preview is the first one of the process, and every other one belongs to the
    previews that are open. -/
theorem previews_match_iff (c : CaseMap) (accounts : List String) (currentUser : Option Nat)
    (es : List Event) (s : App) (hrun : (app c).exec (.start accounts currentUser) es = some s) :
    (app c).Always PreviewsMatch (.start accounts currentUser) es ↔
      (app c).Along FirstPicture (.start accounts currentUser) es :=
  (app c).always_iff_along (fun _ _ _ _ _ => trivial) previewsMatch_step es _ s trivial
    (fun r hr => by cases List.mem_singleton.mp hr; trivial) hrun

/-- The first picture taken is the one that is previewed. -/
theorem first_picture_previewed :
    (app .ascii).Always PreviewsMatch (.start ["17CK023456"] (some 0))
      [.press .students, .initializeFirebase 1, .press .registerFacePicture, .press .capture,
        .complete (.takePicture 3 "" none) (.picture "first.png")] := by
  refine (previews_match_iff .ascii ["17CK023456"] (some 0)
    [.press .students, .initializeFirebase 1, .press .registerFacePicture, .press .capture,
      .complete (.takePicture 3 "" none) (.picture "first.png")] _ rfl).mpr ?_
  exact .cons _ rfl trivial (.cons _ rfl trivial (.cons _ rfl trivial (.cons _ rfl trivial
    (.cons _ rfl rfl trivial))))

/-- The second picture is not: its preview displays the first one, and enrols the second. -/
theorem second_picture_not_previewed :
    ¬ ∀ (c : CaseMap) (accounts : List String) (currentUser : Option Nat) (es : List Event)
      (s : App), (app c).exec (.start accounts currentUser) es = some s → PreviewsMatch s := by
  intro h
  have hmatch := h .ascii ["17CK023456"] (some 0)
    [.press .students, .initializeFirebase 1, .press .registerFacePicture, .press .capture,
      .complete (.takePicture 3 "" none) (.picture "first.png"), .back,
      .press .registerFacePicture, .press .capture,
      .complete (.takePicture 5 "" none) (.picture "second.png")] _ rfl
  have hshows := hmatch ⟨6, .pageImageScreen "" "second.png" 5 none⟩ List.mem_cons_self
  have hpath : "first.png" = "second.png" := Option.some.inj hshows.1
  exact absurd hpath (by decide)

end AttendanceApp
