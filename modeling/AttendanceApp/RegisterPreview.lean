/-
  `lib/Registration/Register_preview.dart`: the screen that enrols a captured face.

  Its `Upload` button awaits `faceRecognition.enrollImage(imageFile, matricNumber)` and, when the
  call RETURNS, shows 'IMAGE UPLOADED' and pops the page:

      await faceRecognition.enrollImage(widget.imageFile, _matricNumber).then(..)
      ScaffoldMessenger.of(context).showSnackBar('IMAGE UPLOADED')
      Navigator.pop(context)

  `enrollImage` returns after a failed request, and after any reply it can read a status off; it
  throws only on a reply it cannot read.  The result below says exactly for which replies the
  message is right.
-/
import AttendanceApp.FaceRecognition
import AttendanceApp.Navigator

namespace AttendanceApp.RegisterPreview

open AttendanceApp.FaceRecognition AttendanceApp.Transition

/-! ## The screen -/

/-- A press whose `enrollImage` call is over: what became of its own request, whether its handler
    showed 'IMAGE UPLOADED', and whether it popped this page. -/
structure Handled where
  press : Nat
  outcome : Outcome
  shown : Bool
  popped : Bool

/-- `_PageImageScreenState`, with what has become of its presses. -/
structure Screen where
  imageFile : String
  matricNumber : String
  life : Lifecycle := .shown
  faceRecognition : Object := {}
  presses : Nat := 0
  handled : List Handled := []
  snackbars : List String := []
  /-- How often the page's handlers have popped a route below it. -/
  poppedBelow : Nat := 0

/-- `Upload` is pressed.  When the picture cannot be read, `enrollImage` and the handler throw
    before any request. -/
def Screen.upload (s : Screen) (readable : Bool) : Screen :=
  if readable then
    { s with
      presses := s.presses + 1
      faceRecognition :=
        { s.faceRecognition with
          inFlight := (s.presses, .enrollImage s.imageFile s.matricNumber) ::
            s.faceRecognition.inFlight } }
  else { s with presses := s.presses + 1 }

/-- The handler of `press`, whose call has returned: the snackbar and the pop.  `Navigator.pop`
    takes the topmost route that is not already leaving. -/
def Screen.uploaded (s : Screen) (press : Nat) (outcome : Outcome) : Screen :=
  match s.life with
  | .shown =>
    { s with
      life := .leaving
      snackbars := s.snackbars ++ ["IMAGE UPLOADED"]
      handled := s.handled ++ [⟨press, outcome, true, true⟩] }
  | .leaving =>
    { s with
      poppedBelow := s.poppedBelow + 1
      snackbars := s.snackbars ++ ["IMAGE UPLOADED"]
      handled := s.handled ++ [⟨press, outcome, true, false⟩] }
  | .disposed => -- `ScaffoldMessenger.of(context)` throws
    { s with handled := s.handled ++ [⟨press, outcome, false, false⟩] }

/-- The request of `enrollImage` completes for `press`, and the handler runs on. -/
def Screen.afterEnroll (s : Screen) (press : Nat) (outcome : Outcome) : Screen :=
  let object := s.faceRecognition.finish press (.enrollImage s.imageFile s.matricNumber) outcome
  match (enrollImage s.faceRecognition.response outcome).2 with
  | .error _ =>
    { s with
      faceRecognition := object
      handled := s.handled ++ [⟨press, outcome, false, false⟩] }
  | .ok _ => { s with faceRecognition := object }.uploaded press outcome

/-! ## Runs -/

/-- A press of `Upload`, the outcome of the request of one, and the end of the page. -/
inductive Event where
  | upload (readable : Bool)
  | enrollReply (press : Nat) (outcome : Outcome)
  | back
  | dispose

/-- One event; only a page that is shown takes presses, and its requests come back at any time. -/
def step (s : Screen) : Event → Option Screen
  | .upload readable => if s.life = .shown then some (s.upload readable) else none
  | .enrollReply press outcome =>
    if press ∈ s.faceRecognition.inFlight.map Prod.fst then some (s.afterEnroll press outcome)
    else none
  | .back => if s.life = .shown then some { s with life := .leaving } else none
  | .dispose => if s.life = .leaving then some { s with life := .disposed } else none

/-- One page: any presses of `Upload`, any outcomes of their requests, in any order. -/
def registration : Machine Screen Event := ⟨step⟩

/-- The page has just been opened. -/
def Screen.initial (imageFile matricNumber : String) : Screen :=
  { imageFile := imageFile, matricNumber := matricNumber }

/-! ## 'IMAGE UPLOADED' -/

/-- The reply to a press's own request reports the enrolment as a success. -/
def succeeded : Outcome → Bool
  | .ok reply => reply.reportsSuccess
  | .error _ => false

/-- The handler showed the message and popped the page if the enrolment succeeded, and did
    neither if it did not. -/
def Honest (h : Handled) : Prop := h.shown = succeeded h.outcome ∧ h.popped = succeeded h.outcome

/-- Every handler that has run on the page was honest. -/
def AllHonest (s : Screen) : Prop := ∀ h ∈ s.handled, Honest h

/-- The reply cannot be read, so that `enrollImage` throws. -/
def malformed : Outcome → Bool
  | .ok reply => !reply.readable
  | .error _ => false

/-- A success arrives while the page is on screen; anything else is a reply that cannot be read,
    or arrives when the page has been disposed. -/
def ArrivesWell (s : Screen) : Event → Prop
  | .enrollReply _ outcome =>
    if succeeded outcome then s.life = .shown else malformed outcome ∨ s.life = .disposed
  | _ => True

/-- `enrollImage` returns on a failed request, and on a reply it can read. -/
theorem enrollImage_result (response : Option Response) (outcome : Outcome) :
    (∃ result, (enrollImage response outcome).2 = .ok result) ↔ malformed outcome = false := by
  cases outcome with
  | ok reply => rw [enrollImage_returns_iff, malformed, Bool.not_eq_false']
  | error e => exact ⟨fun _ => rfl, fun _ => ⟨response, rfl⟩⟩

theorem not_malformed_of_succeeded {outcome : Outcome} (h : succeeded outcome = true) :
    malformed outcome = false := by
  cases outcome with
  | ok reply =>
    have hr := Response.readable_of_reportsSuccess h
    rw [malformed, hr]
    rfl
  | error e => rfl

/-- What the handler of `press` reports depends on the reply being readable, and on the page. -/
theorem afterEnroll_handled (s : Screen) (press : Nat) (outcome : Outcome) :
    (s.afterEnroll press outcome).handled = s.handled ++
      [⟨press, outcome, !malformed outcome && decide (s.life ≠ .disposed),
        !malformed outcome && decide (s.life = .shown)⟩] := by
  have hiff := enrollImage_result s.faceRecognition.response outcome
  cases hres : (enrollImage s.faceRecognition.response outcome).2 with
  | error e =>
    have hm : malformed outcome = true := by
      cases hm : malformed outcome with
      | true => rfl
      | false =>
        obtain ⟨result, hok⟩ := hiff.mpr hm
        rw [hres] at hok
        cases hok
    simp only [Screen.afterEnroll, hres, hm]
    rfl
  | ok result =>
    have hm := hiff.mp ⟨result, hres⟩
    simp only [Screen.afterEnroll, hres, hm, Screen.uploaded]
    cases s.life <;> rfl

/-- The handler is honest exactly when its outcome arrives well. -/
theorem honest_iff (s : Screen) (press : Nat) (outcome : Outcome) :
    Honest ⟨press, outcome, !malformed outcome && decide (s.life ≠ .disposed),
        !malformed outcome && decide (s.life = .shown)⟩ ↔
      ArrivesWell s (.enrollReply press outcome) := by
  unfold Honest ArrivesWell
  cases hs : succeeded outcome with
  | true =>
    have hm := not_malformed_of_succeeded hs
    cases s.life <;> simp [hs, hm]
  | false => cases hm : malformed outcome <;> cases s.life <;> simp [hs, hm]

/-- One step keeps the handlers honest exactly when it meets the condition. -/
theorem allHonest_step (s : Screen) (e : Event) (s' : Screen) (_ : True) (h : AllHonest s)
    (hstep : registration.step s e = some s') : AllHonest s' ↔ ArrivesWell s e := by
  cases e with
  | upload readable =>
    obtain ⟨-, rfl⟩ := guarded_eq_some.mp hstep
    refine ⟨fun _ => trivial, fun _ => ?_⟩
    cases readable <;> exact h
  | enrollReply press outcome =>
    obtain ⟨-, rfl⟩ := guarded_eq_some.mp hstep
    rw [AllHonest, afterEnroll_handled, List.forall_mem_append, ← honest_iff s press outcome]
    constructor
    · rintro ⟨-, hnew⟩
      exact hnew _ (List.mem_singleton_self _)
    · intro hnew
      refine ⟨h, fun x hx => ?_⟩
      rw [List.mem_singleton.mp hx]
      exact hnew
  | back =>
    obtain ⟨-, rfl⟩ := guarded_eq_some.mp hstep
    exact ⟨fun _ => trivial, fun _ => h⟩
  | dispose =>
    obtain ⟨-, rfl⟩ := guarded_eq_some.mp hstep
    exact ⟨fun _ => trivial, fun _ => h⟩

/-- **When 'IMAGE UPLOADED' is right**: in every run of the page, every handler shows the message
    and pops the page exactly on its own success if and only if every outcome arrives well. -/
theorem image_uploaded_iff (imageFile matricNumber : String) (es : List Event) (s : Screen)
    (hrun : registration.exec (.initial imageFile matricNumber) es = some s) :
    registration.Always AllHonest (.initial imageFile matricNumber) es ↔
      registration.Along ArrivesWell (.initial imageFile matricNumber) es :=
  registration.always_iff_along (fun _ _ _ _ _ => trivial) allHonest_step es _ s trivial nofun hrun

/-- The page after one press whose request has failed. -/
def failedUpload : Screen :=
  { Screen.initial "face.png" "17CK023456" with
    life := .leaving
    faceRecognition :=
      { finished := [⟨0, .enrollImage "face.png" "17CK023456", .error ⟨none⟩,
          .enrolled (.ok none)⟩] }
    presses := 1
    handled := [⟨0, .error ⟨none⟩, true, true⟩]
    snackbars := ["IMAGE UPLOADED"] }

/-- Without a network the page says 'IMAGE UPLOADED' and closes. -/
theorem failed_upload_reported :
    registration.exec (.initial "face.png" "17CK023456")
      [.upload true, .enrollReply 0 (.error ⟨none⟩)] = some failedUpload ∧
    ¬ AllHonest failedUpload := by
  refine ⟨rfl, fun h => ?_⟩
  have hshown := (h _ (List.mem_singleton_self _)).1
  cases hshown

/-- The recogniser's answer to an enrolment. -/
def enrolled (status : String) : Response where
  body := some (.obj [("images", .arr [.obj [("transaction", .obj [("status", .str status)])]])])

/-- A press whose reply cannot be read, and then one that succeeds. -/
theorem retried_upload_reported :
    registration.Always AllHonest (.initial "face.png" "17CK023456")
      [.upload true, .enrollReply 0 (.ok ⟨none⟩), .upload true,
        .enrollReply 1 (.ok (enrolled "success"))] := by
  refine (image_uploaded_iff _ _ _ _ rfl).mpr ?_
  exact .cons _ rfl trivial (.cons _ rfl (Or.inl rfl) (.cons _ rfl trivial
    (.cons _ rfl rfl trivial)))

end AttendanceApp.RegisterPreview
