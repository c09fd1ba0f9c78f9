/-
  The trail of an attendance.

  A row of the sheet is the end of a chain of handlers, each of which awaits something, on a phone
  on which other screens are open and other presses are under way:

      location check  →  capture  →  Send  →  answer of the recogniser  →  the sheet accepts the row

  `rows_have_trails` says that no link is missing and none comes too early: every row of every phone
  has its five events in the run, in this order, all on its own phone, the last three on its own
  screen, and the capture is that of the screen's picture.  Whose row it is was answered on the same
  screen as well, but not always to the same press (`PreviewScreen.attendance_only_recognised_iff`).

  Each link is found by asking where a property of one screen came from (`screen_came_from`).
-/
import AttendanceApp.Campus

namespace AttendanceApp.Campus

open AttendanceApp.Transition AttendanceApp.Dart AttendanceApp.PreviewScreen
open AttendanceApp.FaceRecognition (readRecognition Outcome Response)
open AttendanceApp.MarkAttendance (FeedbackForm Submitting)

variable {c : CaseMap}

/-! ## Where a property of a screen came from -/

/-- The screen of a route of a phone, for the picture, has the property. -/
def On (i route : Nat) (imageFile : String) (R : Screen → Prop) (s : State) : Prop :=
  ∃ screen, (s.phones i).screens route = some screen ∧ screen.imageFile = imageFile ∧ R screen

/-- **A link of the chain**: a property that no new screen has, and that does not come with a stage,
    was brought about by an event of the screen. -/
theorem screen_came_from {R : Screen → Prop} {Q : Screen → PreviewScreen.Event → Prop}
    (hnew : ∀ imageFile, ¬ R (.initial imageFile))
    (hlife : ∀ (screen : Screen) life, R { screen with life := life } → R screen)
    (hown : ∀ screen own screen', preview.step screen own = some screen' → R screen' →
      R screen ∨ Q screen own)
    {accounts : List String} {remembered : Nat → Option Nat} {es : List Event} {s : State}
    (hrun : (campus c).exec (.start accounts remembered) es = some s) {i route : Nat}
    {imageFile : String} (h : On i route imageFile R s) :
    ∃ pre own post m before, es = pre ++ .phone i (.screen route own) :: post ∧
      (campus c).exec (.start accounts remembered) pre = some m ∧
      (m.phones i).screens route = some before ∧ before.imageFile = imageFile ∧ Q before own := by
  have hcame := (campus c).exec_came_from (I := Sound) (P := On i route imageFile R)
    (Q := fun m e _ => ∃ own before, e = .phone i (.screen route own) ∧
      (m.phones i).screens route = some before ∧ before.imageFile = imageFile ∧ Q before own)
    sound_step
    (fun m e m' hm hstep hon => by
      obtain ⟨screen', hscreen, hfile, hR⟩ := hon
      rcases phone_of_step hstep i with hsame | ⟨own, rfl, hphone⟩
      · rw [hsame] at hscreen
        exact Or.inl ⟨screen', hscreen, hfile, hR⟩
      · rcases screen_of_step ((hm.synced i).online m.accounts) hphone hscreen with
          ⟨imageFile', rfl, -⟩ | ⟨screen, hbefore, -, heq⟩ | ⟨screen, own', rfl, hbefore, hstep'⟩
        · exact absurd hR (hnew imageFile')
        · rw [heq] at hR
          have hsame : screen'.imageFile = screen.imageFile := by rw [heq]
          exact Or.inl ⟨screen, hbefore, hsame ▸ hfile, hlife screen _ hR⟩
        · have hsame := imageFile_of_step hstep'
          rcases hown screen own' screen' hstep' hR with hR | hQ
          · exact Or.inl ⟨screen, hbefore, hsame ▸ hfile, hR⟩
          · exact Or.inr ⟨own', screen, rfl, hbefore, hsame ▸ hfile, hQ⟩) es _ s
    (sound_start accounts remembered) hrun h
  rcases hcame with ⟨screen, hscreen, -⟩ |
    ⟨pre, e, post, m, _, hsplit, hpre, -, own, before, rfl, hQ⟩
  · cases hscreen
  · exact ⟨pre, own, post, m, before, hsplit, hpre, hQ⟩

/-! ## The links -/

section Links

variable {screen screen' : Screen} {own : PreviewScreen.Event}

/-- The POST of a press is on its way to the sheet. -/
def Posted (press : Nat) (form : FeedbackForm) (screen : Screen) : Prop :=
  (press, form) ∈ screen.posts

/-- The call of a press is in flight. -/
def Asked (press : Nat) (screen : Screen) : Prop :=
  press ∈ screen.faceRecognition.inFlight.map Prod.fst

/-- A row is added when the sheet takes a POST. -/
theorem row_of_step {row : Nat × FeedbackForm} (hstep : preview.step screen own = some screen')
    (h : row ∈ screen'.rows) :
    row ∈ screen.rows ∨ own = .sheetAccepts row.1 ∧ Posted row.1 row.2 screen := by
  cases PreviewScreen.step_cases hstep with
  | send readable =>
    cases readable with
    | true => exact Or.inl h
    | false => exact Or.inl h
  | recogReply press outcome pending =>
    rcases afterRecognition_cases screen press outcome with
      ⟨e, -, heq⟩ | ⟨info, -, -, heq⟩ | ⟨info, -, -, heq⟩
    · rw [heq] at h
      exact Or.inl h
    · rw [heq] at h
      exact Or.inl h
    · rw [heq] at h
      exact Or.inl h
  | sheetAccepts post sent =>
    rcases List.mem_append.mp h with h | h
    · exact Or.inl h
    · obtain rfl := List.mem_singleton.mp h
      exact Or.inr ⟨rfl, sent⟩
  | postReply press reply =>
    obtain ⟨bars, heq⟩ := hear_eq screen press Submitting.isPosting (MarkAttendance.afterPost reply)
    rw [heq] at h
    exact Or.inl h
  | getReply press reply =>
    obtain ⟨bars, heq⟩ :=
      hear_eq screen press Submitting.isFollowing (MarkAttendance.afterGet reply)
    rw [heq] at h
    exact Or.inl h
  | back shown => exact Or.inl h
  | dispose leaving => exact Or.inl h

/-- A POST is sent when the recogniser's call of its press ends, with what the object holds
    then. -/
theorem posted_of_step {press : Nat} {form : FeedbackForm}
    (hstep : preview.step screen own = some screen') (h : Posted press form screen') :
    Posted press form screen ∨ ∃ outcome info, own = .recogReply press outcome ∧
      Asked press screen ∧
      readRecognition (settle screen.faceRecognition.response outcome) = .ok info ∧
      form = ⟨info.subjectId, "1"⟩ := by
  cases PreviewScreen.step_cases hstep with
  | send readable =>
    cases readable with
    | true => exact Or.inl h
    | false => exact Or.inl h
  | recogReply answered outcome pending =>
    rcases afterRecognition_cases screen answered outcome with
      ⟨e, -, heq⟩ | ⟨info, -, -, heq⟩ | ⟨info, hread, -, heq⟩
    · rw [heq] at h
      exact Or.inl h
    · rw [heq] at h
      exact Or.inl h
    · rw [heq] at h
      rcases List.mem_append.mp h with h | h
      · exact Or.inl h
      · obtain ⟨rfl, rfl⟩ := Prod.mk.inj (List.mem_singleton.mp h)
        rw [finish_response] at hread
        exact Or.inr ⟨outcome, info, rfl, pending, hread, rfl⟩
  | sheetAccepts post sent => exact Or.inl (List.mem_of_mem_erase h)
  | postReply heard reply =>
    rw [Posted, hear_posts] at h
    exact Or.inl h
  | getReply heard reply =>
    rw [Posted, hear_posts] at h
    exact Or.inl h
  | back shown => exact Or.inl h
  | dispose leaving => exact Or.inl h

/-- A call is made when Send is pressed on a picture that can be read. -/
theorem asked_of_step {press : Nat} (hstep : preview.step screen own = some screen')
    (h : Asked press screen') : Asked press screen ∨ own = .send true := by
  cases PreviewScreen.step_cases hstep with
  | send readable =>
    cases readable with
    | true => exact Or.inr rfl
    | false => exact Or.inl h
  | recogReply answered outcome pending =>
    left
    have hobject := (afterRecognition_object screen answered outcome).1
    rw [Asked, hobject] at h
    obtain ⟨call, hcall, rfl⟩ := List.mem_map.mp h
    exact List.mem_map_of_mem (List.mem_filter.mp hcall).1
  | sheetAccepts post sent => exact Or.inl h
  | postReply heard reply =>
    rw [Asked, hear_faceRecognition] at h
    exact Or.inl h
  | getReply heard reply =>
    rw [Asked, hear_faceRecognition] at h
    exact Or.inl h
  | back shown => exact Or.inl h
  | dispose leaving => exact Or.inl h

/-- The object holds what the recogniser has answered to one of the presses. -/
theorem response_of_step {reply : Response} (hstep : preview.step screen own = some screen')
    (h : screen'.faceRecognition.response = some reply) :
    screen.faceRecognition.response = some reply ∨
      ∃ press, own = .recogReply press (.ok reply) := by
  cases PreviewScreen.step_cases hstep with
  | send readable =>
    cases readable with
    | true => exact Or.inl h
    | false => exact Or.inl h
  | recogReply answered outcome pending =>
    have hobject := (afterRecognition_object screen answered outcome).1
    rw [hobject, finish_response] at h
    cases outcome with
    | ok reply' =>
      obtain rfl := Option.some.inj h
      exact Or.inr ⟨answered, rfl⟩
    | error e => exact Or.inl h
  | sheetAccepts post sent => exact Or.inl h
  | postReply heard reply' =>
    rw [hear_faceRecognition] at h
    exact Or.inl h
  | getReply heard reply' =>
    rw [hear_faceRecognition] at h
    exact Or.inl h
  | back shown => exact Or.inl h
  | dispose leaving => exact Or.inl h

end Links

/-! ## The whole trail -/

section Trail

variable {accounts : List String} {remembered : Nat → Option Nat} {es : List Event} {s : State}
  {i route : Nat} {imageFile : String}

/-- A later event goes behind the events before it. -/
theorem sublist_then {trail pre post : List Event} {e : Event} (h : trail.Sublist pre) :
    (trail ++ [e]).Sublist (pre ++ e :: post) :=
  h.append (List.singleton_sublist.mpr List.mem_cons_self)

/-- A screen was opened for its picture, which was captured after a location check. -/
theorem trail_of_screen (hrun : (campus c).exec (.start accounts remembered) es = some s)
    {screen : Screen} (hscreen : (s.phones i).screens route = some screen) :
    ∃ checked course captured,
      [.phone i (.app (.complete (.condition checked course) (.confirmed true))),
        .phone i (.app (.complete (.captureFace captured) (.picture screen.imageFile)))].Sublist
          es := by
  have hpreviews : (s.phones i).Previews screen.imageFile := Or.inl ⟨route, screen, hscreen, rfl⟩
  obtain ⟨pre, captured, post, m, course, rfl, hpre, hcamera⟩ := captured_of_previews hrun hpreviews
  obtain ⟨before, checked, mid, rfl⟩ := confirmed_of_camera hpre hcamera
  refine ⟨checked, course, captured, ?_⟩
  exact sublist_then (List.singleton_sublist.mpr
    (List.mem_append_right _ List.mem_cons_self))

/-- A call was made by a press of Send on its screen. -/
theorem trail_of_asked (hrun : (campus c).exec (.start accounts remembered) es = some s)
    {press : Nat} (h : On i route imageFile (Asked press) s) :
    ∃ checked course captured,
      [.phone i (.app (.complete (.condition checked course) (.confirmed true))),
        .phone i (.app (.complete (.captureFace captured) (.picture imageFile))),
        .phone i (.screen route (.send true))].Sublist es := by
  obtain ⟨pre, own, post, m, before, rfl, hpre, hbefore, rfl, rfl⟩ :=
    screen_came_from (R := Asked press) (Q := fun _ own => own = .send true)
      (fun _ h => absurd h List.not_mem_nil) (fun _ _ h => h)
      (fun _ _ _ hstep h => asked_of_step hstep h) hrun h
  obtain ⟨checked, course, captured, hsub⟩ := trail_of_screen hpre hbefore
  exact ⟨checked, course, captured, sublist_then hsub⟩

/-- An answer that the object of a screen holds was given on that screen. -/
theorem answered_of_response (hrun : (campus c).exec (.start accounts remembered) es = some s)
    {reply : Response}
    (h : On i route imageFile (fun screen => screen.faceRecognition.response = some reply) s) :
    ∃ press, .phone i (.screen route (.recogReply press (.ok reply))) ∈ es := by
  obtain ⟨pre, own, post, m, before, rfl, -, -, -, press, rfl⟩ :=
    screen_came_from (R := fun screen => screen.faceRecognition.response = some reply)
      (Q := fun _ own => ∃ press, own = .recogReply press (.ok reply)) (fun _ h => by cases h)
      (fun _ _ h => h) (fun _ _ _ hstep h => response_of_step hstep h) hrun h
  exact ⟨press, List.mem_append_right _ List.mem_cons_self⟩

/-- A POST was sent when the call of its press ended, with an answer that was given on its screen by
    then. -/
theorem trail_of_posted (hrun : (campus c).exec (.start accounts remembered) es = some s)
    {press : Nat} {form : FeedbackForm} (h : On i route imageFile (Posted press form) s) :
    (∃ checked course captured outcome,
      [.phone i (.app (.complete (.condition checked course) (.confirmed true))),
        .phone i (.app (.complete (.captureFace captured) (.picture imageFile))),
        .phone i (.screen route (.send true)),
        .phone i (.screen route (.recogReply press outcome))].Sublist es) ∧
    ∃ answered reply info, .phone i (.screen route (.recogReply answered (.ok reply))) ∈ es ∧
      readRecognition (some reply) = .ok info ∧ form = ⟨info.subjectId, "1"⟩ := by
  obtain ⟨pre, own, post, m, before, rfl, hpre, hbefore, rfl, outcome, info, rfl, hasked, hread,
      hform⟩ :=
    screen_came_from (R := Posted press form)
      (Q := fun screen own => ∃ outcome info, own = .recogReply press outcome ∧
        Asked press screen ∧
        readRecognition (settle screen.faceRecognition.response outcome) = .ok info ∧
        form = ⟨info.subjectId, "1"⟩)
      (fun _ h => absurd h List.not_mem_nil) (fun _ _ h => h)
      (fun _ _ _ hstep h => posted_of_step hstep h) hrun h
  obtain ⟨checked, course, captured, hsub⟩ := trail_of_asked hpre ⟨before, hbefore, rfl, hasked⟩
  refine ⟨⟨checked, course, captured, outcome, sublist_then hsub⟩, ?_⟩
  cases outcome with
  | ok reply =>
    exact ⟨press, reply, info, List.mem_append_right _ List.mem_cons_self, hread, hform⟩
  | error e =>
    -- the object still holds an earlier answer
    cases hresponse : before.faceRecognition.response with
    | none =>
      rw [hresponse] at hread
      cases hread
    | some reply =>
      rw [hresponse] at hread
      obtain ⟨answered, hmem⟩ := answered_of_response hpre ⟨before, hbefore, rfl, hresponse⟩
      exact ⟨answered, reply, info, List.mem_append_left _ hmem, hread, hform⟩

/-- **Every attendance has its trail**: in every run of any number of phones, every row that a
    screen has put into the sheet was submitted after a location check that came out well, the
    capture of the screen's picture, a press of Send, and the end of the recogniser's call of that
    press, in this order and all on the phone and the screen of the row; and whom it names was
    answered on the same screen before the sheet accepted it. -/
theorem rows_have_trails (c : CaseMap) (accounts : List String) (remembered : Nat → Option Nat)
    (es : List Event) (s : State)
    (hrun : (campus c).exec (.start accounts remembered) es = some s) (i route : Nat)
    (screen : Screen) (hscreen : (s.phones i).screens route = some screen) :
    ∀ row ∈ screen.rows,
      (∃ checked course captured outcome,
        [.phone i (.app (.complete (.condition checked course) (.confirmed true))),
          .phone i (.app (.complete (.captureFace captured) (.picture screen.imageFile))),
          .phone i (.screen route (.send true)),
          .phone i (.screen route (.recogReply row.1 outcome)),
          .phone i (.screen route (.sheetAccepts row.1))].Sublist es) ∧
      ∃ answered reply info,
        [.phone i (.screen route (.recogReply answered (.ok reply))),
          .phone i (.screen route (.sheetAccepts row.1))].Sublist es ∧
        readRecognition (some reply) = .ok info ∧ row.2 = ⟨info.subjectId, "1"⟩ := by
  intro row hrow
  obtain ⟨pre, own, post, m, before, rfl, hpre, hbefore, hfile, rfl, hposted⟩ :=
    screen_came_from (R := fun screen => row ∈ screen.rows)
      (Q := fun screen own => own = .sheetAccepts row.1 ∧ Posted row.1 row.2 screen)
      (fun _ h => absurd h List.not_mem_nil) (fun _ _ h => h)
      (fun _ _ _ hstep h => row_of_step hstep h) hrun ⟨screen, hscreen, rfl, hrow⟩
  obtain ⟨⟨checked, course, captured, outcome, hsub⟩, answered, reply, info, hmem, hread, hform⟩ :=
    trail_of_posted hpre ⟨before, hbefore, hfile, hposted⟩
  refine ⟨⟨checked, course, captured, outcome, sublist_then hsub⟩, answered, reply, info, ?_, hread,
    hform⟩
  exact sublist_then (List.singleton_sublist.mpr hmem)

end Trail

/-- The attendance of a lecture. -/
theorem lecture_rows_have_trails :
    lectureScreen.rows ≠ [] ∧ ∀ row ∈ lectureScreen.rows,
      (∃ checked course captured outcome,
        [.phone 1 (.app (.complete (.condition checked course) (.confirmed true))),
          .phone 1 (.app (.complete (.captureFace captured) (.picture lectureScreen.imageFile))),
          .phone 1 (.screen 6 (.send true)),
          .phone 1 (.screen 6 (.recogReply row.1 outcome)),
          .phone 1 (.screen 6 (.sheetAccepts row.1))].Sublist lecture) ∧
      ∃ answered reply info,
        [.phone 1 (.screen 6 (.recogReply answered (.ok reply))),
          .phone 1 (.screen 6 (.sheetAccepts row.1))].Sublist lecture ∧
        readRecognition (some reply) = .ok info ∧ row.2 = ⟨info.subjectId, "1"⟩ :=
  ⟨List.cons_ne_nil _ _, rows_have_trails .ascii ["17ck000001"] remembering lecture afterLecture
    exec_lecture 1 6 lectureScreen screens_afterLecture⟩

end AttendanceApp.Campus
