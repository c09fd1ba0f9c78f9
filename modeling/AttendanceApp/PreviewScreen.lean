/-
  `lib/Attendance/preview_screen.dart`: the screen that marks attendance.

  Its `Send` button asks the recogniser whose face the captured picture shows and, when the call
  returns, stores the answer in the screen's state and submits a row to the attendance sheet:

      info = await faceRecognition.recogImage(imageFile)
      setState: status = info['status']; studentId = info['subjectId']; _submitForm()

  The button stays enabled, so any number of presses can be under way; `_submitForm` is called
  whatever the `status` is, and is not awaited.  The state keeps, beside the screen's own fields,
  the recogniser object (`FaceRecognition.Object`), the submissions with what each waits for, the
  POSTs on their way to the sheet, and the rows the sheet has added.

  The sheet takes each POST at most once.  That it takes at most one POST of each PRESS is no rule
  of the model: it holds because no press submits twice (`Numbered.submitted_once`).
-/
import AttendanceApp.FaceRecognition
import AttendanceApp.MarkAttendance
import AttendanceApp.Navigator
import Mathlib.Data.List.Nodup
import Mathlib.Tactic.Tauto

namespace AttendanceApp.PreviewScreen

open AttendanceApp.FaceRecognition AttendanceApp.MarkAttendance AttendanceApp.Transition

/-! ## The screen -/

/-- One call of `submitForm`, with what its callback has been told. -/
structure Submission where
  press : Nat
  form : FeedbackForm
  stage : Submitting := .posting
  told : Option (Option String) := none

/-- `_PreviewImageScreenState`, with what its presses have started and what the sheet has made of
    it. -/
structure Screen where
  imageFile : String
  life : Lifecycle := .shown
  status : Bool := false
  studentId : Option String := some "Your Attendance is yet to be taken"
  faceRecognition : Object := {}
  /-- The number of presses of `Send`; the presses are numbered from 0. -/
  presses : Nat := 0
  /-- The presses whose picture could not be read, so that `recogImage` threw at once. -/
  unread : List Nat := []
  submissions : List Submission := []
  /-- The POSTs the sheet has not taken, with the press each comes from. -/
  posts : List (Nat × FeedbackForm) := []
  /-- The rows the sheet has added, with the press each comes from. -/
  rows : List (Nat × FeedbackForm) := []
  snackbars : List String := []

/-- The two texts under the button: the second one is 'Congratulations $studentId your attendance
    has been captured' or the bare `studentId`. -/
inductive Texts where
  | recognized (congratulated : Option String)
  | notYetRecognized (studentId : Option String)
  deriving DecidableEq, Repr

/-- What is on display; nothing once the screen is disposed. -/
def Screen.build (s : Screen) : Option Texts :=
  if s.life = .disposed then none
  else if s.status then some (.recognized s.studentId) else some (.notYetRecognized s.studentId)

/-! ## Its handlers -/

/-- `_submitForm`, called by press `press`: the POST is sent. -/
def Screen.submitForm (s : Screen) (press : Nat) : Screen :=
  { s with
    snackbars := s.snackbars ++ ["Submitting Feedback"]
    submissions := s.submissions ++ [{ press := press, form := ⟨s.studentId, "1"⟩ }]
    posts := s.posts ++ [(press, ⟨s.studentId, "1"⟩)] }

/-- `Send` is pressed: `recogImage` reads the picture and sends its request, or throws. -/
def Screen.send (s : Screen) (readable : Bool) : Screen :=
  if readable then
    { s with
      presses := s.presses + 1
      faceRecognition :=
        { s.faceRecognition with
          inFlight := (s.presses, .recogImage s.imageFile) :: s.faceRecognition.inFlight } }
  else { s with presses := s.presses + 1, unread := s.presses :: s.unread }

/-- The request of `recogImage` completes for press `press`, and the handler runs on. -/
def Screen.afterRecognition (s : Screen) (press : Nat) (outcome : Outcome) : Screen :=
  let object := s.faceRecognition.finish press (.recogImage s.imageFile) outcome
  match readRecognition object.response with
  | .error _ => { s with faceRecognition := object }
  | .ok info =>
    if s.life = .disposed then { s with faceRecognition := object } -- `setState` throws
    else
      { s with
        faceRecognition := object
        status := info.status
        studentId := info.subjectId }.submitForm press

/-- The callback of `_submitForm`; once the screen is disposed `_showSnackbar` throws. -/
def Screen.callback (s : Screen) (response : Option String) : Screen :=
  if s.life = .disposed then s
  else
    { s with snackbars := s.snackbars ++
        [if response = some STATUS_SUCCESS then "Attendance Uploaded" else "Error Occurred!"] }

/-- Submission `press`, if it is at a stage `waiting`, goes on to `next`. -/
def Submission.hear (press : Nat) (waiting : Submitting → Bool)
    (next : Submitting × Option (Option String)) (sub : Submission) : Submission :=
  if sub.press = press ∧ waiting sub.stage then
    { sub with stage := next.1, told := next.2 }
  else sub

/-- A reply comes in for the submission of a press, and its callback is called if that is due. -/
def Screen.hear (s : Screen) (press : Nat) (waiting : Submitting → Bool)
    (next : Submitting × Option (Option String)) : Screen :=
  let s := { s with submissions := s.submissions.map (Submission.hear press waiting next) }
  match next.2 with
  | none => s
  | some status => s.callback status

/-- The reply of the POST is awaited. -/
def Submitting.isPosting : Submitting → Bool
  | .posting => true
  | _ => false

/-- The reply of the GET is awaited, which follows a redirect. -/
def Submitting.isFollowing : Submitting → Bool
  | .following _ => true
  | _ => false

/-! ## Runs -/

/-- A press, the three replies its handler awaits, the sheet taking a POST, and the end of the
    screen. -/
inductive Event where
  /-- `Send` is pressed, with a picture file that can be read or not. -/
  | send (readable : Bool)
  | recogReply (press : Nat) (outcome : Outcome)
  /-- The sheet takes a POST of a press, and adds its row. -/
  | sheetAccepts (press : Nat)
  | postReply (press : Nat) (reply : Option HttpResponse)
  | getReply (press : Nat) (reply : Option HttpResponse)
  /-- Back: the screen takes no more presses. -/
  | back
  | dispose

/-- Some submission of press `press` is at a stage `waiting`. -/
def Screen.waits (s : Screen) (press : Nat) (waiting : Submitting → Bool) : Bool :=
  s.submissions.any fun sub => sub.press == press && waiting sub.stage

/-- One event; a reply comes to a handler that awaits it, and a POST is taken once. -/
def step (s : Screen) : Event → Option Screen
  | .send readable => if s.life = .shown then some (s.send readable) else none
  | .recogReply press outcome =>
    if press ∈ s.faceRecognition.inFlight.map Prod.fst then some (s.afterRecognition press outcome)
    else none
  | .sheetAccepts press =>
    match s.posts.find? (·.1 == press) with
    | none => none
    | some post => some { s with posts := s.posts.erase post, rows := s.rows ++ [post] }
  | .postReply press reply =>
    if s.waits press Submitting.isPosting then
      some (s.hear press Submitting.isPosting (afterPost reply))
    else none
  | .getReply press reply =>
    if s.waits press Submitting.isFollowing then
      some (s.hear press Submitting.isFollowing (afterGet reply))
    else none
  | .back => if s.life = .shown then some { s with life := .leaving } else none
  | .dispose => if s.life = .leaving then some { s with life := .disposed } else none

/-- One screen: any presses, any replies of the recogniser and of the sheet, in any order. -/
def preview : Machine Screen Event := ⟨step⟩

/-- What a step does, case by case. -/
inductive Step (s : Screen) : Event → Screen → Prop
  | send (readable : Bool) : Step s (.send readable) (s.send readable)
  | recogReply (press : Nat) (outcome : Outcome)
      (pending : press ∈ s.faceRecognition.inFlight.map Prod.fst) :
      Step s (.recogReply press outcome) (s.afterRecognition press outcome)
  | sheetAccepts (post : Nat × FeedbackForm) (sent : post ∈ s.posts) :
      Step s (.sheetAccepts post.1)
        { s with posts := s.posts.erase post, rows := s.rows ++ [post] }
  | postReply (press : Nat) (reply : Option HttpResponse) :
      Step s (.postReply press reply) (s.hear press Submitting.isPosting (afterPost reply))
  | getReply (press : Nat) (reply : Option HttpResponse) :
      Step s (.getReply press reply) (s.hear press Submitting.isFollowing (afterGet reply))
  | back (shown : s.life = .shown) : Step s .back { s with life := .leaving }
  | dispose (leaving : s.life = .leaving) : Step s .dispose { s with life := .disposed }

theorem step_cases {s s' : Screen} {e : Event} (h : preview.step s e = some s') : Step s e s' := by
  cases e with
  | sheetAccepts press =>
    simp only [preview, step] at h
    split at h
    · cases h
    · rename_i post hfind
      obtain rfl : post.1 = press := by simpa using List.find?_some hfind
      obtain rfl := Option.some.inj h
      exact .sheetAccepts post (List.mem_of_find?_eq_some hfind)
  | send readable =>
    obtain ⟨-, rfl⟩ := guarded_eq_some.mp h
    exact .send readable
  | recogReply press outcome =>
    obtain ⟨hp, rfl⟩ := guarded_eq_some.mp h
    exact .recogReply press outcome hp
  | postReply press reply =>
    obtain ⟨-, rfl⟩ := guarded_eq_some.mp h
    exact .postReply press reply
  | getReply press reply =>
    obtain ⟨-, rfl⟩ := guarded_eq_some.mp h
    exact .getReply press reply
  | back =>
    obtain ⟨hl, rfl⟩ := guarded_eq_some.mp h
    exact .back hl
  | dispose =>
    obtain ⟨hl, rfl⟩ := guarded_eq_some.mp h
    exact .dispose hl

/-! ## What the handlers leave alone -/

@[simp] theorem Submission.hear_press (press : Nat) (waiting : Submitting → Bool)
    (next : Submitting × Option (Option String)) (sub : Submission) :
    (sub.hear press waiting next).press = sub.press := by
  unfold Submission.hear
  split <;> rfl

@[simp] theorem Submission.hear_form (press : Nat) (waiting : Submitting → Bool)
    (next : Submitting × Option (Option String)) (sub : Submission) :
    (sub.hear press waiting next).form = sub.form := by
  unfold Submission.hear
  split <;> rfl

/-- A reply of the sheet changes the submissions, and the snackbars at most. -/
theorem hear_eq (s : Screen) (press : Nat) (waiting : Submitting → Bool)
    (next : Submitting × Option (Option String)) :
    ∃ bars, s.hear press waiting next =
      { s with
        submissions := s.submissions.map (Submission.hear press waiting next)
        snackbars := bars } := by
  unfold Screen.hear
  cases next.2 with
  | none => exact ⟨_, rfl⟩
  | some status =>
    simp only [Screen.callback]
    split
    · exact ⟨_, rfl⟩
    · exact ⟨_, rfl⟩

@[simp] theorem hear_faceRecognition (s : Screen) (press : Nat) (waiting : Submitting → Bool)
    (next : Submitting × Option (Option String)) :
    (s.hear press waiting next).faceRecognition = s.faceRecognition := by
  obtain ⟨bars, heq⟩ := hear_eq s press waiting next
  rw [heq]

@[simp] theorem hear_submissions (s : Screen) (press : Nat) (waiting : Submitting → Bool)
    (next : Submitting × Option (Option String)) :
    (s.hear press waiting next).submissions =
      s.submissions.map (Submission.hear press waiting next) := by
  obtain ⟨bars, heq⟩ := hear_eq s press waiting next
  rw [heq]

@[simp] theorem hear_posts (s : Screen) (press : Nat) (waiting : Submitting → Bool)
    (next : Submitting × Option (Option String)) :
    (s.hear press waiting next).posts = s.posts := by
  obtain ⟨bars, heq⟩ := hear_eq s press waiting next
  rw [heq]

@[simp] theorem hear_build (s : Screen) (press : Nat) (waiting : Submitting → Bool)
    (next : Submitting × Option (Option String)) :
    (s.hear press waiting next).build = s.build := by
  obtain ⟨bars, heq⟩ := hear_eq s press waiting next
  rw [heq]
  rfl

/-- The three ways a recognition can end. -/
theorem afterRecognition_cases (s : Screen) (press : Nat) (outcome : Outcome) :
    let object := s.faceRecognition.finish press (.recogImage s.imageFile) outcome
    (∃ e, readRecognition object.response = .error e ∧
      s.afterRecognition press outcome = { s with faceRecognition := object }) ∨
    (∃ info, readRecognition object.response = .ok info ∧ s.life = .disposed ∧
      s.afterRecognition press outcome = { s with faceRecognition := object }) ∨
    (∃ info, readRecognition object.response = .ok info ∧ s.life ≠ .disposed ∧
      s.afterRecognition press outcome =
        { s with
          faceRecognition := object
          status := info.status
          studentId := info.subjectId }.submitForm press) := by
  intro object
  cases hread : readRecognition object.response with
  | error e => exact Or.inl ⟨e, rfl, by simp only [Screen.afterRecognition, object, hread]⟩
  | ok info =>
    right
    by_cases hlife : s.life = .disposed
    · exact Or.inl ⟨info, rfl, hlife, by simp only [Screen.afterRecognition, object, hread,
        if_pos hlife]⟩
    · exact Or.inr ⟨info, rfl, hlife, by simp only [Screen.afterRecognition, object, hread,
        if_neg hlife]⟩

/-! ## The bookkeeping of presses -/

/-- The presses whose `recogImage` call is over. -/
def Screen.settled (s : Screen) : List Nat :=
  s.faceRecognition.finished.map Finished.id ++ s.unread

/-- The POST of a submission. -/
def Submission.post (sub : Submission) : Nat × FeedbackForm := (sub.press, sub.form)

/-- A press is under way or over, never both; every submission is the continuation of a call
    that returned, with that call's subject; no press submits twice; and each submission's POST is
    a row of the sheet or on its way, and never both. -/
structure Numbered (s : Screen) : Prop where
  pending_lt : ∀ i ∈ s.faceRecognition.inFlight.map Prod.fst, i < s.presses
  settled_lt : ∀ i ∈ s.settled, i < s.presses
  pending : ∀ i ∈ s.faceRecognition.inFlight.map Prod.fst, i ∉ s.settled
  once : s.settled.Nodup
  posted : ∀ sub ∈ s.submissions, ∃ f ∈ s.faceRecognition.finished, f.id = sub.press ∧
    ∃ info, f.result = .recognised (.ok info) ∧ sub.form = ⟨info.subjectId, "1"⟩
  told : ∀ sub ∈ s.submissions, sub.told ≠ none → sub.stage = .completed
  submitted_once : (s.submissions.map Submission.press).Nodup
  conserved : (s.rows ++ s.posts).Perm (s.submissions.map Submission.post)

/-- Every POST, taken or not, is a submission's. -/
theorem Numbered.sent {s : Screen} (h : Numbered s) {post : Nat × FeedbackForm}
    (hpost : post ∈ s.rows ++ s.posts) :
    ∃ sub ∈ s.submissions, sub.press = post.1 ∧ sub.form = post.2 := by
  obtain ⟨sub, hsub, rfl⟩ := List.mem_map.mp (h.conserved.mem_iff.mp hpost)
  exact ⟨sub, hsub, rfl, rfl⟩

/-- A row goes back to a submission, with its form. -/
theorem Numbered.rows_posted {s : Screen} (h : Numbered s) {row : Nat × FeedbackForm}
    (hrow : row ∈ s.rows) : ∃ sub ∈ s.submissions, sub.press = row.1 ∧ sub.form = row.2 :=
  h.sent (List.mem_append_left _ hrow)

/-- **One press, one row.** -/
theorem Numbered.rows_once {s : Screen} (h : Numbered s) : (s.rows.map Prod.fst).Nodup := by
  have hpresses : ((s.rows ++ s.posts).map Prod.fst).Perm (s.submissions.map Submission.press) := by
    have hmapped := h.conserved.map Prod.fst
    rw [List.map_map] at hmapped
    exact hmapped
  have hall : ((s.rows ++ s.posts).map Prod.fst).Nodup := hpresses.nodup_iff.mpr h.submitted_once
  rw [List.map_append] at hall
  exact (List.nodup_append.mp hall).1

/-- A press that is still under way has not submitted. -/
theorem Numbered.not_submitted {s : Screen} (h : Numbered s) {press : Nat}
    (pending : press ∈ s.faceRecognition.inFlight.map Prod.fst) :
    press ∉ s.submissions.map Submission.press := by
  intro hmem
  obtain ⟨sub, hsub, rfl⟩ := List.mem_map.mp hmem
  obtain ⟨f, hf, hid, -⟩ := h.posted sub hsub
  have hsettled : sub.press ∈ s.settled :=
    List.mem_append_left _ (List.mem_map.mpr ⟨f, hf, hid⟩)
  exact h.pending _ pending hsettled

/-- A press takes the next number. -/
theorem Numbered.send {s : Screen} (h : Numbered s) (readable : Bool) :
    Numbered (s.send readable) := by
  -- the new press has a number that no call is over under
  have hnew : s.presses ∉ s.settled := fun hmem => by have := h.settled_lt _ hmem; omega
  unfold Screen.send
  split
  · refine ⟨?_, ?_, ?_, h.once, h.posted, h.told, h.submitted_once, h.conserved⟩
    · intro i hi
      rcases List.mem_cons.mp hi with rfl | hi
      · exact Nat.lt_succ_self _
      · exact Nat.lt_succ_of_lt (h.pending_lt i hi)
    · exact fun i hi => Nat.lt_succ_of_lt (h.settled_lt i hi)
    · intro i hi
      rcases List.mem_cons.mp hi with rfl | hi
      · exact hnew
      · exact h.pending i hi
  · have hsettled : ∀ i, i ∈ s.faceRecognition.finished.map Finished.id ++ s.presses :: s.unread ↔
        i = s.presses ∨ i ∈ s.settled := by
      intro i
      simp only [Screen.settled, List.mem_append, List.mem_cons]
      tauto
    refine ⟨?_, ?_, ?_, ?_, h.posted, h.told, h.submitted_once, h.conserved⟩
    · exact fun i hi => Nat.lt_succ_of_lt (h.pending_lt i hi)
    · intro i hi
      rcases (hsettled i).mp hi with rfl | hi
      · exact Nat.lt_succ_self _
      · exact Nat.lt_succ_of_lt (h.settled_lt i hi)
    · intro i hi hmem
      rcases (hsettled i).mp hmem with rfl | hmem
      · exact absurd (h.pending_lt _ hi) (Nat.lt_irrefl _)
      · exact h.pending i hi hmem
    · exact (List.nodup_middle).mpr (List.nodup_cons.mpr ⟨hnew, h.once⟩)

/-- The finished call of press `press`: its result is what `recogImage` reads off the field. -/
theorem finish_finished (o : Object) (press : Nat) (file : String) (outcome : Outcome) :
    (o.finish press (.recogImage file) outcome).finished =
      o.finished ++ [⟨press, .recogImage file, outcome,
        .recognised (readRecognition (o.finish press (.recogImage file) outcome).response)⟩] := rfl

/-- A recognition ends the call of its press, so the press has submitted nothing yet. -/
theorem Numbered.finish {s : Screen} (h : Numbered s) {press : Nat}
    (hpress : press ∈ s.faceRecognition.inFlight.map Prod.fst) (outcome : Outcome) :
    Numbered { s with
      faceRecognition := s.faceRecognition.finish press (.recogImage s.imageFile) outcome } := by
  have hnew : press ∉ s.settled := h.pending press hpress
  have hsettled : Screen.settled { s with
      faceRecognition := s.faceRecognition.finish press (.recogImage s.imageFile) outcome } =
      s.faceRecognition.finished.map Finished.id ++ press :: s.unread := by
    rw [Screen.settled, finish_finished, List.map_append, List.append_assoc]
    rfl
  have hmem : ∀ i, i ∈ s.faceRecognition.finished.map Finished.id ++ press :: s.unread ↔
      i = press ∨ i ∈ s.settled := by
    intro i
    simp only [Screen.settled, List.mem_append, List.mem_cons]
    tauto
  -- the calls still in flight are calls of `s` other than `press`
  have hflight : ∀ i ∈ (s.faceRecognition.inFlight.filter (·.1 ≠ press)).map Prod.fst,
      i ∈ s.faceRecognition.inFlight.map Prod.fst ∧ i ≠ press := by
    intro i hi
    obtain ⟨c, hc, rfl⟩ := List.mem_map.mp hi
    obtain ⟨hc, hne⟩ := List.mem_filter.mp hc
    exact ⟨List.mem_map_of_mem hc, of_decide_eq_true hne⟩
  refine ⟨?_, ?_, ?_, ?_, ?_, h.told, h.submitted_once, h.conserved⟩
  · exact fun i hi => h.pending_lt i (hflight i hi).1
  · intro i hi
    rw [hsettled] at hi
    rcases (hmem i).mp hi with rfl | hi
    · exact h.pending_lt _ hpress
    · exact h.settled_lt i hi
  · intro i hi his
    rw [hsettled] at his
    obtain ⟨hold, hne⟩ := hflight i hi
    rcases (hmem i).mp his with rfl | his
    · exact hne rfl
    · exact h.pending i hold his
  · rw [hsettled]
    exact List.nodup_middle.mpr (List.nodup_cons.mpr ⟨hnew, h.once⟩)
  · intro sub hsub
    obtain ⟨f, hf, hrest⟩ := h.posted sub hsub
    exact ⟨f, List.mem_append_left _ hf, hrest⟩

/-- And submits at most once. -/
theorem Numbered.afterRecognition {s : Screen} (h : Numbered s) {press : Nat}
    (hpress : press ∈ s.faceRecognition.inFlight.map Prod.fst) (outcome : Outcome) :
    Numbered (s.afterRecognition press outcome) := by
  have hfin := h.finish hpress outcome
  rcases afterRecognition_cases s press outcome with
    ⟨e, -, heq⟩ | ⟨info, -, -, heq⟩ | ⟨info, hread, -, heq⟩
  · rw [heq]
    exact hfin
  · rw [heq]
    exact hfin
  · -- the new submission goes back to the call that has just finished
    rw [heq]
    refine ⟨hfin.pending_lt, hfin.settled_lt, hfin.pending, hfin.once, ?_, ?_, ?_, ?_⟩
    · intro sub hsub
      rcases List.mem_append.mp hsub with hsub | hsub
      · exact hfin.posted sub hsub
      · obtain rfl := List.mem_singleton.mp hsub
        refine ⟨_, List.mem_append_right _ (List.mem_singleton_self _), rfl, info, ?_, rfl⟩
        exact congrArg Result.recognised hread
    · intro sub hsub htold
      rcases List.mem_append.mp hsub with hsub | hsub
      · exact h.told sub hsub htold
      · obtain rfl := List.mem_singleton.mp hsub
        exact absurd rfl htold
    · show ((s.submissions ++ [_]).map Submission.press).Nodup
      rw [List.map_append, List.map_singleton, ← List.concat_eq_append]
      exact h.submitted_once.concat (h.not_submitted hpress)
    · -- the new submission has its POST on the way
      show (s.rows ++ (s.posts ++ [_])).Perm ((s.submissions ++ [_]).map Submission.post)
      rw [← List.append_assoc, List.map_append, List.map_singleton]
      exact h.conserved.append_right _

theorem map_press_hear (subs : List Submission) (press : Nat) (waiting : Submitting → Bool)
    (next : Submitting × Option (Option String)) :
    (subs.map (Submission.hear press waiting next)).map Submission.press =
      subs.map Submission.press := by
  rw [List.map_map]
  exact List.map_congr_left fun sub _ => Submission.hear_press ..

theorem map_post_hear (subs : List Submission) (press : Nat) (waiting : Submitting → Bool)
    (next : Submitting × Option (Option String)) :
    (subs.map (Submission.hear press waiting next)).map Submission.post =
      subs.map Submission.post := by
  rw [List.map_map]
  refine List.map_congr_left fun sub _ => ?_
  show (Submission.press _, Submission.form _) = _
  rw [Submission.hear_press, Submission.hear_form]
  rfl

/-- The replies of the sheet move a submission on, and make none. -/
theorem Numbered.hear {s : Screen} (h : Numbered s) (press : Nat) {waiting : Submitting → Bool}
    {next : Submitting × Option (Option String)} (hnext : next.2 ≠ none → next.1 = .completed) :
    Numbered (s.hear press waiting next) := by
  obtain ⟨bars, heq⟩ := hear_eq s press waiting next
  rw [heq]
  refine ⟨h.pending_lt, h.settled_lt, h.pending, h.once, ?_, ?_, ?_, ?_⟩
  · intro sub hsub
    obtain ⟨old, hold, rfl⟩ := List.mem_map.mp hsub
    rw [Submission.hear_press, Submission.hear_form]
    exact h.posted old hold
  · intro sub hsub htold
    obtain ⟨old, hold, rfl⟩ := List.mem_map.mp hsub
    unfold Submission.hear at htold ⊢
    -- the submission that hears the reply moves on, the others stay
    split
    · rename_i hc
      rw [if_pos hc] at htold
      exact hnext htold
    · rename_i hc
      rw [if_neg hc] at htold
      exact h.told old hold htold
  · show ((s.submissions.map _).map Submission.press).Nodup
    rw [map_press_hear]
    exact h.submitted_once
  · show (s.rows ++ s.posts).Perm ((s.submissions.map _).map Submission.post)
    rw [map_post_hear]
    exact h.conserved

/-- **The step lemma.** -/
theorem numbered_step (s : Screen) (e : Event) (s' : Screen) (h : Numbered s)
    (hstep : preview.step s e = some s') : Numbered s' := by
  cases step_cases hstep with
  | send readable => exact h.send readable
  | recogReply press outcome pending => exact h.afterRecognition pending outcome
  | sheetAccepts post sent =>
    refine ⟨h.pending_lt, h.settled_lt, h.pending, h.once, h.posted, h.told, h.submitted_once, ?_⟩
    -- the POST is a row now, and no longer on its way
    have hmoved : (s.rows ++ [post] ++ s.posts.erase post).Perm (s.rows ++ s.posts) := by
      rw [List.append_assoc]
      exact (List.perm_cons_erase sent).symm.append_left s.rows
    exact hmoved.trans h.conserved
  | postReply press reply =>
    refine h.hear press fun hn => ?_
    obtain ⟨status, hs⟩ := Option.ne_none_iff_exists'.mp hn
    exact afterPost_told hs
  | getReply press reply => exact h.hear press fun _ => afterGet_told reply
  | back shown => exact ⟨h.1, h.2, h.3, h.4, h.5, h.6, h.7, h.8⟩
  | dispose leaving => exact ⟨h.1, h.2, h.3, h.4, h.5, h.6, h.7, h.8⟩

/-- The screen as it is opened for a captured picture. -/
def Screen.initial (imageFile : String) : Screen := { imageFile := imageFile }

theorem numbered_initial (imageFile : String) : Numbered (Screen.initial imageFile) :=
  ⟨nofun, nofun, nofun, List.nodup_nil, nofun, nofun, List.nodup_nil, List.Perm.refl []⟩

/-- **The run lemma.** -/
theorem numbered_of_run {imageFile : String} {es : List Event} {s : Screen}
    (hrun : preview.exec (.initial imageFile) es = some s) : Numbered s :=
  preview.exec_invariant numbered_step es _ s (numbered_initial imageFile) hrun

/-! ## The screen's recogniser object -/

/-- The calls in flight are recognitions of the screen's picture. -/
def Recognises (s : Screen) : Prop :=
  ∀ p ∈ s.faceRecognition.inFlight, p.2 = .recogImage s.imageFile

theorem afterRecognition_object (s : Screen) (press : Nat) (outcome : Outcome) :
    (s.afterRecognition press outcome).faceRecognition =
        s.faceRecognition.finish press (.recogImage s.imageFile) outcome ∧
      (s.afterRecognition press outcome).imageFile = s.imageFile := by
  rcases afterRecognition_cases s press outcome with
    ⟨e, -, heq⟩ | ⟨info, -, -, heq⟩ | ⟨info, -, -, heq⟩ <;> rw [heq] <;> exact ⟨rfl, rfl⟩

/-- **The step lemma**: this screen makes no other call on its object. -/
theorem recognises_step (s : Screen) (e : Event) (s' : Screen) (h : Recognises s)
    (hstep : preview.step s e = some s') : Recognises s' := by
  cases step_cases hstep with
  | send readable =>
    cases readable with
    | false => exact h
    | true =>
      intro p hp
      rcases List.mem_cons.mp hp with rfl | hp
      · rfl
      · exact h p hp
  | recogReply press outcome pending =>
    obtain ⟨hobject, hfile⟩ := afterRecognition_object s press outcome
    intro p hp
    rw [hobject] at hp
    rw [hfile]
    exact h p (List.mem_filter.mp hp).1
  | sheetAccepts post sent => exact h
  | postReply press reply =>
    obtain ⟨bars, heq⟩ := hear_eq s press Submitting.isPosting (afterPost reply)
    rw [heq]
    exact h
  | getReply press reply =>
    obtain ⟨bars, heq⟩ := hear_eq s press Submitting.isFollowing (afterGet reply)
    rw [heq]
    exact h
  | back shown => exact h
  | dispose leaving => exact h

/-- A press that sends its request starts a call, a reply completes one, and no other event
    touches the object. -/
theorem object_step (s : Screen) (e : Event) (s' : Screen) (h : Numbered s ∧ Recognises s)
    (hstep : preview.step s e = some s') :
    ∃ ds, calls.exec s.faceRecognition ds = some s'.faceRecognition := by
  obtain ⟨hnumbered, hrecognises⟩ := h
  cases step_cases hstep with
  | send readable =>
    cases readable with
    | false => exact ⟨[], rfl⟩
    | true =>
      refine ⟨[.start s.presses (.recogImage s.imageFile)], ?_⟩
      have hnew : ¬ (s.presses ∈ s.faceRecognition.inFlight.map Prod.fst ∨
          s.presses ∈ s.faceRecognition.finished.map Finished.id) := by
        rintro (hpending | hfinished)
        · exact Nat.lt_irrefl _ (hnumbered.pending_lt _ hpending)
        · exact Nat.lt_irrefl _ (hnumbered.settled_lt _ (List.mem_append_left _ hfinished))
      have hstart : calls.step s.faceRecognition (.start s.presses (.recogImage s.imageFile)) =
          some (s.send true).faceRecognition := if_neg hnew
      rw [calls.exec_cons, hstart]
      rfl
  | recogReply press outcome pending =>
    refine ⟨[.complete press outcome], ?_⟩
    obtain ⟨p, hp, hpress⟩ := List.mem_map.mp pending
    have hsome : (s.faceRecognition.inFlight.lookup press).isSome :=
      List.lookup_isSome_iff.mpr ⟨p, hp, by rw [hpress, beq_self_eq_true]⟩
    -- every call of the screen is a recognition of its picture
    obtain ⟨call, hlookup⟩ := Option.isSome_iff_exists.mp hsome
    obtain ⟨pre, post, hsplit, -⟩ := List.lookup_eq_some_iff.mp hlookup
    obtain rfl : call = .recogImage s.imageFile :=
      hrecognises (press, call) (hsplit ▸ List.mem_append_right _ List.mem_cons_self)
    have hdone : calls.step s.faceRecognition (.complete press outcome) =
        some (s.faceRecognition.finish press (.recogImage s.imageFile) outcome) := by
      show (s.faceRecognition.inFlight.lookup press).map _ = _
      rw [hlookup]
      rfl
    rw [(afterRecognition_object s press outcome).1, calls.exec_cons, hdone]
    rfl
  | sheetAccepts post sent => exact ⟨[], rfl⟩
  | postReply press reply => exact ⟨[], by rw [hear_faceRecognition]; rfl⟩
  | getReply press reply => exact ⟨[], by rw [hear_faceRecognition]; rfl⟩
  | back shown => exact ⟨[], rfl⟩
  | dispose leaving => exact ⟨[], rfl⟩

/-- **The screen runs the recogniser**: in every run of the screen its object goes through a run of
    overlapping calls, so all that holds of those holds of it. -/
theorem object_of_run {imageFile : String} {es : List Event} {s : Screen}
    (hrun : preview.exec (.initial imageFile) es = some s) :
    ∃ ds, calls.exec {} ds = some s.faceRecognition := by
  have hboth : ∀ s e s', Numbered s ∧ Recognises s → preview.step s e = some s' →
      Numbered s' ∧ Recognises s' := fun s e s' h hstep =>
    ⟨numbered_step s e s' h.1 hstep, recognises_step s e s' h.2 hstep⟩
  exact preview.exec_simulates calls hboth object_step es _ s
    ⟨numbered_initial imageFile, fun _ hp => absurd hp List.not_mem_nil⟩ hrun

end AttendanceApp.PreviewScreen
