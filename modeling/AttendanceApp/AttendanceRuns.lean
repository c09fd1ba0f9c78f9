/-
  What a run of `PreviewImageScreen` records, and what it tells the student.

  Three properties of the screen, each reduced to one step of the machine `preview`:

  * a row is posted only for a recognised face (`OnlyRecognised`) — the handler posts whatever the
    status is, so this holds exactly while no continuation reads a refusal;
  * the congratulation is true (`Truthful`) — it is shown as soon as the face is recognised, so
    this holds exactly while the sheet has already confirmed that student;
  * each press adds at most one row — always.
-/
import AttendanceApp.PreviewScreen
import Mathlib.Data.List.Perm.Subperm
import Mathlib.Tactic.NormNum

namespace AttendanceApp.PreviewScreen

open AttendanceApp.FaceRecognition AttendanceApp.MarkAttendance AttendanceApp.Transition

/-! ## Attendance is recorded for recognised faces -/

/-- Every POST with attendance '1' goes back to a press whose own `recogImage` call returned
    status true and the posted subject; a call that returned status false, or threw, has none. -/
structure OnlyRecognised (s : Screen) : Prop where
  recognised : ∀ sub ∈ s.submissions, sub.form.attendance = "1" →
    ∃ f ∈ s.faceRecognition.finished, f.id = sub.press ∧
      f.result = .recognised (.ok ⟨true, sub.form.matricno⟩)
  refused : ∀ f ∈ s.faceRecognition.finished, (∀ m, f.result ≠ .recognised (.ok ⟨true, m⟩)) →
    ∀ sub ∈ s.submissions, sub.press ≠ f.id
  unread : ∀ i ∈ s.unread, ∀ sub ∈ s.submissions, sub.press ≠ i

/-- The reply a mounted screen's continuation reads — its own, or after a failed request the one
    left by an earlier press — does not name a candidate with a confidence of 65% or less. -/
def ReadsNoRefusal (s : Screen) : Event → Prop
  | .recogReply _ outcome => s.life ≠ .disposed →
      ∀ m, verdict (settle s.faceRecognition.response outcome) ≠ .refused m
  | _ => True

/-- The finished call of a press is unique. -/
theorem Numbered.finished_unique {s : Screen} (h : Numbered s) {f g : Finished}
    (hf : f ∈ s.faceRecognition.finished) (hg : g ∈ s.faceRecognition.finished)
    (hid : f.id = g.id) : f = g :=
  List.inj_on_of_nodup_map (List.nodup_append.mp h.once).1 hf hg hid

/-- Behind every POST there is a finished call of the same press that returned status true. -/
def PostsRecognised (s : Screen) : Prop :=
  ∀ sub ∈ s.submissions, ∃ f ∈ s.faceRecognition.finished,
    f.id = sub.press ∧ ∃ m, f.result = .recognised (.ok ⟨true, m⟩)

/-- By the bookkeeping, that is all there is to `OnlyRecognised`. -/
theorem onlyRecognised_iff {s : Screen} (h : Numbered s) :
    OnlyRecognised s ↔ PostsRecognised s := by
  constructor
  · intro ho sub hsub
    obtain ⟨f, -, -, info, -, hform⟩ := h.posted sub hsub
    obtain ⟨f, hf, hid, hres⟩ := ho.recognised sub hsub (by rw [hform])
    exact ⟨f, hf, hid, _, hres⟩
  · intro hall
    refine ⟨fun sub hsub _ => ?_, fun f hf hno sub hsub hid => ?_, fun i hi sub hsub hid => ?_⟩
    · obtain ⟨f, hf, hid, m, hres⟩ := hall sub hsub
      obtain ⟨g, hg, hgid, info, hginfo, hform⟩ := h.posted sub hsub
      obtain rfl := h.finished_unique hf hg (hid.trans hgid.symm)
      obtain rfl : info = ⟨true, m⟩ := by
        rw [hres] at hginfo
        injection hginfo with hginfo
        exact (Except.ok.inj hginfo).symm
      exact ⟨f, hf, hid, by rw [hres, hform]⟩
    · obtain ⟨g, hg, hgid, m, hres⟩ := hall sub hsub
      obtain rfl := h.finished_unique hf hg (hid.symm.trans hgid.symm)
      exact hno m hres
    · obtain ⟨f, hf, hfid, -⟩ := hall sub hsub
      have hf' : i ∈ s.faceRecognition.finished.map Finished.id :=
        List.mem_map.mpr ⟨f, hf, hfid.trans hid⟩
      exact (List.nodup_append.mp h.once).2.2 i hf' i hi rfl

/-- The finished calls only grow, so the POSTs of before stay accounted for. -/
theorem PostsRecognised.finish {s : Screen} (hall : PostsRecognised s) (press : Nat)
    (outcome : Outcome) :
    PostsRecognised { s with
      faceRecognition := s.faceRecognition.finish press (.recogImage s.imageFile) outcome } := by
  intro sub hsub
  obtain ⟨f, hf, hrest⟩ := hall sub hsub
  exact ⟨f, List.mem_append_left _ hf, hrest⟩

/-- A refused call that has posted: the POST has no recognised call behind it. -/
theorem not_postsRecognised_of_refused {s : Screen} (h : Numbered s) {press : Nat}
    (pending : press ∈ s.faceRecognition.inFlight.map Prod.fst) {outcome : Outcome}
    {subject : Option String} (status : Bool)
    (hread : readRecognition (settle s.faceRecognition.response outcome) = .ok ⟨false, subject⟩) :
    ¬ PostsRecognised ({ s with
      faceRecognition := s.faceRecognition.finish press (.recogImage s.imageFile) outcome
      status := status
      studentId := subject }.submitForm press) := by
  intro hnew
  obtain ⟨f, hf, hid, m, hres⟩ := hnew _ (List.mem_append_right _ (List.mem_singleton_self _))
  rcases List.mem_append.mp hf with hf | hf
  · -- an older call of this press would be finished, not pending
    have hsettled : press ∈ s.settled :=
      List.mem_append_left _ (List.mem_map.mpr ⟨f, hf, hid⟩)
    exact h.pending press pending hsettled
  · rw [List.mem_singleton.mp hf] at hres
    injection hres with hres
    change readRecognition (settle s.faceRecognition.response outcome) = _ at hres
    rw [hread] at hres
    cases hres

/-- A recognition is where a POST is made, so it is the one step that can spoil the property. -/
theorem postsRecognised_afterRecognition {s : Screen} (h : Numbered s)
    (hall : PostsRecognised s) {press : Nat}
    (pending : press ∈ s.faceRecognition.inFlight.map Prod.fst) (outcome : Outcome) :
    PostsRecognised (s.afterRecognition press outcome) ↔
      ReadsNoRefusal s (.recogReply press outcome) := by
  have hfield : (s.faceRecognition.finish press (.recogImage s.imageFile) outcome).response =
      settle s.faceRecognition.response outcome := resume_response _ _ _
  have hold := hall.finish press outcome
  rcases afterRecognition_cases s press outcome with
    ⟨e, hread, heq⟩ | ⟨info, hread, hlife, heq⟩ | ⟨info, hread, hlife, heq⟩ <;>
    rw [heq] <;> rw [hfield] at hread
  · -- `recogImage` has thrown: the reply is no refusal either
    refine ⟨fun _ _ m hm => ?_, fun _ => hold⟩
    have hok := (readRecognition_ok_iff _ ⟨false, m⟩).mpr hm
    rw [hread] at hok
    cases hok
  · exact ⟨fun _ hne => absurd hlife hne, fun _ => hold⟩
  · constructor
    · intro hnew _ m hm
      have hrefused := (readRecognition_ok_iff _ ⟨false, m⟩).mpr hm
      obtain rfl := Except.ok.inj (hread.symm.trans hrefused)
      exact not_postsRecognised_of_refused h pending false hread hnew
    · intro hno sub hsub
      rcases List.mem_append.mp hsub with hsub | hsub
      · exact hold sub hsub
      · obtain rfl := List.mem_singleton.mp hsub
        refine ⟨_, List.mem_append_right _ (List.mem_singleton_self _), rfl, info.subjectId, ?_⟩
        show Result.recognised (readRecognition (settle _ _)) = _
        rw [hread]
        obtain ⟨status, subject⟩ := info
        cases status with
        | true => rfl
        | false => exact absurd ((readRecognition_ok_iff _ _).mp hread) (hno hlife subject)

/-- The replies of the sheet change no form. -/
theorem PostsRecognised.hear {s : Screen} (hall : PostsRecognised s) (press : Nat)
    (waiting : Submitting → Bool) (next : Submitting × Option (Option String)) :
    PostsRecognised (s.hear press waiting next) := by
  intro sub hsub
  rw [hear_submissions] at hsub
  obtain ⟨old, hold, rfl⟩ := List.mem_map.mp hsub
  rw [hear_faceRecognition, Submission.hear_press]
  exact hall old hold

/-- One step keeps the property exactly when it reads no refusal. -/
theorem onlyRecognised_step (s : Screen) (e : Event) (s' : Screen) (h : Numbered s)
    (ho : OnlyRecognised s) (hstep : preview.step s e = some s') :
    OnlyRecognised s' ↔ ReadsNoRefusal s e := by
  rw [onlyRecognised_iff (numbered_step s e s' h hstep)]
  have hall := (onlyRecognised_iff h).mp ho
  cases step_cases hstep with
  | recogReply press outcome pending =>
    exact postsRecognised_afterRecognition h hall pending outcome
  | send readable =>
    refine ⟨fun _ => trivial, fun _ => ?_⟩
    cases readable <;> exact hall
  | sheetAccepts post sent => exact ⟨fun _ => trivial, fun _ => hall⟩
  | postReply press reply => exact ⟨fun _ => trivial, fun _ => hall.hear _ _ _⟩
  | getReply press reply => exact ⟨fun _ => trivial, fun _ => hall.hear _ _ _⟩
  | back shown => exact ⟨fun _ => trivial, fun _ => hall⟩
  | dispose leaving => exact ⟨fun _ => trivial, fun _ => hall⟩

/-- **When attendance is recorded for recognised faces only**: in every run, all states have the
    property if and only if no continuation of a mounted screen reads a refusal. -/
theorem attendance_only_recognised_iff (imageFile : String) (es : List Event) (s : Screen)
    (hrun : preview.exec (.initial imageFile) es = some s) :
    preview.Always OnlyRecognised (.initial imageFile) es ↔
      preview.Along ReadsNoRefusal (.initial imageFile) es :=
  preview.always_iff_along numbered_step onlyRecognised_step es _ s (numbered_initial imageFile)
    ⟨nofun, nofun, nofun⟩ hrun

/-- **Whose name a failed press posts**: a press whose own request failed, and that posts all the
    same, posts the subject of a reply that an earlier press received. -/
theorem failed_press_posts_earlier {imageFile : String} {es : List Event} {s : Screen}
    (hrun : preview.exec (.initial imageFile) es = some s) {sub : Submission}
    (hsub : sub ∈ s.submissions) {f : Finished} (hf : f ∈ s.faceRecognition.finished)
    (hpress : f.id = sub.press) {e : DioError} (hfailed : f.outcome = .error e) :
    ∃ g ∈ s.faceRecognition.finished, ∃ reply info, g.outcome = .ok reply ∧
      readRecognition (some reply) = .ok info ∧ sub.form = ⟨info.subjectId, "1"⟩ := by
  have h := numbered_of_run hrun
  obtain ⟨f', hf', hid, info, hresult, hform⟩ := h.posted sub hsub
  obtain rfl := h.finished_unique hf hf' (hpress.trans hid.symm)
  obtain ⟨pre, post, hsplit⟩ := List.append_of_mem hf
  obtain ⟨ds, hds⟩ := object_of_run hrun
  obtain ⟨before, g, after, reply, rfl, hg, -, hread⟩ :=
    failed_recognition_returns hds hsplit hfailed hresult
  refine ⟨g, ?_, reply, info, hg, hread, hform⟩
  rw [hsplit]
  exact List.mem_append_left _ (List.mem_append_right _ List.mem_cons_self)

/-- The screen after one press whose recognition was answered. -/
def answered (imageFile : String) (confidence : ℚ) (subject : String) : Screen where
  imageFile := imageFile
  status := decide (65 < confidence * 100)
  studentId := some subject
  faceRecognition :=
    { response := some (answering confidence subject)
      finished := [⟨0, .recogImage imageFile, .ok (answering confidence subject),
        .recognised (.ok ⟨decide (65 < confidence * 100), some subject⟩)⟩] }
  presses := 1
  submissions := [{ press := 0, form := ⟨some subject, "1"⟩ }]
  posts := [(0, ⟨some subject, "1"⟩)]
  snackbars := ["Submitting Feedback"]

/-- The run to `answered`. -/
theorem exec_answered (imageFile : String) (confidence : ℚ) (subject : String) :
    preview.exec (.initial imageFile)
      [.send true, .recogReply 0 (.ok (answering confidence subject))] =
      some (answered imageFile confidence subject) := rfl

/-- A face that is refused with a confidence of 40% is posted all the same. -/
theorem refused_face_is_posted :
    preview.exec (.initial "face.png")
      [.send true, .recogReply 0 (.ok (answering (2 / 5) "17CK023456"))] =
        some (answered "face.png" (2 / 5) "17CK023456") ∧
    (answered "face.png" (2 / 5) "17CK023456").submissions.map Submission.form =
      [⟨some "17CK023456", "1"⟩] ∧
    ¬ OnlyRecognised (answered "face.png" (2 / 5) "17CK023456") := by
  refine ⟨exec_answered _ _ _, rfl, fun h => ?_⟩
  obtain ⟨f, hf, -, hres⟩ := h.recognised _ (List.mem_singleton_self _) rfl
  rw [List.mem_singleton.mp hf] at hres
  have hlow : ¬ (65 : ℚ) < 2 / 5 * 100 := by norm_num
  simp [hlow] at hres

/-- An answer above 65% is taken. -/
theorem verdict_answering (confidence : ℚ) (subject : String) (h : 65 < confidence * 100) :
    verdict (some (answering confidence subject)) = .recognised (some subject) := by
  have hread := readRecognition_answering confidence subject
  rw [decide_eq_true h] at hread
  exact (readRecognition_ok_iff _ _).mp hread

/-- A face that is recognised with a confidence of 80% is the only one posted. -/
theorem recognised_face_only :
    preview.Always OnlyRecognised (.initial "face.png")
      [.send true, .recogReply 0 (.ok (answering (4 / 5) "17CK023456"))] := by
  refine (attendance_only_recognised_iff _ _ _ (exec_answered _ _ _)).mpr ?_
  refine .cons _ rfl trivial (.cons _ rfl (fun _ m hm => ?_) trivial)
  have hv := verdict_answering (4 / 5) "17CK023456" (by norm_num)
  cases hv.symm.trans hm

/-! ## The congratulation -/

/-- `submitForm` has received a final reply with status SUCCESS for the student. -/
def Confirmed (s : Screen) (studentId : Option String) : Prop :=
  ∃ sub ∈ s.submissions, sub.form.matricno = studentId ∧ sub.told = some (some STATUS_SUCCESS)

/-- Who is congratulated on having been captured has been confirmed by the sheet. -/
def Truthful (s : Screen) : Prop :=
  ∀ studentId, s.build = some (.recognized studentId) → Confirmed s studentId

/-- If a mounted screen's continuation reads a recognised face, the sheet has already confirmed
    an earlier submission for that student. -/
def RecognisesConfirmed (s : Screen) : Event → Prop
  | .recogReply _ outcome => s.life ≠ .disposed →
      ∀ m, verdict (settle s.faceRecognition.response outcome) = .recognised m → Confirmed s m
  | _ => True

/-- A confirmed submission is completed, so no reply reaches it any more. -/
theorem confirmed_hear {s : Screen} (h : Numbered s) {press : Nat} {waiting : Submitting → Bool}
    (hw : waiting .completed = false) (next : Submitting × Option (Option String))
    {studentId : Option String} (hc : Confirmed s studentId) :
    Confirmed (s.hear press waiting next) studentId := by
  obtain ⟨sub, hsub, hm, htold⟩ := hc
  have hdone : sub.stage = .completed := h.told sub hsub (by rw [htold]; nofun)
  have hsame : sub.hear press waiting next = sub := by
    unfold Submission.hear
    rw [if_neg]
    rintro ⟨-, hwait⟩
    rw [hdone, hw] at hwait
    cases hwait
  refine ⟨sub, ?_, hm, htold⟩
  rw [hear_submissions]
  exact List.mem_map.mpr ⟨sub, hsub, hsame⟩

/-- The replies of the sheet change no text. -/
theorem Truthful.hear {s : Screen} (ht : Truthful s) (h : Numbered s) (press : Nat)
    {waiting : Submitting → Bool} (hw : waiting .completed = false)
    (next : Submitting × Option (Option String)) : Truthful (s.hear press waiting next) := by
  intro m hm
  rw [hear_build] at hm
  exact confirmed_hear h hw next (ht m hm)

/-- The submission a press has just made is not confirmed yet. -/
theorem confirmed_submitForm (s : Screen) (press : Nat) (studentId : Option String) :
    Confirmed (s.submitForm press) studentId ↔ Confirmed s studentId := by
  constructor
  · rintro ⟨sub, hsub, hm, htold⟩
    rcases List.mem_append.mp hsub with hsub | hsub
    · exact ⟨sub, hsub, hm, htold⟩
    · rw [List.mem_singleton.mp hsub] at htold
      cases htold
  · rintro ⟨sub, hsub, hrest⟩
    exact ⟨sub, List.mem_append_left _ hsub, hrest⟩

/-- A recognition is where the texts change. -/
theorem truthful_afterRecognition {s : Screen} (ht : Truthful s) (press : Nat)
    (outcome : Outcome) :
    Truthful (s.afterRecognition press outcome) ↔
      RecognisesConfirmed s (.recogReply press outcome) := by
  have hfield : (s.faceRecognition.finish press (.recogImage s.imageFile) outcome).response =
      settle s.faceRecognition.response outcome := resume_response _ _ _
  rcases afterRecognition_cases s press outcome with
    ⟨e, hread, heq⟩ | ⟨info, hread, hlife, heq⟩ | ⟨info, hread, hlife, heq⟩ <;>
    rw [heq] <;> rw [hfield] at hread
  · -- `recogImage` has thrown: the reply recognises nobody
    refine ⟨fun _ _ m hm => ?_, fun _ => ht⟩
    have hok := (readRecognition_ok_iff _ ⟨true, m⟩).mpr hm
    rw [hread] at hok
    cases hok
  · exact ⟨fun _ hne => absurd hlife hne, fun _ => ht⟩
  · obtain ⟨status, subject⟩ := info
    have hverdict := (readRecognition_ok_iff _ _).mp hread
    constructor
    · intro hnew _ m hm
      rw [hm] at hverdict
      cases status with
      | false => cases hverdict
      | true =>
        obtain rfl : m = subject := by injection hverdict
        have hposted := hnew m (if_neg hlife)
        rw [confirmed_submitForm] at hposted
        exact hposted
    · intro hconf m hm
      cases status with
      | false =>
        have hplain : some (Texts.notYetRecognized subject) = some (.recognized m) :=
          (if_neg hlife).symm.trans hm
        cases hplain
      | true =>
        have hshown : some (Texts.recognized subject) = some (.recognized m) :=
          (if_neg hlife).symm.trans hm
        obtain rfl : subject = m := by injection hshown with h; injection h
        rw [confirmed_submitForm]
        exact hconf hlife subject hverdict

/-- **The step lemma** of the texts. -/
theorem truthful_step (s : Screen) (e : Event) (s' : Screen) (h : Numbered s) (ht : Truthful s)
    (hstep : preview.step s e = some s') : Truthful s' ↔ RecognisesConfirmed s e := by
  cases step_cases hstep with
  | recogReply press outcome pending => exact truthful_afterRecognition ht press outcome
  | send readable =>
    refine ⟨fun _ => trivial, fun _ => ?_⟩
    cases readable <;> exact ht
  | sheetAccepts post sent => exact ⟨fun _ => trivial, fun _ => ht⟩
  | postReply press reply => exact ⟨fun _ => trivial, fun _ => ht.hear h press rfl _⟩
  | getReply press reply => exact ⟨fun _ => trivial, fun _ => ht.hear h press rfl _⟩
  | back shown =>
    refine ⟨fun _ => trivial, fun _ m hm => ht m ?_⟩
    rw [← hm]
    simp [Screen.build, shown]
  | dispose leaving =>
    exact ⟨fun _ => trivial, fun _ m hm => absurd hm (by simp [Screen.build])⟩

/-- **When the congratulation is true**: in every run it is true in all states if and only if,
    whenever a mounted screen reads a recognised face, the sheet has confirmed the student
    before. -/
theorem congratulation_true_iff (imageFile : String) (es : List Event) (s : Screen)
    (hrun : preview.exec (.initial imageFile) es = some s) :
    preview.Always Truthful (.initial imageFile) es ↔
      preview.Along RecognisesConfirmed (.initial imageFile) es :=
  preview.always_iff_along numbered_step truthful_step es _ s (numbered_initial imageFile)
    (fun _ hm => absurd hm (by simp [Screen.build, Screen.initial])) hrun

/-- A recognised face whose POST then fails in transport. -/
def unconfirmed : Screen :=
  { answered "face.png" (4 / 5) "17CK023456" with
    submissions := [{ press := 0, form := ⟨some "17CK023456", "1"⟩, stage := .completed }] }

/-- The student is congratulated although the sheet was never reached. -/
theorem congratulated_unconfirmed :
    preview.exec (.initial "face.png")
      [.send true, .recogReply 0 (.ok (answering (4 / 5) "17CK023456")), .postReply 0 none] =
        some unconfirmed ∧
    unconfirmed.build = some (.recognized (some "17CK023456")) ∧ ¬ Truthful unconfirmed := by
  have hbuild : unconfirmed.build = some (.recognized (some "17CK023456")) := by
    have hhigh : (65 : ℚ) < 4 / 5 * 100 := by norm_num
    simp [unconfirmed, answered, Screen.build, hhigh]
  refine ⟨rfl, hbuild, fun h => ?_⟩
  obtain ⟨sub, hsub, -, htold⟩ := h _ hbuild
  rw [List.mem_singleton.mp hsub] at htold
  cases htold

/-- The sheet's answer to a row it has added. -/
def saved : HttpResponse where
  statusCode := 200
  location := none
  body := some (.obj [("status", .str "SUCCESS")])

/-- A student whose first, refused press was confirmed is congratulated on the second. -/
theorem congratulated_after_confirmation :
    preview.Always Truthful (.initial "face.png")
      [.send true, .recogReply 0 (.ok (answering (2 / 5) "17CK023456")), .postReply 0 (some saved),
        .send true, .recogReply 1 (.ok (answering (4 / 5) "17CK023456"))] := by
  refine (congratulation_true_iff _ _ _ rfl).mpr ?_
  refine .cons _ rfl trivial (.cons _ rfl (fun _ m hm => ?_) (.cons _ rfl trivial
    (.cons _ rfl trivial (.cons _ rfl (fun _ m hm => ?_) trivial))))
  · have hlow := (readRecognition_ok_iff _ ⟨true, m⟩).mpr hm
    have hno : ¬ (65 : ℚ) < 2 / 5 * 100 := by norm_num
    rw [settle_ok, readRecognition_answering, decide_eq_false hno] at hlow
    cases hlow
  · have hv := verdict_answering (4 / 5) "17CK023456" (by norm_num)
    obtain rfl : some "17CK023456" = m := by
      injection hv.symm.trans hm
    exact ⟨_, List.mem_singleton_self _, rfl, rfl⟩

/-! ## Rows per press -/

/-- The press of the one button. -/
def Event.isSend : Event → Bool
  | .send _ => true
  | _ => false

/-- The screen counts the presses of its button. -/
theorem presses_step (s : Screen) (e : Event) (s' : Screen) (hstep : preview.step s e = some s') :
    s'.presses = s.presses + (if e.isSend then 1 else 0) := by
  cases step_cases hstep with
  | send readable => cases readable <;> rfl
  | recogReply press outcome pending =>
    rcases afterRecognition_cases s press outcome with
      ⟨e, -, heq⟩ | ⟨info, -, -, heq⟩ | ⟨info, -, -, heq⟩ <;> rw [heq] <;> rfl
  | sheetAccepts post sent => rfl
  | postReply press reply =>
    obtain ⟨bars, heq⟩ := hear_eq s press Submitting.isPosting (afterPost reply)
    rw [heq]
    rfl
  | getReply press reply =>
    obtain ⟨bars, heq⟩ := hear_eq s press Submitting.isFollowing (afterGet reply)
    rw [heq]
    rfl
  | back shown => rfl
  | dispose leaving => rfl

/-- Every row comes from a press, so distinct rows come from distinct presses. -/
theorem Numbered.row_press_lt {s : Screen} (h : Numbered s) {row : Nat × FeedbackForm}
    (hrow : row ∈ s.rows) : row.1 < s.presses := by
  obtain ⟨sub, hsub, hpress, -⟩ := h.rows_posted hrow
  obtain ⟨f, hf, hid, -⟩ := h.posted sub hsub
  have hsettled : f.id ∈ s.settled := List.mem_append_left _ (List.mem_map_of_mem hf)
  have hlt := h.settled_lt _ hsettled
  omega

/-- **One press, one row**: each press of `Send` adds at most one row to the sheet, so there are
    never more rows than presses, and each row holds the subject that the press's own
    `recogImage` call returned. -/
theorem rows_at_most_one_per_press (imageFile : String) (es : List Event) (s : Screen)
    (hrun : preview.exec (.initial imageFile) es = some s) :
    s.rows.length ≤ es.countP Event.isSend ∧
    (∀ press, (s.rows.filter (·.1 = press)).length ≤ 1) ∧
    ∀ row ∈ s.rows, ∃ f ∈ s.faceRecognition.finished, f.id = row.1 ∧
      ∃ info, f.result = .recognised (.ok info) ∧ row.2 = ⟨info.subjectId, "1"⟩ := by
  have h := numbered_of_run hrun
  refine ⟨?_, fun press => ?_, fun row hrow => ?_⟩
  · -- the rows' presses are distinct numbers below the number of presses
    have hcount : s.presses = es.countP Event.isSend := by
      have hc := preview.exec_counts presses_step es _ s hrun
      rw [hc]
      exact Nat.zero_add _
    have hsub : s.rows.map Prod.fst ⊆ List.range s.presses := by
      intro i hi
      obtain ⟨row, hrow, rfl⟩ := List.mem_map.mp hi
      exact List.mem_range.mpr (h.row_press_lt hrow)
    have hle := (h.rows_once.subperm hsub).length_le
    rw [List.length_map, List.length_range] at hle
    omega
  · have hnodup : ((s.rows.filter (·.1 = press)).map Prod.fst).Nodup :=
      h.rows_once.sublist ((List.filter_sublist).map Prod.fst)
    have hsub : (s.rows.filter (·.1 = press)).map Prod.fst ⊆ [press] := by
      intro i hi
      obtain ⟨row, hrow, rfl⟩ := List.mem_map.mp hi
      exact List.mem_singleton.mpr (of_decide_eq_true (List.mem_filter.mp hrow).2)
    have hle := (hnodup.subperm hsub).length_le
    rw [List.length_map] at hle
    exact hle
  · obtain ⟨sub, hsub, hpress, hform⟩ := h.rows_posted hrow
    obtain ⟨f, hf, hid, info, hres, hinfo⟩ := h.posted sub hsub
    exact ⟨f, hf, hid.trans hpress, info, hres, hform.symm.trans hinfo⟩

/-- Two presses for one picture, both recognised and both accepted by the sheet. -/
def twoPresses : List Event :=
  [.send true, .send true, .recogReply 0 (.ok (answering (4 / 5) "17CK023456")), .sheetAccepts 0,
    .recogReply 1 (.ok (answering (4 / 5) "17CK023456")), .sheetAccepts 1]

/-- One screen adds the same student twice. -/
theorem two_rows_for_one_picture :
    (preview.exec (.initial "face.png") twoPresses).map Screen.rows =
      some [(0, ⟨some "17CK023456", "1"⟩), (1, ⟨some "17CK023456", "1"⟩)] := rfl

/-- Two presses add two rows, and cannot add more. -/
theorem two_presses_two_rows :
    ∃ s, preview.exec (.initial "face.png") twoPresses = some s ∧ s.rows.length = 2 ∧
      s.rows.length ≤ twoPresses.countP Event.isSend :=
  ⟨_, rfl, rfl, (rows_at_most_one_per_press "face.png" twoPresses _ rfl).1⟩

end AttendanceApp.PreviewScreen
