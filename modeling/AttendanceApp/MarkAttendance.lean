/-
  `lib/utils/form.dart` and `lib/Attendance/mark_attendance.dart`: one attendance entry, and how
  it is submitted to the sheet.

  `submitForm` sends a POST and tells the caller's `callback` the `status` of the final reply.  The
  sheet service answers a POST with a redirect (302), which the code follows by hand with a GET.
  Everything sits in one `try`/`catch` that only prints, so a submission can also end without the
  callback having been called (`reports_iff`).

  A submission is modelled by what it waits for (`Submitting`); `afterPost` and `afterGet` are the
  code that runs when the awaited request completes, and `submitForm` is the two of them against a
  sheet service that may answer anything (`Web`).
-/
import AttendanceApp.Dart

namespace AttendanceApp.MarkAttendance

open AttendanceApp.Dart

/-- `FeedbackForm`.  Without sound null safety the matric number can be null. -/
structure FeedbackForm where
  matricno : Option String
  attendance : String
  deriving DecidableEq, Repr

/-- `FormController.STATUS_SUCCESS`. -/
def STATUS_SUCCESS : String := "SUCCESS"

/-- An `http.Response`; `body` is the decoded body, `none` when it is not JSON. -/
structure HttpResponse where
  statusCode : Nat
  location : Option String
  body : Option Json

/-- `convert.jsonDecode(response.body)['status']`, passed as a `String`. -/
def decodeStatus (response : HttpResponse) : Except DartError (Option String) := do
  match response.body with
  | none => throw .format
  | some v =>
    let status ← v.key "status"
    status.asString

/-- What a submission waits for. -/
inductive Submitting where
  | posting
  | following (url : String)
  | completed
  deriving DecidableEq, Repr

/-- The callback is called with the decoded status; when decoding throws, the `catch` prints. -/
def finish (response : HttpResponse) : Submitting × Option (Option String) :=
  match decodeStatus response with
  | .ok status => (.completed, some status)
  | .error _ => (.completed, none)

/-- `submitForm` when its POST completes (`none`: with a transport failure): what it waits for
    next, and what it has passed to the callback. -/
def afterPost : Option HttpResponse → Submitting × Option (Option String)
  | none => (.completed, none)
  | some response =>
    if response.statusCode = 302 then
      match response.location with
      | some url => (.following url, none)
      | none => (.completed, none) -- `http.get(null)` throws
    else finish response

/-- `submitForm` when the GET of a redirect completes. -/
def afterGet : Option HttpResponse → Submitting × Option (Option String)
  | none => (.completed, none)
  | some response => finish response

/-- A submission that has told its callback something is over. -/
theorem afterPost_told {reply : Option HttpResponse} {status : Option String}
    (h : (afterPost reply).2 = some status) : (afterPost reply).1 = .completed := by
  cases reply with
  | none => rfl
  | some response =>
    simp only [afterPost, finish] at h ⊢
    split
    · split
      · simp_all
      · rfl
    · split <;> rfl

theorem afterGet_told (reply : Option HttpResponse) : (afterGet reply).1 = .completed := by
  cases reply with
  | none => rfl
  | some response =>
    simp only [afterGet, finish]
    split <;> rfl

/-! ## Requests -/

/-- `FormController.URL`. -/
def URL : String :=
  "https://script.google.com/macros/s/" ++
    "AKfycbz3lXbp33xiQtPY2Xev7qgGzK7MrQL0C-z19lkk8yQDwepXOvItnIwNGuMBg_8Jz3TKTQ" ++ "/exec"

/-- `toJson`. -/
def FeedbackForm.toJson (f : FeedbackForm) : List (String × Option String) :=
  [("matricno", f.matricno), ("attendance", some f.attendance)]

/-- The other side of `http.post` and `http.get`: what it answers (`none`: a transport failure), and
    what becomes of its state. -/
structure Web (σ : Type) where
  post : (url : String) → (body : List (String × Option String)) → σ → Option HttpResponse × σ
  get : (url : String) → σ → Option HttpResponse × σ

section Submit

variable {σ : Type} (web : Web σ) (feedbackForm : FeedbackForm) (s : σ)

/-- `submitForm`: everything it passes to its callback until it completes, and the service
    afterwards. -/
def submitForm : List (Option String) × σ :=
  let (reply, s) := web.post URL feedbackForm.toJson s
  match afterPost reply with
  | (.following url, told) =>
    let (reply, s) := web.get url s
    (told.toList ++ (afterGet reply).2.toList, s)
  | (_, told) => (told.toList, s)

/-! ## What the callback hears -/

/-- The last reply of a submission: that to the POST, or to the GET it is redirected to. -/
def finalReply : Option HttpResponse :=
  match (web.post URL feedbackForm.toJson s).1 with
  | none => none
  | some response =>
    if response.statusCode = 302 then
      match response.location with
      | none => none
      | some url => (web.get url (web.post URL feedbackForm.toJson s).2).1
    else some response

/-- The body is a JSON object whose status is 'SUCCESS'. -/
def HttpResponse.Confirms (response : HttpResponse) : Prop :=
  ∃ fields, response.body = some (.obj fields) ∧ Json.lookup fields "status" = .str STATUS_SUCCESS

/-- The body is a JSON object whose status is missing, null or a text. -/
def HttpResponse.Legible (response : HttpResponse) : Prop :=
  ∃ fields, response.body = some (.obj fields) ∧
    (Json.lookup fields "status" = .null ∨ ∃ text, Json.lookup fields "status" = .str text)

/-- **A submission reports**: it calls its callback once, with 'SUCCESS' exactly if the final reply
    confirms it. -/
def Reports : Prop :=
  ∃ status, (submitForm web feedbackForm s).1 = [status] ∧
    (status = some STATUS_SUCCESS ↔
      ∃ response, finalReply web feedbackForm s = some response ∧ response.Confirms)

/-- What the callback hears is what the final reply is decoded to. -/
theorem submitForm_told : (submitForm web feedbackForm s).1 =
    match finalReply web feedbackForm s with
    | none => []
    | some response => (finish response).2.toList := by
  rw [submitForm, finalReply]
  rcases hpost : web.post URL feedbackForm.toJson s with ⟨_ | response, s'⟩
  · rfl
  simp only [afterPost]
  by_cases hredirect : response.statusCode = 302
  · rw [if_pos hredirect, if_pos hredirect]
    cases response.location with
    | none => rfl
    | some url =>
      simp only [Option.toList_none, List.nil_append]
      cases (web.get url s').1 <;> rfl
  · rw [if_neg hredirect, if_neg hredirect]
    simp only [finish]
    cases decodeStatus response <;> rfl

/-- **What is decoded**: the status of a JSON object, if it is missing, null or a text. -/
theorem finish_told_iff {response : HttpResponse} {status : Option String} :
    (finish response).2 = some status ↔
      ∃ fields, response.body = some (.obj fields) ∧
        Json.lookup fields "status" = status.elim .null .str := by
  obtain ⟨statusCode, location, body⟩ := response
  rcases body with _ | v
  · simp [finish, decodeStatus, throw, throwThe, MonadExceptOf.throw]
  cases v with
  | obj fields =>
    simp only [finish, decodeStatus, Json.key, bind, Except.bind, Option.some.injEq, Json.obj.injEq,
      exists_eq_left']
    cases Json.lookup fields "status" with
    | null => cases status <;> simp [Json.asString]
    | str text => cases status <;> simp [Json.asString]
    | _ => cases status <;> simp [Json.asString]
  | _ => simp [finish, decodeStatus, Json.key, bind, Except.bind]

/-- A reply is legible if the callback can be told a status. -/
theorem legible_iff {response : HttpResponse} :
    response.Legible ↔ ∃ status, (finish response).2 = some status := by
  simp only [finish_told_iff, HttpResponse.Legible]
  constructor
  · rintro ⟨fields, hbody, hnull | ⟨text, htext⟩⟩
    · exact ⟨none, fields, hbody, hnull⟩
    · exact ⟨some text, fields, hbody, htext⟩
  · rintro ⟨_ | text, fields, hbody, hstatus⟩
    · exact ⟨fields, hbody, Or.inl hstatus⟩
    · exact ⟨fields, hbody, Or.inr ⟨text, hstatus⟩⟩

/-- A reply confirms if that status is the one of success. -/
theorem confirms_iff {response : HttpResponse} :
    response.Confirms ↔ (finish response).2 = some (some STATUS_SUCCESS) := by
  rw [finish_told_iff]
  exact Iff.rfl

/-- **When a submission reports**: exactly when it gets a final reply, and that reply is legible.
    What it then reports is the truth. -/
theorem reports_iff : Reports web feedbackForm s ↔
    ∃ response, finalReply web feedbackForm s = some response ∧ response.Legible := by
  unfold Reports
  rw [submitForm_told]
  cases finalReply web feedbackForm s with
  | none => simp
  | some response =>
    simp only [Option.some.injEq, exists_eq_left', legible_iff, confirms_iff]
    cases (finish response).2 with
    | none => simp
    | some status => simp

end Submit

/-- A service that cannot be reached. -/
def unreachable : Web Unit where
  post _ _ s := (none, s)
  get _ s := (none, s)

/-- The student's screen never hears of it. -/
theorem unreachable_unreported :
    ¬ ∀ (σ : Type) (web : Web σ) (feedbackForm : FeedbackForm) (s : σ),
      Reports web feedbackForm s := by
  intro h
  obtain ⟨status, hheard, -⟩ := h Unit unreachable ⟨some "17CK023456", "1"⟩ ()
  have hsilent : (submitForm unreachable ⟨some "17CK023456", "1"⟩ ()).1 = [] := rfl
  rw [hsilent] at hheard
  cases hheard

end AttendanceApp.MarkAttendance
