/-
  `lib/utils/face_recognition.dart`: the client of the face recogniser.

  One `FaceRecognition` object owns ONE mutable field `response`.  Both of its methods send a
  request, store a successful reply in the field, swallow a `DioError`, and then go on with
  whatever the field holds: `enrollImage` returns it, `recogImage` parses it.  Overlapping calls
  on one object therefore meet in the field.

  The file has three parts: the code after the `await` of each method (`enrollImage`,
  `recogImage`), what a reply says in its own right (`verdict`, the reading the screens rely on),
  and the machine of any number of overlapping calls on one object (`calls`).
-/
import AttendanceApp.Transition
import AttendanceApp.Dart
import AttendanceApp.Latch

namespace AttendanceApp.FaceRecognition

open AttendanceApp.Dart AttendanceApp.Transition

/-! ## Replies -/

/-- A dio `Response`, by what `jsonDecode(response.toString())` makes of it: a JSON value, or
    `none` for a text that is not JSON. -/
structure Response where
  body : Option Json

/-- A `DioError`: a reply with a failure status code, or no reply at all. -/
structure DioError where
  response : Option Response

/-- What becomes of one HTTP request. -/
abbrev Outcome := Except DioError Response

/-- `Map<String, dynamic> parseResponse = jsonDecode(response.toString())`.  The text of a null
    `response` is `null`, which decodes to null. -/
def parseResponse : Option Response → Except DartError Json
  | none => .ok .null
  | some r =>
    match r.body with
    | none => .error .format
    | some v => v.asMap

/-! ## `enrollImage` -/

/-- The value `enrollImage` prints as `_status`: the first error's message, which must be a
    string, when there are no images, else the transaction status of the first image. -/
def enrollStatus (reply : Json) : Except DartError Json := do
  if (← reply.key "images").isNull then
    let message ← (← (← reply.key "Errors").first).key "Message"
    let _ ← message.asString
    return message
  else
    (← (← (← reply.key "images").first).key "transaction").key "status"

/-- `enrollImage` from the completion of its request on: the field afterwards, and what the call
    returns or throws.  The status of a reply is computed and printed, but not returned. -/
def enrollImage (response : Option Response) : Outcome → Option Response ×
    Except DartError (Option Response)
  | .ok reply => (some reply, do
      let parsed ← parseResponse (some reply)
      let _ ← enrollStatus parsed
      return some reply)
  | .error _ => (response, .ok response)

/-! ## `recogImage` -/

/-- The map `recogImage` returns. -/
structure ScreenInfo where
  status : Bool
  subjectId : Option String
  deriving DecidableEq, Repr

/-- `recogImage` after its `try` block, reading the field `response`. -/
def readRecognition (response : Option Response) : Except DartError ScreenInfo := do
  let parsed ← parseResponse response
  -- `images == null && images[0]['candidates'] == null`: the right operand indexes a null
  let missing ←
    if (← parsed.key "images").isNull then
      let candidates ← (← (← parsed.key "images").first).key "candidates"
      pure candidates.isNull
    else pure false
  if missing then
    return { status := false, subjectId := some "Place try again" }
  let confi ← (← (← (← (← parsed.key "images").first).key "candidates").first).key "confidence"
  let confidence := (← Double.ofDynamic confi).scale 100
  let subject ← (← (← (← (← parsed.key "images").first).key "candidates").first).key "subject_id"
  let subjectId ← subject.asString
  return { status := confidence.above 65, subjectId := subjectId }

/-- `recogImage` from the completion of its request on. -/
def recogImage (response : Option Response) (outcome : Outcome) :
    Option Response × Except DartError ScreenInfo :=
  let response := settle response outcome
  (response, readRecognition response)

/-! ## What a reply says

  `recogImage` finds a subject only along one path of the reply.  `firstCandidate` is that path
  by shape, without the errors on the way, and `verdict` what is found at its end. -/

/-- `images[0].candidates[0]` of a reply, when both are lists that start with a map. -/
def firstCandidate : Option Response → Option (List (String × Json))
  | some ⟨some (.obj reply)⟩ =>
    match Json.lookup reply "images" with
    | .arr (.obj image :: _) =>
      match Json.lookup image "candidates" with
      | .arr (.obj candidate :: _) => some candidate
      | _ => none
    | _ => none
  | _ => none

/-- How the recogniser's answer reads. -/
inductive Verdict where
  /-- A subject, with a confidence above 65%. -/
  | recognised (subjectId : Option String)
  /-- A subject, with a confidence that is not above 65%. -/
  | refused (subjectId : Option String)
  /-- No candidate, or one without a numeric confidence and a subject. -/
  | unreadable
  deriving DecidableEq, Repr

/-- The meaning of an answer, by its first candidate; the confidence is a fraction, and is compared
    as a percentage. -/
def verdict (response : Option Response) : Verdict :=
  match firstCandidate response with
  | none => .unreadable
  | some candidate =>
    match Double.ofDynamic (Json.lookup candidate "confidence"),
        (Json.lookup candidate "subject_id").asString with
    | .ok confidence, .ok subjectId =>
      if (confidence.scale 100).above 65 then .recognised subjectId else .refused subjectId
    | _, _ => .unreadable

/-- **`recogImage` reads the first candidate and nothing else**: without one it throws, with one
    its result is made of that candidate's `confidence` and `subject_id`. -/
theorem readRecognition_eq (response : Option Response) :
    match firstCandidate response with
    | none => ∃ e, readRecognition response = .error e
    | some candidate => readRecognition response = (do
        let confidence ← Double.ofDynamic (Json.lookup candidate "confidence")
        let subjectId ← (Json.lookup candidate "subject_id").asString
        return { status := (confidence.scale 100).above 65, subjectId := subjectId }) := by
  obtain _ | ⟨_ | v⟩ := response
  · exact ⟨_, rfl⟩
  · exact ⟨_, rfl⟩
  cases v with
  | obj reply =>
    simp only [firstCandidate, readRecognition, parseResponse, Json.asMap, Json.key, bind,
      Except.bind]
    cases Json.lookup reply "images" with
    | arr images =>
      cases images with
      | nil => exact ⟨_, rfl⟩
      | cons image _ =>
        cases image with
        | obj image =>
          simp only [Json.isNull, Json.first]
          cases Json.lookup image "candidates" with
          | arr candidates =>
            cases candidates with
            | nil => exact ⟨_, rfl⟩
            | cons candidate _ => cases candidate <;> first | rfl | exact ⟨_, rfl⟩
          | str s => cases h : s.toList <;> simp [h, pure, Except.pure]
          | _ => exact ⟨_, rfl⟩
        | _ => exact ⟨_, rfl⟩
    | str s => cases h : s.toList <;> simp [Json.isNull, Json.first, h, pure, Except.pure]
    | _ => exact ⟨_, rfl⟩
  | _ => exact ⟨_, rfl⟩

/-- The map `recogImage` returns is its verdict; it throws exactly on an unreadable reply. -/
theorem readRecognition_ok_iff (response : Option Response) (info : ScreenInfo) :
    readRecognition response = .ok info ↔
      verdict response =
        if info.status then .recognised info.subjectId else .refused info.subjectId := by
  have h := readRecognition_eq response
  obtain ⟨status, subjectId⟩ := info
  cases hc : firstCandidate response with
  | none =>
    rw [hc] at h
    obtain ⟨e, he⟩ := h
    cases status <;> simp [he, verdict, hc]
  | some candidate =>
    rw [hc] at h
    simp only [h, verdict, hc]
    cases Double.ofDynamic (Json.lookup candidate "confidence") with
    | error e => cases status <;> simp [bind, Except.bind]
    | ok confidence =>
      cases (Json.lookup candidate "subject_id").asString with
      | error e => cases status <;> simp [bind, Except.bind]
      | ok subject =>
        cases ha : (confidence.scale 100).above 65 <;> cases status <;>
          simp [bind, Except.bind, pure, Except.pure, ha]

/-! ## What an enrolment says

  The reply to an enrolment carries the transaction of its first image, or a list of errors. -/

/-- `images[0].transaction` of a reply, when `images` is a list that starts with a map. -/
def firstTransaction (reply : List (String × Json)) : Option Json :=
  match Json.lookup reply "images" with
  | .arr (.obj image :: _) => some (Json.lookup image "transaction")
  | _ => none

/-- The reply reports the enrolment's transaction status as 'success'. -/
def Response.reportsSuccess (r : Response) : Bool :=
  match r.body with
  | some (.obj reply) =>
    match firstTransaction reply with
    | some (.obj transaction) =>
      match Json.lookup transaction "status" with
      | .str status => status == "success"
      | _ => false
    | _ => false
  | _ => false

/-- The reply is a map with a first transaction, or without images but with a first error that
    has no message or a text as its message. -/
def Response.readable (r : Response) : Bool :=
  match r.body with
  | some (.obj reply) =>
    if (Json.lookup reply "images").isNull then
      match Json.lookup reply "Errors" with
      | .arr (.obj error :: _) => (Json.lookup error "Message").isNull ||
          (Json.lookup error "Message").isStr
      | _ => false
    else
      match firstTransaction reply with
      | some (.obj _) => true
      | _ => false
  | _ => false

/-- The status of a reply without images is the first error's message. -/
theorem enrollStatus_errors {reply : List (String × Json)}
    (h : (Json.lookup reply "images").isNull = true) :
    (∃ status, enrollStatus (.obj reply) = .ok status) ↔
      (Response.mk (some (.obj reply))).readable = true := by
  simp only [enrollStatus, Response.readable, Json.key, bind, Except.bind, h, if_true]
  cases Json.lookup reply "Errors" with
  | arr errors =>
    cases errors with
    | nil => simp [Json.first]
    | cons error _ =>
      cases error with
      | obj error =>
        simp only [Json.first]
        cases Json.lookup error "Message" <;>
          simp [Json.asString, Json.isNull, Json.isStr, pure, Except.pure]
      | _ => simp [Json.first]
  | str s => cases hs : s.toList <;> simp [Json.first, hs]
  | _ => simp [Json.first]

/-- The status of a reply with images is read off its first transaction. -/
theorem enrollStatus_images {reply : List (String × Json)}
    (h : (Json.lookup reply "images").isNull = false) :
    (∃ status, enrollStatus (.obj reply) = .ok status) ↔
      (Response.mk (some (.obj reply))).readable = true := by
  simp only [enrollStatus, Response.readable, firstTransaction, Json.key, bind, Except.bind, h]
  cases Json.lookup reply "images" with
  | arr images =>
    cases images with
    | nil => simp [Json.first]
    | cons image _ =>
      cases image with
      | obj image =>
        simp only [Json.first]
        cases Json.lookup image "transaction" <;> simp
      | _ => simp [Json.first]
  | str s => cases hs : s.toList <;> simp [Json.first, hs]
  | _ => simp [Json.first]

/-- **`enrollImage` returns on a reply exactly when it can read a status off it** — whatever that
    status is. -/
theorem enrollImage_returns_iff (response : Option Response) (r : Response) :
    (∃ result, (enrollImage response (.ok r)).2 = .ok result) ↔ r.readable = true := by
  obtain ⟨_ | v⟩ := r
  · simp [enrollImage, parseResponse, Response.readable, bind, Except.bind]
  cases v with
  | obj reply =>
    have hstatus : (∃ status, enrollStatus (.obj reply) = .ok status) ↔
        (Response.mk (some (.obj reply))).readable = true := by
      cases h : (Json.lookup reply "images").isNull with
      | true => exact enrollStatus_errors h
      | false => exact enrollStatus_images h
    rw [← hstatus]
    simp only [enrollImage, parseResponse, Json.asMap, bind, Except.bind]
    cases enrollStatus (.obj reply) <;> simp [pure, Except.pure]
  | null => simp [enrollImage, parseResponse, Json.asMap, enrollStatus, Json.key,
      Response.readable, bind, Except.bind]
  | _ => simp [enrollImage, parseResponse, Json.asMap, Response.readable, bind, Except.bind]

theorem Response.readable_of_reportsSuccess {r : Response} (h : r.reportsSuccess = true) :
    r.readable = true := by
  obtain ⟨_ | v⟩ := r
  · cases h
  cases v with
  | obj reply =>
    simp only [Response.reportsSuccess, Response.readable, firstTransaction] at h ⊢
    cases hi : Json.lookup reply "images" with
    | arr images =>
      rw [hi] at h
      cases images with
      | nil => cases h
      | cons image _ =>
        cases image with
        | obj image =>
          simp only [Json.isNull] at h ⊢
          cases ht : Json.lookup image "transaction" with
          | obj transaction => simp
          | _ => simp [ht] at h
        | _ => cases h
    | _ => simp [hi] at h
  | _ => cases h

/-- A well-formed reply with one candidate. -/
def answering (confidence : ℚ) (subject : String) : Response where
  body := some (.obj [("images", .arr [.obj [("candidates", .arr [.obj
    [("confidence", .num confidence), ("subject_id", .str subject)]])]])])

theorem readRecognition_answering (confidence : ℚ) (subject : String) :
    readRecognition (some (answering confidence subject)) =
      .ok ⟨decide (65 < confidence * 100), some subject⟩ := rfl

/-! ## Overlapping calls on one object -/

/-- A call of one of the two methods, with its arguments. -/
inductive Call where
  | enrollImage (file : String) (subjectId : String)
  | recogImage (file : String)
  deriving DecidableEq, Repr

/-- What a call returns or throws. -/
inductive Result where
  | enrolled (result : Except DartError (Option Response))
  | recognised (result : Except DartError ScreenInfo)

/-- A call from the completion of its request on. -/
def Call.resume (call : Call) (response : Option Response) (outcome : Outcome) :
    Option Response × Result :=
  match call with
  | .enrollImage _ _ =>
    let (response, result) := FaceRecognition.enrollImage response outcome
    (response, .enrolled result)
  | .recogImage _ =>
    let (response, result) := FaceRecognition.recogImage response outcome
    (response, .recognised result)

/-- A finished call: what became of its own request, and what it returned. -/
structure Finished where
  id : Nat
  call : Call
  outcome : Outcome
  result : Result

/-- One `FaceRecognition` object with the calls made on it, the finished ones in the order in
    which they finished. -/
structure Object where
  response : Option Response := none
  inFlight : List (Nat × Call) := []
  finished : List Finished := []

/-- A call of either method starts, or what it awaits comes through. -/
inductive Event where
  /-- A call sends its request; `id` names it. -/
  | start (id : Nat) (call : Call)
  /-- The request of call `id` completes, and the call runs to its end. -/
  | complete (id : Nat) (outcome : Outcome)

/-- The call `id` has its outcome and runs to its end. -/
def Object.finish (o : Object) (id : Nat) (call : Call) (outcome : Outcome) : Object where
  response := (call.resume o.response outcome).1
  inFlight := o.inFlight.filter (·.1 ≠ id)
  finished := o.finished ++ [⟨id, call, outcome, (call.resume o.response outcome).2⟩]

/-- One event; a call starts once, and ends once. -/
def step (o : Object) : Event → Option Object
  | .start id call =>
    if id ∈ o.inFlight.map Prod.fst ∨ id ∈ o.finished.map Finished.id then none
    else some { o with inFlight := (id, call) :: o.inFlight }
  | .complete id outcome => (o.inFlight.lookup id).map fun call => o.finish id call outcome

/-- Any number of overlapping calls on one object, in any order of starts and completions. -/
def calls : Machine Object Event := ⟨step⟩

/-- Either method settles its outcome on the field. -/
theorem resume_response (call : Call) (response : Option Response) (outcome : Outcome) :
    (call.resume response outcome).1 = settle response outcome := by
  cases call <;> cases outcome <;> rfl

/-- What a call returns is read off the field AFTER its own request has settled on it. -/
theorem resume_result_ok (call : Call) (response response' : Option Response) (r : Response) :
    (call.resume response (.ok r)).2 = (call.resume response' (.ok r)).2 := by
  cases call <;> rfl

/-- The object's history: the field is the latch of all outcomes so far, and every finished call
    ran on the latch of the outcomes before its own. -/
structure History (o : Object) : Prop where
  field : o.response = latch none (o.finished.map Finished.outcome)
  reads : ∀ pre f post, o.finished = pre ++ f :: post →
    f.result = (f.call.resume (latch none (pre.map Finished.outcome)) f.outcome).2

/-- A step starts a call, or finishes one. -/
theorem step_cases {o o' : Object} {e : Event} (h : calls.step o e = some o') :
    (∃ id call, e = .start id call ∧ o' = { o with inFlight := (id, call) :: o.inFlight }) ∨
    (∃ id call outcome, e = .complete id outcome ∧ o' = o.finish id call outcome) := by
  cases e with
  | start id call =>
    simp only [calls, step] at h
    split at h
    · cases h
    · exact Or.inl ⟨id, call, rfl, (Option.some.inj h).symm⟩
  | complete id outcome =>
    obtain ⟨call, -, ho'⟩ := Option.map_eq_some_iff.mp h
    exact Or.inr ⟨id, call, outcome, rfl, ho'.symm⟩

/-- **The step lemma.** -/
theorem history_step (o : Object) (e : Event) (o' : Object) (h : History o)
    (hstep : calls.step o e = some o') : History o' := by
  obtain ⟨id, call, rfl, rfl⟩ | ⟨id, call, outcome, rfl, rfl⟩ := step_cases hstep
  · exact ⟨h.field, h.reads⟩
  · refine ⟨?_, forall_split_snoc h.reads ?_⟩
    · show (call.resume o.response outcome).1 = _
      rw [resume_response, Object.finish, List.map_append, List.map_singleton, latch_snoc,
        ← h.field]
    · show (call.resume o.response outcome).2 = _
      rw [h.field]

theorem history_of_run {es : List Event} {o : Object} (hrun : calls.exec {} es = some o) :
    History o :=
  calls.exec_invariant history_step es {} o
    ⟨rfl, fun pre f post h => absurd h.symm (by simp)⟩ hrun

/-! ## Whose reply a call returns -/

/-- The outcome `outcome` of its own request decides what `call` returns: in any two runs in which
    `call`'s request has that outcome, `call` returns or throws the same. -/
def DecidedByOwnRequest (call : Call) (outcome : Outcome) : Prop :=
  ∀ es₁ es₂ o₁ o₂, calls.exec {} es₁ = some o₁ → calls.exec {} es₂ = some o₂ →
    ∀ f₁ ∈ o₁.finished, ∀ f₂ ∈ o₂.finished, f₁.call = call → f₂.call = call →
      f₁.outcome = outcome → f₂.outcome = outcome → f₁.result = f₂.result

/-- What a call returned is what it returns on some value of the field. -/
theorem finished_result {es : List Event} {o : Object} (hrun : calls.exec {} es = some o)
    {f : Finished} (hf : f ∈ o.finished) :
    ∃ response, f.result = (f.call.resume response f.outcome).2 := by
  obtain ⟨pre, post, hsplit⟩ := List.append_of_mem hf
  exact ⟨_, (history_of_run hrun).reads pre f post hsplit⟩

/-- The run in which `call` fails on a fresh object. -/
def failingAlone (call : Call) (e : DioError) : List Event :=
  [.start 0 call, .complete 0 (.error e)]

/-- The run in which another call is answered first. -/
def failingAfter (call : Call) (e : DioError) (reply : Response) : List Event :=
  [.start 0 call, .start 1 (.recogImage "other.png"), .complete 1 (.ok reply),
    .complete 0 (.error e)]

/-- A failed call sees the reply another call received. -/
theorem failed_call_differs (call : Call) (e : DioError) :
    (call.resume none (.error e)).2 ≠ (call.resume (some (answering 1 "A")) (.error e)).2 := by
  cases call with
  | enrollImage file subjectId => nofun
  | recogImage file =>
    have hself : readRecognition none = .error .noSuchMethod := rfl
    simp [Call.resume, recogImage, hself, readRecognition_answering]

/-- A failed call is not decided by its own request: compare it alone on a fresh object with the
    run in which another call was answered before. -/
theorem not_decided_of_failed (call : Call) (e : DioError) :
    ¬ DecidedByOwnRequest call (.error e) := by
  intro h
  refine failed_call_differs call e ?_
  exact h (failingAlone call e) (failingAfter call e (answering 1 "A")) _ _ rfl rfl
    _ (List.mem_singleton_self _) _ (List.mem_cons_of_mem _ (List.mem_singleton_self _))
    rfl rfl rfl rfl

/-- **What a call returns beside its own request**: it runs on the reply of the last request that
    succeeded before it finished, and on nothing when there was none. -/
theorem finished_reads_last_success {es : List Event} {o : Object}
    (hrun : calls.exec {} es = some o) {pre post : List Finished} {f : Finished}
    (hsplit : o.finished = pre ++ f :: post) :
    f.result = (f.call.resume (latch none (pre.map Finished.outcome)) f.outcome).2 :=
  (history_of_run hrun).reads pre f post hsplit

/-- **The crossed reply**: a recognition whose own request failed and that returns all the same
    returns what the last answered call before it was told. -/
theorem failed_recognition_returns {es : List Event} {o : Object} (hrun : calls.exec {} es = some o)
    {pre post : List Finished} {f : Finished} (hsplit : o.finished = pre ++ f :: post)
    {e : DioError} (hfailed : f.outcome = .error e) {info : ScreenInfo}
    (hresult : f.result = .recognised (.ok info)) :
    ∃ before g after reply, pre = before ++ g :: after ∧ g.outcome = .ok reply ∧
      (∀ h ∈ after, ∃ e, h.outcome = .error e) ∧ readRecognition (some reply) = .ok info := by
  have hreads := finished_reads_last_success hrun hsplit
  rw [hresult, hfailed] at hreads
  cases hcall : f.call with
  | enrollImage file subjectId =>
    rw [hcall] at hreads
    cases hreads
  | recogImage file =>
    rw [hcall] at hreads
    have hread : readRecognition (latch none (pre.map Finished.outcome)) = .ok info :=
      (Result.recognised.inj hreads).symm
    cases hlatch : latch none (pre.map Finished.outcome) with
    | none =>
      -- nothing to read: `null['images']` throws
      rw [hlatch] at hread
      cases hread
    | some reply =>
      rw [hlatch] at hread
      obtain ⟨before, after, hmap, hafter⟩ := latch_none_eq_some.mp hlatch
      obtain ⟨before', rest, rfl, rfl, hrest⟩ := List.map_eq_append_iff.mp hmap
      obtain ⟨g, after', rfl, hg, rfl⟩ := List.map_eq_cons_iff.mp hrest
      refine ⟨before', g, after', reply, rfl, hg, fun h hh => ?_, hread⟩
      exact hafter h.outcome (List.mem_map_of_mem hh)

/-- No request had succeeded on the object when `f` finished. -/
def NoneAnsweredBefore (o : Object) (f : Finished) : Prop :=
  ∃ pre post, o.finished = pre ++ f :: post ∧ ∀ g ∈ pre, ∃ e, g.outcome = .error e

/-- Until a request has been answered, a call finds the field as it was made. -/
theorem finished_before_any_answer {es : List Event} {o : Object}
    (hrun : calls.exec {} es = some o) {f : Finished} (hf : NoneAnsweredBefore o f) :
    f.result = (f.call.resume none f.outcome).2 := by
  obtain ⟨pre, post, hsplit, hpre⟩ := hf
  have hlatch : latch none (pre.map Finished.outcome) = none := by
    refine latch_of_failures fun o ho => ?_
    obtain ⟨g, hg, rfl⟩ := List.mem_map.mp ho
    exact hpre g hg
  rw [finished_reads_last_success hrun hsplit, hlatch]

/-- **Exactly the successful calls answer for themselves.**  The outcome of a call's own request
    decides what the call returns, across all runs and whatever the other calls receive, if and
    only if the request succeeds: a call whose request fails goes on with the reply of another.
    Among the runs in which no request has been answered before the call finishes, its own
    outcome decides in any case. -/
theorem decidedByOwnRequest_iff (call : Call) (outcome : Outcome) :
    (DecidedByOwnRequest call outcome ↔ ∃ reply, outcome = .ok reply) ∧
    ∀ es₁ es₂ o₁ o₂, calls.exec {} es₁ = some o₁ → calls.exec {} es₂ = some o₂ →
      ∀ f₁ f₂, NoneAnsweredBefore o₁ f₁ → NoneAnsweredBefore o₂ f₂ →
        f₁.call = call → f₂.call = call → f₁.outcome = outcome → f₂.outcome = outcome →
          f₁.result = f₂.result := by
  refine ⟨⟨fun h => ?_, ?_⟩, ?_⟩
  · cases outcome with
    | ok reply => exact ⟨reply, rfl⟩
    | error e => exact absurd h (not_decided_of_failed call e)
  · rintro ⟨reply, rfl⟩ es₁ es₂ o₁ o₂ hrun₁ hrun₂ f₁ hf₁ f₂ hf₂ hc₁ hc₂ ho₁ ho₂
    obtain ⟨r₁, h₁⟩ := finished_result hrun₁ hf₁
    obtain ⟨r₂, h₂⟩ := finished_result hrun₂ hf₂
    rw [h₁, h₂, hc₁, hc₂, ho₁, ho₂]
    exact resume_result_ok call r₁ r₂ reply
  · intro es₁ es₂ o₁ o₂ hrun₁ hrun₂ f₁ f₂ hf₁ hf₂ hc₁ hc₂ ho₁ ho₂
    rw [finished_before_any_answer hrun₁ hf₁, finished_before_any_answer hrun₂ hf₂, hc₁, hc₂,
      ho₁, ho₂]

/-- A recognition without a reply (no network) is not decided by its own request. -/
theorem failed_recognition_not_decided :
    ¬ DecidedByOwnRequest (.recogImage "student.png") (.error ⟨none⟩) :=
  not_decided_of_failed _ _

end AttendanceApp.FaceRecognition
