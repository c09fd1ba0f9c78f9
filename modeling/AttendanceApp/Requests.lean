/-
  What the recogniser is sent: the requests of `enrollImage` and `recogImage`.

      enrollImage(file, subjectId)   POST .../enroll      image, subject_id, gallery_name
      recogImage(file)               POST .../recognize   image, gallery_name

  dio writes the data as a JSON text, as the `content-type` asks for, and the picture stands in it
  as base64.  Requests of overlapping calls reach the service in any order, or are lost on the way.
  What the service makes of them is its own affair, and no part of the model.

  What can be said is what the texts carry (`Request.face`, `Request.shows`): read as JSON, with the
  picture read as base64, the requests that have arrived, are on their way or are lost say exactly
  what the calls were made with (`requests_carry_calls`).  Nothing is said twice, mixed up, or lost
  in the writing, whatever characters a subject has.
-/
import AttendanceApp.FaceRecognition
import AttendanceApp.Base64
import AttendanceApp.JsonText
import AttendanceApp.Delivery

namespace AttendanceApp.Requests

open AttendanceApp.Transition AttendanceApp.FaceRecognition AttendanceApp.Delivery

/-! ## The requests -/

/-- A request as dio sends it. -/
structure Request where
  url : String
  headers : List (String × String)
  body : List Char
  deriving DecidableEq

/-- `kairoAPIKey`. -/
def kairoAPIKey : String := "133f3f5b2bae4aef59f527b7c821a1c8"

/-- `kairoId`. -/
def kairoId : String := "adc74e5d"

/-- The `dio.options.headers` that both methods set. -/
def headers : List (String × String) :=
  [("content-type", "application/json"), ("app_id", kairoId), ("app_key", kairoAPIKey)]

/-- `base64Encode`. -/
def base64Encode (bytes : List UInt8) : String := String.ofList (Base64.encode bytes)

/-- The JSON text of a map of strings. -/
def jsonEncode (data : List (String × String)) : List Char :=
  JsonText.writeObject (data.map fun p => (p.1.toList, p.2.toList))

/-- What `enrollImage` posts. -/
def enrollRequest (bytes : List UInt8) (subjectId : String) : Request where
  url := "https://api.kairos.com/enroll"
  headers := headers
  body := jsonEncode [("image", base64Encode bytes), ("subject_id", subjectId),
    ("gallery_name", "Oluwakemi")]

/-- What `recogImage` posts. -/
def recogRequest (bytes : List UInt8) : Request where
  url := "https://api.kairos.com/recognize"
  headers := headers
  body := jsonEncode [("image", base64Encode bytes), ("gallery_name", "Oluwakemi")]

/-- The request of a call; `contents` is what `readAsBytesSync` reads, and without it the call
    throws before it sends anything. -/
def request (contents : Option (List UInt8)) : Call → Option Request
  | .enrollImage _ subjectId => contents.map fun bytes => enrollRequest bytes subjectId
  | .recogImage _ => contents.map recogRequest

/-! ## What a request carries -/

/-- The strings of the body, if it is the text of a map of strings. -/
def Request.data (r : Request) : Option (List (String × String)) :=
  (JsonText.readObject r.body).map fun ms =>
    ms.map fun m => (String.ofList m.1, String.ofList m.2)

/-- The string under a key of the body. -/
def Request.text (r : Request) (k : String) : Option String := r.data.bind fun data => data.lookup k

/-- The bytes of the image. -/
def Request.picture (r : Request) : Option (List UInt8) :=
  (r.text "image").bind fun image => Base64.decode image.toList

/-- The account the request is made on, and the gallery it names. -/
def Request.place (r : Request) : Option (String × String) :=
  (r.headers.lookup "app_id").bind fun appId =>
    (r.text "gallery_name").map fun name => (appId, name)

/-- A picture with the subject it is to be enrolled under. -/
structure Face where
  subject : String
  picture : List UInt8
  deriving DecidableEq

/-- The face a request to `/enroll` carries. -/
def Request.face (r : Request) : Option Face :=
  if r.url = "https://api.kairos.com/enroll" then
    (r.text "subject_id").bind fun subject => r.picture.map fun picture => ⟨subject, picture⟩
  else none

/-- The picture a request to `/recognize` carries. -/
def Request.shows (r : Request) : Option (List UInt8) :=
  if r.url = "https://api.kairos.com/recognize" then r.picture else none

/-- The gallery of the app. -/
def oluwakemi : String × String := (kairoId, "Oluwakemi")

/-- **The body is read back.** -/
theorem data_of_body {r : Request} {data : List (String × String)} (h : r.body = jsonEncode data) :
    r.data = some data := by
  have hread : JsonText.readObject (jsonEncode data) =
      some (data.map fun p => (p.1.toList, p.2.toList)) := JsonText.readObject_writeObject _
  rw [Request.data, h, hread, Option.map_some, List.map_map]
  simp [Function.comp_def]

theorem text_of_body {r : Request} {data : List (String × String)} (h : r.body = jsonEncode data)
    (k : String) : r.text k = data.lookup k := by
  rw [Request.text, data_of_body h, Option.bind_some]

theorem picture_of_text {r : Request} {bytes : List UInt8}
    (h : r.text "image" = some (base64Encode bytes)) : r.picture = some bytes := by
  rw [Request.picture, h, Option.bind_some, base64Encode, String.toList_ofList,
    Base64.decode_encode]

/-- **What an enrolment carries.** -/
theorem carries_enrollRequest (bytes : List UInt8) (subjectId : String) :
    (enrollRequest bytes subjectId).face = some ⟨subjectId, bytes⟩ ∧
      (enrollRequest bytes subjectId).shows = none ∧
      (enrollRequest bytes subjectId).place = some oluwakemi := by
  have htext := text_of_body (r := enrollRequest bytes subjectId) rfl
  have hpicture : (enrollRequest bytes subjectId).picture = some bytes :=
    picture_of_text (htext "image")
  refine ⟨?_, rfl, ?_⟩
  · show ((enrollRequest bytes subjectId).text "subject_id").bind _ = _
    rw [htext, hpicture]
    rfl
  · rw [Request.place, htext]
    rfl

/-- **What a recognition carries.** -/
theorem carries_recogRequest (bytes : List UInt8) :
    (recogRequest bytes).face = none ∧ (recogRequest bytes).shows = some bytes ∧
      (recogRequest bytes).place = some oluwakemi := by
  have htext := text_of_body (r := recogRequest bytes) rfl
  refine ⟨rfl, picture_of_text (htext "image"), ?_⟩
  rw [Request.place, htext]
  rfl

/-! ## On the way -/

/-- Where the requests are. -/
structure Wire where
  inFlight : List Request := []
  /-- Those that have reached the service, in the order in which they did. -/
  arrived : List Request := []
  lost : List Request := []

/-- A method is called, or a request on its way comes to an end. -/
inductive Event where
  /-- A call, and what its file holds. -/
  | call (made : Call) (contents : Option (List UInt8))
  /-- The request in flight with this number reaches the service. -/
  | arrives (n : Nat)
  | lost (n : Nat)

/-- What an event does to the requests. -/
def step (w : Wire) : Event → Option Wire
  | .call made contents => some { w with inFlight := w.inFlight ++ (request contents made).toList }
  | .arrives n =>
    w.inFlight[n]?.map fun r =>
      { w with inFlight := w.inFlight.eraseIdx n, arrived := w.arrived ++ [r] }
  | .lost n =>
    w.inFlight[n]?.map fun r =>
      { w with inFlight := w.inFlight.eraseIdx n, lost := w.lost ++ [r] }

/-- Calls in any order, requests that arrive in any order, and requests that never do. -/
def wire : Machine Wire Event := ⟨step⟩

/-- All requests that have been sent. -/
def Wire.requests (w : Wire) : List Request := w.arrived ++ w.inFlight ++ w.lost

/-! ## What the calls were made with -/

/-- The face an event is to enrol. -/
def Event.face : Event → Option Face
  | .call (.enrollImage _ subjectId) contents => contents.map fun bytes => ⟨subjectId, bytes⟩
  | _ => none

/-- The picture an event is to have recognised. -/
def Event.picture : Event → Option (List UInt8)
  | .call (.recogImage _) contents => contents
  | _ => none

/-- The requests an event sends. -/
def Event.sends : Event → List Request
  | .call made contents => (request contents made).toList
  | _ => []

/-- What one request says, as a list. -/
theorem carries_singleton {r : Request} {face : Option Face} {picture : Option (List UInt8)}
    (h : r.face = face ∧ r.shows = picture ∧ r.place = some oluwakemi) :
    [r].filterMap Request.face = face.toList ∧ [r].filterMap Request.shows = picture.toList ∧
      ∀ r' ∈ [r], r'.place = some oluwakemi := by
  obtain ⟨rfl, rfl, hplace⟩ := h
  refine ⟨?_, ?_, ?_⟩
  · rw [List.filterMap_eq_flatMap_toList, List.flatMap_singleton]
  · rw [List.filterMap_eq_flatMap_toList, List.flatMap_singleton]
  · intro r' hr'
    obtain rfl := List.mem_singleton.mp hr'
    exact hplace

/-- **A request says what its call was made with**, and is for the gallery of the app. -/
theorem sends_carries (e : Event) :
    e.sends.filterMap Request.face = e.face.toList ∧
      e.sends.filterMap Request.shows = e.picture.toList ∧
      ∀ r ∈ e.sends, r.place = some oluwakemi := by
  have hsilent : ∀ r ∈ ([] : List Request), r.place = some oluwakemi :=
    fun _ hr => absurd hr List.not_mem_nil
  cases e with
  | arrives n => exact ⟨rfl, rfl, hsilent⟩
  | lost n => exact ⟨rfl, rfl, hsilent⟩
  | call made contents =>
    cases contents with
    | none => cases made <;> exact ⟨rfl, rfl, hsilent⟩
    | some bytes =>
      cases made with
      | enrollImage file subjectId => exact carries_singleton (carries_enrollRequest bytes subjectId)
      | recogImage file => exact carries_singleton (carries_recogRequest bytes)

/-- What a reader finds in the requests of a run, if it finds in those of an event what was said. -/
theorem sends_say {β : Type*} {read : Request → Option β} {said : Event → Option β}
    (h : ∀ e : Event, e.sends.filterMap read = (said e).toList) (es : List Event) :
    (es.flatMap Event.sends).filterMap read = es.filterMap said := by
  rw [List.filterMap_flatMap, List.filterMap_eq_flatMap_toList]
  simp only [h]

/-! ## Nothing is lost on the way, and nothing invented -/

/-- The books of the wire: the requests are those of the calls, wherever they are. -/
def Accounted (es : List Event) (w : Wire) : Prop :=
  Balanced w.arrived w.inFlight w.lost (es.flatMap Event.sends)

/-- **The step lemma.** -/
theorem accounted_step (es : List Event) (w : Wire) (e : Event) (w' : Wire) (h : Accounted es w)
    (hstep : wire.step w e = some w') : Accounted (es ++ [e]) w' := by
  have hsent : (es ++ [e]).flatMap Event.sends = es.flatMap Event.sends ++ e.sends := by
    rw [List.flatMap_append, List.flatMap_singleton]
  unfold Accounted
  rw [hsent]
  cases e with
  | call made contents =>
    obtain rfl := Option.some.inj hstep
    exact h.sends _
  | arrives n =>
    obtain ⟨r, hn, rfl⟩ := Option.map_eq_some_iff.mp hstep
    rw [show (Event.arrives n).sends = [] from rfl, List.append_nil]
    exact h.arrives hn
  | lost n =>
    obtain ⟨r, hn, rfl⟩ := Option.map_eq_some_iff.mp hstep
    rw [show (Event.lost n).sends = [] from rfl, List.append_nil]
    exact h.loses hn

/-- **The run lemma.** -/
theorem accounted_of_run {es : List Event} {w : Wire} (hrun : wire.exec {} es = some w) :
    Accounted es w :=
  wire.exec_records accounted_step es [] {} w Balanced.nil hrun

/-- **The requests carry the calls**: in every run, with the bodies read as JSON and the images as
    base64, the requests that have reached the service, those on their way and those lost say
    together exactly the faces `enrollImage` was called with, each under its own subject and as
    often as it was called, and exactly the pictures `recogImage` was called with; and each of them
    is for the gallery of the app. -/
theorem requests_carry_calls (es : List Event) (w : Wire) (hrun : wire.exec {} es = some w) :
    Balanced (w.arrived.filterMap Request.face) (w.inFlight.filterMap Request.face)
        (w.lost.filterMap Request.face) (es.filterMap Event.face) ∧
      Balanced (w.arrived.filterMap Request.shows) (w.inFlight.filterMap Request.shows)
        (w.lost.filterMap Request.shows) (es.filterMap Event.picture) ∧
      ∀ r ∈ w.requests, r.place = some oluwakemi := by
  have h := accounted_of_run hrun
  refine ⟨?_, ?_, fun r hr => ?_⟩
  · rw [← sends_say fun e => (sends_carries e).1]
    exact h.reads Request.face
  · rw [← sends_say fun e => (sends_carries e).2.1]
    exact h.reads Request.shows
  · obtain ⟨e, -, hsent⟩ := List.mem_flatMap.mp (h.mem_iff.mp hr)
    exact (sends_carries e).2.2 r hsent

/-- Two enrolments overtake each other and a recognition is lost.  The first subject is a text that
    JSON has to escape. -/
def overtaking : List Event :=
  [.call (.enrollImage "a.png" (String.ofList ['1', '7', JsonText.quote, JsonText.backslash]))
      (some [104, 105]),
    .call (.enrollImage "b.png" "18CK000001") (some [255]), .call (.recogImage "c.png") (some [7]),
    .arrives 1, .arrives 0, .lost 0]

theorem overtaking_carries_calls :
    ∃ w, wire.exec {} overtaking = some w ∧ w.arrived.length = 2 ∧ w.lost.length = 1 ∧
      Balanced (w.arrived.filterMap Request.face) (w.inFlight.filterMap Request.face)
        (w.lost.filterMap Request.face) (overtaking.filterMap Event.face) ∧
      Balanced (w.arrived.filterMap Request.shows) (w.inFlight.filterMap Request.shows)
        (w.lost.filterMap Request.shows) (overtaking.filterMap Event.picture) ∧
      ∀ r ∈ w.requests, r.place = some oluwakemi :=
  ⟨_, rfl, rfl, rfl, requests_carry_calls overtaking _ rfl⟩

end AttendanceApp.Requests
