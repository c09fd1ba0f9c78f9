/-
  What `recogImage` makes of every reply the recogniser may give.

      if ((reply['images'] == null) && (reply['images'][0]['candidates'] == null))
        return {'status': false, 'subjectId': 'Place try again'};
      ..reply['images'][0]['candidates'][0]['confidence']..

  The guard is meant for the replies without a candidate.  Its two conditions are joined by `&&` for
  `||`, and the second one indexes what the first has found to be null, so no reply takes the early
  return: without a first candidate `recogImage` throws.

  `decision` is what the method is for, written from its purpose: the subject and whether the
  confidence is above 65%, or 'Place try again' when the reply has none.
-/
import AttendanceApp.FaceRecognition
import Mathlib.Algebra.Order.Field.Rat
import Mathlib.Tactic.Linarith

namespace AttendanceApp.FaceRecognition

open AttendanceApp.Dart

/-- The answer to a face that is not recognised. -/
def tryAgain : ScreenInfo := { status := false, subjectId := some "Place try again" }

/-- **What a reply decides**: the confidence and the subject of the first candidate if it has both,
    and otherwise that the student should try again. -/
def decision (reply : List (String × Json)) : ScreenInfo :=
  match firstCandidate (some ⟨some (.obj reply)⟩) with
  | none => tryAgain
  | some candidate =>
    match Json.lookup candidate "confidence", Json.lookup candidate "subject_id" with
    | .num confidence, .str subject =>
      { status := decide (65 / 100 < confidence), subjectId := some subject }
    | _, _ => tryAgain

/-- The candidate has a numeric confidence and a subject; or its confidence is the text of a number
    not above 65% and its subject happens to be called 'Place try again'. -/
def Legible (candidate : List (String × Json)) : Prop :=
  (∃ confidence subject, Json.lookup candidate "confidence" = .num confidence ∧
    Json.lookup candidate "subject_id" = .str subject) ∨
  ∃ text confidence, Json.lookup candidate "confidence" = .str text ∧
    Double.parse text = .ok confidence ∧ (confidence.scale 100).above 65 = false ∧
    Json.lookup candidate "subject_id" = .str "Place try again"

/-- A successful request is decided on its own reply. -/
theorem recogImage_ok (response : Option Response) (r : Response) :
    (recogImage response (.ok r)).2 = readRecognition (some r) := rfl

theorem above_percent (confidence : ℚ) :
    ((Double.finite confidence).scale 100).above 65 = decide (65 / 100 < confidence) := by
  show decide (65 < confidence * 100) = decide (65 / 100 < confidence)
  exact decide_eq_decide.mpr ⟨fun h => by linarith, fun h => by linarith⟩

/-- What is read off a first candidate is its decision exactly when the candidate is legible. -/
theorem read_candidate_iff (candidate : List (String × Json)) :
    (do
      let confidence ← Double.ofDynamic (Json.lookup candidate "confidence")
      let subjectId ← (Json.lookup candidate "subject_id").asString
      return { status := (confidence.scale 100).above 65, subjectId := subjectId }) =
      (.ok (match Json.lookup candidate "confidence", Json.lookup candidate "subject_id" with
        | .num confidence, .str subject =>
          { status := decide (65 / 100 < confidence), subjectId := some subject }
        | _, _ => tryAgain) : Except DartError ScreenInfo) ↔ Legible candidate := by
  rw [Legible]
  generalize Json.lookup candidate "confidence" = confi
  generalize Json.lookup candidate "subject_id" = subject
  cases confi with
  | num confidence =>
    rw [Double.ofDynamic]
    cases subject with
    | str s => simp [Json.asString, bind, Except.bind, pure, Except.pure, above_percent]
    | null => simp [Json.asString, bind, Except.bind, pure, Except.pure, tryAgain]
    | _ => simp [Json.asString, bind, Except.bind]
  | str text =>
    rw [Double.ofDynamic]
    cases hparse : Double.parse text with
    | error e => simp [bind, Except.bind, hparse]
    | ok confidence =>
      cases subject with
      | str s =>
        simp [Json.asString, bind, Except.bind, pure, Except.pure, tryAgain, hparse]
      | null => simp [Json.asString, bind, Except.bind, pure, Except.pure, tryAgain]
      | _ => simp [Json.asString, bind, Except.bind]
  | _ => simp [Double.ofDynamic, bind, Except.bind]

/-- **Which replies are decided**: exactly those that have a first candidate which is legible. -/
theorem recogImage_decides_iff (response : Option Response) (reply : List (String × Json)) :
    (recogImage response (.ok ⟨some (.obj reply)⟩)).2 = .ok (decision reply) ↔
      ∃ candidate, firstCandidate (some ⟨some (.obj reply)⟩) = some candidate ∧
        Legible candidate := by
  have hread := readRecognition_eq (some ⟨some (.obj reply)⟩)
  rw [recogImage_ok, decision]
  cases hfirst : firstCandidate (some ⟨some (.obj reply)⟩) with
  | none =>
    rw [hfirst] at hread
    obtain ⟨e, he⟩ := hread
    simp [he]
  | some candidate =>
    rw [hfirst] at hread
    simp only at hread ⊢
    rw [hread, read_candidate_iff]
    refine ⟨fun h => ⟨candidate, rfl, h⟩, ?_⟩
    rintro ⟨_, hsame, h⟩
    obtain rfl := Option.some.inj hsame
    exact h

/-- No face was found in the picture. -/
def noFacesFound : List (String × Json) :=
  [("Errors", .arr [.obj
    [("Message", .str "no faces found in the image"), ("ErrCode", .num 5002)]])]

/-- `recogImage` throws on it, where it should ask to try again. -/
theorem no_faces_throws :
    ¬ ∀ response reply,
      (recogImage response (.ok ⟨some (.obj reply)⟩)).2 = .ok (decision reply) := by
  intro h
  have hthrows : (recogImage none (.ok ⟨some (.obj noFacesFound)⟩)).2 = .error .noSuchMethod := rfl
  rw [h none noFacesFound] at hthrows
  cases hthrows

end AttendanceApp.FaceRecognition
