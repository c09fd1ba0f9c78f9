/-
  The whole system: phones, the gallery of the recogniser, and the rows of the attendance sheet.

  Any number of phones run the app.  They share the Firebase accounts, and the gallery in which the
  recogniser keeps the subjects it has enrolled; the rows the sheet has added are kept with the
  screen they were submitted from.  An enrolment that a phone has sent may reach the gallery at any
  later time, or never.  Events of different phones come in any order.

  What the recogniser answers is not in the repository.  The results assume of it that it knows no
  subjects but those of its gallery (`KnowsGallery`), and are about who can get into the sheet:

  * `rows_name_enrolled`   — a row names a subject that a phone has enrolled before;
  * `rows_name_accounts`   — and, if Upload is only pressed by the owners of the faces, the
                             upper-cased name of a registered account;
  * `rows_after_location`  — and on the phone it comes from a location check had come out well.
-/
import AttendanceApp.Phone
import AttendanceApp.Enrolments

namespace AttendanceApp.Campus

open AttendanceApp.Transition AttendanceApp.Dart AttendanceApp.PreviewScreen
open AttendanceApp.FaceRecognition (readRecognition)
open AttendanceApp.MarkAttendance (FeedbackForm)

/-- Everything there is: the phones, and what they share. -/
structure State where
  phones : Nat → Phone
  /-- The names the Firebase accounts were registered with. -/
  accounts : List String
  /-- The subjects the recogniser has enrolled. -/
  gallery : List String := []

/-- The phone, with the accounts as they are now. -/
def Phone.online (s : Phone) (accounts : List String) : Phone :=
  { s with app := { s.app with accounts := accounts } }

/-- Something happens on one phone, or an enrolment comes through. -/
inductive Event where
  | phone (i : Nat) (e : Phone.Event)
  /-- An enrolment that phone `i` has sent reaches the gallery. -/
  | enrolled (i : Nat) (enrolment : Enrolment)

/-- One event.  A phone acts on the accounts as they are now, and leaves them as it has made them.
    -/
def step (c : CaseMap) (s : State) : Event → Option State
  | .phone i e =>
    (((s.phones i).online s.accounts).step c e).map fun phone =>
      { s with phones := Function.update s.phones i phone, accounts := phone.app.accounts }
  | .enrolled i enrolment =>
    if enrolment ∈ (s.phones i).app.enrolments then
      some { s with gallery := s.gallery ++ [enrolment.subjectId] }
    else none

/-- Any number of phones, any replies, in any order. -/
def campus (c : CaseMap) : Machine State Event := ⟨step c⟩

/-- The app is started on every phone; `remembered` are the users that are still signed in. -/
def State.start (accounts : List String) (remembered : Nat → Option Nat) : State where
  phones i := .start accounts (remembered i)
  accounts := accounts

/-- The reply of the recogniser that an event brings. -/
def Event.reply : Event → Option FaceRecognition.Response
  | .phone _ (.screen _ (.recogReply _ (.ok reply))) => some reply
  | _ => none

/-- The recogniser answers with subjects of its gallery only. -/
def KnowsGallery (s : State) (e : Event) : Prop :=
  ∀ reply ∈ e.reply, ∀ info ∈ (readRecognition (some reply)).toOption,
    ∃ m ∈ s.gallery, info.subjectId = some m

instance (s : State) : DecidablePred (KnowsGallery s) := fun e =>
  inferInstanceAs (Decidable (∀ reply ∈ e.reply, ∀ info ∈ (readRecognition (some reply)).toOption,
    ∃ m ∈ s.gallery, info.subjectId = some m))

/-- The ways a step of the campus can go. -/
inductive Step (c : CaseMap) (s : State) : Event → State → Prop
  | phone (i : Nat) (e : Phone.Event) (phone : Phone)
      (hstep : ((s.phones i).online s.accounts).step c e = some phone) :
      Step c s (.phone i e)
        { s with phones := Function.update s.phones i phone, accounts := phone.app.accounts }
  | enrolled (i : Nat) (enrolment : Enrolment) (hsent : enrolment ∈ (s.phones i).app.enrolments) :
      Step c s (.enrolled i enrolment) { s with gallery := s.gallery ++ [enrolment.subjectId] }

theorem step_cases {c : CaseMap} {s s' : State} {e : Event} (h : (campus c).step s e = some s') :
    Step c s e s' := by
  cases e with
  | phone i e =>
    obtain ⟨phone, hstep, rfl⟩ := Option.map_eq_some_iff.mp h
    exact .phone i e phone hstep
  | enrolled i enrolment =>
    obtain ⟨hsent, rfl⟩ := guarded_eq_some.mp h
    exact .enrolled i enrolment hsent

/-! ## What a screen has heard -/

/-- Everything on a screen goes back to subjects of `G`: the answer its recogniser object holds,
    the POSTs on their way, and the rows. -/
structure Hears (G : String → Prop) (s : Screen) : Prop where
  field : ∀ info, readRecognition s.faceRecognition.response = .ok info →
    ∃ m, G m ∧ info.subjectId = some m
  posts : ∀ post ∈ s.posts, ∃ m, G m ∧ post.2 = ⟨some m, "1"⟩
  rows : ∀ row ∈ s.rows, ∃ m, G m ∧ row.2 = ⟨some m, "1"⟩

/-- It is enough to know more subjects. -/
theorem Hears.mono {G G' : String → Prop} {s : Screen} (h : Hears G s) (hG : ∀ m, G m → G' m) :
    Hears G' s := by
  refine ⟨fun info hinfo => ?_, fun post hpost => ?_, fun row hrow => ?_⟩
  · obtain ⟨m, hm, hsubject⟩ := h.field info hinfo
    exact ⟨m, hG m hm, hsubject⟩
  · obtain ⟨m, hm, hform⟩ := h.posts post hpost
    exact ⟨m, hG m hm, hform⟩
  · obtain ⟨m, hm, hform⟩ := h.rows row hrow
    exact ⟨m, hG m hm, hform⟩

/-- It is about the answer, the POSTs and the rows alone. -/
theorem Hears.same {G : String → Prop} {s s' : Screen} (h : Hears G s)
    (hfield : s'.faceRecognition.response = s.faceRecognition.response)
    (hposts : s'.posts = s.posts) (hrows : s'.rows = s.rows) : Hears G s' := by
  refine ⟨?_, ?_, ?_⟩
  · rw [hfield]
    exact h.field
  · rw [hposts]
    exact h.posts
  · rw [hrows]
    exact h.rows

/-- The object of a new screen holds no answer. -/
theorem hears_initial (G : String → Prop) (imageFile : String) : Hears G (.initial imageFile) := by
  refine ⟨fun info hinfo => ?_, fun _ hpost => absurd hpost List.not_mem_nil,
    fun _ hrow => absurd hrow List.not_mem_nil⟩
  obtain ⟨e, he⟩ : ∃ e, readRecognition none = .error e :=
    FaceRecognition.readRecognition_eq none
  cases he.symm.trans hinfo

/-- The field after a recognition: the answer that has just come, or what it held. -/
theorem finish_response (o : FaceRecognition.Object) (press : Nat) (file : String)
    (outcome : FaceRecognition.Outcome) :
    (o.finish press (.recogImage file) outcome).response = settle o.response outcome :=
  FaceRecognition.resume_response _ _ _

/-- **The step lemma**: a subject comes in by a reply of the recogniser, and by nothing else. -/
theorem hears_step {G : String → Prop} {s s' : Screen} {e : PreviewScreen.Event} (h : Hears G s)
    (hreply : ∀ press reply, e = .recogReply press (.ok reply) →
      ∀ info, readRecognition (some reply) = .ok info → ∃ m, G m ∧ info.subjectId = some m)
    (hstep : preview.step s e = some s') : Hears G s' := by
  cases PreviewScreen.step_cases hstep with
  | send readable =>
    cases readable with
    | true => exact h.same rfl rfl rfl
    | false => exact h.same rfl rfl rfl
  | recogReply press outcome pending =>
    -- whatever the field holds now, it names a subject of `G`
    have hfield : ∀ info, readRecognition
        (s.faceRecognition.finish press (.recogImage s.imageFile) outcome).response = .ok info →
        ∃ m, G m ∧ info.subjectId = some m := by
      rw [finish_response]
      cases outcome with
      | ok reply => exact hreply press reply rfl
      | error e => exact h.field
    rcases afterRecognition_cases s press outcome with
      ⟨e, -, heq⟩ | ⟨info, -, -, heq⟩ | ⟨info, hread, -, heq⟩
    · rw [heq]
      exact ⟨hfield, h.posts, h.rows⟩
    · rw [heq]
      exact ⟨hfield, h.posts, h.rows⟩
    · rw [heq]
      refine ⟨hfield, fun post hpost => ?_, h.rows⟩
      rcases List.mem_append.mp hpost with hpost | hpost
      · exact h.posts post hpost
      · obtain rfl := List.mem_singleton.mp hpost
        obtain ⟨m, hm, hsubject⟩ := hfield info hread
        exact ⟨m, hm, by rw [hsubject]⟩
  | sheetAccepts post sent =>
    refine ⟨h.field, fun other hother => ?_, fun row hrow => ?_⟩
    · exact h.posts other (List.mem_of_mem_erase hother)
    rcases List.mem_append.mp hrow with hrow | hrow
    · exact h.rows row hrow
    · obtain rfl := List.mem_singleton.mp hrow
      exact h.posts row sent
  | postReply press reply =>
    obtain ⟨bars, heq⟩ := hear_eq s press Submitting.isPosting (MarkAttendance.afterPost reply)
    rw [heq]
    exact h.same rfl rfl rfl
  | getReply press reply =>
    obtain ⟨bars, heq⟩ := hear_eq s press Submitting.isFollowing (MarkAttendance.afterGet reply)
    rw [heq]
    exact h.same rfl rfl rfl
  | back shown => exact h.same rfl rfl rfl
  | dispose leaving => exact h.same rfl rfl rfl

/-! ## One phone on the campus -/

section OnePhone

variable {c : CaseMap} {s phone : Phone} {accounts : List String} {e : Phone.Event}

/-- The accounts that a phone is told of do not move its routes. -/
theorem Synced.online (h : Synced s) (accounts : List String) : Synced (s.online accounts) :=
  ⟨⟨h.app.nav, h.app.ops⟩, h.given, h.stage⟩

/-- A page is mounted by the app alone. -/
theorem mounts_of_step (hstep : (s.online accounts).step c e = some phone) {page : Page}
    (h : phone.app.Mounts page) :
    s.app.Mounts page ∨ ∃ own, e = .app own ∧ Opens c (s.online accounts).app own page := by
  cases Phone.step_cases hstep with
  | app own next happ =>
    obtain ⟨r, hr, rfl⟩ := h
    rcases opens_of_step happ hr with hr | ⟨-, hopens⟩
    · exact Or.inl ⟨r, hr, rfl⟩
    · exact Or.inr ⟨own, rfl, hopens⟩
  | screen route own screen screen' htakes hscreen hpreview => exact Or.inl h

/-- The phone keeps its enrolments. -/
theorem mem_enrolments_of_step (hstep : (s.online accounts).step c e = some phone) {x : Enrolment}
    (hx : x ∈ s.app.enrolments) : x ∈ phone.app.enrolments := by
  cases Phone.step_cases hstep with
  | app own next happ =>
    obtain ⟨new, hnew, -⟩ := enrolments_grow happ
    rw [hnew]
    exact List.mem_append_left _ hx
  | screen route own screen screen' htakes hscreen hpreview => exact hx

end OnePhone

/-! ## A lecture -/

/-- Phone 1 remembers its user, whose account is there before. -/
def remembering : Nat → Option Nat := fun i => if i = 1 then some 0 else none

/-- A student signs up on phone 0 and enrols the face, and attends a lecture with phone 1. -/
def lecture : List Event :=
  [.phone 0 (.app (.press .students)), .phone 0 (.app (.press .register)),
    .phone 0 (.app (.type "17ck023456")), .phone 0 (.app (.press (.signUp true))),
    .phone 0 (.app (.complete (.createUser 2 "17ck023456") .done)),
    .phone 0 (.app (.complete (.updateProfile 2 1) .done)),
    .phone 0 (.app (.complete (.reload 2 1) .done)),
    .phone 0 (.app (.press .registerFacePicture)), .phone 0 (.app (.press .capture)),
    .phone 0 (.app (.complete (.takePicture 4 "17CK023456" (some "17ck023456"))
      (.picture "face.png"))),
    .phone 0 (.app (.press .upload)),
    .enrolled 0 ⟨"face.png", "17CK023456", some "17ck023456"⟩,
    .phone 1 (.app (.press .students)), .phone 1 (.app (.initializeFirebase 1)),
    .phone 1 (.app (.press .takeAttendance)), .phone 1 (.app (.press (.course 3))),
    .phone 1 (.app (.complete (.condition 3 "EIE 523") (.confirmed true))),
    .phone 1 (.app (.press .capture)),
    .phone 1 (.app (.complete (.captureFace 5) (.picture "now.png"))),
    .phone 1 (.screen 6 (.send true)),
    .phone 1 (.screen 6 (.recogReply 0 (.ok (FaceRecognition.answering 0.9 "17CK023456")))),
    .phone 1 (.screen 6 (.sheetAccepts 0))]

/-- It can happen. -/
theorem lecture_runs :
    ((campus .ascii).exec (.start ["17ck000001"] remembering) lecture).isSome = true := by
  decide +kernel

/-- Where the lecture ends. -/
def afterLecture : State :=
  ((campus .ascii).exec (.start ["17ck000001"] remembering) lecture).get lecture_runs

theorem exec_lecture :
    (campus .ascii).exec (.start ["17ck000001"] remembering) lecture = some afterLecture :=
  (Option.some_get lecture_runs).symm

theorem lecture_previews : ((afterLecture.phones 1).screens 6).isSome = true := by decide +kernel

/-- The screen the attendance was taken on. -/
def lectureScreen : Screen := ((afterLecture.phones 1).screens 6).get lecture_previews

theorem screens_afterLecture : (afterLecture.phones 1).screens 6 = some lectureScreen :=
  (Option.some_get lecture_previews).symm

example : lectureScreen.rows = [(0, ⟨some "17CK023456", "1"⟩)] := by decide +kernel

/-! ## Runs of the campus -/

variable {c : CaseMap}

/-- The invariant: on every phone the screens have a route each and run `preview`. -/
structure Sound (s : State) : Prop where
  synced : ∀ i, Synced (s.phones i)
  runs : ∀ i route screen, (s.phones i).screens route = some screen → Runs screen

/-- **The step lemma**: what happens on one phone is seen by its own screens only. -/
theorem sound_step (s : State) (e : Event) (s' : State) (h : Sound s)
    (hstep : (campus c).step s e = some s') : Sound s' := by
  cases step_cases hstep with
  | phone i e phone hphone =>
    have honline := (h.synced i).online s.accounts
    refine ⟨fun j => ?_, fun j route screen hscreen => ?_⟩
    · by_cases hsame : j = i
      · subst hsame
        show Synced (Function.update s.phones j phone j)
        rw [Function.update_self]
        exact synced_step honline hphone
      · show Synced (Function.update s.phones i phone j)
        rw [Function.update_of_ne hsame]
        exact h.synced j
    · have hupdated : (Function.update s.phones i phone j).screens route = some screen := hscreen
      by_cases hsame : j = i
      · subst hsame
        rw [Function.update_self] at hupdated
        exact runs_of_step honline (h.runs j) hphone hupdated
      · rw [Function.update_of_ne hsame] at hupdated
        exact h.runs j route screen hupdated
  | enrolled i enrolment hsent => exact ⟨h.synced, h.runs⟩

theorem sound_start (accounts : List String) (remembered : Nat → Option Nat) :
    Sound (.start accounts remembered) :=
  ⟨fun i => ⟨attributed_start accounts (remembered i), nofun, nofun⟩, nofun⟩

/-- **The run lemma.** -/
theorem sound_of_run {accounts : List String} {remembered : Nat → Option Nat} {es : List Event}
    {s : State} (hrun : (campus c).exec (.start accounts remembered) es = some s) : Sound s :=
  (campus c).exec_invariant sound_step es _ s (sound_start accounts remembered) hrun

/-- **The screens of the campus refine `preview`**: in every run of any number of phones, each
    PreviewImageScreen of each of them has gone through a run of the machine of a single screen,
    from the state in which its picture is opened. -/
theorem screens_run_preview (c : CaseMap) (accounts : List String) (remembered : Nat → Option Nat)
    (es : List Event) (s : State)
    (hrun : (campus c).exec (.start accounts remembered) es = some s) (i route : Nat)
    (screen : Screen) (hscreen : (s.phones i).screens route = some screen) :
    ∃ ds, preview.exec (.initial screen.imageFile) ds = some screen :=
  (sound_of_run hrun).runs i route screen hscreen

/-- The screen of the lecture. -/
theorem lecture_screen_runs_preview :
    ∃ ds, preview.exec (.initial lectureScreen.imageFile) ds = some lectureScreen :=
  screens_run_preview .ascii ["17ck000001"] remembering lecture afterLecture exec_lecture 1 6
    lectureScreen screens_afterLecture

/-! ## Nobody is marked present who has not been enrolled -/

/-- The invariant: every screen has heard of subjects of the gallery only, and these have been sent
    by phones. -/
structure Genuine (s : State) : Prop where
  sound : Sound s
  hears : ∀ i route screen, (s.phones i).screens route = some screen →
    Hears (fun m => m ∈ s.gallery) screen
  sent : ∀ m ∈ s.gallery, ∃ i, ∃ x ∈ (s.phones i).app.enrolments, x.subjectId = m

/-- **The step lemma**: a reply that names subjects of the gallery is all a screen goes by. -/
theorem genuine_step {s s' : State} {e : Event} (h : Genuine s) (hknows : KnowsGallery s e)
    (hstep : (campus c).step s e = some s') : Genuine s' := by
  refine ⟨sound_step s e s' h.sound hstep, ?_, ?_⟩
  · cases step_cases hstep with
    | phone i e phone hphone =>
      intro j route screen hscreen
      have hupdated : (Function.update s.phones i phone j).screens route = some screen := hscreen
      show Hears (fun m => m ∈ s.gallery) screen
      by_cases hsame : j = i
      · subst hsame
        rw [Function.update_self] at hupdated
        have honline := (h.sound.synced j).online s.accounts
        rcases screen_of_step honline hphone hupdated with
          ⟨imageFile, rfl, -⟩ | ⟨before, hbefore, -, heq⟩ | ⟨before, own, rfl, hbefore, hown⟩
        · exact hears_initial _ imageFile
        · rw [heq]
          exact (h.hears j route before hbefore).same rfl rfl rfl
        · refine hears_step (h.hears j route before hbefore) (fun press reply hreply => ?_) hown
          subst hreply
          intro info hinfo
          exact hknows reply rfl info (by rw [hinfo]; rfl)
      · rw [Function.update_of_ne hsame] at hupdated
        exact h.hears j route screen hupdated
    | enrolled i enrolment hsent =>
      intro j route screen hscreen
      exact (h.hears j route screen hscreen).mono fun m hm => List.mem_append_left _ hm
  · cases step_cases hstep with
    | phone i e phone hphone =>
      intro m hm
      obtain ⟨j, x, hx, hsubject⟩ := h.sent m hm
      refine ⟨j, x, ?_, hsubject⟩
      show x ∈ (Function.update s.phones i phone j).app.enrolments
      by_cases hsame : j = i
      · subst hsame
        rw [Function.update_self]
        exact mem_enrolments_of_step hphone hx
      · rw [Function.update_of_ne hsame]
        exact hx
    | enrolled i enrolment hsent =>
      intro m hm
      rcases List.mem_append.mp hm with hm | hm
      · exact h.sent m hm
      · exact ⟨i, enrolment, hsent, (List.mem_singleton.mp hm).symm⟩

/-- **The run lemma.** -/
theorem genuine_of_run {accounts : List String} {remembered : Nat → Option Nat} {es : List Event}
    {s : State} (hrun : (campus c).exec (.start accounts remembered) es = some s)
    (hknows : (campus c).Along KnowsGallery (.start accounts remembered) es) : Genuine s := by
  have halways := (campus c).always_of_along (I := fun _ => True) (P := Genuine) (C := KnowsGallery)
    (fun _ _ _ _ _ => trivial) (fun _ _ _ _ => genuine_step) es _ trivial
    ⟨sound_start accounts remembered, nofun, nofun⟩ hknows
  exact halways.last (campus c) hrun

/-- **Nobody is marked present who has not been enrolled**: however many phones there are, and
    whatever order their events come in, as long as the recogniser only answers with subjects of its
    gallery every row of the sheet is an attendance `'1'` of a subject that some phone has sent an
    enrolment of. -/
theorem rows_name_enrolled (c : CaseMap) (accounts : List String) (remembered : Nat → Option Nat)
    (es : List Event) (s : State)
    (hrun : (campus c).exec (.start accounts remembered) es = some s)
    (hknows : (campus c).Along KnowsGallery (.start accounts remembered) es) (i route : Nat)
    (screen : Screen) (hscreen : (s.phones i).screens route = some screen) :
    ∀ row ∈ screen.rows, ∃ m j, row.2 = ⟨some m, "1"⟩ ∧
      ∃ x ∈ (s.phones j).app.enrolments, x.subjectId = m := by
  intro row hrow
  have hgenuine := genuine_of_run hrun hknows
  obtain ⟨m, hm, hform⟩ := (hgenuine.hears i route screen hscreen).rows row hrow
  obtain ⟨j, x, hx, hsubject⟩ := hgenuine.sent m hm
  exact ⟨m, j, hform, x, hx, hsubject⟩

/-- The row of the lecture names the subject that phone 0 enrolled. -/
theorem lecture_rows_name_enrolled :
    lectureScreen.rows ≠ [] ∧
      ∀ row ∈ lectureScreen.rows, ∃ m j, row.2 = ⟨some m, "1"⟩ ∧
        ∃ x ∈ (afterLecture.phones j).app.enrolments, x.subjectId = m :=
  ⟨List.cons_ne_nil _ _, rows_name_enrolled .ascii ["17ck000001"] remembering lecture afterLecture
    exec_lecture (by decide +kernel) 1 6 lectureScreen screens_afterLecture⟩

/-! ## Rows bear the names of accounts -/

/-- Upload is only pressed by the owner of the face (`UploadsOwn`), on every phone. -/
def OwnUploads (c : CaseMap) (s : State) : Event → Prop
  | .phone i (.app e) => UploadsOwn c ((s.phones i).online s.accounts).app e
  | _ => True

instance (s : State) : DecidablePred (OwnUploads c s)
  | .phone i (.app e) =>
    inferInstanceAs (Decidable (UploadsOwn c ((s.phones i).online s.accounts).app e))
  | .phone _ (.screen _ _) => isTrue trivial
  | .enrolled _ _ => isTrue trivial

/-- The invariant: what the phones have enrolled is their owners' upper-cased names. -/
structure Owners (c : CaseMap) (s : State) : Prop where
  carried : ∀ i, Carried c (s.phones i).app
  faces : ∀ i, OwnFaces c (s.phones i).app
  registered : ∀ i, ∀ x ∈ (s.phones i).app.enrolments, ∀ name, x.owner = some name →
    name ∈ s.accounts

/-- A registered name is that of an account. -/
theorem registeredName_mem {s : App} {name : String} (h : s.registeredName = some name) :
    name ∈ s.accounts := by
  obtain ⟨user, -, hname⟩ := Option.bind_eq_some_iff.mp h
  exact List.mem_of_getElem? hname

/-- **The step lemma**: what is enrolled by its owner carries the name of an account. -/
theorem owners_step {s s' : State} {e : Event} (h : Owners c s) (howns : OwnUploads c s e)
    (hstep : (campus c).step s e = some s') : Owners c s' := by
  cases step_cases hstep with
  | enrolled i enrolment hsent => exact ⟨h.carried, h.faces, h.registered⟩
  | phone i e phone hphone =>
    have hcarried : Carried c ((s.phones i).online s.accounts).app :=
      ⟨(h.carried i).pages, (h.carried i).ops⟩
    -- the phone that takes the step
    have hown : Carried c phone.app ∧ OwnFaces c phone.app ∧ s.accounts <+: phone.app.accounts ∧
        ∀ x ∈ phone.app.enrolments, ∀ name, x.owner = some name → name ∈ phone.app.accounts := by
      cases Phone.step_cases hphone with
      | app own next happ =>
        have hmore := accounts_of_step happ
        refine ⟨carried_step hcarried happ,
          (ownFaces_step _ own next hcarried (h.faces i) happ).mpr howns, hmore, ?_⟩
        obtain ⟨new, hnew, howner⟩ := enrolments_grow happ
        intro x hx name hname
        rw [hnew] at hx
        rcases List.mem_append.mp hx with hx | hx
        · exact hmore.subset (h.registered i x hx name hname)
        · rw [howner x hx] at hname
          exact hmore.subset (registeredName_mem hname)
      | screen route own screen screen' htakes hscreen hpreview =>
        exact ⟨hcarried, h.faces i, List.prefix_refl _, h.registered i⟩
    obtain ⟨hcarried', hfaces', hmore, hregistered'⟩ := hown
    refine ⟨fun j => ?_, fun j => ?_, fun j => ?_⟩
    · show Carried c (Function.update s.phones i phone j).app
      by_cases hsame : j = i
      · subst hsame
        rw [Function.update_self]
        exact hcarried'
      · rw [Function.update_of_ne hsame]
        exact h.carried j
    · show OwnFaces c (Function.update s.phones i phone j).app
      by_cases hsame : j = i
      · subst hsame
        rw [Function.update_self]
        exact hfaces'
      · rw [Function.update_of_ne hsame]
        exact h.faces j
    · show ∀ x ∈ (Function.update s.phones i phone j).app.enrolments, ∀ name, x.owner = some name →
        name ∈ phone.app.accounts
      by_cases hsame : j = i
      · subst hsame
        rw [Function.update_self]
        exact hregistered'
      · rw [Function.update_of_ne hsame]
        exact fun x hx name hname => hmore.subset (h.registered j x hx name hname)

theorem owners_start (accounts : List String) (remembered : Nat → Option Nat) :
    Owners c (.start accounts remembered) where
  carried _ := ⟨fun r hr => by cases List.mem_singleton.mp hr; trivial, nofun⟩
  faces _ := nofun
  registered _ := nofun

/-- **Attendance is taken of students**: if moreover Upload is only pressed by the owners of the
    faces, every row of the sheet bears the upper-cased name that an account was registered with,
    and it is not empty. -/
theorem rows_name_accounts (c : CaseMap) (accounts : List String) (remembered : Nat → Option Nat)
    (es : List Event) (s : State)
    (hrun : (campus c).exec (.start accounts remembered) es = some s)
    (hknows : (campus c).Along KnowsGallery (.start accounts remembered) es)
    (howns : (campus c).Along (OwnUploads c) (.start accounts remembered) es) (i route : Nat)
    (screen : Screen) (hscreen : (s.phones i).screens route = some screen) :
    ∀ row ∈ screen.rows, ∃ name ∈ s.accounts,
      row.2 = ⟨some (c.toUpperCase name), "1"⟩ ∧ c.toUpperCase name ≠ "" := by
  intro row hrow
  have howners : Owners c s := by
    have halways := (campus c).always_of_along (I := fun _ => True) (P := Owners c)
      (C := OwnUploads c) (fun _ _ _ _ _ => trivial) (fun _ _ _ _ => owners_step) es _ trivial
      (owners_start accounts remembered) howns
    exact halways.last (campus c) hrun
  have hgenuine := genuine_of_run hrun hknows
  obtain ⟨m, hm, hform⟩ := (hgenuine.hears i route screen hscreen).rows row hrow
  obtain ⟨j, x, hx, rfl⟩ := hgenuine.sent m hm
  obtain ⟨hne, name, howner, hsubject⟩ := howners.faces j x hx
  rw [hsubject] at hform hne
  exact ⟨name, howners.registered j x hx name howner, hform, hne⟩

/-- The row of the lecture names the account that phone 0 signed up. -/
theorem lecture_rows_name_accounts :
    lectureScreen.rows ≠ [] ∧
      ∀ row ∈ lectureScreen.rows, ∃ name ∈ afterLecture.accounts,
        row.2 = ⟨some (CaseMap.ascii.toUpperCase name), "1"⟩ ∧
          CaseMap.ascii.toUpperCase name ≠ "" :=
  ⟨List.cons_ne_nil _ _, rows_name_accounts .ascii ["17ck000001"] remembering lecture afterLecture
    exec_lecture (by decide +kernel) (by decide +kernel) 1 6 lectureScreen screens_afterLecture⟩

/-! ## Nobody is marked present from elsewhere -/

/-- The phone has a screen for the picture, or is about to have one. -/
def Phone.Previews (s : Phone) (imageFile : String) : Prop :=
  (∃ route screen, s.screens route = some screen ∧ screen.imageFile = imageFile) ∨
    s.app.Mounts (.previewImageScreen imageFile)

/-- A picture is opened by a capture of CameraScreen. -/
theorem previews_of_step {s phone : Phone} {accounts : List String} {e : Phone.Event}
    (h : Synced s) (hstep : (s.online accounts).step c e = some phone) {imageFile : String}
    (hpreviews : phone.Previews imageFile) :
    s.Previews imageFile ∨ ∃ route course,
      e = .app (.complete (.captureFace route) (.picture imageFile)) ∧
        s.app.Mounts (.cameraScreen course) := by
  have hmounts : phone.app.Mounts (.previewImageScreen imageFile) → s.Previews imageFile ∨
      ∃ route course, e = .app (.complete (.captureFace route) (.picture imageFile)) ∧
        s.app.Mounts (.cameraScreen course) := by
    intro hmounts
    rcases mounts_of_step hstep hmounts with hbefore | ⟨own, rfl, hopens⟩
    · exact Or.inl (Or.inr hbefore)
    · obtain ⟨route, course, rfl, hcamera⟩ :=
        opens_previewImageScreen (h.online accounts).app hopens
      exact Or.inr ⟨route, course, rfl, hcamera⟩
  rcases hpreviews with ⟨route, screen, hscreen, rfl⟩ | hmounted
  · rcases screen_of_step (h.online accounts) hstep hscreen with
      ⟨imageFile, rfl, hnew⟩ | ⟨before, hbefore, -, heq⟩ | ⟨before, own, -, hbefore, hown⟩
    · exact hmounts hnew
    · exact Or.inl (Or.inl ⟨route, before, hbefore, by rw [heq]⟩)
    · exact Or.inl (Or.inl ⟨route, before, hbefore, (imageFile_of_step hown).symm⟩)
  · exact hmounts hmounted

/-- A step of the campus, seen on phone `i`. -/
theorem phone_of_step {s s' : State} {e : Event} (hstep : (campus c).step s e = some s')
    (i : Nat) : s'.phones i = s.phones i ∨
      ∃ own, e = .phone i own ∧
        ((s.phones i).online s.accounts).step c own = some (s'.phones i) := by
  cases step_cases hstep with
  | enrolled j enrolment hsent => exact Or.inl rfl
  | phone j own phone hphone =>
    show Function.update s.phones j phone i = s.phones i ∨ ∃ own', _ ∧
      _ = some (Function.update s.phones j phone i)
    by_cases hsame : i = j
    · subst hsame
      rw [Function.update_self]
      exact Or.inr ⟨own, rfl, hphone⟩
    · rw [Function.update_of_ne hsame]
      exact Or.inl rfl

/-- Where a picture on phone `i` comes from. -/
theorem captured_of_previews {accounts : List String} {remembered : Nat → Option Nat}
    {es : List Event} {s : State} {i : Nat} {imageFile : String}
    (hrun : (campus c).exec (.start accounts remembered) es = some s)
    (h : (s.phones i).Previews imageFile) :
    ∃ pre route post m course, es = pre ++
        .phone i (.app (.complete (.captureFace route) (.picture imageFile))) :: post ∧
      (campus c).exec (.start accounts remembered) pre = some m ∧
      (m.phones i).app.Mounts (.cameraScreen course) := by
  have hcame := (campus c).exec_came_from (I := Sound)
    (P := fun s => (s.phones i).Previews imageFile)
    (Q := fun m e _ => ∃ route course,
      e = .phone i (.app (.complete (.captureFace route) (.picture imageFile))) ∧
        (m.phones i).app.Mounts (.cameraScreen course)) sound_step
    (fun m e m' hm hstep hpreviews => by
      rcases phone_of_step hstep i with hsame | ⟨own, rfl, hphone⟩
      · rw [hsame] at hpreviews
        exact Or.inl hpreviews
      · rcases previews_of_step (hm.synced i) hphone hpreviews with
          hbefore | ⟨route, course, rfl, hc⟩
        · exact Or.inl hbefore
        · exact Or.inr ⟨route, course, rfl, hc⟩) es _ s (sound_start accounts remembered) hrun h
  rcases hcame with hstart | ⟨pre, e, post, m, _, hsplit, hpre, -, route, course, rfl, hcamera⟩
  · rcases hstart with ⟨route, screen, hscreen, -⟩ | ⟨r, hr, hpage⟩
    · cases hscreen
    · obtain rfl := List.mem_singleton.mp hr
      cases hpage
  · exact ⟨pre, route, post, m, course, hsplit, hpre, hcamera⟩

/-- Where a CameraScreen on phone `i` comes from. -/
theorem confirmed_of_camera {accounts : List String} {remembered : Nat → Option Nat}
    {es : List Event} {s : State} {i : Nat} {course : String}
    (hrun : (campus c).exec (.start accounts remembered) es = some s)
    (h : (s.phones i).app.Mounts (.cameraScreen course)) :
    ∃ pre route post, es = pre ++
      .phone i (.app (.complete (.condition route course) (.confirmed true))) :: post := by
  have hcame := (campus c).exec_came_from (I := fun _ => True)
    (P := fun s => (s.phones i).app.Mounts (.cameraScreen course))
    (Q := fun _ e _ => ∃ route,
      e = .phone i (.app (.complete (.condition route course) (.confirmed true))))
    (fun _ _ _ _ _ => trivial)
    (fun m e m' _ hstep hcamera => by
      rcases phone_of_step hstep i with hsame | ⟨own, rfl, hphone⟩
      · rw [hsame] at hcamera
        exact Or.inl hcamera
      · rcases mounts_of_step hphone hcamera with hbefore | ⟨e, rfl, hopens⟩
        · exact Or.inl hbefore
        · obtain ⟨route, rfl⟩ := opens_cameraScreen hopens
          exact Or.inr ⟨route, rfl⟩) es _ s trivial hrun h
  rcases hcame with ⟨r, hr, hpage⟩ | ⟨pre, e, post, _, _, hsplit, -, -, route, rfl⟩
  · obtain rfl := List.mem_singleton.mp hr
    cases hpage
  · exact ⟨pre, route, post, hsplit⟩

/-- **Nobody is marked present from elsewhere**: whatever the other phones do, a picture that is
    sent from a phone, and so every row submitted from it, was captured on that phone after a
    location check on it had come out well. -/
theorem rows_after_location (c : CaseMap) (accounts : List String) (remembered : Nat → Option Nat)
    (es : List Event) (s : State)
    (hrun : (campus c).exec (.start accounts remembered) es = some s) (i route : Nat)
    (screen : Screen) (hscreen : (s.phones i).screens route = some screen) :
    ∃ pre mid post r course r', es = pre ++
      .phone i (.app (.complete (.condition r course) (.confirmed true))) :: (mid ++
        .phone i (.app (.complete (.captureFace r') (.picture screen.imageFile))) :: post) := by
  obtain ⟨before, r', post, m, course, rfl, hbefore, hcamera⟩ :=
    captured_of_previews hrun (Or.inl ⟨route, screen, hscreen, rfl⟩)
  obtain ⟨pre, r, mid, rfl⟩ := confirmed_of_camera hbefore hcamera
  exact ⟨pre, mid, post, r, course, r', by rw [List.append_assoc, List.cons_append]⟩

/-- The row of the lecture comes after the check of phone 1. -/
theorem lecture_rows_after_location :
    ∃ pre mid post r course r', lecture = pre ++
      .phone 1 (.app (.complete (.condition r course) (.confirmed true))) :: (mid ++
        .phone 1 (.app (.complete (.captureFace r') (.picture lectureScreen.imageFile))) ::
          post) :=
  rows_after_location .ascii ["17ck000001"] remembering lecture afterLecture exec_lecture 1 6
    lectureScreen screens_afterLecture

end AttendanceApp.Campus
