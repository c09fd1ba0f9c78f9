/-
  The name a face is enrolled under.

  The matric number is not read from the account.  ProfilePage is handed one by the handler that
  opens it — `''` by a sign-in, the upper-cased text of the name field by a sign-up — and hands it
  on to RegisterCamera, which hands it on to PageImageScreen, whose Upload button enrols under it
  whoever is signed in by then.

  The invariant (`Carried`) is that all of these pages, and the captures in flight, still have the
  matric number their flow began with.
-/
import AttendanceApp.App

namespace AttendanceApp

open Transition Dart Navigator

variable {c : CaseMap}

/-- Every enrolment is made under the upper-cased name the account signed in at that moment was
    registered with. -/
def OwnFaces (c : CaseMap) (s : App) : Prop :=
  ∀ e ∈ s.enrolments, e.subjectId ≠ "" ∧
    ∃ name, e.owner = some name ∧ e.subjectId = c.toUpperCase name

/-- The text of the name field that the matric number of a page was made of. -/
def Page.typed : Page → Option String
  | .profilePage _ _ typed => typed
  | .registerCamera _ typed => typed
  | .pageImageScreen _ _ _ typed => typed
  | _ => none

/-- A text was typed, and it reads, but for the case, as the name of the owner. -/
def OwnName (c : CaseMap) : (typed owner : Option String) → Prop
  | some text, some name => text ≠ "" ∧ c.toUpperCase text = c.toUpperCase name
  | _, _ => False

/-- Upload is pressed only where the flow began with a sign-up, and the text in its name field, when
    the sign-up resumed, was the name of the account that is signed in now. -/
def UploadsOwn (c : CaseMap) (s : App) (e : Event) : Prop :=
  e = .press .upload → ∀ r ∈ s.nav.stack.head?, OwnName c r.page.typed s.registeredName

instance : ∀ typed owner : Option String, Decidable (OwnName c typed owner)
  | some text, some name =>
    inferInstanceAs (Decidable (text ≠ "" ∧ c.toUpperCase text = c.toUpperCase name))
  | some _, none => isFalse id
  | none, _ => isFalse id

instance (s : App) : DecidablePred (UploadsOwn c s) := fun e =>
  inferInstanceAs (Decidable (e = .press .upload →
    ∀ r ∈ s.nav.stack.head?, OwnName c r.page.typed s.registeredName))

/-- The matric number that pages hand on. -/
def matnumberOf (c : CaseMap) (typed : Option String) : String := typed.elim "" c.toUpperCase

/-- Handing a matric number on does not change it, though it is upper-cased again. -/
theorem toUpperCase_matnumberOf (typed : Option String) :
    c.toUpperCase (matnumberOf c typed) = matnumberOf c typed := by
  cases typed with
  | none => exact (c.eq_empty "").mpr rfl
  | some text => exact c.idem text

/-- What the enrolment of a page amounts to. -/
theorem ownName_iff (typed owner : Option String) :
    (matnumberOf c typed ≠ "" ∧
        ∃ name, owner = some name ∧ matnumberOf c typed = c.toUpperCase name) ↔
      OwnName c typed owner := by
  cases typed with
  | none => exact ⟨fun h => absurd rfl h.1, False.elim⟩
  | some text =>
    have hempty : c.toUpperCase text ≠ "" ↔ text ≠ "" := not_congr (c.eq_empty text)
    cases owner with
    | none =>
      refine ⟨?_, False.elim⟩
      rintro ⟨-, name, hname, -⟩
      cases hname
    | some name =>
      constructor
      · rintro ⟨hne, name', hname, heq⟩
        obtain rfl := Option.some.inj hname
        exact ⟨hempty.mp hne, heq⟩
      · rintro ⟨hne, heq⟩
        exact ⟨hempty.mpr hne, name, rfl, heq⟩

/-- The matric number of a page is the one its flow began with. -/
def Page.Carries (c : CaseMap) : Page → Prop
  | .profilePage _ matnumber typed => matnumber = matnumberOf c typed
  | .registerCamera matnumber typed => matnumber = matnumberOf c typed
  | .pageImageScreen matricNumber _ _ typed => matricNumber = matnumberOf c typed
  | _ => True

/-- And so is that of a capture in flight, which hands it to the page it opens. -/
def Op.Carries (c : CaseMap) : Op → Prop
  | .takePicture _ matnumber typed => matnumber = matnumberOf c typed
  | _ => True

/-- The invariant of the flow. -/
structure Carried (c : CaseMap) (s : App) : Prop where
  pages : s.nav.All (Page.Carries c)
  ops : ∀ op ∈ s.inFlight, op.Carries c

/-- A press hands the matric number on. -/
theorem leads_carries {page page' : Page} (h : Leads c page page') (hpage : page.Carries c) :
    page'.Carries c := by
  cases h with
  | registerFacePicture user matnumber typed =>
    have hmatnumber : matnumber = matnumberOf c typed := hpage
    show c.toUpperCase matnumber = matnumberOf c typed
    rw [hmatnumber, toUpperCase_matnumberOf]
  | _ => trivial

/-- A press that starts a capture hands it on as well. -/
theorem starts_carries {route : Nat} {page : Page} {button : Button} {op : Op}
    (h : Starts route page button op) (hpage : page.Carries c) : op.Carries c := by
  cases h with
  | capture matnumber typed => exact hpage
  | _ => trivial

theorem carried_resume {s : App} (h : Carried c s) (route : Nat) {calls : List (Nav Page)}
    (hcalls : OpenOnly (Page.Carries c) calls) : Carried c (s.resume route calls) :=
  ⟨all_resume h.pages hcalls, by rw [resume_inFlight]; exact h.ops⟩

/-- **The step lemma** of the hand-over. -/
theorem carried_step {s s' : App} {e : Event} (h : Carried c s)
    (hstep : (app c).step s e = some s') : Carried c s' := by
  cases step_cases hstep with
  | press button top rest reaction hstack hpress =>
    have htop : top.page.Carries c := h.pages top (hstack ▸ List.mem_cons_self)
    obtain ⟨hleads, hstarts⟩ := press_cases hpress
    refine ⟨h.pages.navigateAll fun call hcall page hopens =>
      leads_carries (hleads call hcall page hopens) htop, fun op hop => ?_⟩
    rcases List.mem_append.mp hop with hop | hop
    · exact h.ops op hop
    · rcases hstarts with hnil | ⟨op', hone, hstarted⟩
      · rw [hnil] at hop
        cases hop
      · rw [hone] at hop
        obtain rfl := List.mem_singleton.mp hop
        exact starts_carries hstarted htop
  | back => exact ⟨h.pages.navigateAll openOnly_pop, h.ops⟩
  | type _ _ => exact ⟨h.pages, h.ops⟩
  | dispose _ => exact ⟨h.pages, h.ops⟩
  | nobody _ _ => exact h
  | remembered route user huser => exact ⟨h.pages.navigateAll (openOnly_opens rfl rfl), h.ops⟩
  | complete op reply _ hop hc =>
    have hrest : Carried c { s with inFlight := s.inFlight.erase op } :=
      ⟨h.pages, fun op' hop' => h.ops op' (List.mem_of_mem_erase hop')⟩
    have hgrow : ∀ op', op'.Carries c →
        ∀ op'' ∈ s.inFlight.erase op ++ [op'], op''.Carries c := by
      intro op' hop' op'' hop''
      rcases List.mem_append.mp hop'' with hop'' | hop''
      · exact hrest.ops op'' hop''
      · obtain rfl := List.mem_singleton.mp hop''
        exact hop'
    cases hc with
    | failed _ _ => exact hrest
    | signedIn route user =>
      refine carried_resume ?_ _ (openOnly_opens rfl rfl)
      exact ⟨hrest.pages, hrest.ops⟩
    | created route name => exact ⟨h.pages, hgrow _ trivial⟩
    | updated route user => exact ⟨h.pages, hgrow _ trivial⟩
    -- the name field is read when the sign-up resumes, and is what the page goes back to
    | notUpdated route user => exact carried_resume hrest _ (openOnly_opens rfl rfl)
    | notReloaded route user => exact carried_resume hrest _ (openOnly_opens rfl rfl)
    | reloaded route user =>
      exact carried_resume hrest _ (openOnly_afterRegister fun _ _ => rfl)
    | signedOut route =>
      refine carried_resume ?_ _ (openOnly_opens rfl trivial)
      exact ⟨hrest.pages, hrest.ops⟩
    | taken route matnumber typed path _ =>
      have hmatnumber : matnumber = matnumberOf c typed := h.ops _ hop
      refine carried_resume ?_ _ (openOnly_opens rfl hmatnumber)
      exact ⟨hrest.pages, hrest.ops⟩
    | captured route path => exact carried_resume hrest _ (openOnly_opens rfl trivial)
    | located route course yes =>
      exact carried_resume hrest _ (openOnly_afterCondition (fun _ => trivial) trivial)
    | enrolled route _ _ => exact carried_resume hrest _ openOnly_pop

/-- A completion enrols nothing. -/
theorem complete_enrolments {s s' : App} {op : Op} {reply : Reply} (h : Complete c s op reply s') :
    s'.enrolments = s.enrolments := by
  cases h <;> first
    | rfl
    | exact resume_enrolments _ _ _

/-- No other button enrols. -/
theorem react_enrolments {s : App} {name : String} {route : Nat} {page : Page} {button : Button}
    {reaction : Reaction} (hpress : page.press c name route button = some reaction)
    (hbutton : button ≠ .upload) : (s.react reaction).enrolments = s.enrolments := by
  show s.enrolments ++ reaction.starts.filterMap s.enrolment = s.enrolments
  rcases (press_cases hpress).2 with hnil | ⟨op, hone, hstarted⟩
  · rw [hnil, List.filterMap_nil, List.append_nil]
  · have hnone : s.enrolment op = none := by
      cases hstarted with
      | upload _ _ _ _ => exact absurd rfl hbutton
      | _ => rfl
    rw [hone, List.filterMap_cons_none hnone, List.filterMap_nil, List.append_nil]

/-- Faces are enrolled by the Upload button of the page on top. -/
theorem enrolments_of_step {s s' : App} {e : Event} (hstep : (app c).step s e = some s') :
    s'.enrolments = s.enrolments ∨
      ∃ top matricNumber imageFile session typed, top ∈ s.nav.stack ∧
        top.page = .pageImageScreen matricNumber imageFile session typed ∧
        s'.enrolments = s.enrolments ++ [⟨imageFile, matricNumber, s.registeredName⟩] := by
  cases step_cases hstep with
  | press button top rest reaction hstack hpress =>
    by_cases hbutton : button = .upload
    · obtain rfl := hbutton
      obtain ⟨matricNumber, imageFile, session, typed, hpage, rfl⟩ := press_upload hpress
      have htop : top ∈ s.nav.stack := hstack ▸ List.mem_cons_self
      exact Or.inr ⟨top, matricNumber, imageFile, session, typed, htop, hpage, rfl⟩
    · exact Or.inl (react_enrolments hpress hbutton)
  | complete op reply _ hop hc =>
    have hsame := complete_enrolments hc
    exact Or.inl hsame
  | _ => exact Or.inl rfl

/-- Enrolments are only added, for whoever is signed in. -/
theorem enrolments_grow {s s' : App} {e : Event} (hstep : (app c).step s e = some s') :
    ∃ new, s'.enrolments = s.enrolments ++ new ∧ ∀ x ∈ new, x.owner = s.registeredName := by
  rcases enrolments_of_step hstep with hsame | ⟨top, matricNumber, imageFile, session, typed, -, -,
    hmore⟩
  · refine ⟨[], ?_, fun _ hx => absurd hx List.not_mem_nil⟩
    rw [hsame, List.append_nil]
  · refine ⟨_, hmore, fun x hx => ?_⟩
    obtain rfl := List.mem_singleton.mp hx
    rfl

/-- **The step lemma** of enrolling. -/
theorem ownFaces_step (s : App) (e : Event) (s' : App) (hcarried : Carried c s) (h : OwnFaces c s)
    (hstep : (app c).step s e = some s') : OwnFaces c s' ↔ UploadsOwn c s e := by
  cases step_cases hstep with
  | press button top rest reaction hstack hpress =>
    by_cases hbutton : button = .upload
    · obtain rfl := hbutton
      obtain ⟨matricNumber, imageFile, session, typed, hpage, rfl⟩ := press_upload hpress
      have htop : top.page.Carries c := hcarried.pages top (hstack ▸ List.mem_cons_self)
      have hmatnumber : matricNumber = matnumberOf c typed := by rw [hpage] at htop; exact htop
      have htyped : top.page.typed = typed := by rw [hpage]; rfl
      have huploads : UploadsOwn c s (.press .upload) ↔
          ∀ r ∈ (top :: rest).head?, OwnName c r.page.typed s.registeredName := by
        rw [UploadsOwn, hstack]
        exact ⟨fun hall => hall rfl, fun hall _ => hall⟩
      rw [huploads]
      calc OwnFaces c (s.react { starts := [.enrollImage top.id imageFile matricNumber] })
          ↔ (matnumberOf c typed ≠ "" ∧ ∃ name, s.registeredName = some name ∧
              matnumberOf c typed = c.toUpperCase name) := by
            constructor
            · intro hall
              rw [← hmatnumber]
              exact hall ⟨imageFile, matricNumber, s.registeredName⟩
                (List.mem_append_right _ List.mem_cons_self)
            · intro hown e' he'
              rcases List.mem_append.mp he' with he' | he'
              · exact h e' he'
              · obtain rfl := List.mem_singleton.mp he'
                rw [← hmatnumber] at hown
                exact hown
        _ ↔ OwnName c typed s.registeredName := ownName_iff typed s.registeredName
        _ ↔ ∀ r ∈ (top :: rest).head?, OwnName c r.page.typed s.registeredName := by
            rw [← htyped]
            exact ⟨fun hown r hr => Option.some.inj hr ▸ hown, fun hall => hall top rfl⟩
    · rw [OwnFaces, react_enrolments hpress hbutton]
      exact ⟨fun _ hupload => absurd (Event.press.inj hupload) hbutton, fun _ => h⟩
  | back => exact ⟨fun _ => nofun, fun _ => h⟩
  | type _ _ => exact ⟨fun _ => nofun, fun _ => h⟩
  | dispose _ => exact ⟨fun _ => nofun, fun _ => h⟩
  | nobody _ _ => exact ⟨fun _ => nofun, fun _ => h⟩
  | remembered _ _ _ => exact ⟨fun _ => nofun, fun _ => h⟩
  | complete op reply _ _ hc =>
    have hsame := complete_enrolments hc
    refine ⟨fun _ => nofun, fun _ => ?_⟩
    rw [OwnFaces, hsame]
    exact h

/-- **When faces are enrolled under their owner's matric number**: in every run of the app, exactly
    when Upload is pressed only in flows that began with the sign-up of the account that is signed
    in, with its name still in the field when the sign-up resumed. -/
theorem own_faces_iff (c : CaseMap) (accounts : List String) (currentUser : Option Nat)
    (es : List Event) (s : App) (hrun : (app c).exec (.start accounts currentUser) es = some s) :
    (app c).Always (OwnFaces c) (.start accounts currentUser) es ↔
      (app c).Along (UploadsOwn c) (.start accounts currentUser) es :=
  (app c).always_iff_along (fun _ _ _ => carried_step) ownFaces_step es _ s
    ⟨fun r hr => by cases List.mem_singleton.mp hr; trivial,
      fun _ hop => absurd hop List.not_mem_nil⟩
    (fun _ he => absurd he List.not_mem_nil) hrun

/-- A student signs up and enrols the face right away. -/
theorem enrolled_after_sign_up :
    (app .ascii).Always (OwnFaces .ascii) (.start [] none)
      [.press .students, .press .register, .type "17ck023456", .press (.signUp true),
        .complete (.createUser 2 "17ck023456") .done, .complete (.updateProfile 2 0) .done,
        .complete (.reload 2 0) .done, .press .registerFacePicture, .press .capture,
        .complete (.takePicture 4 "17CK023456" (some "17ck023456")) (.picture "first.png"),
        .press .upload] := by
  have hruns : ((app .ascii).exec (.start [] none)
      [.press .students, .press .register, .type "17ck023456", .press (.signUp true),
        .complete (.createUser 2 "17ck023456") .done, .complete (.updateProfile 2 0) .done,
        .complete (.reload 2 0) .done, .press .registerFacePicture, .press .capture,
        .complete (.takePicture 4 "17CK023456" (some "17ck023456")) (.picture "first.png"),
        .press .upload]).isSome := by decide +kernel
  exact (own_faces_iff .ascii [] none _ _ (Option.some_get hruns).symm).mpr (by decide +kernel)

/-- A remembered user enrols a face under the empty matric number. -/
theorem enrolled_under_no_name :
    ¬ ∀ (c : CaseMap) (accounts : List String) (currentUser : Option Nat) (es : List Event)
      (s : App), (app c).exec (.start accounts currentUser) es = some s → OwnFaces c s := by
  intro h
  have hown := h .ascii ["17CK023456"] (some 0)
    [.press .students, .initializeFirebase 1, .press .registerFacePicture, .press .capture,
      .complete (.takePicture 3 "" none) (.picture "first.png"), .press .upload] _ rfl
  exact (hown ⟨"first.png", "", some "17CK023456"⟩ List.mem_cons_self).1 rfl

end AttendanceApp
