/-
  Whose picture an enrolled face is.

  The list `paths` mixes the pictures of all sessions, and PageImageScreen shows the first of them.
  What it ENROLS is its own `imageFile`, under its own `matricNumber`: the file its RegisterCamera
  took, for the matric number this was opened with.  `takePicture` throws when its file exists, so a
  file belongs to one session, and no picture is ever enrolled under two matric numbers.
-/
import AttendanceApp.Gates
import AttendanceApp.Enrolments

namespace AttendanceApp

open Transition Dart Navigator

variable {c : CaseMap}

/-! ## What a step adds -/

/-- Pictures are added by the captures of RegisterCamera, with a file of their own. -/
theorem paths_of_step {s s' : App} {e : Event} (hstep : (app c).step s e = some s') :
    s'.paths = s.paths ∨
      ∃ route matnumber typed path,
        e = .complete (.takePicture route matnumber typed) (.picture path) ∧
        path ∉ s.paths.map Picture.path ∧ s'.paths = s.paths ++ [⟨path, route, matnumber⟩] := by
  cases step_cases hstep with
  | complete op reply _ hop hc =>
    cases hc with
    | failed _ _ => exact Or.inl rfl
    | created route name => exact Or.inl rfl
    | updated route user => exact Or.inl rfl
    | taken route matnumber typed path hfresh =>
      refine Or.inr ⟨route, matnumber, typed, path, rfl, hfresh, ?_⟩
      rw [resume_paths]
    | _ =>
      left
      rw [resume_paths]
  | _ => exact Or.inl rfl

/-- A preview is opened by the capture of its picture only. -/
theorem opens_pageImageScreen {s : App} {e : Event} {matricNumber imageFile : String}
    {session : Nat} {typed : Option String}
    (h : Opens c s e (.pageImageScreen matricNumber imageFile session typed)) :
    e = .complete (.takePicture session matricNumber typed) (.picture imageFile) := by
  cases h with
  | press button top below _ htop hbelow hleads => cases hleads
  | completed op reply _ hop hmounted hbrings =>
    cases hbrings with
    | taken route matnumber typed path => rfl

/-! ## The invariant -/

/-- Every file was taken once, and for the matric number of the pages and the enrolments it is
    on. -/
structure Filed (s : App) : Prop where
  nodup : (s.paths.map Picture.path).Nodup
  pages : ∀ r ∈ s.nav.mountedRoutes, ∀ matricNumber imageFile session typed,
    r.page = .pageImageScreen matricNumber imageFile session typed →
      ⟨imageFile, session, matricNumber⟩ ∈ s.paths
  enrolments : ∀ x ∈ s.enrolments, ∃ session, ⟨x.imageFile, session, x.subjectId⟩ ∈ s.paths

/-- **The step lemma.** -/
theorem filed_step (s : App) (e : Event) (s' : App) (h : Filed s)
    (hstep : (app c).step s e = some s') : Filed s' := by
  have hpaths := paths_of_step hstep
  -- pictures stay in the list
  have hkept : ∀ p ∈ s.paths, p ∈ s'.paths := by
    intro p hp
    rcases hpaths with hsame | ⟨route, matnumber, typed, path, -, -, hmore⟩
    · exact hsame ▸ hp
    · rw [hmore]
      exact List.mem_append_left _ hp
  refine ⟨?_, fun r hr matricNumber imageFile session typed hpage => ?_, fun x hx => ?_⟩
  · rcases hpaths with hsame | ⟨route, matnumber, typed, path, -, hfresh, hmore⟩
    · rw [hsame]
      exact h.nodup
    · rw [hmore, List.map_append, List.map_singleton]
      refine List.Nodup.append h.nodup (List.nodup_singleton _) ?_
      rw [List.disjoint_singleton]
      exact hfresh
  · rcases opens_of_step hstep hr with hr | ⟨-, hopens⟩
    · exact hkept _ (h.pages r hr matricNumber imageFile session typed hpage)
    · rw [hpage] at hopens
      obtain rfl := opens_pageImageScreen hopens
      have hadded : s'.paths = s.paths ++ [⟨imageFile, session, matricNumber⟩] := by
        cases step_cases hstep with
        | complete op reply _ hop hc =>
          cases hc with
          | taken route matnumber typed path hfresh => rw [resume_paths]
      rw [hadded]
      exact List.mem_append_right _ List.mem_cons_self
  · rcases enrolments_of_step hstep with
      hsame | ⟨top, matricNumber, imageFile, session, typed, htop, hpage, hmore⟩
    · rw [hsame] at hx
      obtain ⟨session, hp⟩ := h.enrolments x hx
      exact ⟨session, hkept _ hp⟩
    · rw [hmore] at hx
      rcases List.mem_append.mp hx with hx | hx
      · obtain ⟨session, hp⟩ := h.enrolments x hx
        exact ⟨session, hkept _ hp⟩
      · obtain rfl := List.mem_singleton.mp hx
        have hmounted := mem_mounted_of_mem_stack htop
        exact ⟨session, hkept _ (h.pages top hmounted matricNumber imageFile session typed hpage)⟩

theorem filed_start (accounts : List String) (currentUser : Option Nat) :
    Filed (.start accounts currentUser) where
  nodup := List.nodup_nil
  pages r hr := by
    obtain rfl := List.mem_singleton.mp hr
    nofun
  enrolments _ h := absurd h List.not_mem_nil

/-- Where a picture of the list came from. -/
theorem taken_of_mem_paths {accounts : List String} {currentUser : Option Nat} {es : List Event}
    {s : App} (hrun : (app c).exec (.start accounts currentUser) es = some s) {p : Picture}
    (hp : p ∈ s.paths) :
    ∃ pre typed post, es = pre ++
      .complete (.takePicture p.session p.matnumber typed) (.picture p.path) :: post := by
  have hcame := (app c).exec_came_from (I := fun _ => True) (P := fun s => p ∈ s.paths)
    (Q := fun _ e _ => ∃ typed,
      e = .complete (.takePicture p.session p.matnumber typed) (.picture p.path))
    (fun _ _ _ _ _ => trivial) (fun m e m' _ hstep hmem => by
      rcases paths_of_step hstep with hsame | ⟨route, matnumber, typed, path, rfl, -, hmore⟩
      · exact Or.inl (hsame ▸ hmem)
      · rw [hmore] at hmem
        rcases List.mem_append.mp hmem with hmem | hmem
        · exact Or.inl hmem
        · obtain rfl := List.mem_singleton.mp hmem
          exact Or.inr ⟨typed, rfl⟩) es _ s trivial hrun hp
  rcases hcame with hstart | ⟨pre, e, post, _, _, hsplit, -, -, typed, rfl⟩
  · cases hstart
  · exact ⟨pre, typed, post, hsplit⟩

/-- **One picture, one student**: in every run, a face that is enrolled was photographed by a
    RegisterCamera for the matric number it is enrolled under, and no picture is ever enrolled under
    two. -/
theorem enrolled_pictures_taken (c : CaseMap) (accounts : List String) (currentUser : Option Nat)
    (es : List Event) (s : App) (hrun : (app c).exec (.start accounts currentUser) es = some s) :
    (∀ x ∈ s.enrolments, ∃ pre session typed post, es = pre ++
      .complete (.takePicture session x.subjectId typed) (.picture x.imageFile) :: post) ∧
    ∀ x ∈ s.enrolments, ∀ y ∈ s.enrolments, x.imageFile = y.imageFile →
      x.subjectId = y.subjectId := by
  have hfiled := (app c).exec_invariant filed_step es _ s (filed_start accounts currentUser) hrun
  refine ⟨fun x hx => ?_, fun x hx y hy hfile => ?_⟩
  · obtain ⟨session, hp⟩ := hfiled.enrolments x hx
    obtain ⟨pre, typed, post, hsplit⟩ := taken_of_mem_paths hrun hp
    exact ⟨pre, session, typed, post, hsplit⟩
  · obtain ⟨session, hp⟩ := hfiled.enrolments x hx
    obtain ⟨session', hp'⟩ := hfiled.enrolments y hy
    -- the list has one picture of that path
    have hsame := List.inj_on_of_nodup_map hfiled.nodup hp hp' hfile
    exact (Picture.mk.inj hsame).2.2

/-- Two presses of Upload on the preview of one picture. -/
theorem twice_enrolled_taken :
    ∃ s, (app .ascii).exec (.start ["17CK023456"] (some 0))
        [.press .students, .initializeFirebase 1, .press .registerFacePicture, .press .capture,
          .complete (.takePicture 3 "" none) (.picture "first.png"), .press .upload,
          .press .upload] = some s ∧
      (∀ x ∈ s.enrolments, ∃ pre session typed post,
        ([.press .students, .initializeFirebase 1, .press .registerFacePicture, .press .capture,
          .complete (.takePicture 3 "" none) (.picture "first.png"), .press .upload,
          .press .upload] : List Event) = pre ++
        .complete (.takePicture session x.subjectId typed) (.picture x.imageFile) :: post) ∧
      ∀ x ∈ s.enrolments, ∀ y ∈ s.enrolments, x.imageFile = y.imageFile →
        x.subjectId = y.subjectId :=
  ⟨_, rfl, enrolled_pictures_taken .ascii ["17CK023456"] (some 0)
    [.press .students, .initializeFirebase 1, .press .registerFacePicture, .press .capture,
      .complete (.takePicture 3 "" none) (.picture "first.png"), .press .upload, .press .upload]
    _ rfl⟩

end AttendanceApp
