/-
  What has to happen before a page can appear.

  `Opens` is the list of everything that puts a page on the stack, with the state it does so in, and
  `opens_of_step` says that the list is complete.  Two gates of the app follow from it for whole
  runs, by asking where a mounted page came from (`exec_came_from`):

  * the LOCATION gate: a captured face is previewed, and so can be sent to the recogniser, only
    after a location check that came out well and a capture of that picture after it;
  * the SIGN-IN gate: a protected page appears only after somebody has signed in or signed up, and a
    ProfilePage only shows an account that was signed in here.
-/
import AttendanceApp.Handlers

namespace AttendanceApp

open Transition Dart Navigator

variable {c : CaseMap}

/-! ## What opens a page -/

/-- The page that the rest of a handler brings up, when its operation ends with the reply. -/
inductive Brings (c : CaseMap) (s : App) : Op → Reply → Page → Prop
  | signedIn (route user : Nat) :
      Brings c s (.signInUsingEmailPassword route) (.user user) (.profilePage user "" none)
  | notUpdated (route user : Nat) :
      Brings c s (.updateProfile route user) .failed
        (.profilePage user (c.toUpperCase (s.names route)) (some (s.names route)))
  | notReloaded (route user : Nat) :
      Brings c s (.reload route user) .failed
        (.profilePage user (c.toUpperCase (s.names route)) (some (s.names route)))
  | reloaded (route user user' : Nat) (huser : s.currentUser = some user') :
      Brings c s (.reload route user) .done
        (.profilePage user' (c.toUpperCase (s.names route)) (some (s.names route)))
  | signedOut (route : Nat) : Brings c s (.signOut route) .done .loginScreen
  | taken (route : Nat) (matnumber : String) (typed : Option String) (path : String) :
      Brings c s (.takePicture route matnumber typed) (.picture path)
        (.pageImageScreen matnumber path route typed)
  | captured (route : Nat) (path : String) :
      Brings c s (.captureFace route) (.picture path) (.previewImageScreen path)
  | confirmed (route : Nat) (course : String) :
      Brings c s (.condition route course) (.confirmed true) (.cameraScreen course)
  | refused (route : Nat) (course : String) :
      Brings c s (.condition route course) (.confirmed false) .alertDialog

/-- The ways a page is brought up by an event: a press on the page below it, a remembered user, or
    the end of an operation whose page is mounted. -/
inductive Opens (c : CaseMap) (s : App) : Event → Page → Prop
  | press (button : Button) (top : Route Page) (below page : Page) (htop : top ∈ s.nav.stack)
      (hbelow : top.page = below) (hleads : Leads c below page) : Opens c s (.press button) page
  | remembered (route user : Nat) (huser : s.currentUser = some user) :
      Opens c s (.initializeFirebase route) (.profilePage user "" none)
  | completed (op : Op) (reply : Reply) (page : Page) (hop : op ∈ s.inFlight)
      (hmounted : s.nav.mounted op.route = true) (hbrings : Brings c s op reply page) :
      Opens c s (.complete op reply) page

theorem mem_mounted_resume {s : App} {route : Nat} {calls : List (Nav Page)} {r : Route Page}
    (h : r ∈ (s.resume route calls).nav.mountedRoutes) :
    r ∈ s.nav.mountedRoutes ∨ s.nav.mounted route = true ∧ s.nav.nextId ≤ r.id ∧
      ∃ call ∈ calls, call.opens = some r.page := by
  rw [resume_eq] at h
  by_cases hmounted : s.nav.mounted route = true
  · rw [if_pos hmounted] at h
    rcases mem_mounted_navigateAll h with h | hnew
    · exact Or.inl h
    · exact Or.inr ⟨hmounted, hnew⟩
  · rw [if_neg hmounted] at h
    exact Or.inl h

/-- The page of a handler that makes a single call. -/
theorem opens_of_mem_singleton {call : Nav Page} {page page' : Page}
    (h : ∃ call' ∈ [call], call'.opens = some page') (hopens : call.opens = some page) :
    page' = page := by
  obtain ⟨call', hcall, hpage⟩ := h
  obtain rfl := List.mem_singleton.mp hcall
  exact Option.some.inj (hpage.symm.trans hopens)

/-- The page SecondRoute's handler goes on to, after it has hidden the dialog. -/
theorem opens_afterCondition {course : String} {yes : Bool} {page : Page}
    (h : ∃ call ∈ afterCondition course yes, call.opens = some page) :
    page = if yes then .cameraScreen course else .alertDialog := by
  obtain ⟨call, hcall, hpage⟩ := h
  cases yes with
  | true =>
    rcases List.mem_cons.mp hcall with rfl | hcall
    · cases hpage
    · obtain rfl := List.mem_singleton.mp hcall
      exact (Option.some.inj hpage).symm
  | false =>
    rcases List.mem_cons.mp hcall with rfl | hcall
    · cases hpage
    · obtain rfl := List.mem_singleton.mp hcall
      exact (Option.some.inj hpage).symm

/-- A registration that goes on opens the ProfilePage of its user. -/
theorem opens_afterRegister {name : String} {user : Option Nat} {page : Page}
    (h : ∃ call ∈ afterRegister c name user, call.opens = some page) :
    ∃ user', user = some user' ∧
      page = .profilePage user' (c.toUpperCase name) (some name) := by
  cases user with
  | none =>
    obtain ⟨call, hcall, -⟩ := h
    cases hcall
  | some user' => exact ⟨user', rfl, opens_of_mem_singleton h rfl⟩

/-- The handler of a single call opens its page, if its own page is still mounted. -/
theorem opens_of_resume {s t : App} {route : Nat} {op : Op} {reply : Reply} {call : Nav Page}
    {page : Page} {r : Route Page} (hr : r ∈ (t.resume route [call]).nav.mountedRoutes)
    (hop : op ∈ s.inFlight) (hbrings : Brings c s op reply page) (hroute : route = op.route)
    (hnav : t.nav = s.nav) (hopens : call.opens = some page) :
    r ∈ s.nav.mountedRoutes ∨ s.nav.nextId ≤ r.id ∧ Opens c s (.complete op reply) r.page := by
  rcases mem_mounted_resume hr with hr | ⟨hmounted, hid, hcalls⟩
  · exact Or.inl (hnav ▸ hr)
  · rw [hnav, hroute] at hmounted
    rw [hnav] at hid
    rw [opens_of_mem_singleton hcalls hopens]
    exact Or.inr ⟨hid, .completed op reply page hop hmounted hbrings⟩

/-- **Nothing else opens a page**: a route that is mounted after a step was mounted before, or has a
    new number and is on a page that the step opens. -/
theorem opens_of_step {s s' : App} {e : Event} (hstep : (app c).step s e = some s')
    {r : Route Page} (hr : r ∈ s'.nav.mountedRoutes) :
    r ∈ s.nav.mountedRoutes ∨ s.nav.nextId ≤ r.id ∧ Opens c s e r.page := by
  cases step_cases hstep with
  | press button top rest reaction hstack hpress =>
    rcases mem_mounted_navigateAll hr with hr | ⟨hid, call, hcall, hopens⟩
    · exact Or.inl hr
    · have htop : top ∈ s.nav.stack := hstack ▸ List.mem_cons_self
      have hleads := (press_cases hpress).1 call hcall r.page hopens
      exact Or.inr ⟨hid, .press button top top.page r.page htop rfl hleads⟩
  | back =>
    rcases mem_mounted_navigateAll hr with hr | ⟨-, call, hcall, hopens⟩
    · exact Or.inl hr
    · obtain rfl := List.mem_singleton.mp hcall
      cases hopens
  | type text id => exact Or.inl hr
  | dispose route => exact Or.inl (mem_mounted_dispose hr)
  | nobody route huser => exact Or.inl hr
  | remembered route user huser =>
    rcases mem_mounted_navigateAll hr with hr | ⟨hid, hopens⟩
    · exact Or.inl hr
    · rw [opens_of_mem_singleton hopens rfl]
      exact Or.inr ⟨hid, .remembered route user huser⟩
  | complete op reply _ hop hc =>
    -- the operation ends, and the rest of its handler runs
    have hends : ∀ page, s.nav.mounted op.route = true → Brings c s op reply page →
        Opens c s (.complete op reply) page := fun page hmounted hbrings =>
      .completed op reply page hop hmounted hbrings
    cases hc with
    | failed _ _ => exact Or.inl hr
    | signedIn route user => exact opens_of_resume hr hop (.signedIn route user) rfl rfl rfl
    | created route name => exact Or.inl hr
    | updated route user => exact Or.inl hr
    | notUpdated route user => exact opens_of_resume hr hop (.notUpdated route user) rfl rfl rfl
    | notReloaded route user => exact opens_of_resume hr hop (.notReloaded route user) rfl rfl rfl
    | reloaded route user =>
      rcases mem_mounted_resume hr with hr | ⟨hmounted, hid, hopens⟩
      · exact Or.inl hr
      · obtain ⟨user', huser, hpage⟩ := opens_afterRegister hopens
        rw [hpage]
        exact Or.inr ⟨hid, hends _ hmounted (.reloaded route user user' huser)⟩
    | signedOut route => exact opens_of_resume hr hop (.signedOut route) rfl rfl rfl
    | taken route matnumber typed path _ =>
      exact opens_of_resume hr hop (.taken route matnumber typed path) rfl rfl rfl
    | captured route path => exact opens_of_resume hr hop (.captured route path) rfl rfl rfl
    | located route course yes =>
      rcases mem_mounted_resume hr with hr | ⟨hmounted, hid, hopens⟩
      · exact Or.inl hr
      · rw [opens_afterCondition hopens]
        cases yes with
        | true => exact Or.inr ⟨hid, hends _ hmounted (.confirmed route course)⟩
        | false => exact Or.inr ⟨hid, hends _ hmounted (.refused route course)⟩
    | enrolled route _ _ =>
      rcases mem_mounted_resume hr with hr | ⟨-, -, call, hcall, hopens⟩
      · exact Or.inl hr
      · obtain rfl := List.mem_singleton.mp hcall
        cases hopens

/-! ## The location gate -/

/-- The page is mounted, on some route. -/
def App.Mounts (s : App) (page : Page) : Prop := ∃ r ∈ s.nav.mountedRoutes, r.page = page

/-- A page other than the first one was opened by a step of the run. -/
theorem opened_of_mounts {accounts : List String} {currentUser : Option Nat} {es : List Event}
    {s : App} {page : Page} (hrun : (app c).exec (.start accounts currentUser) es = some s)
    (h : s.Mounts page) (hpage : page ≠ .gettingStarted) :
    ∃ pre e post m, es = pre ++ e :: post ∧
      (app c).exec (.start accounts currentUser) pre = some m ∧ Opens c m e page := by
  have hcame := (app c).exec_came_from (I := fun _ => True) (P := fun s => s.Mounts page)
    (Q := fun m e _ => Opens c m e page) (fun _ _ _ _ _ => trivial)
    (fun m e m' _ hstep hmounts => by
      obtain ⟨r, hr, rfl⟩ := hmounts
      rcases opens_of_step hstep hr with hr | ⟨-, hopens⟩
      · exact Or.inl ⟨r, hr, rfl⟩
      · exact Or.inr hopens) es _ s trivial hrun h
  rcases hcame with ⟨r, hr, rfl⟩ | ⟨pre, e, post, m, -, hsplit, hpre, -, hopens⟩
  · obtain rfl := List.mem_singleton.mp hr
    exact absurd rfl hpage
  · exact ⟨pre, e, post, m, hsplit, hpre, hopens⟩

/-- CameraScreen is opened by a location check only. -/
theorem opens_cameraScreen {s : App} {e : Event} {course : String}
    (h : Opens c s e (.cameraScreen course)) :
    ∃ route, e = .complete (.condition route course) (.confirmed true) := by
  cases h with
  | press button top below _ htop hbelow hleads => cases hleads
  | completed op reply _ hop hmounted hbrings =>
    cases hbrings with
    | confirmed route course => exact ⟨route, rfl⟩

/-- PreviewImageScreen is opened by a capture on CameraScreen only. -/
theorem opens_previewImageScreen {s : App} {e : Event} {file : String} (hs : Attributed s)
    (h : Opens c s e (.previewImageScreen file)) :
    ∃ route course, e = .complete (.captureFace route) (.picture file) ∧
      s.Mounts (.cameraScreen course) := by
  cases h with
  | press button top below _ htop hbelow hleads => cases hleads
  | completed op reply _ hop hmounted hbrings =>
    cases hbrings with
    | captured route file =>
      -- the handler's own page is mounted, and it is a CameraScreen
      obtain ⟨r, hr, hid⟩ := mounted_iff.mp hmounted
      obtain ⟨course, hpage⟩ := (hs.ops _ hop).2 r hr hid
      exact ⟨route, course, rfl, r, hr, hpage⟩

/-- **The location gate**: in every run, a face picture is previewed only after a location check has
    come out well and the picture has been captured after it. -/
theorem preview_after_confirmed_location (c : CaseMap) (accounts : List String)
    (currentUser : Option Nat) (es : List Event) (s : App)
    (hrun : (app c).exec (.start accounts currentUser) es = some s) (file : String)
    (hpreview : s.Mounts (.previewImageScreen file)) :
    ∃ pre mid post route course route',
      es = pre ++ .complete (.condition route course) (.confirmed true) ::
        (mid ++ .complete (.captureFace route') (.picture file) :: post) := by
  obtain ⟨before, e, post, m, rfl, hbefore, hopens⟩ := opened_of_mounts hrun hpreview nofun
  obtain ⟨route', course, rfl, hcamera⟩ :=
    opens_previewImageScreen (attributed_of_run hbefore) hopens
  -- the CameraScreen that took the picture was itself opened, earlier
  obtain ⟨pre, e, mid, _, rfl, -, hearlier⟩ := opened_of_mounts hbefore hcamera nofun
  obtain ⟨route, rfl⟩ := opens_cameraScreen hearlier
  exact ⟨pre, mid, post, route, course, route', by rw [List.append_assoc, List.cons_append]⟩

/-- A remembered user is let in, and takes a picture. -/
theorem preview_after_tap :
    ∃ pre mid post route course route',
      ([.press .students, .initializeFirebase 1, .press .takeAttendance, .press (.course 3),
        .complete (.condition 3 "EIE 523") (.confirmed true), .press .capture,
        .complete (.captureFace 5) (.picture "face.png")] : List Event) =
      pre ++ .complete (.condition route course) (.confirmed true) ::
        (mid ++ .complete (.captureFace route') (.picture "face.png") :: post) :=
  preview_after_confirmed_location .ascii ["17CK023456"] (some 0)
    [.press .students, .initializeFirebase 1, .press .takeAttendance, .press (.course 3),
      .complete (.condition 3 "EIE 523") (.confirmed true), .press .capture,
      .complete (.captureFace 5) (.picture "face.png")] _ rfl "face.png"
    ⟨⟨6, .previewImageScreen "face.png"⟩, List.mem_cons_self, rfl⟩

/-! ## The sign-in gate -/

/-- With this reply the operation signs an account in. -/
def Op.signsIn : Op → Reply → Bool
  | .signInUsingEmailPassword _, .user _ => true
  | .createUser _ _, .done => true
  | _, _ => false

/-- The event signs an account in: a sign-in succeeds, or an account is created. -/
def Event.SignsIn : Event → Prop
  | .complete op reply => op.signsIn reply = true
  | _ => False

/-- Somebody is signed in, or a trace of it is left: a protected page, or the rest of a
    registration. -/
inductive App.HadUser (s : App) : Prop
  | user (user : Nat) (h : s.currentUser = some user)
  | page (r : Route Page) (hr : r ∈ s.nav.mountedRoutes) (h : r.page.isProtected = true)
  | updating (route user : Nat) (h : Op.updateProfile route user ∈ s.inFlight)
  | reloading (route user : Nat) (h : Op.reload route user ∈ s.inFlight)

/-- A page that the app opens while nobody has been signed in is not protected. -/
theorem opens_unprotected {s : App} {e : Event} {page : Page} (hs : Attributed s)
    (h : Opens c s e page) (hprotected : page.isProtected = true) :
    s.HadUser ∨ e.SignsIn := by
  have hmounted : ∀ r ∈ s.nav.mountedRoutes, r.page.isProtected = true → s.HadUser :=
    fun r hr hpage => .page r hr hpage
  cases h with
  | press button top below _ htop hbelow hleads =>
    refine Or.inl (hmounted top (mem_mounted_of_mem_stack htop) ?_)
    rw [hbelow]
    cases hleads with
    | registerFacePicture user matnumber typed => rfl
    | takeAttendance user matnumber typed => rfl
    | _ => cases hprotected
  | remembered route user huser => exact Or.inl (.user user huser)
  | completed op reply _ hop hroute hbrings =>
    -- the page of the handler, for the handlers of protected pages
    obtain ⟨r, hr, hid⟩ := mounted_iff.mp hroute
    have hof := (hs.ops op hop).2 r hr hid
    cases hbrings with
    | signedIn route user => exact Or.inr rfl
    | notUpdated route user => exact Or.inl (.updating route user hop)
    | notReloaded route user => exact Or.inl (.reloading route user hop)
    | reloaded route user user' huser => exact Or.inl (.user user' huser)
    | signedOut route => cases hprotected
    | taken route matnumber typed path =>
      refine Or.inl (hmounted r hr ?_)
      have hpage : r.page = .registerCamera matnumber typed := hof
      rw [hpage]
      rfl
    | captured route path =>
      refine Or.inl (hmounted r hr ?_)
      obtain ⟨course, hpage⟩ : ∃ course, r.page = .cameraScreen course := hof
      rw [hpage]
      rfl
    | confirmed route course =>
      refine Or.inl (hmounted r hr ?_)
      have hpage : r.page = .secondRoute := hof
      rw [hpage]
      rfl
    | refused route course => cases hprotected

/-- The user changes with a sign-in, and with a sign-out there is none. -/
theorem currentUser_of_step {s s' : App} {e : Event} (hstep : (app c).step s e = some s')
    {user : Nat} (huser : s'.currentUser = some user) : s.currentUser = some user ∨ e.SignsIn := by
  cases step_cases hstep with
  | press button top rest reaction hstack hpress => exact Or.inl huser
  | back => exact Or.inl huser
  | type text id => exact Or.inl huser
  | dispose route => exact Or.inl huser
  | nobody route hnone => exact Or.inl huser
  | remembered route user' hsome => exact Or.inl huser
  | complete op reply _ hop hc =>
    cases hc with
    | signedIn route user' => exact Or.inr rfl
    | created route name => exact Or.inr rfl
    | failed _ _ => exact Or.inl huser
    | updated route user' => exact Or.inl huser
    | signedOut route =>
      rw [resume_currentUser] at huser
      cases huser
    | _ =>
      rw [resume_currentUser] at huser
      exact Or.inl huser

/-- Somebody who has been signed in came in at some step. -/
theorem hadUser_step (s : App) (e : Event) (s' : App) (hs : Attributed s)
    (hstep : (app c).step s e = some s') (h : s'.HadUser) : s.HadUser ∨ e.SignsIn := by
  -- the rest of a registration goes back to the creation of its account
  have hlaunches : ∀ op, Launches s e op → (∃ route user, op = .updateProfile route user ∨
      op = .reload route user) → s.HadUser ∨ e.SignsIn := by
    rintro op hlaunches ⟨route, user, hrest⟩
    cases hlaunches with
    | press button top op htop hstarts =>
      obtain ⟨hupdate, hreload⟩ := starts_first hstarts route user
      rcases hrest with hrest | hrest
      · exact absurd hrest hupdate
      · exact absurd hrest hreload
    | created route name hop => exact Or.inr rfl
    | updated route user hop => exact Or.inl (.updating route user hop)
  cases h with
  | user user huser =>
    rcases currentUser_of_step hstep huser with huser | hin
    · exact Or.inl (.user user huser)
    · exact Or.inr hin
  | page r hr hprotected =>
    rcases opens_of_step hstep hr with hr | ⟨-, hopens⟩
    · exact Or.inl (.page r hr hprotected)
    · exact opens_unprotected hs hopens hprotected
  | updating route user hop =>
    rcases launches_of_step hstep hop with hop | hnew
    · exact Or.inl (.updating route user hop)
    · exact hlaunches _ hnew ⟨route, user, Or.inl rfl⟩
  | reloading route user hop =>
    rcases launches_of_step hstep hop with hop | hnew
    · exact Or.inl (.reloading route user hop)
    · exact hlaunches _ hnew ⟨route, user, Or.inr rfl⟩

/-- **The sign-in gate**: where the app starts with nobody signed in, no protected page is mounted
    before a sign-in has succeeded or an account has been created. -/
theorem protected_after_sign_in (c : CaseMap) (accounts : List String) (es : List Event) (s : App)
    (hrun : (app c).exec (.start accounts none) es = some s) (r : Route Page)
    (hr : r ∈ s.nav.mountedRoutes) (hprotected : r.page.isProtected = true) :
    ∃ e ∈ es, e.SignsIn := by
  have hcame := (app c).exec_came_from (I := Attributed) (P := App.HadUser)
    (Q := fun _ e _ => e.SignsIn) attributed_step (fun s e s' => hadUser_step s e s') es _ s
    (attributed_start accounts none) hrun (.page r hr hprotected)
  rcases hcame with hstart | ⟨pre, e, post, _, _, rfl, -, -, hin⟩
  · cases hstart with
    | user user huser => cases huser
    | page r hr hpage =>
      obtain rfl := List.mem_singleton.mp hr
      cases hpage
    | updating route user hop => cases hop
    | reloading route user hop => cases hop
  · exact ⟨e, List.mem_append_right _ List.mem_cons_self, hin⟩

/-- A student signs up. -/
theorem profile_after_sign_up :
    ∃ e ∈ ([.press .students, .press .register, .type "17ck023456", .press (.signUp true),
      .complete (.createUser 2 "17ck023456") .done,
      .complete (.updateProfile 2 0) .failed] : List Event), e.SignsIn :=
  protected_after_sign_in .ascii []
    [.press .students, .press .register, .type "17ck023456", .press (.signUp true),
      .complete (.createUser 2 "17ck023456") .done, .complete (.updateProfile 2 0) .failed] _ rfl
    ⟨3, .profilePage 0 "17CK023456" (some "17ck023456")⟩ List.mem_cons_self rfl

end AttendanceApp
