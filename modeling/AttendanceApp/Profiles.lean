/-
  `lib/Register/Profile_page.dart`: whose account a ProfilePage shows.

      refresh:       user = await FireAuth.refreshUser(_currentUser)   -- reload, then auth.currentUser
                     if (user != null) setState(() { _currentUser = user })
      Verify email:  setState(_isSendingVerification = true)
                     await _currentUser.sendEmailVerification()
                     setState(_isSendingVerification = false)

  The page is opened for one account, but a refresh puts in its place whoever is signed in when the
  reload has come back.  The name and the email that are shown, and the account that is asked to
  verify, then change, and the matric number of the page does not.

  This is the app with these two buttons (`app_of_run`).  As long as no other account comes in while
  a ProfilePage is mounted, or while a registration is still to be completed (`Quiet`), there is
  nobody to be taken for another: a ProfilePage shows its own account, which is the one that is
  signed in (`profiles_show_signed_in`).
-/
import AttendanceApp.SignUps

namespace AttendanceApp

open Transition Dart Navigator

variable {c : CaseMap}

/-! ## Whose page, and who is signed in -/

/-- Nobody but the user is signed in. -/
def App.OnlyUser (s : App) (user : Nat) : Prop := ∀ u, s.currentUser = some u → u = user

/-- The account a page is about, or a registration that is still to be completed. -/
def Page.user : Page → Option Nat
  | .profilePage user _ _ => some user
  | _ => none

/-- The account a registration in flight has made. -/
def Op.user : Op → Option Nat
  | .updateProfile _ user => some user
  | .reload _ user => some user
  | _ => none

/-- An account only comes in when no ProfilePage is mounted and no registration is still to be
    completed. -/
def Quiet (s : App) : Event → Prop
  | .complete op reply => op.signsIn reply = true →
    (∀ r ∈ s.nav.mountedRoutes, r.page.user = none) ∧ ∀ op' ∈ s.inFlight, op'.user = none
  | _ => True

instance (s : App) : DecidablePred (Quiet s)
  | .complete op reply => inferInstanceAs (Decidable (op.signsIn reply = true →
      (∀ r ∈ s.nav.mountedRoutes, r.page.user = none) ∧ ∀ op' ∈ s.inFlight, op'.user = none))
  | .press _ => isTrue trivial
  | .back => isTrue trivial
  | .type _ => isTrue trivial
  | .dispose _ => isTrue trivial
  | .initializeFirebase _ => isTrue trivial

/-- The invariant: nobody is signed in but the account of every ProfilePage that is mounted and of
    every registration that is still to be completed. -/
structure Alone (s : App) : Prop where
  pages : ∀ r ∈ s.nav.mountedRoutes, ∀ user, r.page.user = some user → s.OnlyUser user
  ops : ∀ op ∈ s.inFlight, ∀ user, op.user = some user → s.OnlyUser user

/-- A step that signs nobody in leaves nobody else signed in. -/
theorem OnlyUser.step {s s' : App} {e : Event} {user : Nat} (h : s.OnlyUser user)
    (hstep : (app c).step s e = some s') (hnone : ¬ e.SignsIn) : s'.OnlyUser user := by
  intro u hu
  rcases currentUser_of_step hstep hu with hu | hin
  · exact h u hu
  · exact absurd hin hnone

/-- The page a step opens is about whoever is signed in, unless it signs somebody in. -/
theorem onlyUser_of_opens {s : App} {e : Event} {page : Page} {user : Nat} (h : Alone s)
    (hopens : Opens c s e page) (huser : page.user = some user) (hnone : ¬ e.SignsIn) :
    s.OnlyUser user := by
  have hsigned : ∀ {u}, s.currentUser = some u → s.OnlyUser u := by
    intro u hu u' hu'
    exact Option.some.inj (hu'.symm.trans hu)
  cases hopens with
  | press button top below _ htop hbelow hleads => cases hleads <;> cases huser
  | remembered route u hu =>
    obtain rfl := Option.some.inj huser
    exact hsigned hu
  | completed op reply _ hop hmounted hbrings =>
    cases hbrings with
    | signedIn route u => exact absurd rfl hnone
    | notUpdated route u =>
      obtain rfl := Option.some.inj huser
      exact h.ops _ hop _ rfl
    | notReloaded route u =>
      obtain rfl := Option.some.inj huser
      exact h.ops _ hop _ rfl
    | reloaded route u u' hu' =>
      obtain rfl := Option.some.inj huser
      exact hsigned hu'
    | _ => cases huser

/-- A registration goes on for its own account. -/
theorem onlyUser_of_launches {s : App} {e : Event} {op : Op} {user : Nat} (h : Alone s)
    (hlaunches : Launches s e op) (huser : op.user = some user) (hnone : ¬ e.SignsIn) :
    s.OnlyUser user := by
  cases hlaunches with
  | press button top op htop hstarts =>
    -- no press starts a registration in the middle
    cases op with
    | updateProfile route u => exact absurd rfl (starts_first hstarts route u).1
    | reload route u => exact absurd rfl (starts_first hstarts route u).2
    | _ => cases huser
  | created route name hop => exact absurd rfl hnone
  | updated route u hop => exact h.ops _ hop _ huser

/-- Who comes in finds no ProfilePage and no registration, and opens only its own. -/
theorem alone_of_signsIn {s s' : App} {e : Event} (hquiet : Quiet s e) (hin : e.SignsIn)
    (hstep : (app c).step s e = some s') : Alone s' := by
  cases e with
  | complete op reply =>
    obtain ⟨hpages, hops⟩ := hquiet hin
    cases step_cases hstep with
    | complete _ _ _ hop hc =>
      have hleft : ∀ op' ∈ s.inFlight.erase op, op'.user = none :=
        fun op' hop' => hops op' (List.mem_of_mem_erase hop')
      cases hc with
      | signedIn route user =>
        refine ⟨?_, ?_⟩
        · intro r hr user' huser'
          rcases mem_mounted_resume hr with hr | ⟨-, -, hopens⟩
          · have hnone := hpages r hr
            rw [hnone] at huser'
            cases huser'
          · rw [opens_of_mem_singleton hopens rfl] at huser'
            obtain rfl := Option.some.inj huser'
            intro u hu
            rw [resume_currentUser] at hu
            exact (Option.some.inj hu).symm
        · intro op' hop' user' huser'
          rw [resume_inFlight] at hop'
          rw [hleft op' hop'] at huser'
          cases huser'
      | created route name =>
        refine ⟨?_, ?_⟩
        · intro r hr user' huser'
          have hnone := hpages r hr
          rw [hnone] at huser'
          cases huser'
        · intro op' hop' user' huser'
          rcases List.mem_append.mp hop' with hop' | hop'
          · rw [hleft op' hop'] at huser'
            cases huser'
          · obtain rfl := List.mem_singleton.mp hop'
            obtain rfl := Option.some.inj huser'
            intro u hu
            exact (Option.some.inj hu).symm
      | failed _ hne =>
        cases op with
        | signInUsingEmailPassword route => cases hin
        | createUser route name => cases hin
        | _ => cases hin
      | _ => cases hin
  | _ => cases hin

/-- **The step lemma.** -/
theorem alone_step {s s' : App} {e : Event} (h : Alone s) (hquiet : Quiet s e)
    (hstep : (app c).step s e = some s') : Alone s' := by
  by_cases hin : e.SignsIn
  · exact alone_of_signsIn hquiet hin hstep
  refine ⟨?_, ?_⟩
  · intro r hr user huser
    rcases opens_of_step hstep hr with hr | ⟨-, hopens⟩
    · exact OnlyUser.step (h.pages r hr user huser) hstep hin
    · exact OnlyUser.step (onlyUser_of_opens h hopens huser hin) hstep hin
  · intro op hop user huser
    rcases launches_of_step hstep hop with hop | hlaunches
    · exact OnlyUser.step (h.ops op hop user huser) hstep hin
    · exact OnlyUser.step (onlyUser_of_launches h hlaunches huser hin) hstep hin

theorem alone_start (accounts : List String) (currentUser : Option Nat) :
    Alone (.start accounts currentUser) := by
  refine ⟨?_, ?_⟩
  · intro r hr user huser
    obtain rfl := List.mem_singleton.mp hr
    cases huser
  · intro op hop
    cases hop

end AttendanceApp

/-! ## The buttons of a ProfilePage -/

namespace AttendanceApp.Profiles

open AttendanceApp.Transition AttendanceApp.Dart

variable {c : CaseMap}

/-- A call `_currentUser.sendEmailVerification()`: the account the page was opened for, and the one
    that `_currentUser` is. -/
structure Verification where
  opened : Nat
  user : Nat
  deriving DecidableEq, Repr

/-- The app, with `_currentUser` and `_isSendingVerification` of its ProfilePages. -/
structure State where
  app : App
  /-- `_currentUser` of the ProfilePage on each route, once a refresh has set it. -/
  refreshed : Nat → Option Nat := fun _ => none
  /-- `_isSendingVerification`. -/
  isSendingVerification : Nat → Bool := fun _ => false
  /-- The pages that await `refreshUser`, and those that await `sendEmailVerification`. -/
  refreshing : List Nat := []
  verifying : List Nat := []
  verifications : List Verification := []

/-- What happens in the app, and what happens to the two buttons. -/
inductive Event where
  | app (e : AttendanceApp.Event)
  /-- The refresh button of the ProfilePage on top is pressed. -/
  | refresh
  /-- `user.reload()` of a page comes back, or throws. -/
  | refreshed (route : Nat) (reloaded : Bool)
  /-- 'Verify email' of the ProfilePage on top is pressed. -/
  | verifyEmail
  /-- `sendEmailVerification()` of a page comes back, or throws. -/
  | verified (route : Nat) (sent : Bool)

/-- `_currentUser` of a ProfilePage that was opened for `user`. -/
def State.currentUser (s : State) (route user : Nat) : Nat := (s.refreshed route).getD user

/-- The ProfilePage on top, while it shows its two buttons: its route and the account it was opened
    for. -/
def State.top (s : State) : Option (Nat × Nat) :=
  match s.app.nav.stack with
  | ⟨route, .profilePage user _ _⟩ :: _ =>
    if s.isSendingVerification route then none else some (route, user)
  | _ => none

/-- The user that `refreshUser` returns, if the page is there to take it. -/
def State.returned (s : State) (route : Nat) (reloaded : Bool) : Option Nat :=
  if reloaded && s.app.nav.mounted route then s.app.currentUser else none

/-- One event.  A handler whose page is disposed ends on `setState`, and changes nothing. -/
def State.step (c : CaseMap) (s : State) : Event → Option State
  | .app e => ((AttendanceApp.app c).step s.app e).map fun next => { s with app := next }
  | .refresh => s.top.map fun page => { s with refreshing := s.refreshing ++ [page.1] }
  | .refreshed route reloaded =>
    if route ∈ s.refreshing then
      some
        { s with
          refreshing := s.refreshing.erase route
          refreshed := Function.update s.refreshed route
            ((s.returned route reloaded).or (s.refreshed route)) }
    else none
  | .verifyEmail =>
    s.top.map fun page =>
      { s with
        isSendingVerification := Function.update s.isSendingVerification page.1 true
        verifying := s.verifying ++ [page.1]
        verifications := s.verifications ++ [⟨page.2, s.currentUser page.1 page.2⟩] }
  | .verified route sent =>
    if route ∈ s.verifying then
      some
        { s with
          verifying := s.verifying.erase route
          isSendingVerification :=
            if sent && s.app.nav.mounted route then
              Function.update s.isSendingVerification route false
            else s.isSendingVerification }
    else none

/-- The app with the refresh and the 'Verify email' of its ProfilePages. -/
def profiles (c : CaseMap) : Machine State Event := ⟨State.step c⟩

/-- `main()`. -/
def State.start (accounts : List String) (currentUser : Option Nat) : State where
  app := .start accounts currentUser

/-! ## What a step does -/

/-- The ways a step can go. -/
inductive Step (c : CaseMap) (s : State) : Event → State → Prop
  | app (e : AttendanceApp.Event) (next : App)
      (hstep : (AttendanceApp.app c).step s.app e = some next) :
      Step c s (.app e) { s with app := next }
  | refresh (page : Nat × Nat) (htop : s.top = some page) :
      Step c s .refresh { s with refreshing := s.refreshing ++ [page.1] }
  | refreshed (route : Nat) (reloaded : Bool) (hin : route ∈ s.refreshing) :
      Step c s (.refreshed route reloaded)
        { s with
          refreshing := s.refreshing.erase route
          refreshed := Function.update s.refreshed route
            ((s.returned route reloaded).or (s.refreshed route)) }
  | verifyEmail (page : Nat × Nat) (htop : s.top = some page) :
      Step c s .verifyEmail
        { s with
          isSendingVerification := Function.update s.isSendingVerification page.1 true
          verifying := s.verifying ++ [page.1]
          verifications := s.verifications ++ [⟨page.2, s.currentUser page.1 page.2⟩] }
  | verified (route : Nat) (sent : Bool) (hin : route ∈ s.verifying) :
      Step c s (.verified route sent)
        { s with
          verifying := s.verifying.erase route
          isSendingVerification :=
            if sent && s.app.nav.mounted route then
              Function.update s.isSendingVerification route false
            else s.isSendingVerification }

theorem step_cases {s s' : State} {e : Event} (h : (profiles c).step s e = some s') :
    Step c s e s' := by
  cases e with
  | app e =>
    obtain ⟨next, hstep, rfl⟩ := Option.map_eq_some_iff.mp h
    exact .app e next hstep
  | refresh =>
    obtain ⟨page, htop, rfl⟩ := Option.map_eq_some_iff.mp h
    exact .refresh page htop
  | refreshed route reloaded =>
    obtain ⟨hin, rfl⟩ := guarded_eq_some.mp h
    exact .refreshed route reloaded hin
  | verifyEmail =>
    obtain ⟨page, htop, rfl⟩ := Option.map_eq_some_iff.mp h
    exact .verifyEmail page htop
  | verified route sent =>
    obtain ⟨hin, rfl⟩ := guarded_eq_some.mp h
    exact .verified route sent hin

/-- **The refinement**: what happens here, seen without the two buttons, is a run of the app. -/
theorem app_of_run {accounts : List String} {currentUser : Option Nat} {es : List Event} {s : State}
    (hrun : (profiles c).exec (.start accounts currentUser) es = some s) :
    ∃ ds, (AttendanceApp.app c).exec (.start accounts currentUser) ds = some s.app := by
  refine (profiles c).exec_simulates (AttendanceApp.app c) (f := State.app) (I := fun _ => True)
    (fun _ _ _ _ _ => trivial) ?_ es _ s trivial hrun
  intro m e m' _ hstep
  cases step_cases hstep with
  | app e next happ => exact ⟨[e], (AttendanceApp.app c).exec_cons_some.mpr ⟨next, happ, rfl⟩⟩
  | refresh page htop => exact ⟨[], rfl⟩
  | refreshed route reloaded hin => exact ⟨[], rfl⟩
  | verifyEmail page htop => exact ⟨[], rfl⟩
  | verified route sent hin => exact ⟨[], rfl⟩

/-- The page on top is mounted. -/
theorem top_mounted {s : State} {page : Nat × Nat} (h : s.top = some page) :
    ∃ r ∈ s.app.nav.mountedRoutes, r.id = page.1 ∧ r.page.user = some page.2 := by
  unfold State.top at h
  split at h
  · rename_i route user matnumber typed rest hstack
    rw [Option.ite_none_left_eq_some] at h
    obtain ⟨-, h⟩ := h
    obtain rfl := Option.some.inj h
    refine ⟨⟨route, .profilePage user matnumber typed⟩, ?_, rfl, rfl⟩
    apply Navigator.mem_mounted_of_mem_stack
    rw [hstack]
    exact List.mem_cons_self
  · cases h

/-! ## What a ProfilePage shows -/

/-- Only routes that exist have been refreshed. -/
structure Numbered (s : State) : Prop where
  app : Attributed s.app
  refreshed : ∀ route, s.app.nav.nextId ≤ route → s.refreshed route = none
  refreshing : ∀ route ∈ s.refreshing, route < s.app.nav.nextId

/-- **The step lemma** of the routes. -/
theorem numbered_step (s : State) (e : Event) (s' : State) (h : Numbered s)
    (hstep : (profiles c).step s e = some s') : Numbered s' := by
  cases step_cases hstep with
  | app e next happ =>
    have hnext := nextId_le_of_step happ
    refine ⟨attributed_step _ e _ h.app happ, ?_, ?_⟩
    · intro route hroute
      exact h.refreshed route (Nat.le_trans hnext hroute)
    · intro route hroute
      exact Nat.lt_of_lt_of_le (h.refreshing route hroute) hnext
  | refresh page htop =>
    obtain ⟨r, hr, hid, -⟩ := top_mounted htop
    refine ⟨h.app, h.refreshed, ?_⟩
    intro route hroute
    rcases List.mem_append.mp hroute with hroute | hroute
    · exact h.refreshing route hroute
    · obtain rfl := List.mem_singleton.mp hroute
      rw [← hid]
      exact h.app.nav.lt r hr
  | refreshed route reloaded hin =>
    have hlt := h.refreshing route hin
    refine ⟨h.app, ?_, ?_⟩
    · intro other hother
      have hne : other ≠ route := by
        have hle : s.app.nav.nextId ≤ other := hother
        omega
      show Function.update s.refreshed route _ other = none
      rw [Function.update_of_ne hne]
      exact h.refreshed other hother
    · intro other hother
      exact h.refreshing other (List.mem_of_mem_erase hother)
  | verifyEmail page htop => exact ⟨h.app, h.refreshed, h.refreshing⟩
  | verified route sent hin => exact ⟨h.app, h.refreshed, h.refreshing⟩

/-- What it is to show one's own account: every ProfilePage that is mounted does, nobody else is
    signed in, and every verification was asked of the account the page was opened for. -/
structure Own (s : State) : Prop where
  alone : Alone s.app
  shown : ∀ r ∈ s.app.nav.mountedRoutes, ∀ user, r.page.user = some user →
    s.currentUser r.id user = user
  verifications : ∀ v ∈ s.verifications, v.user = v.opened

/-- A refresh brings nobody but the page's own account. -/
theorem currentUser_refreshed {s : State} {user route : Nat} {reloaded : Bool}
    (hown : s.currentUser route user = user) (honly : s.app.OnlyUser user) :
    ((s.returned route reloaded).or (s.refreshed route)).getD user = user := by
  cases hreturned : s.returned route reloaded with
  | none => exact hown
  | some u =>
    have hsigned : s.app.currentUser = some u := by
      rw [State.returned, Option.ite_none_right_eq_some] at hreturned
      exact hreturned.2
    exact honly u hsigned

/-- The condition on a step of this machine. -/
def Undisturbed (s : State) : Event → Prop
  | .app e => Quiet s.app e
  | _ => True

instance (s : State) : DecidablePred (Undisturbed s)
  | .app e => inferInstanceAs (Decidable (Quiet s.app e))
  | .refresh => isTrue trivial
  | .refreshed _ _ => isTrue trivial
  | .verifyEmail => isTrue trivial
  | .verified _ _ => isTrue trivial

/-- **The step lemma.** -/
theorem own_step (s : State) (e : Event) (s' : State) (hs : Numbered s) (h : Own s)
    (hquiet : Undisturbed s e) (hstep : (profiles c).step s e = some s') : Own s' := by
  cases step_cases hstep with
  | app e next happ =>
    refine ⟨alone_step h.alone hquiet happ, ?_, h.verifications⟩
    intro r hr user huser
    rcases opens_of_step happ hr with hr | ⟨hnew, -⟩
    · exact h.shown r hr user huser
    · -- a new page has not been refreshed
      show (s.refreshed r.id).getD user = user
      rw [hs.refreshed r.id hnew]
      rfl
  | refresh page htop => exact ⟨h.alone, h.shown, h.verifications⟩
  | refreshed route reloaded hin =>
    refine ⟨h.alone, ?_, h.verifications⟩
    intro r hr user huser
    have hown := h.shown r hr user huser
    show (Function.update s.refreshed route _ r.id).getD user = user
    by_cases hid : r.id = route
    · rw [← hid, Function.update_self]
      exact currentUser_refreshed hown (h.alone.pages r hr user huser)
    · rw [Function.update_of_ne hid]
      exact hown
  | verifyEmail page htop =>
    obtain ⟨r, hr, hid, huser⟩ := top_mounted htop
    have hown := h.shown r hr page.2 huser
    rw [hid] at hown
    refine ⟨h.alone, h.shown, ?_⟩
    intro v hv
    rcases List.mem_append.mp hv with hv | hv
    · exact h.verifications v hv
    · obtain rfl := List.mem_singleton.mp hv
      exact hown
  | verified route sent hin => exact ⟨h.alone, h.shown, h.verifications⟩

theorem numbered_start (accounts : List String) (currentUser : Option Nat) :
    Numbered (.start accounts currentUser) := by
  refine ⟨attributed_start accounts currentUser, fun route _ => rfl, ?_⟩
  intro route hroute
  cases hroute

theorem own_start (accounts : List String) (currentUser : Option Nat) :
    Own (.start accounts currentUser) := by
  refine ⟨alone_start accounts currentUser, fun r _ user _ => rfl, ?_⟩
  intro v hv
  cases hv

/-- **A ProfilePage shows its own account**: in every run in which an account only comes in while
    no ProfilePage is mounted and no registration is still to be completed, whoever is signed in
    when a refresh comes back, every mounted ProfilePage shows the account it was opened for, nobody
    else is signed in, and every verification was asked of the account its page was opened for. -/
theorem profiles_show_signed_in (c : CaseMap) (accounts : List String) (currentUser : Option Nat)
    (es : List Event) (s : State)
    (hrun : (profiles c).exec (.start accounts currentUser) es = some s)
    (hquiet : (profiles c).Along Undisturbed (.start accounts currentUser) es) :
    (∀ r ∈ s.app.nav.mountedRoutes, ∀ user, r.page.user = some user →
      s.currentUser r.id user = user ∧ s.app.OnlyUser user) ∧
    ∀ v ∈ s.verifications, v.user = v.opened := by
  have halways : (profiles c).Always Own (.start accounts currentUser) es :=
    (profiles c).always_of_along numbered_step own_step es _ (numbered_start accounts currentUser)
      (own_start accounts currentUser) hquiet
  have hown : Own s := halways.last _ hrun
  refine ⟨?_, hown.verifications⟩
  intro r hr user huser
  exact ⟨hown.shown r hr user huser, hown.alone.pages r hr user huser⟩

/-- A remembered user asks for a verification, refreshes while it is sent, and signs out; another
    student signs up, and both pages have their reload come back after that. -/
theorem refresh_across_sign_out :
    ∃ s, (profiles .ascii).exec (.start ["17CK023456", "17CK023457"] (some 1))
        [.app (.press .students), .app (.initializeFirebase 1), .refresh, .verifyEmail,
          .app (.press .signOut), .app (.complete (.signOut 2) .done), .app (.dispose 2),
          .app (.press .register), .app (.type "17ck023458"), .app (.press (.signUp true)),
          .app (.complete (.createUser 4 "17ck023458") .done),
          .app (.complete (.updateProfile 4 2) .done), .app (.complete (.reload 4 2) .done),
          .refresh, .verified 2 true, .refreshed 2 true, .refreshed 5 true, .verifyEmail] =
        some s ∧
      (∀ r ∈ s.app.nav.mountedRoutes, ∀ user, r.page.user = some user →
        s.currentUser r.id user = user ∧ s.app.OnlyUser user) ∧
      ∀ v ∈ s.verifications, v.user = v.opened :=
  ⟨_, rfl, profiles_show_signed_in .ascii ["17CK023456", "17CK023457"] (some 1)
    [.app (.press .students), .app (.initializeFirebase 1), .refresh, .verifyEmail,
      .app (.press .signOut), .app (.complete (.signOut 2) .done), .app (.dispose 2),
      .app (.press .register), .app (.type "17ck023458"), .app (.press (.signUp true)),
      .app (.complete (.createUser 4 "17ck023458") .done),
      .app (.complete (.updateProfile 4 2) .done), .app (.complete (.reload 4 2) .done),
      .refresh, .verified 2 true, .refreshed 2 true, .refreshed 5 true, .verifyEmail] _ rfl
    (by decide +kernel)⟩

/-- 'Sign Up' is pressed twice, with two emails: the page of the first account shows the second. -/
example :
    ((profiles .ascii).exec (.start [] none)
        [.app (.press .students), .app (.press .register), .app (.type "17ck023456"),
          .app (.press (.signUp true)), .app (.press (.signUp true)),
          .app (.complete (.createUser 2 "17ck023456") .done),
          .app (.complete (.updateProfile 2 0) .done), .app (.complete (.reload 2 0) .done),
          .app (.complete (.createUser 2 "17ck023456") .done), .refresh,
          .refreshed 3 true]).map (fun s => (s.app.nav.stack.map Route.id, s.currentUser 3 0)) =
      some ([3, 0], 1) := by decide +kernel

end AttendanceApp.Profiles
