/-
  Whose account the ProfilePage of a sign-up shows.

      user = await registerUsingEmailPassword(name: nameText, ..)   -- create, updateProfile, reload
      pushAndRemoveUntil(ProfilePage(user: user, matnumber: nameText.toUpperCase()), ..)

  The matric number is read from the name field when the handler RESUMES, and `user` is then
  `auth.currentUser`, which is global.  The two belong together if nothing has come between: the
  field has not been edited, and no other account has been signed in or created, while the
  registration was under way (`Undisturbed`).

  The invariant (`Registering`) says what a registration in flight can rely on: before its account
  is created the field still holds its name, and from then on both its own account and whoever is
  signed in are registered under the text of the field.
-/
import AttendanceApp.Gates

namespace AttendanceApp

open Transition Dart Navigator

variable {c : CaseMap}

/-- A ProfilePage opened by a sign-up carries the upper-cased name its account was registered
    with. -/
def ShowsRegistered (c : CaseMap) (accounts : List String) : Page → Prop
  | .profilePage user matnumber (some _) =>
    ∃ name, accounts[user]? = some name ∧ matnumber = c.toUpperCase name
  | _ => True

/-- The property of a run: all ProfilePages that are mounted do. -/
def ProfilesRegistered (c : CaseMap) (s : App) : Prop :=
  ∀ r ∈ s.nav.mountedRoutes, ShowsRegistered c s.accounts r.page

/-- The operation is a step of a registration. -/
def Op.registers : Op → Bool
  | .createUser _ _ => true
  | .updateProfile _ _ => true
  | .reload _ _ => true
  | _ => false

/-- It is a step of a registration whose account exists already. -/
def Op.completes : Op → Bool
  | .updateProfile _ _ => true
  | .reload _ _ => true
  | _ => false

/-- The name field is not edited while its form is being registered, and no account is signed in or
    created while another registration is to be completed. -/
def Undisturbed (s : App) : Event → Prop
  | .type _ => ∀ r ∈ s.nav.stack.head?, ∀ op ∈ s.inFlight, op.registers = true → op.route ≠ r.id
  | .complete op reply => op.signsIn reply = true → ∀ op' ∈ s.inFlight, op'.completes = false
  | _ => True

instance (s : App) : DecidablePred (Undisturbed s)
  | .type _ => inferInstanceAs (Decidable (∀ r ∈ s.nav.stack.head?, ∀ op ∈ s.inFlight,
      op.registers = true → op.route ≠ r.id))
  | .complete op reply => inferInstanceAs (Decidable
      (op.signsIn reply = true → ∀ op' ∈ s.inFlight, op'.completes = false))
  | .press _ => isTrue trivial
  | .back => isTrue trivial
  | .dispose _ => isTrue trivial
  | .initializeFirebase _ => isTrue trivial

/-- The account is registered under the text, and so is that of whoever is signed in. -/
def App.Stands (s : App) (user : Nat) (text : String) : Prop :=
  s.accounts[user]? = some text ∧ ∀ u, s.currentUser = some u → s.accounts[u]? = some text

/-- What a registration in flight can rely on. -/
def Op.Relies (s : App) : Op → Prop
  | .createUser route name => s.names route = name
  | .updateProfile route user => s.Stands user (s.names route)
  | .reload route user => s.Stands user (s.names route)
  | _ => True

/-- The invariant. -/
def Registering (s : App) : Prop := ∀ op ∈ s.inFlight, op.Relies s

/-- **What it takes to disturb a registration**: its name field, or, once its account exists, the
    accounts or the user; a sign-out does not matter. -/
theorem Op.Relies.keep {s s' : App} {op : Op} (h : op.Relies s)
    (hname : op.registers = true → s'.names op.route = s.names op.route)
    (haccounts : op.completes = true → s'.accounts = s.accounts ∧
      (s'.currentUser = s.currentUser ∨ s'.currentUser = none)) : op.Relies s' := by
  have hstands : ∀ user text, op.completes = true → s.Stands user text → s'.Stands user text := by
    rintro user text hcompletes ⟨hown, hall⟩
    obtain ⟨hsame, huser⟩ := haccounts hcompletes
    rw [App.Stands, hsame]
    refine ⟨hown, fun u hu => ?_⟩
    rcases huser with hu' | hnone
    · exact hall u (hu' ▸ hu)
    · rw [hnone] at hu
      cases hu
  cases op with
  | createUser route name => exact (hname rfl).trans h
  | updateProfile route user =>
    show s'.Stands user (s'.names route)
    rw [show s'.names route = s.names route from hname rfl]
    exact hstands user _ rfl h
  | reload route user =>
    show s'.Stands user (s'.names route)
    rw [show s'.names route = s.names route from hname rfl]
    exact hstands user _ rfl h
  | _ => trivial

/-- An operation before the account exists does not look at the accounts. -/
theorem Op.Relies.early {s s' : App} {op : Op} (h : op.Relies s) (hearly : op.completes = false)
    (hnames : s'.names = s.names) : op.Relies s' :=
  h.keep (fun _ => by rw [hnames]) fun hcompletes => by rw [hearly] at hcompletes; cases hcompletes

/-! ## One step -/

/-- An edit is of the field of the SignUp page on top. -/
theorem type_of_step {s s' : App} {text : String} (hstep : (app c).step s (.type text) = some s') :
    ∃ r ∈ s.nav.stack.head?, s' = { s with names := Function.update s.names r.id text } := by
  simp only [app, App.step] at hstep
  split at hstep
  · rename_i id rest hstack
    obtain rfl := Option.some.inj hstep
    exact ⟨⟨id, .signUp⟩, by rw [hstack]; rfl, rfl⟩
  · cases hstep

/-- A press registers the text of the name field. -/
theorem press_createUser {name name' : String} {route route' : Nat} {page : Page} {button : Button}
    {reaction : Reaction} (h : page.press c name route button = some reaction)
    (hop : Op.createUser route' name' ∈ reaction.starts) : route' = route ∧ name' = name := by
  rcases (press_cases h).2 with hnil | ⟨op, hone, hstarted⟩
  · rw [hnil] at hop
    cases hop
  · rw [hone] at hop
    obtain rfl := List.mem_singleton.mp hop
    cases hstarted with
    | signUp name' =>
      simp only [Page.press] at h
      split at h
      · obtain rfl := Option.some.inj h
        obtain ⟨-, hname⟩ := Op.createUser.inj (List.cons.inj hone).1
        exact ⟨rfl, hname.symm⟩
      · obtain rfl := Option.some.inj h
        cases hone

/-- A registration that is started relies on the name field as it is now. -/
theorem relies_of_press {s : App} {top : Route Page} {button : Button} {reaction : Reaction}
    (hpress : top.page.press c (s.names top.id) top.id button = some reaction) :
    ∀ op ∈ reaction.starts, op.Relies s := by
  intro op hop
  -- the later steps of a registration are started by no press
  have hfirst : ∀ route user, op ≠ .updateProfile route user ∧ op ≠ .reload route user := by
    intro route user
    rcases (press_cases hpress).2 with hnil | ⟨op', hone, hstarted⟩
    · rw [hnil] at hop
      cases hop
    · rw [hone] at hop
      rw [List.mem_singleton.mp hop]
      exact starts_first hstarted route user
  cases op with
  | createUser route name =>
    obtain ⟨rfl, rfl⟩ := press_createUser hpress hop
    rfl
  | updateProfile route user => exact absurd rfl (hfirst route user).1
  | reload route user => exact absurd rfl (hfirst route user).2
  | _ => trivial

/-- **The step lemma** of registering. -/
theorem registering_step {s s' : App} {e : Event} (h : Registering s)
    (hundisturbed : Undisturbed s e) (hstep : (app c).step s e = some s') : Registering s' := by
  -- a step that touches neither a name nor an account, and may sign the user out
  have hquiet : ∀ {t : App}, t.names = s.names → t.accounts = s.accounts →
      t.currentUser = s.currentUser ∨ t.currentUser = none → (∀ op ∈ t.inFlight, op ∈ s.inFlight) →
      Registering t := fun hnames haccounts huser hsub op hop =>
    (h op (hsub op hop)).keep (fun _ => by rw [hnames]) fun _ => ⟨haccounts, huser⟩
  cases step_cases hstep with
  | press button top rest reaction hstack hpress =>
    intro op hop
    rcases List.mem_append.mp hop with hop | hop
    · exact (h op hop).keep (fun _ => rfl) fun _ => ⟨rfl, Or.inl rfl⟩
    · exact (relies_of_press hpress op hop).keep (fun _ => rfl) fun _ => ⟨rfl, Or.inl rfl⟩
  | back => exact hquiet rfl rfl (Or.inl rfl) fun _ hop => hop
  | type text id =>
    obtain ⟨r, hr, hs'⟩ := type_of_step hstep
    rw [hs']
    intro op hop
    have hother : op.registers = true → op.route ≠ r.id := hundisturbed r hr op hop
    exact (h op hop).keep (fun hregisters => Function.update_of_ne (hother hregisters) _ _)
      fun _ => ⟨rfl, Or.inl rfl⟩
  | dispose route => exact hquiet rfl rfl (Or.inl rfl) fun _ hop => hop
  | nobody route huser => exact h
  | remembered route user huser => exact hquiet rfl rfl (Or.inl rfl) fun _ hop => hop
  | complete op reply _ hop hc =>
    have hleft : ∀ op' ∈ s.inFlight.erase op, op' ∈ s.inFlight := fun _ => List.mem_of_mem_erase
    -- where another account comes in, the registrations in flight have none yet
    have hearly : ∀ {t : App} {op' : Op}, (∀ op ∈ s.inFlight, op.completes = false) →
        t.names = s.names → op' ∈ s.inFlight.erase op → op'.Relies t :=
      fun hnone hnames hop' => (h _ (hleft _ hop')).early (hnone _ (hleft _ hop')) hnames
    cases hc with
    | failed _ _ => exact hquiet rfl rfl (Or.inl rfl) hleft
    | signedIn route user =>
      intro op' hop'
      rw [resume_inFlight] at hop'
      exact hearly (hundisturbed rfl) (resume_names _ _ _) hop'
    | created route name =>
      intro op' hop'
      rcases List.mem_append.mp hop' with hop' | hop'
      · exact hearly (hundisturbed rfl) rfl hop'
      · -- the new account has the name in the field, and is the one signed in
        obtain rfl := List.mem_singleton.mp hop'
        have hname : s.names route = name := h _ hop
        have hnew : (s.accounts ++ [name])[s.accounts.length]? = some (s.names route) := by
          rw [hname, List.getElem?_concat_length]
        refine ⟨hnew, fun u hu => ?_⟩
        obtain rfl := Option.some.inj hu
        exact hnew
    | updated route user =>
      intro op' hop'
      rcases List.mem_append.mp hop' with hop' | hop'
      · exact (h op' (hleft op' hop')).keep (fun _ => rfl) fun _ => ⟨rfl, Or.inl rfl⟩
      · obtain rfl := List.mem_singleton.mp hop'
        have hown : s.Stands user (s.names route) := h _ hop
        exact hown
    | signedOut route =>
      refine hquiet (resume_names _ _ _) (resume_accounts _ _ _) ?_ ?_
      · rw [resume_currentUser]
        exact Or.inr rfl
      · rw [resume_inFlight]
        exact hleft
    | _ =>
      refine hquiet (resume_names _ _ _) (resume_accounts _ _ _) ?_ ?_
      · rw [resume_currentUser]
        exact Or.inl rfl
      · rw [resume_inFlight]
        exact hleft

/-- More accounts take nothing away. -/
theorem ShowsRegistered.mono {accounts accounts' : List String} {page : Page}
    (h : ShowsRegistered c accounts page) (hmore : accounts <+: accounts') :
    ShowsRegistered c accounts' page := by
  cases page with
  | profilePage user matnumber typed =>
    cases typed with
    | none => trivial
    | some text =>
      obtain ⟨name, hname, hmatnumber⟩ := h
      obtain ⟨later, rfl⟩ := hmore
      have hlt : user < accounts.length := (List.getElem?_eq_some_iff.mp hname).1
      exact ⟨name, by rw [List.getElem?_append_left hlt]; exact hname, hmatnumber⟩
  | _ => trivial

/-- A sign-up that resumes opens the page of an account under its own name. -/
theorem showsRegistered_of_opens {s : App} {e : Event} {page : Page} (h : Registering s)
    (hopens : Opens c s e page) : ShowsRegistered c s.accounts page := by
  cases hopens with
  | press button top below _ htop hbelow hleads => cases hleads <;> trivial
  | remembered route user huser => trivial
  | completed op reply _ hop hmounted hbrings =>
    have hrelies := h op hop
    cases hbrings with
    | notUpdated route user => exact ⟨_, hrelies.1, rfl⟩
    | notReloaded route user => exact ⟨_, hrelies.1, rfl⟩
    | reloaded route user user' huser => exact ⟨_, hrelies.2 user' huser, rfl⟩
    | _ => trivial

/-- **A sign-up shows the account it has registered**: in every run in which no form is edited while
    it is being registered, and no account is signed in or created while another registration is to
    be completed, every ProfilePage that a sign-up has opened carries the upper-cased name its
    account was registered with. -/
theorem sign_ups_show_registered (c : CaseMap) (accounts : List String) (currentUser : Option Nat)
    (es : List Event) (hundisturbed : (app c).Along Undisturbed (.start accounts currentUser) es) :
    (app c).Always (ProfilesRegistered c) (.start accounts currentUser) es := by
  have hboth := (app c).always_of_along (I := fun _ => True)
    (P := fun s => Registering s ∧ ProfilesRegistered c s) (C := Undisturbed)
    (fun _ _ _ _ _ => trivial) (fun s e s' _ ⟨hregistering, hprofiles⟩ hC hstep => by
      refine ⟨registering_step hregistering hC hstep, fun r hr => ?_⟩
      have hmore := accounts_of_step hstep
      rcases opens_of_step hstep hr with hr | ⟨-, hopens⟩
      · exact (hprofiles r hr).mono hmore
      · exact (showsRegistered_of_opens hregistering hopens).mono hmore) es
    (.start accounts currentUser) trivial
    ⟨fun _ hop => absurd hop List.not_mem_nil,
      fun r hr => by cases List.mem_singleton.mp hr; trivial⟩ hundisturbed
  exact hboth.imp (app c) fun _ h => h.2

/-- Two students sign up on one phone, one after the other. -/
theorem two_sign_ups_registered :
    (app .ascii).Always (ProfilesRegistered .ascii) (.start [] none)
      [.press .students, .press .register, .type "17ck023456", .press (.signUp true),
        .complete (.createUser 2 "17ck023456") .done, .complete (.updateProfile 2 0) .done,
        .complete (.reload 2 0) .done, .press .signOut, .complete (.signOut 3) .done,
        .press .register, .type "17ck023457", .press (.signUp true),
        .complete (.createUser 5 "17ck023457") .done, .complete (.updateProfile 5 1) .failed] :=
  sign_ups_show_registered .ascii [] none
    [.press .students, .press .register, .type "17ck023456", .press (.signUp true),
      .complete (.createUser 2 "17ck023456") .done, .complete (.updateProfile 2 0) .done,
      .complete (.reload 2 0) .done, .press .signOut, .complete (.signOut 3) .done,
      .press .register, .type "17ck023457", .press (.signUp true),
      .complete (.createUser 5 "17ck023457") .done, .complete (.updateProfile 5 1) .failed]
    (by decide +kernel)

end AttendanceApp
