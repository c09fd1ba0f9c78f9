/-
  `lib/Register/Signup_page.dart` and `lib/utils/firebase_auth.dart`: registrations that overlap.

  `registerUsingEmailPassword` awaits three times, and between two of its awaits the registrations
  of other phones, and those of further presses on the same form, go on against the same accounts.
  Here each call is a program that stops at every `await` (`registering`), made of the steps of
  `FireAuth.lean`; the calls may come in any number and their awaits in any order.

  Two things are shared: the accounts, and on each phone `auth.currentUser`, which the first request
  of a registration sets and its last step reads.  Sign-ins and sign-outs set it as well, and are
  programs of one step.

  What is left in the end is as good as of calls made one after the other, in the order in which
  Firebase answered their `createUserWithEmailAndPassword` (`registrations_serializable`): from then
  on a registration only writes the name of the account it made, and whoever comes later with the
  same email is refused whether the account has its name yet or not.  The user a call RETURNS is a
  different matter: it is whoever is signed in when the reload comes through, and another press on
  the same phone may have changed that.
-/
import AttendanceApp.FireAuth
import AttendanceApp.Serial

namespace AttendanceApp.Registrations

open AttendanceApp.Transition Serial FireAuth Validator

/-! ## What the calls share -/

/-- The accounts, and `auth.currentUser` of each phone. -/
structure Firebase where
  store : Store
  currentUser : Nat → Option User

/-- The user of a phone changes. -/
def Firebase.signIn (s : Firebase) (phone : Nat) (user : Option User) : Firebase :=
  { s with currentUser := Function.update s.currentUser phone user }

/-! ## A registration, from await to await -/

/-- What Firebase will answer to the requests of a call. -/
structure Answers where
  createUser : Except Exception Unit
  updateProfile : Except Exception Unit
  reload : Except Exception Unit

/-- What a call is made with, the phone it is made on, and how its requests will be answered. -/
structure Call where
  phone : Nat
  name : Text
  email : Text
  password : Text
  answers : Answers

/-- The answers together with what `auth.currentUser` reads. -/
def Call.replies (x : Call) (currentUser : Option User) : Replies where
  createUser := x.answers.createUser
  updateProfile := x.answers.updateProfile
  reload := x.answers.reload
  currentUser := .ok currentUser

/-- The call at one go: the user of its phone is then the one it has made. -/
def Call.register (x : Call) (s : Firebase) : Firebase × Option User :=
  let made :=
    registerUsingEmailPassword (x.replies (some ⟨x.email⟩)) x.name x.email x.password s.store
  match made.2 with
  | none => ({ s with store := made.1 }, none)
  | some user => ({ s with store := made.1 }.signIn x.phone (some user), some user)

/-- The operation a call awaits, with the `user` it holds, or how it has ended. -/
inductive Phase where
  | createUser
  | updateProfile (user : User)
  | reload (user : User)
  /-- The first request has thrown: the call has returned null. -/
  | refused
  | returned (user : Option User)
  deriving DecidableEq, Repr

/-- The call has returned. -/
def Phase.ended : Phase → Bool
  | .refused => true
  | .returned _ => true
  | _ => false

/-- What a call that has ended has returned. -/
def Phase.result : Phase → Option User
  | .returned user => user
  | _ => none

/-- One await more. -/
def Call.advance (x : Call) : Phase → Firebase → Firebase × Phase
  | .createUser, s =>
    match (createUserWithEmailAndPassword (x.replies (s.currentUser x.phone)) x.email
      x.password).runFrom ⟨s.store, none⟩ with
    | (.ok user, l) => ({ s with store := l.store }.signIn x.phone (some user), .updateProfile user)
    | (.error _, l) => ({ s with store := l.store }, .refused)
  | .updateProfile user, s =>
    match (FireAuth.updateProfile (x.replies (s.currentUser x.phone)) user x.name).runFrom
      ⟨s.store, some user⟩ with
    | (.ok _, l) => ({ s with store := l.store }, .reload user)
    | (.error _, l) => ({ s with store := l.store }, .returned l.user)
  -- `auth.currentUser` is read as soon as the reload has come through
  | .reload user, s =>
    match x.answers.reload with
    | .ok _ => (s, .returned (s.currentUser x.phone))
    | .error _ => (s, .returned (some user))
  | .refused, s => (s, .refused)
  | .returned user, s => (s, .returned user)

/-- What is done at Firebase. -/
inductive Act where
  | register (x : Call)
  /-- Somebody signs in on a phone, or out (`none`). -/
  | session (phone : Nat) (user : Option User)

/-- The phone it is done on. -/
def Act.phone : Act → Nat
  | .register x => x.phone
  | .session phone _ => phone

/-- One await more; a sign-in or sign-out has only one. -/
def Act.advance : Act → Phase → Firebase → Firebase × Phase
  | .register x, p, s => x.advance p s
  | .session phone user, _, s => (s.signIn phone user, .returned user)

/-- `registerUsingEmailPassword`, stopping at every `await`, and what else there is. -/
def registering : Program Firebase Act Phase where
  entry := .createUser
  advance := Act.advance
  ended := Phase.ended

/-! ## What each step does -/

/-- The name goes to the account that is there. -/
def named (store : Store) (email name : Text) : Store :=
  Function.update store email ((store email).map fun a => { a with displayName := some name })

/-- The name goes to an account at Firebase. -/
def Firebase.named (s : Firebase) (email name : Text) : Firebase :=
  { s with store := Registrations.named s.store email name }

/-- An account is made, and its user is signed in on the phone. -/
def Firebase.granted (s : Firebase) (x : Call) (displayName : Option Text) : Firebase :=
  { s with store := withAccount s.store x.email x.password displayName }.signIn x.phone
    (some ⟨x.email⟩)

section Steps

variable (x : Call) (s : Firebase)

/-- The first await: a taken email or an error refuses the registration. -/
theorem advance_createUser :
    x.advance .createUser s =
      if (s.store x.email).isSome then (s, .refused)
      else
        match x.answers.createUser with
        | .error _ => (s, .refused)
        | .ok () => (s.granted x none, .updateProfile ⟨x.email⟩) := by
  simp only [Call.advance, runFrom_createUser, Call.replies]
  by_cases htaken : (s.store x.email).isSome = true
  · rw [if_pos htaken, if_pos htaken]
  · rw [if_neg htaken, if_neg htaken]
    cases x.answers.createUser with
    | error e => rfl
    | ok _ => rfl

/-- An email that has an account is refused. -/
theorem advance_refused (h : (s.store x.email).isSome = true) :
    x.advance .createUser s = (s, .refused) := by
  rw [advance_createUser, if_pos h]

/-- The second await: an error is caught, and the user is returned without a name. -/
theorem advance_updateProfile (user : User) :
    x.advance (.updateProfile user) s =
      match x.answers.updateProfile with
      | .error _ => (s, .returned (some user))
      | .ok () => (s.named user.email x.name, .reload user) := by
  cases hreply : x.answers.updateProfile with
  | error e =>
    simp [Call.advance, Attempt.runFrom, FireAuth.updateProfile, Call.replies, hreply, StateT.run,
      ExceptT.run, ExceptT.mk]
  | ok _ =>
    simp [Call.advance, Attempt.runFrom, FireAuth.updateProfile, Call.replies, hreply, StateT.run,
      ExceptT.run, ExceptT.mk, Firebase.named, Registrations.named]

/-- The last step changes nothing, and ends the call. -/
theorem advance_reload (user : User) :
    ∃ result, x.advance (.reload user) s = (s, .returned result) := by
  unfold Call.advance
  cases x.answers.reload with
  | error e => exact ⟨some user, rfl⟩
  | ok _ => exact ⟨s.currentUser x.phone, rfl⟩

end Steps

/-! ## A call on its own -/

/-- The account that was just made gets its name. -/
theorem named_granted (s : Firebase) (x : Call) (name : Text) :
    (s.granted x none).named x.email name = s.granted x (some name) := by
  have hstore : named (withAccount s.store x.email x.password none) x.email name =
      withAccount s.store x.email x.password (some name) := by
    unfold named withAccount
    rw [Function.update_self, Function.update_idem]
    rfl
  unfold Firebase.named Firebase.granted Firebase.signIn
  rw [hstore]

/-- **What a call at one go does**: it is refused, or makes an account for its email, signs its user
    in and returns him, whatever becomes of its later requests. -/
theorem register_eq_granted (x : Call) (s : Firebase) :
    x.register s =
      if (s.store x.email).isSome then (s, none)
      else
        match x.answers.createUser with
        | .error _ => (s, none)
        | .ok () =>
          (s.granted x (if x.answers.updateProfile.isOk then some x.name else none),
            some ⟨x.email⟩) := by
  unfold Call.register
  rw [register_eq]
  by_cases htaken : (s.store x.email).isSome = true
  · rw [if_pos htaken, if_pos htaken]
  rw [if_neg htaken, if_neg htaken]
  simp only [Call.replies]
  cases x.answers.createUser with
  | error e => rfl
  | ok _ =>
    cases x.answers.updateProfile with
    | error e => rfl
    | ok _ => cases x.answers.reload <;> rfl

/-- What a call at one go returns is null or its own user. -/
theorem register_result (x : Call) (s : Firebase) :
    (x.register s).2 = none ∨ (x.register s).2 = some ⟨x.email⟩ := by
  rw [register_eq_granted]
  by_cases htaken : (s.store x.email).isSome = true
  · rw [if_pos htaken]
    exact Or.inl rfl
  · rw [if_neg htaken]
    cases x.answers.createUser with
    | error e => exact Or.inl rfl
    | ok _ => exact Or.inr rfl

/-- How a call ends that has returned this. -/
def Phase.ofResult : Option User → Phase
  | none => .refused
  | some user => .returned (some user)

/-- A call that has ended after `m` steps has ended after three. -/
theorem after_three_of_ended {a : Act} {s t : Firebase} {p : Phase} {m : Nat}
    (h : registering.after a s m = (t, p)) (hend : p.ended = true) (hle : m ≤ 3) :
    registering.after a s 3 = (t, p) := by
  rw [← h]
  apply after_of_ended _ hle
  rw [h]
  exact hend

/-- The next step of a call that has not ended. -/
theorem after_next {a : Act} {s t : Firebase} {p : Phase} {m : Nat}
    (h : registering.after a s m = (t, p)) (hend : p.ended = false) :
    registering.after a s (m + 1) = a.advance p t := by
  have hlive : registering.ended (registering.after a s m).2 = false := by
    rw [h]
    exact hend
  rw [after_succ hlive, h]
  rfl

/-- **A call that nothing interrupts is the function of the source.** -/
theorem after_three (x : Call) (s : Firebase) :
    registering.after (.register x) s 3 = ((x.register s).1, .ofResult (x.register s).2) := by
  have hone : registering.after (.register x) s 1 = x.advance .createUser s := rfl
  rw [advance_createUser] at hone
  rw [register_eq_granted]
  by_cases htaken : (s.store x.email).isSome = true
  · rw [if_pos htaken] at hone ⊢
    exact after_three_of_ended hone rfl (by omega)
  rw [if_neg htaken] at hone ⊢
  cases hcreate : x.answers.createUser with
  | error e =>
    rw [hcreate] at hone
    exact after_three_of_ended hone rfl (by omega)
  | ok _ =>
    rw [hcreate] at hone
    have htwo : registering.after (.register x) s 2 =
        x.advance (.updateProfile ⟨x.email⟩) (s.granted x none) := after_next hone rfl
    rw [advance_updateProfile] at htwo
    cases hupdate : x.answers.updateProfile with
    | error e =>
      rw [hupdate] at htwo
      exact after_three_of_ended htwo rfl (by omega)
    | ok _ =>
      rw [hupdate] at htwo
      simp only [named_granted] at htwo
      rw [after_next htwo rfl]
      -- the user of the phone is the one the call has just made
      have hcurrent : (s.granted x (some x.name)).currentUser x.phone = some ⟨x.email⟩ :=
        Function.update_self ..
      show x.advance (.reload ⟨x.email⟩) _ = _
      unfold Call.advance
      cases x.answers.reload with
      | error e => rfl
      | ok _ =>
        simp only [hcurrent]
        rfl

theorem after_session (phone : Nat) (user : Option User) (s : Firebase) :
    registering.after (.session phone user) s 3 = (s.signIn phone user, .returned user) :=
  after_three_of_ended (m := 1) rfl rfl (by omega)

/-- No call has more than three awaits. -/
theorem endsWithin_three : registering.EndsWithin 3 := by
  intro a s
  cases a with
  | register x =>
    rw [after_three]
    cases (x.register s).2 <;> rfl
  | session phone user =>
    rw [after_session]
    rfl

/-! ## Moving a registration past the others -/

/-- The ends of a call are alike when both or neither of them is a refusal. -/
def Alike (p q : Phase) : Prop := p = .refused ↔ q = .refused

theorem returned_ne_refused {user : Option User} : Phase.returned user ≠ .refused := by
  intro h
  cases h

/-- A call under way has made an account for its email. -/
def Claims : Act → Phase → Firebase → Prop
  | _, .createUser, _ => False
  | .register x, .updateProfile user, s => user = ⟨x.email⟩ ∧ (s.store x.email).isSome = true
  | .register x, .reload user, s => user = ⟨x.email⟩ ∧ (s.store x.email).isSome = true
  | .session _ _, .updateProfile _, _ => False
  | .session _ _, .reload _, _ => False
  | _, .refused, _ => True
  | _, .returned _, _ => True

theorem isSome_named {store : Store} {email email' name : Text} (h : (store email).isSome = true) :
    (named store email' name email).isSome = true := by
  unfold named
  by_cases hemail : email = email'
  · subst hemail
    rw [Function.update_self, Option.isSome_map]
    exact h
  · rw [Function.update_of_ne hemail]
    exact h

theorem isSome_withAccount {store : Store} {email email' password : Text}
    {displayName : Option Text} (h : (store email).isSome = true) :
    (withAccount store email' password displayName email).isSome = true := by
  unfold withAccount
  by_cases hemail : email = email'
  · subst hemail
    rw [Function.update_self]
    rfl
  · rw [Function.update_of_ne hemail]
    exact h

/-- No step removes an account. -/
theorem isSome_advance {email : Text} (a : Act) (q : Phase) {s : Firebase}
    (h : (s.store email).isSome = true) : ((a.advance q s).1.store email).isSome = true := by
  cases a with
  | session phone user => exact h
  | register y =>
    show ((y.advance q s).1.store email).isSome = true
    cases q with
    | createUser =>
      rw [advance_createUser]
      split
      · exact h
      · cases y.answers.createUser with
        | error e => exact h
        | ok _ => exact isSome_withAccount h
    | updateProfile user =>
      rw [advance_updateProfile]
      cases y.answers.updateProfile with
      | error e => exact h
      | ok _ => exact isSome_named h
    | reload user =>
      obtain ⟨result, hresult⟩ := advance_reload y s user
      rw [hresult]
      exact h
    | refused => exact h
    | returned user => exact h

theorem isSome_after {email : Text} (a : Act) {s : Firebase} (h : (s.store email).isSome = true)
    (n : Nat) : ((registering.after a s n).1.store email).isSome = true := by
  induction n with
  | zero => exact h
  | succ n ih =>
    cases hend : registering.ended (registering.after a s n).2 with
    | true =>
      rw [after_of_ended hend (Nat.le_succ n)]
      exact ih
    | false =>
      rw [after_succ hend]
      exact isSome_advance a _ ih

/-- Where a call stands that began when `email` had an account: one for that very email can only be
    refused, and another works on its own email. -/
def Apart (email : Text) : Act → Phase → Prop
  | .register y, .updateProfile user => user.email = y.email ∧ y.email ≠ email
  | .register y, .reload _ => y.email ≠ email
  | _, _ => True

/-- A call that is apart stays apart. -/
theorem apart_advance {email : Text} {a : Act} {q : Phase} {s : Firebase}
    (h : (s.store email).isSome = true) (hapart : Apart email a q) :
    Apart email a (a.advance q s).2 := by
  cases a with
  | session phone user => trivial
  | register y =>
    show Apart email (.register y) (y.advance q s).2
    cases q with
    | createUser =>
      rw [advance_createUser]
      by_cases htaken : (s.store y.email).isSome = true
      · rw [if_pos htaken]
        trivial
      · rw [if_neg htaken]
        cases y.answers.createUser with
        | error e => trivial
        | ok _ =>
          refine ⟨rfl, ?_⟩
          rintro rfl
          exact htaken h
    | updateProfile user =>
      rw [advance_updateProfile]
      cases y.answers.updateProfile with
      | error e => trivial
      | ok _ => exact hapart.2
    | reload user =>
      obtain ⟨result, hresult⟩ := advance_reload y s user
      rw [hresult]
      trivial
    | refused => trivial
    | returned user => trivial

/-- Making another account and giving a name can be exchanged. -/
theorem granted_named {s : Firebase} {y : Call} {email name : Text} (hemail : y.email ≠ email) :
    (s.named email name).granted y none = (s.granted y none).named email name := by
  have hstore : withAccount (named s.store email name) y.email y.password none =
      named (withAccount s.store y.email y.password none) email name := by
    unfold withAccount named
    rw [Function.update_comm hemail, Function.update_of_ne (Ne.symm hemail)]
  unfold Firebase.named Firebase.granted Firebase.signIn
  rw [hstore]

/-- Two names of two accounts can be given in either order. -/
theorem named_named {s : Firebase} {email email' name name' : Text} (hemail : email' ≠ email) :
    (s.named email name).named email' name' = (s.named email' name').named email name := by
  have hstore : named (named s.store email name) email' name' =
      named (named s.store email' name') email name := by
    unfold named
    rw [Function.update_comm hemail, Function.update_of_ne hemail,
      Function.update_of_ne (Ne.symm hemail)]
  unfold Firebase.named
  rw [hstore]

/-- A name is as well given before a step of another call as after it. -/
theorem advance_named {email name : Text} {a : Act} {q : Phase} {s : Firebase}
    (h : (s.store email).isSome = true) (hapart : Apart email a q) :
    a.advance q (s.named email name) =
      ((a.advance q s).1.named email name, (a.advance q s).2) := by
  cases a with
  | session phone user => rfl
  | register y =>
    show y.advance q (s.named email name) = ((y.advance q s).1.named email name, (y.advance q s).2)
    cases q with
    | createUser =>
      by_cases hemail : y.email = email
      · subst hemail
        have hthere : ((s.named y.email name).store y.email).isSome = true := isSome_named h
        rw [advance_refused y _ hthere, advance_refused y _ h]
      · have hsame : (s.named email name).store y.email = s.store y.email :=
          Function.update_of_ne hemail _ _
        rw [advance_createUser, advance_createUser, hsame]
        by_cases htaken : (s.store y.email).isSome = true
        · rw [if_pos htaken, if_pos htaken]
        · rw [if_neg htaken, if_neg htaken]
          cases y.answers.createUser with
          | error e => rfl
          | ok _ => simp only [granted_named hemail]
    | updateProfile user =>
      obtain ⟨huser, hemail⟩ := hapart
      rw [advance_updateProfile, advance_updateProfile, huser]
      cases y.answers.updateProfile with
      | error e => rfl
      | ok _ => simp only [named_named hemail]
    | reload user =>
      show y.advance (.reload user) _ = _
      unfold Call.advance
      cases y.answers.reload with
      | error e => rfl
      | ok _ => rfl
    | refused => rfl
    | returned user => rfl

/-- A name is as well given before another call as after it. -/
theorem after_named {email name : Text} (a : Act) {s : Firebase}
    (h : (s.store email).isSome = true) (n : Nat) :
    registering.after a (s.named email name) n =
        ((registering.after a s n).1.named email name, (registering.after a s n).2) ∧
      Apart email a (registering.after a s n).2 := by
  induction n with
  | zero =>
    refine ⟨rfl, ?_⟩
    cases a with
    | register y => trivial
    | session phone user => trivial
  | succ n ih =>
    obtain ⟨hafter, hapart⟩ := ih
    have hphase : (registering.after a (s.named email name) n).2 = (registering.after a s n).2 := by
      rw [hafter]
    cases hend : registering.ended (registering.after a s n).2 with
    | true =>
      rw [after_of_ended hend (Nat.le_succ n), after_of_ended (hphase ▸ hend) (Nat.le_succ n)]
      exact ⟨hafter, hapart⟩
    | false =>
      have hsome := isSome_after a h n
      rw [after_succ hend, after_succ (hphase ▸ hend), hafter]
      exact ⟨advance_named hsome hapart, apart_advance hsome hapart⟩

/-- What a call that has begun claims, it claims after each further step. -/
theorem claims_next (a : Act) (p : Phase) (s : Firebase) (hclaims : Claims a p s)
    (hend : p.ended = false) : Claims a (a.advance p s).2 (a.advance p s).1 := by
  cases p with
  | createUser => cases a <;> cases hclaims
  | updateProfile user =>
    cases a with
    | session phone user => cases hclaims
    | register x =>
      obtain ⟨rfl, hsome⟩ := hclaims
      show Claims _ (x.advance (.updateProfile ⟨x.email⟩) s).2 _
      rw [advance_updateProfile]
      cases hreply : x.answers.updateProfile with
      | error e => trivial
      | ok _ => exact ⟨rfl, isSome_advance (.register x) (.updateProfile ⟨x.email⟩) hsome⟩
  | reload user =>
    cases a with
    | session phone user => cases hclaims
    | register x =>
      obtain ⟨result, hresult⟩ := advance_reload x s user
      show Claims _ (x.advance (.reload user) s).2 _
      rw [hresult]
      trivial
  | refused => cases hend
  | returned user => cases hend

/-- The claim lasts, whatever the others do. -/
theorem claims_kept (a : Act) (p : Phase) (s : Firebase) (hclaims : Claims a p s) (b : Act)
    (n : Nat) : Claims a p (registering.after b s n).1 := by
  cases p with
  | createUser => cases a <;> cases hclaims
  | updateProfile user =>
    cases a with
    | session phone user => cases hclaims
    | register x => exact ⟨hclaims.1, isSome_after b hclaims.2 n⟩
  | reload user =>
    cases a with
    | session phone user => cases hclaims
    | register x => exact ⟨hclaims.1, isSome_after b hclaims.2 n⟩
  | refused => cases a <;> trivial
  | returned user => cases a <;> trivial

/-- **Registrations are movable.**  The last step of one reads `auth.currentUser`, so what it
    returns depends on what it is moved past; but it returns. -/
theorem movable : registering.Movable Alike Claims where
  trans := fun _ _ _ hpq hqr => hpq.trans hqr
  entry := rfl
  first := by
    intro a s
    cases a with
    | session phone user => trivial
    | register x =>
      show Claims _ (x.advance .createUser s).2 (x.advance .createUser s).1
      rw [advance_createUser]
      split
      · trivial
      · cases x.answers.createUser with
        | error e => trivial
        | ok _ =>
          refine ⟨rfl, ?_⟩
          show (withAccount s.store x.email x.password none x.email).isSome = true
          rw [withAccount_self]
          rfl
  next := claims_next
  kept := claims_kept
  moves := by
    intro a p s hclaims hend b n
    cases p with
    | createUser => cases a <;> cases hclaims
    | updateProfile user =>
      cases a with
      | session phone user => cases hclaims
      | register x =>
        obtain ⟨rfl, hsome⟩ := hclaims
        show registering.after b (x.advance (.updateProfile ⟨x.email⟩) s).1 n =
            ((x.advance (.updateProfile ⟨x.email⟩) (registering.after b s n).1).1, _) ∧
          registering.Meets Alike
            (x.advance (.updateProfile ⟨x.email⟩) (registering.after b s n).1).2
            (x.advance (.updateProfile ⟨x.email⟩) s).2
        rw [advance_updateProfile, advance_updateProfile]
        cases x.answers.updateProfile with
        | error e => exact ⟨rfl, Or.inl rfl⟩
        | ok _ => exact ⟨(after_named b hsome n).1, Or.inl rfl⟩
    | reload user =>
      cases a with
      | session phone user => cases hclaims
      | register x =>
        obtain ⟨there, hthere⟩ := advance_reload x (registering.after b s n).1 user
        obtain ⟨here, hhere⟩ := advance_reload x s user
        show registering.after b (x.advance (.reload user) s).1 n =
            ((x.advance (.reload user) (registering.after b s n).1).1, _) ∧
          registering.Meets Alike (x.advance (.reload user) (registering.after b s n).1).2
            (x.advance (.reload user) s).2
        rw [hthere, hhere]
        refine ⟨rfl, Or.inr ⟨rfl, rfl, ?_⟩⟩
        exact iff_of_false returned_ne_refused returned_ne_refused
    | refused => cases hend
    | returned user => cases hend

/-! ## Overlapping registrations -/

/-- What is done, at one go. -/
def Act.perform : Act → Firebase → Firebase
  | .register x, s => (x.register s).1
  | .session phone user, s => s.signIn phone user

/-- Call `i`, made at one go. -/
def performTurn (calls : List (Act × Phase)) (s : Firebase) (i : Nat) : Firebase :=
  match calls[i]? with
  | some (a, _) => a.perform s
  | none => s

/-- The calls of the list, one after the other. -/
def performAll (calls : List (Act × Phase)) (order : List Nat) (s : Firebase) : Firebase :=
  order.foldl (performTurn calls) s

/-- Three steps in a row are the call at one go. -/
theorem after_three_perform (a : Act) (s : Firebase) :
    (registering.after a s 3).1 = a.perform s := by
  cases a with
  | register x => rw [after_three]; rfl
  | session phone user => rw [after_session]; rfl

/-- The serial run of the library is the calls at one go, one after the other. -/
theorem serial_eq_performAll (t : State Firebase Act Phase) (l : List Nat) (s : Firebase) :
    registering.serial t.data (fun _ => 3) l s = performAll t.calls l s := by
  induction l generalizing s with
  | nil => rfl
  | cons i rest ih =>
    have hturn : registering.turn t.data 3 i s = performTurn t.calls s i := by
      unfold Program.turn State.data performTurn
      cases t.calls[i]? with
      | none => rfl
      | some c => exact after_three_perform c.1 s
    show registering.serial t.data _ rest (registering.turn t.data 3 i s) = _
    rw [hturn]
    exact ih _

section Run

variable {s₀ : Firebase} {es : List (Serial.Event Act)} {t t' : State Firebase Act Phase}

/-- Once all calls have returned, what they share is that of the serial run. -/
theorem shared_of_run (hrun : registering.interleaving.exec ⟨s₀, []⟩ es = some t)
    (hended : ∀ c ∈ t.calls, c.2.ended = true) : t.shared = performAll t.calls (order es) s₀ := by
  obtain ⟨hshared, -⟩ := serializable movable endsWithin_three hrun hended
  rw [hshared, serial_eq_performAll]

/-- A refusal in the run is a refusal in the serial run. -/
theorem refused_of_run (hrun : registering.interleaving.exec ⟨s₀, []⟩ es = some t)
    (hended : ∀ c ∈ t.calls, c.2.ended = true) {pre post : List Nat} {i : Nat}
    (hsplit : order es = pre ++ i :: post) {x : Call} {p : Phase}
    (hcall : t.calls[i]? = some (.register x, p)) :
    p = .refused ↔ (x.register (performAll t.calls pre s₀)).2 = none := by
  obtain ⟨-, hphases⟩ := serializable movable endsWithin_three hrun hended
  have hmeets := hphases pre i post hsplit _ p hcall
  rw [serial_eq_performAll, after_three] at hmeets
  have halike : p = .refused ↔
      Phase.ofResult (x.register (performAll t.calls pre s₀)).2 = .refused := by
    rcases hmeets with hsame | ⟨-, -, halike⟩
    · rw [hsame]
    · exact halike
  rw [halike]
  cases (x.register (performAll t.calls pre s₀)).2 with
  | none => exact iff_of_true rfl rfl
  | some user => exact iff_of_false returned_ne_refused (Option.some_ne_none user)

/-! ## What a call returns -/

/-- Nothing else is done on the phone. -/
def Alone (calls : List (Act × Phase)) (i phone : Nat) : Prop :=
  ∀ j c, calls[j]? = some c → c.1.phone = phone → j = i

/-- Where a call stands that is alone on its phone: its own user is signed in there. -/
def Own (x : Call) (s : Firebase) : Phase → Prop
  | .createUser => True
  | .updateProfile user => user = ⟨x.email⟩ ∧ s.currentUser x.phone = some ⟨x.email⟩
  | .reload user => user = ⟨x.email⟩ ∧ s.currentUser x.phone = some ⟨x.email⟩
  | .refused => True
  | .returned user => user = some ⟨x.email⟩

/-- A step changes the user of its own phone only. -/
theorem currentUser_advance {a : Act} {phone : Nat} (hphone : a.phone ≠ phone) (p : Phase)
    (s : Firebase) : (a.advance p s).1.currentUser phone = s.currentUser phone := by
  cases a with
  | session there user => exact Function.update_of_ne (Ne.symm hphone) _ _
  | register x =>
    show (x.advance p s).1.currentUser phone = _
    cases p with
    | createUser =>
      rw [advance_createUser]
      split
      · rfl
      · cases x.answers.createUser with
        | error e => rfl
        | ok _ => exact Function.update_of_ne (Ne.symm hphone) _ _
    | updateProfile user =>
      rw [advance_updateProfile]
      cases x.answers.updateProfile with
      | error e => rfl
      | ok _ => rfl
    | reload user =>
      obtain ⟨result, hresult⟩ := advance_reload x s user
      rw [hresult]
    | refused => rfl
    | returned user => rfl

/-- A call that is alone on its phone goes on with its own user. -/
theorem own_advance {x : Call} {p : Phase} {s : Firebase} (h : Own x s p) :
    Own x (x.advance p s).1 (x.advance p s).2 := by
  cases p with
  | createUser =>
    rw [advance_createUser]
    split
    · trivial
    · cases x.answers.createUser with
      | error e => trivial
      | ok _ => exact ⟨rfl, Function.update_self ..⟩
  | updateProfile user =>
    obtain ⟨rfl, hcurrent⟩ := h
    rw [advance_updateProfile]
    cases x.answers.updateProfile with
    | error e => exact rfl
    | ok _ => exact ⟨rfl, hcurrent⟩
  | reload user =>
    obtain ⟨rfl, hcurrent⟩ := h
    unfold Call.advance
    cases x.answers.reload with
    | error e => exact rfl
    | ok _ => exact hcurrent
  | refused => trivial
  | returned user => exact h

/-- The invariant: every registration that is alone on its phone is its own. -/
def Owned (t : State Firebase Act Phase) : Prop :=
  ∀ i x p, t.calls[i]? = some (.register x, p) → Alone t.calls i x.phone → Own x t.shared p

/-- **The step lemma** of the users returned. -/
theorem owned_step (t : State Firebase Act Phase) (e : Serial.Event Act)
    (t' : State Firebase Act Phase) (h : Owned t)
    (hstep : registering.interleaving.step t e = some t') : Owned t' := by
  cases Serial.step_cases hstep with
  | call a =>
    intro i x p hcall halone
    by_cases hold : i < t.calls.length
    · rw [List.getElem?_append_left hold] at hcall
      refine h i x p hcall fun j c hc hphone => halone j c ?_ hphone
      rw [List.getElem?_append_left (List.getElem?_eq_some_iff.mp hc).1]
      exact hc
    · -- the new call has not begun
      obtain rfl : i = t.calls.length := by
        have hlt := (List.getElem?_eq_some_iff.mp hcall).1
        rw [List.length_append, List.length_singleton] at hlt
        omega
      rw [List.getElem?_concat_length] at hcall
      cases hcall
      trivial
  | resume j a q hcall hend =>
    intro i x p hi halone
    have hkept : Alone t.calls i x.phone := by
      intro k c hc hphone
      by_cases hk : j = k
      · subst hk
        obtain rfl : c = (a, q) := Option.some.inj (hc.symm.trans hcall)
        refine halone j (a, (registering.advance a q t.shared).2) ?_ hphone
        rw [List.getElem?_set_self (List.getElem?_eq_some_iff.mp hcall).1]
      · refine halone k c ?_ hphone
        rw [List.getElem?_set_ne hk]
        exact hc
    by_cases hij : j = i
    · subst hij
      rw [List.getElem?_set_self (List.getElem?_eq_some_iff.mp hcall).1] at hi
      cases hi
      exact own_advance (h j x q hcall hkept)
    · rw [List.getElem?_set_ne hij] at hi
      have hphone : a.phone ≠ x.phone := fun hphone => hij (hkept j (a, q) hcall hphone)
      have hsame : (registering.advance a q t.shared).1.currentUser x.phone =
          t.shared.currentUser x.phone := currentUser_advance hphone q t.shared
      have hown := h i x p hi hkept
      cases p with
      | createUser => trivial
      | updateProfile user => exact ⟨hown.1, hsame.trans hown.2⟩
      | reload user => exact ⟨hown.1, hsame.trans hown.2⟩
      | refused => trivial
      | returned user => exact hown

/-- **The run lemma.** -/
theorem owned_of_run (hrun : registering.interleaving.exec ⟨s₀, []⟩ es = some t) : Owned t :=
  registering.interleaving.exec_invariant owned_step es _ t
    (fun i x p hcall => by rw [List.getElem?_nil] at hcall; cases hcall) hrun

end Run

/-- A registration that nothing goes wrong with. -/
def smooth (phone : Nat) (name email password : String) : Call where
  phone := phone
  name := codeUnits name
  email := codeUnits email
  password := codeUnits password
  answers := { createUser := .ok (), updateProfile := .ok (), reload := .ok () }

/-- Nobody has registered yet. -/
def noAccounts : Firebase where
  store := fun _ => none
  currentUser := fun _ => none

/-- One email is registered from the phones 0 and 1, and a second email from phone 0; phone 1, which
    has been refused, is signed in meanwhile, and phone 2 registers a third email. -/
def contested : List (Serial.Event Act) :=
  [.call (.register (smooth 1 "17CK023456" "student@cu.edu.ng" "secret")),
    .call (.register (smooth 0 "18CK000001" "student@cu.edu.ng" "hidden")), .resume 1,
    .call (.register (smooth 0 "19CK777777" "other@cu.edu.ng" "covert")), .resume 2, .resume 0,
    .call (.session 1 (some ⟨codeUnits "student@cu.edu.ng"⟩)), .resume 3, .resume 1,
    .call (.register (smooth 2 "20CK111111" "third@cu.edu.ng" "masked")), .resume 4, .resume 2,
    .resume 4, .resume 1, .resume 2, .resume 4]

example : order contested = [1, 2, 0, 3, 4] := by decide

/-- Call 1 shares its phone with call 2, and has returned the user of call 2. -/
example : ((registering.interleaving.exec ⟨noAccounts, []⟩ contested).bind fun t =>
    t.calls[1]?.map fun c => c.2.result) = some (some ⟨codeUnits "other@cu.edu.ng"⟩) := by
  decide +kernel

/-! ## Who gets the account -/

/-- The account a call makes for `email`, if Firebase lets it. -/
def Call.account (x : Call) (email : Text) : Option Account :=
  if x.email = email then
    match x.answers.createUser with
    | .error _ => none
    | .ok () => some ⟨x.password, if x.answers.updateProfile.isOk then some x.name else none⟩
  else none

/-- A sign-in or sign-out makes none. -/
def Act.account : Act → Text → Option Account
  | .register x, email => x.account email
  | .session _ _, _ => none

/-- What one call leaves under an email: the account that was there, or else its own. -/
theorem perform_account (a : Act) (s : Firebase) (email : Text) :
    (a.perform s).store email = (s.store email).or (a.account email) := by
  cases a with
  | session phone user => exact (Option.or_none).symm
  | register x =>
    show (x.register s).1.store email = (s.store email).or (x.account email)
    rw [register_eq_granted]
    unfold Call.account
    by_cases hemail : x.email = email
    · subst hemail
      rw [if_pos rfl]
      cases haccount : s.store x.email with
      | some a => exact haccount
      | none =>
        cases x.answers.createUser with
        | error e => exact haccount
        | ok _ => exact withAccount_self ..
    · rw [if_neg hemail, Option.or_none]
      by_cases htaken : (s.store x.email).isSome = true
      · rw [if_pos htaken]
      · rw [if_neg htaken]
        cases x.answers.createUser with
        | error e => rfl
        | ok _ => exact Function.update_of_ne (Ne.symm hemail) _ _

/-- The account the calls of the list make for `email`: the first of them that may does. -/
def firstAccount (calls : List (Act × Phase)) (order : List Nat) (email : Text) :
    Option Account :=
  order.findSome? fun i => (calls[i]?).bind fun c => c.1.account email

/-- Of the calls at one go the first one to succeed keeps the account. -/
theorem performAll_account (calls : List (Act × Phase)) (l : List Nat) (s : Firebase)
    (email : Text) :
    (performAll calls l s).store email = (s.store email).or (firstAccount calls l email) := by
  induction l generalizing s with
  | nil => exact (Option.or_none).symm
  | cons i rest ih =>
    have hturn : (performTurn calls s i).store email =
        (s.store email).or ((calls[i]?).bind fun c => c.1.account email) := by
      unfold performTurn
      cases calls[i]? with
      | none => exact (Option.or_none).symm
      | some c => exact perform_account c.1 s email
    show (performAll calls rest (performTurn calls s i)).store email = _
    rw [ih, hturn, Option.or_assoc]
    unfold firstAccount
    rw [List.findSome?_cons]
    cases (calls[i]?).bind fun c => c.1.account email <;> rfl

end AttendanceApp.Registrations
