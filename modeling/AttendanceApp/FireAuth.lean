/-
  `lib/utils/firebase_auth.dart`: the two calls of FireAuth that the forms make.

      registerUsingEmailPassword:
        try {
          user = (await auth.createUserWithEmailAndPassword(..)).user
          await user.updateProfile(displayName: name)
          await user.reload()
          user = auth.currentUser
        } on FirebaseAuthException catch (e) { print } catch (e) { print }
        return user

  `user` is assigned after the first of three remote effects and is returned however the others end,
  so a registration can be left half-made: an account without a name that is reported as a success,
  or one whose user is gone and that is reported as a failure.  `all_or_nothing_iff` says when not.

  The body of the `try` is a program over the account store and the local variable `user`, which
  both survive an exception.  What Firebase answers to each step is given (`Replies`); a step that
  throws has changed nothing, and an email that has an account is refused.  The printed texts are
  left out.
-/
import AttendanceApp.Validator
import Mathlib.Logic.Function.Basic

namespace AttendanceApp.FireAuth

open Validator

/-- What a Firebase call can throw. -/
inductive Exception where
  | firebaseAuth (code : String)
  | other
  deriving DecidableEq, Repr

/-- What Firebase keeps of an account. -/
structure Account where
  password : Text
  displayName : Option Text

/-- The accounts, by email. -/
abbrev Store := Text → Option Account

/-- A `User`, by the account it stands for. -/
structure User where
  email : Text
  deriving DecidableEq, Repr

/-- What becomes of the steps of a registration. -/
structure Replies where
  createUser : Except Exception Unit
  updateProfile : Except Exception Unit
  reload : Except Exception Unit
  currentUser : Except Exception (Option User)

/-! ## Registering -/

/-- The store, and the variable `user`. -/
structure Locals where
  store : Store
  user : Option User

/-- Code between `try` and `catch`: it may throw, and what it has done to the store stays done. -/
abbrev Attempt := ExceptT Exception (StateM Locals)

/-- A program from the store and the variable it starts with: what it returns or throws, and what it
    leaves. -/
def Attempt.runFrom {α : Type} (x : Attempt α) (s : Locals) : Except Exception α × Locals :=
  x.run.run s

/-- The store with an account for `email`. -/
def withAccount (store : Store) (email password : Text) (displayName : Option Text) : Store :=
  Function.update store email (some ⟨password, displayName⟩)

/-- `auth.createUserWithEmailAndPassword`: an email has one account. -/
def createUserWithEmailAndPassword (r : Replies) (email password : Text) : Attempt User :=
  ExceptT.mk fun s =>
    if (s.store email).isSome then (.error (.firebaseAuth "email-already-in-use"), s)
    else
      match r.createUser with
      | .error e => (.error e, s)
      | .ok () => (.ok ⟨email⟩, { s with store := withAccount s.store email password none })

/-- `user.updateProfile(displayName: ...)`: an account that is there gets its name. -/
def updateProfile (r : Replies) (user : User) (displayName : Text) : Attempt Unit :=
  ExceptT.mk fun s =>
    match r.updateProfile with
    | .error e => (.error e, s)
    | .ok () =>
      let account := (s.store user.email).map fun a => { a with displayName := some displayName }
      (.ok (), { s with store := Function.update s.store user.email account })

/-- The body of the `try`. -/
def attempt (r : Replies) (name email password : Text) : Attempt Unit := do
  let created ← createUserWithEmailAndPassword r email password
  modify fun s => { s with user := some created }
  updateProfile r created name
  let _ ← r.reload
  let current ← r.currentUser
  modify fun s => { s with user := current }

/-- `registerUsingEmailPassword`: the store afterwards, and the user it returns. -/
def registerUsingEmailPassword (r : Replies) (name email password : Text) (store : Store) :
    Store × Option User :=
  -- whatever was thrown has been printed
  let (_, s) := (attempt r name email password).runFrom { store := store, user := none }
  (s.store, s.user)

/-! ## Signing in -/

/-- `signInUsingEmailPassword`, with what `signInWithEmailAndPassword` answers: only a
    `FirebaseAuthException` is caught. -/
def signInUsingEmailPassword (signIn : Text → Text → Except Exception (Option User))
    (email password : Text) : Except Exception (Option User) :=
  match signIn email password with
  | .ok user => .ok user
  | .error (.firebaseAuth _) => .ok none
  | .error .other => .error .other

/-! ## What a registration does -/

section Steps

variable {α β : Type} (s : Locals)

/-- A step that throws ends the `try`; what was changed before stays changed. -/
theorem runFrom_bind (x : Attempt α) (f : α → Attempt β) : (x >>= f).runFrom s =
    match x.runFrom s with
    | (.ok a, s') => (f a).runFrom s'
    | (.error e, s') => (.error e, s') := by
  simp only [Attempt.runFrom, ExceptT.run, StateT.run, bind, ExceptT.bind, ExceptT.mk, StateT.bind,
    ExceptT.bindCont]
  cases x s with
  | mk result s' => cases result <;> rfl

theorem runFrom_modify (f : Locals → Locals) :
    (modify f : Attempt Unit).runFrom s = (.ok ⟨⟩, f s) := rfl

theorem runFrom_lift (reply : Except Exception α) :
    (liftM reply : Attempt α).runFrom s = (reply, s) := rfl

/-- Creating an account, as it is when the email is taken, and as it is when it is not. -/
theorem runFrom_createUser (r : Replies) (email password : Text) :
    (createUserWithEmailAndPassword r email password).runFrom s =
      if (s.store email).isSome then (.error (.firebaseAuth "email-already-in-use"), s)
      else
        match r.createUser with
        | .error e => (.error e, s)
        | .ok () => (.ok ⟨email⟩, { s with store := withAccount s.store email password none }) :=
  rfl

/-- The account that was just made gets its name. -/
theorem runFrom_updateProfile (r : Replies) (email password name : Text) (store : Store)
    (user : Option User) :
    (updateProfile r ⟨email⟩ name).runFrom ⟨withAccount store email password none, user⟩ =
      match r.updateProfile with
      | .error e => (.error e, ⟨withAccount store email password none, user⟩)
      | .ok () => (.ok (), ⟨withAccount store email password (some name), user⟩) := by
  cases hreply : r.updateProfile with
  | error e => simp [Attempt.runFrom, updateProfile, hreply, StateT.run]
  | ok _ => simp [Attempt.runFrom, updateProfile, hreply, StateT.run, withAccount]

end Steps

/-- **What a registration does**, by how its steps end. -/
theorem register_eq (r : Replies) (name email password : Text) (store : Store) :
    registerUsingEmailPassword r name email password store =
      if (store email).isSome then (store, none)
      else
        match r.createUser, r.updateProfile, r.reload, r.currentUser with
        | .error _, _, _, _ => (store, none)
        | .ok _, .error _, _, _ => (withAccount store email password none, some ⟨email⟩)
        | .ok _, .ok _, .ok _, .ok user => (withAccount store email password (some name), user)
        | .ok _, .ok _, _, _ => (withAccount store email password (some name), some ⟨email⟩) := by
  rw [registerUsingEmailPassword, attempt, runFrom_bind, runFrom_createUser]
  by_cases htaken : (store email).isSome = true
  · rw [if_pos htaken, if_pos htaken]
  rw [if_neg htaken, if_neg htaken]
  cases r.createUser with
  | error e => rfl
  | ok _ =>
    simp only [runFrom_bind, runFrom_modify, runFrom_updateProfile, runFrom_lift]
    cases r.updateProfile with
    | error e => rfl
    | ok _ =>
      cases r.reload with
      | error e => rfl
      | ok _ => cases r.currentUser <;> rfl

/-! ## All or nothing -/

/-- A returned user has an account with the given name, and without one the store is untouched. -/
def AllOrNothing (r : Replies) (name email password : Text) (store : Store) : Prop :=
  (∀ user, (registerUsingEmailPassword r name email password store).2 = some user →
    ∃ account, (registerUsingEmailPassword r name email password store).1 email = some account ∧
      account.displayName = some name) ∧
  ((registerUsingEmailPassword r name email password store).2 = none →
    (registerUsingEmailPassword r name email password store).1 = store)

/-- The email is refused; or the name is stored, and the user is not gone after the reload. -/
def RefusedOrNamed (r : Replies) (email : Text) (store : Store) : Prop :=
  (store email).isSome ∨ (∃ e, r.createUser = .error e) ∨
    r.updateProfile = .ok () ∧ ¬ (r.reload = .ok () ∧ r.currentUser = .ok none)

theorem withAccount_self (store : Store) (email password : Text) (displayName : Option Text) :
    withAccount store email password displayName email = some ⟨password, displayName⟩ :=
  Function.update_self ..

/-- A free email that gets an account changes the store. -/
theorem withAccount_ne {store : Store} {email : Text} (h : ¬ (store email).isSome = true)
    (password : Text) (displayName : Option Text) :
    withAccount store email password displayName ≠ store := by
  intro hsame
  have hemail := congrFun hsame email
  rw [withAccount_self] at hemail
  rw [← hemail] at h
  exact h rfl

/-- **When a registration is all or nothing.** -/
theorem all_or_nothing_iff (r : Replies) (name email password : Text) (store : Store) :
    AllOrNothing r name email password store ↔ RefusedOrNamed r email store := by
  unfold AllOrNothing RefusedOrNamed
  rw [register_eq]
  by_cases htaken : (store email).isSome = true
  · simp [htaken]
  rw [if_neg htaken]
  cases r.createUser with
  | error e => simp
  | ok _ =>
    cases r.updateProfile with
    | error e => simp [htaken, withAccount_self]
    | ok _ =>
      have hne := withAccount_ne htaken password (some name)
      cases r.reload with
      | error e => simp [withAccount_self]
      | ok _ =>
        cases r.currentUser with
        | error e => simp [withAccount_self]
        | ok user => cases user <;> simp [htaken, withAccount_self, hne]

/-- The network is lost after the account has been made. -/
def lostAfterCreation : Replies where
  createUser := .ok ()
  updateProfile := .error (.firebaseAuth "network-request-failed")
  reload := .ok ()
  currentUser := .ok none

/-- The account is there, and its user is returned, though it has no name. -/
theorem register_lostAfterCreation (name email password : Text) :
    registerUsingEmailPassword lostAfterCreation name email password (fun _ => none) =
      (withAccount (fun _ => none) email password none, some ⟨email⟩) := rfl

/-- The account stays without its name, and its user is returned as a success. -/
theorem half_made_account :
    ¬ ∀ r name email password store, AllOrNothing r name email password store := by
  intro h
  have hbroken := h lostAfterCreation (codeUnits "17CK023456") (codeUnits "student@cu.edu.ng")
    (codeUnits "secret") fun _ => none
  unfold AllOrNothing at hbroken
  rw [register_lostAfterCreation] at hbroken
  obtain ⟨account, hstored, hname⟩ := hbroken.1 _ rfl
  simp only [withAccount_self, Option.some.injEq] at hstored
  rw [← hstored] at hname
  cases hname

end AttendanceApp.FireAuth
