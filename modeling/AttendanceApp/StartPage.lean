/-
  Whether the start page stays at the bottom of the stack.

  `home: GettingStarted()` is the lowest route, and Back never takes it off.  But `Navigator.pop`
  and `pushReplacement` act on whatever is on top when a handler RESUMES.  A handler whose page has
  been left, but is still animated out, can therefore close or replace GettingStarted itself when
  this is the only page of the stack: the student is left with an empty screen, or with a page that
  Back leaves the app from; and a later sign-up, which takes the stack down to `'/'`, finds no such
  route.

  `start_page_stays_iff` says exactly when that does not happen.
-/
import AttendanceApp.Handlers

namespace AttendanceApp

open Transition Dart Navigator

variable {c : CaseMap}

/-- The route of `main()`. -/
def startRoute : Route Page := ⟨0, .gettingStarted⟩

/-- At the bottom of the stack is the start page. -/
def StartsBelow (s : App) : Prop := s.nav.RestsOn startRoute

/-- The event closes or replaces the page on top. -/
def TakesTop (s : App) : Event → Prop
  | .initializeFirebase _ => s.currentUser ≠ none
  | .complete (.signInUsingEmailPassword route) (.user _) => s.nav.mounted route = true
  | .complete (.signOut route) .done => s.nav.mounted route = true
  | .complete (.takePicture route _ _) (.picture _) => s.nav.mounted route = true
  | .complete (.condition route _) (.confirmed _) => s.nav.mounted route = true
  | .complete (.enrollImage route _ _) .done => s.nav.mounted route = true
  | _ => False

/-- No handler takes the top page while the start page is the only one. -/
def SparesStart (s : App) (e : Event) : Prop := TakesTop s e → s.nav.stack ≠ [startRoute]

/-! ## The handlers -/

/-- A press pushes one page, or pops the alert dialog. -/
theorem press_calls {name : String} {route : Nat} {page : Page} {button : Button}
    {reaction : Reaction} (h : page.press c name route button = some reaction) :
    reaction.calls = [] ∨ (∃ page', reaction.calls = [.push page']) ∨
      reaction.calls = [.pop] ∧ page = .alertDialog := by
  have hpush : ∀ page' starts, reaction = { calls := [.push page'], starts := starts } →
      ∃ page', reaction.calls = [.push page'] := fun page' starts heq => ⟨page', by rw [heq]⟩
  simp only [Page.press] at h
  split at h
  · exact Or.inr (Or.inl (hpush _ _ (Option.some.inj h).symm))
  · exact Or.inr (Or.inl (hpush _ _ (Option.some.inj h).symm))
  · exact Or.inr (Or.inl (hpush _ _ (Option.some.inj h).symm))
  · left
    split at h
    · obtain rfl := Option.some.inj h
      rfl
    · obtain rfl := Option.some.inj h
      rfl
  · left
    split at h
    · obtain rfl := Option.some.inj h
      rfl
    · obtain rfl := Option.some.inj h
      rfl
  · exact Or.inr (Or.inl (hpush _ _ (Option.some.inj h).symm))
  · exact Or.inr (Or.inl (hpush _ _ (Option.some.inj h).symm))
  · obtain rfl := Option.some.inj h
    exact Or.inl rfl
  · obtain rfl := Option.some.inj h
    exact Or.inl rfl
  · obtain rfl := Option.some.inj h
    exact Or.inl rfl
  · obtain ⟨title, -, rfl⟩ := Option.map_eq_some_iff.mp h
    exact Or.inr (Or.inl ⟨_, rfl⟩)
  · obtain rfl := Option.some.inj h
    exact Or.inr (Or.inr ⟨rfl, rfl⟩)
  · obtain rfl := Option.some.inj h
    exact Or.inl rfl
  · cases h

theorem startsBelow_press {s : App} (h : StartsBelow s) {top : Route Page}
    {rest : List (Route Page)} {name : String} {button : Button} {reaction : Reaction}
    (hstack : s.nav.stack = top :: rest)
    (hpress : top.page.press c name top.id button = some reaction) :
    StartsBelow (s.react reaction) := by
  show (s.nav.navigateAll reaction.calls).RestsOn startRoute
  rcases press_calls hpress with hnil | ⟨page, hpush⟩ | ⟨hpop, hdialog⟩
  · rw [hnil]
    exact h
  · rw [hpush]
    exact RestsOn.push h page
  · rw [hpop]
    refine (RestsOn.pop_iff h).mpr fun halone => ?_
    -- the start page is no dialog
    obtain ⟨rfl, -⟩ := List.cons_eq_cons.mp (hstack.symm.trans halone)
    cases hdialog

/-- Back needs a page to go back to. -/
theorem back_of_step {s s' : App} (hstep : (app c).step s .back = some s') :
    ∃ top second rest, s.nav.stack = top :: second :: rest := by
  simp only [app, App.step] at hstep
  split at hstep
  · rename_i top second rest hstack
    exact ⟨top, second, rest, hstack⟩
  · cases hstep

/-- A handler that resumes takes the start page off exactly if its calls do; `t` is the state in
    which its operation has ended. -/
theorem startsBelow_resume {s t : App} (hnav : t.nav = s.nav) (h : StartsBelow s) {route : Nat}
    {calls : List (Nav Page)}
    (hcalls : (s.nav.navigateAll calls).RestsOn startRoute ↔ s.nav.stack ≠ [startRoute]) :
    StartsBelow (t.resume route calls) ↔
      (s.nav.mounted route = true → s.nav.stack ≠ [startRoute]) := by
  rw [StartsBelow, resume_eq, hnav]
  by_cases hmounted : s.nav.mounted route = true
  · rw [if_pos hmounted, hcalls]
    exact ⟨fun hne _ => hne, fun hne => hne hmounted⟩
  · rw [if_neg hmounted]
    exact ⟨fun _ hyes => absurd hyes hmounted, fun _ => h⟩

/-- A handler whose calls leave the lowest route alone. -/
theorem startsBelow_resume_of {s t : App} (hnav : t.nav = s.nav) (h : StartsBelow s) {route : Nat}
    {calls : List (Nav Page)} (hcalls : (s.nav.navigateAll calls).RestsOn startRoute) :
    StartsBelow (t.resume route calls) := by
  rw [StartsBelow, resume_eq, hnav]
  split
  · exact hcalls
  · exact h

/-- A registration takes the stack down to the start page, and no further. -/
theorem restsOn_afterRegister {n : Navigator Page} (h : n.RestsOn startRoute) (name : String)
    (user : Option Nat) : (n.navigateAll (afterRegister c name user)).RestsOn startRoute := by
  cases user with
  | none => exact h
  | some user => exact RestsOn.pushAndRemoveUntil h _ rfl

/-- **The step lemma** of the start page. -/
theorem startsBelow_step (s : App) (e : Event) (s' : App) (hs : Attributed s) (h : StartsBelow s)
    (hstep : (app c).step s e = some s') : StartsBelow s' ↔ SparesStart s e := by
  have hkept : ∀ {t : App}, StartsBelow t → ¬ TakesTop s e → (StartsBelow t ↔ SparesStart s e) :=
    fun ht hno => ⟨fun _ htakes => absurd htakes hno, fun _ => ht⟩
  cases step_cases hstep with
  | press button top rest reaction hstack hpress =>
    exact hkept (startsBelow_press h hstack hpress) id
  | back =>
    obtain ⟨top, second, rest, hstack⟩ := back_of_step hstep
    refine hkept ((RestsOn.pop_iff h).mpr fun halone => ?_) id
    rw [hstack] at halone
    cases halone
  | type text id => exact hkept h fun hno => hno
  | dispose route => exact hkept h id
  | nobody route huser => exact hkept h fun htakes => htakes huser
  | remembered route user huser =>
    have htakes : TakesTop s (.initializeFirebase route) := by
      rw [TakesTop, huser]
      exact Option.some_ne_none user
    exact (RestsOn.pushReplacement_iff hs.nav h _).trans
      ⟨fun hne _ => hne, fun hspares => hspares htakes⟩
  | complete op reply _ hop hc =>
    cases hc with
    | failed op hnot =>
      refine hkept h fun htakes => ?_
      cases op <;> exact htakes
    | signedIn route user =>
      refine startsBelow_resume (by rfl) h ?_
      exact RestsOn.pushReplacement_iff hs.nav h _
    | created route name => exact hkept h id
    | updated route user => exact hkept h id
    | notUpdated route user =>
      refine hkept (startsBelow_resume_of (by rfl) h ?_) id
      exact restsOn_afterRegister h _ _
    | notReloaded route user =>
      refine hkept (startsBelow_resume_of (by rfl) h ?_) id
      exact restsOn_afterRegister h _ _
    | reloaded route user =>
      refine hkept (startsBelow_resume_of (by rfl) h ?_) id
      exact restsOn_afterRegister h _ _
    | signedOut route =>
      refine startsBelow_resume (by rfl) h ?_
      exact RestsOn.pushReplacement_iff hs.nav h _
    | taken route matnumber typed path _ =>
      refine startsBelow_resume (by rfl) h ?_
      exact RestsOn.pushReplacement_iff hs.nav h _
    | captured route path =>
      refine hkept (startsBelow_resume_of (by rfl) h ?_) id
      exact RestsOn.push h _
    | located route course yes =>
      refine startsBelow_resume (by rfl) h ?_
      cases yes with
      | true => exact RestsOn.pop_push_iff hs.nav h _
      | false => exact RestsOn.pop_push_iff hs.nav h _
    | enrolled route imageFile subjectId =>
      refine startsBelow_resume (by rfl) h ?_
      exact RestsOn.pop_iff h

/-- **When the start page stays**: in every run of the app, GettingStarted is at the bottom of the
    stack in every state exactly when no handler of a page that has left closes or replaces the top
    page while GettingStarted is the only one. -/
theorem start_page_stays_iff (c : CaseMap) (accounts : List String) (currentUser : Option Nat)
    (es : List Event) (s : App) (hrun : (app c).exec (.start accounts currentUser) es = some s) :
    (app c).Always StartsBelow (.start accounts currentUser) es ↔
      (app c).Along SparesStart (.start accounts currentUser) es :=
  (app c).always_iff_along attributed_step startsBelow_step es _ s
    (attributed_start accounts currentUser) ⟨[], rfl⟩ hrun

/-- A remembered user signs out on the ProfilePage: LoginScreen takes its place. -/
theorem start_page_below_login :
    (app .ascii).Always StartsBelow (.start ["17CK023456"] (some 0))
      [.press .students, .initializeFirebase 1, .press .signOut, .complete (.signOut 2) .done] := by
  refine (start_page_stays_iff .ascii ["17CK023456"] (some 0)
    [.press .students, .initializeFirebase 1, .press .signOut, .complete (.signOut 2) .done]
    _ rfl).mpr ?_
  refine .cons _ rfl (fun h => h.elim) (.cons _ rfl ?_ (.cons _ rfl (fun h => h.elim)
    (.cons _ rfl ?_ trivial)))
  · exact fun _ => by decide
  · exact fun _ => by decide

/-- The user goes Back while the sign-out is awaited: LoginScreen replaces the start page. -/
example : ((app .ascii).exec (.start ["17CK023456"] (some 0))
    [.press .students, .initializeFirebase 1, .press .signOut, .back,
      .complete (.signOut 2) .done]).map (fun s => s.nav.stack) = some [⟨3, .loginScreen⟩] := rfl

end AttendanceApp
