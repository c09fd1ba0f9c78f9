/-
  Whether a student can get back to where the app was opened.

  Back works on every page but one: the loading dialog of a location check refuses it, and goes only
  when a handler takes it off.  So every way back depends on the dialogs that are on the stack, and
  on the checks that are still to come:

  * `Answered` — every dialog lies on a SecondRoute whose check is still in flight;
  * `Hides`    — a check that ends is not the last one of a SecondRoute under a dialog, or comes
                 through and finds that dialog on top, where `hideOpenDialog` takes it off.

  A run keeps the first exactly when all its steps are of the second kind (`answered_iff`), and from
  every state that is answered there is a way back (`way_back`): what is on top is closed by Back,
  or is a dialog whose check only has to be answered.  `hideOpenDialog` closes whatever is on top,
  so a check can also come through and leave its dialog behind (the last example).
-/
import AttendanceApp.StartPage
import AttendanceApp.Gates

namespace AttendanceApp

open Transition Dart Navigator

variable {c : CaseMap}

/-! ## What lies under a route -/

/-- A route is on a new page, or on what it was on before the step. -/
theorem below_of_step {s s' : App} {e : Event} (hs : Attributed s)
    (hstep : (app c).step s e = some s') {r : Route Page} {below : List (Route Page)}
    (h : r :: below <:+ s'.nav.stack) : r :: below <:+ s.nav.stack ∨ Opens c s e r.page := by
  have hmounted : r ∈ s'.nav.mountedRoutes := mem_mounted_of_mem_stack (h.mem List.mem_cons_self)
  have hold : r :: below <:+ s.nav.stack ∨ s.nav.nextId ≤ r.id := by
    rcases nav_of_step hstep with ⟨calls, hnav⟩ | ⟨route, hnav⟩
    · rw [hnav] at h
      exact suffix_navigateAll h
    · rw [hnav] at h
      exact Or.inl h
  rcases hold with hold | hnew
  · exact Or.inl hold
  · rcases opens_of_step hstep hmounted with hr | ⟨-, hopens⟩
    · have hlt := hs.nav.lt r hr
      omega
    · exact Or.inr hopens

/-- A route has its place on the stack. -/
theorem below_unique {s : App} (hs : Attributed s) {r : Route Page} {below : List (Route Page)}
    (h : r :: below <:+ s.nav.stack) : r ∉ below := by
  have hnodup : (s.nav.stack.map Route.id).Nodup :=
    ((List.sublist_append_left s.nav.stack s.nav.leaving).map Route.id).nodup hs.nav.nodup
  have hhere : ((r :: below).map Route.id).Nodup := (h.sublist.map Route.id).nodup hnodup
  intro hmem
  exact (List.nodup_cons.mp hhere).1 (List.mem_map_of_mem hmem)

/-! ## The dialogs and their checks -/

/-- The check of a tap on route `route` is in flight. -/
def Checked (s : App) (route : Nat) : Prop := ∃ course, .condition route course ∈ s.inFlight

/-- A loading dialog lies on the page of route `route`. -/
def DialogOn (n : Navigator Page) (route : Nat) : Prop :=
  ∃ d r below, d :: r :: below <:+ n.stack ∧ d.page = .loadingIndicator ∧ r.id = route

/-- Every dialog lies on a SecondRoute whose check is still in flight. -/
def Answered (s : App) : Prop :=
  ∀ d below, d :: below <:+ s.nav.stack → d.page = .loadingIndicator →
    ∃ r rest, below = r :: rest ∧ r.page = .secondRoute ∧ Checked s r.id

/-- A check that ends is not the last one of a page under a dialog, or takes that dialog off. -/
def Hides (s : App) : Event → Prop
  | .complete (.condition route course) reply =>
    DialogOn s.nav route →
      (∃ other, .condition route other ∈ s.inFlight.erase (.condition route course)) ∨
      reply ≠ .failed ∧
        ∃ d r below, s.nav.stack = d :: r :: below ∧ d.page = .loadingIndicator ∧ r.id = route
  | _ => True

/-- A check in flight stays there until it ends. -/
theorem condition_stays {s s' : App} {e : Event} (hstep : (app c).step s e = some s')
    {route : Nat} {course : String} (hop : .condition route course ∈ s.inFlight)
    (hnot : ∀ reply, e ≠ .complete (.condition route course) reply) :
    .condition route course ∈ s'.inFlight := by
  cases step_cases hstep with
  | press button top rest reaction hstack hpress => exact List.mem_append_left _ hop
  | complete op reply next hin hc =>
    have hne : (Op.condition route course) ≠ op := by
      rintro rfl
      exact hnot reply rfl
    have hleft : .condition route course ∈ s.inFlight.erase op := (List.mem_erase_of_ne hne).mpr hop
    cases hc with
    | created route name => exact List.mem_append_left _ hleft
    | updated route user => exact List.mem_append_left _ hleft
    | failed _ _ => exact hleft
    | _ =>
      rw [resume_inFlight]
      exact hleft
  | _ => exact hop

/-- Only a tap opens a dialog. -/
theorem press_of_opens {s : App} {e : Event} (h : Opens c s e .loadingIndicator) :
    ∃ button, e = .press button := by
  cases h with
  | press button top below page htop hbelow hleads => exact ⟨button, rfl⟩
  | completed op reply page hop hmounted hbrings => cases hbrings

/-- And it starts its check. -/
theorem press_opens_dialog {name : String} {route : Nat} {page : Page} {button : Button}
    {reaction : Reaction} (hpress : page.press c name route button = some reaction)
    (hopens : ∃ call ∈ reaction.calls, call.opens = some .loadingIndicator) :
    page = .secondRoute ∧ reaction.calls = [.push .loadingIndicator] ∧
      ∃ course, reaction.starts = [.condition route course] := by
  obtain ⟨call, hcall, hpage⟩ := hopens
  have hleads := (press_cases hpress).1 call hcall _ hpage
  cases hleads with
  | course =>
    cases button with
    | course index =>
      obtain ⟨title, -, rfl⟩ := Option.map_eq_some_iff.mp hpress
      exact ⟨rfl, rfl, title, rfl⟩
    | _ => cases hpress

/-- A check that comes through replaces the page on top by CameraScreen, or by the alert. -/
theorem stack_located {s : App} {route : Nat} (hmounted : s.nav.mounted route = true)
    {top : Route Page} {rest : List (Route Page)} (hstack : s.nav.stack = top :: rest)
    (course : String) (yes : Bool) :
    (s.resume route (afterCondition course yes)).nav.stack =
      ⟨s.nav.nextId, if yes then .cameraScreen course else .alertDialog⟩ :: rest := by
  rw [resume_eq, if_pos hmounted]
  cases yes with
  | true =>
    show ((s.nav.navigate .pop).navigate (.push (.cameraScreen course))).stack = _
    simp only [navigate, hstack]
    rfl
  | false =>
    show ((s.nav.navigate .pop).navigate (.push .alertDialog)).stack = _
    simp only [navigate, hstack]
    rfl

/-! ## The step lemma -/

/-- A tap puts its dialog on its own SecondRoute, and its check in flight. -/
theorem answered_press {s : App} (h : Answered s) {top : Route Page} {rest : List (Route Page)}
    {name : String} {button : Button} {reaction : Reaction} (hstack : s.nav.stack = top :: rest)
    (hpress : top.page.press c name top.id button = some reaction)
    (hs : Attributed s) : Answered (s.react reaction) := by
  have hkept : ∀ route, Checked s route → Checked (s.react reaction) route :=
    fun route ⟨course, hop⟩ => ⟨course, List.mem_append_left _ hop⟩
  intro d below hsuffix hdialog
  have hmem : d ∈ (s.react reaction).nav.stack := hsuffix.mem List.mem_cons_self
  rcases suffix_navigateAll hsuffix with hold | hnew
  · obtain ⟨r, rest', hbelow, hpage, hchecked⟩ := h d below hold hdialog
    exact ⟨r, rest', hbelow, hpage, hkept r.id hchecked⟩
  · -- a new dialog is the one the tap has opened
    rcases mem_mounted_navigateAll (mem_mounted_of_mem_stack hmem) with hr | ⟨-, hopens⟩
    · have hlt := hs.nav.lt d hr
      omega
    · rw [hdialog] at hopens
      obtain ⟨hpage, hcalls, course, hstarts⟩ := press_opens_dialog hpress hopens
      have hpushed :
          (s.react reaction).nav.stack = s.nav.fresh .loadingIndicator :: s.nav.stack := by
        show (s.nav.navigateAll reaction.calls).stack = _
        rw [hcalls]
        rfl
      rw [hpushed] at hsuffix
      have hchecked : Checked (s.react reaction) top.id := by
        refine ⟨course, List.mem_append_right _ ?_⟩
        rw [hstarts]
        exact List.mem_singleton_self _
      rcases List.suffix_cons_iff.mp hsuffix with heq | hold
      · obtain ⟨-, rfl⟩ := List.cons_eq_cons.mp heq
        exact ⟨top, rest, hstack, hpage, hchecked⟩
      · obtain ⟨r, rest', hbelow, hr, hcheck⟩ := h d below hold hdialog
        exact ⟨r, rest', hbelow, hr, hkept r.id hcheck⟩

/-- Any other step opens no dialog, so only its check can be missing. -/
theorem answered_of_checked {s s' : App} {e : Event} (hs : Attributed s) (h : Answered s)
    (hstep : (app c).step s e = some s') (hpress : ∀ button, e ≠ .press button)
    (hchecked : ∀ d r rest, d :: r :: rest <:+ s'.nav.stack → d :: r :: rest <:+ s.nav.stack →
      d.page = .loadingIndicator → Checked s r.id → Checked s' r.id) : Answered s' := by
  intro d below hsuffix hdialog
  rcases below_of_step hs hstep hsuffix with hold | hopens
  · obtain ⟨r, rest, rfl, hpage, hcheck⟩ := h d below hold hdialog
    exact ⟨r, rest, rfl, hpage, hchecked d r rest hsuffix hold hdialog hcheck⟩
  · rw [hdialog] at hopens
    obtain ⟨button, hbutton⟩ := press_of_opens hopens
    exact absurd hbutton (hpress button)

/-- How a check ends: it leaves the navigator alone, or replaces what is on top by a page. -/
theorem check_ends {s s' : App} {route : Nat} {course : String} {reply : Reply}
    (hstep : (app c).step s (.complete (.condition route course) reply) = some s') :
    s'.inFlight = s.inFlight.erase (.condition route course) ∧
      (reply = .failed ∧ s'.nav = s.nav ∨
        reply ≠ .failed ∧ ∀ top rest, s.nav.mounted route = true → s.nav.stack = top :: rest →
          ∃ page, page ≠ .loadingIndicator ∧ s'.nav.stack = ⟨s.nav.nextId, page⟩ :: rest) := by
  cases step_cases hstep with
  | complete _ _ next hop hc =>
    cases hc with
    | failed _ _ => exact ⟨rfl, Or.inl ⟨rfl, rfl⟩⟩
    | located _ _ yes =>
      refine ⟨by rw [resume_inFlight], Or.inr ⟨Reply.noConfusion, ?_⟩⟩
      intro top rest hmounted hstack
      let ended : App := { s with inFlight := s.inFlight.erase (.condition route course) }
      refine ⟨_, ?_, stack_located (s := ended) hmounted hstack course yes⟩
      cases yes <;> exact Page.noConfusion

section Check

variable {s s' : App} {course : String} {reply : Reply} {d r : Route Page}
  {below : List (Route Page)}

theorem mounted_of_below (h : d :: r :: below <:+ s.nav.stack) : s.nav.mounted r.id = true :=
  mounted_iff.mpr ⟨r, mem_mounted_of_mem_stack
    (h.mem (List.mem_cons_of_mem _ List.mem_cons_self)), rfl⟩

/-- A dialog stays where it is, unless its check comes through and finds it on top. -/
theorem dialog_stays
    (hstep : (app c).step s (.complete (.condition r.id course) reply) = some s')
    (h : d :: r :: below <:+ s.nav.stack) :
    d :: r :: below <:+ s'.nav.stack ∨ reply ≠ .failed ∧ s.nav.stack = d :: r :: below := by
  obtain ⟨-, ⟨-, hnav⟩ | ⟨hreply, hnext⟩⟩ := check_ends hstep
  · rw [hnav]
    exact Or.inl h
  · have hmounted := mounted_of_below h
    cases hstack : s.nav.stack with
    | nil =>
      rw [hstack] at h
      cases List.suffix_nil.mp h
    | cons top rest =>
      obtain ⟨page, -, hafter⟩ := hnext top rest hmounted hstack
      rw [hstack] at h
      rcases List.suffix_cons_iff.mp h with heq | hrest
      · exact Or.inr ⟨hreply, heq.symm⟩
      · rw [hafter]
        exact Or.inl (hrest.trans (List.suffix_cons _ _))

/-- And then it is gone. -/
theorem dialog_goes (hs : Attributed s)
    (hstep : (app c).step s (.complete (.condition r.id course) reply) = some s')
    (hreply : reply ≠ .failed) (h : s.nav.stack = d :: r :: below) {d' : Route Page}
    {rest : List (Route Page)} (hafter : d' :: r :: rest <:+ s'.nav.stack) :
    d'.page ≠ .loadingIndicator := by
  obtain ⟨-, ⟨hfailed, -⟩ | ⟨-, hnext⟩⟩ := check_ends hstep
  · exact absurd hfailed hreply
  · have hsuffix : d :: r :: below <:+ s.nav.stack := by simp only [h, List.suffix_rfl]
    have hmounted := mounted_of_below hsuffix
    have hnot : r ∉ below :=
      below_unique hs ((List.suffix_cons d _).trans hsuffix)
    obtain ⟨page, hpage, hstack⟩ := hnext d _ hmounted h
    rw [hstack] at hafter
    rcases List.suffix_cons_iff.mp hafter with heq | hlower
    · obtain ⟨rfl, -⟩ := List.cons_eq_cons.mp heq
      exact hpage
    · rcases List.suffix_cons_iff.mp hlower with heq | hlower
      · obtain ⟨-, rfl⟩ := List.cons_eq_cons.mp heq
        exact absurd List.mem_cons_self hnot
      · exact absurd (hlower.mem (List.mem_cons_of_mem _ List.mem_cons_self)) hnot

end Check

/-- **What the end of a check does to the dialogs.** -/
theorem answered_condition {s s' : App} {route : Nat} {course : String} {reply : Reply}
    (hs : Attributed s) (h : Answered s)
    (hstep : (app c).step s (.complete (.condition route course) reply) = some s') :
    Answered s' ↔ Hides s (.complete (.condition route course) reply) := by
  have hinFlight := (check_ends hstep).1
  constructor
  · rintro h' ⟨d, r, below, hsuffix, hdialog, rfl⟩
    rcases dialog_stays hstep hsuffix with hafter | ⟨hreply, htop⟩
    · -- the dialog is still there, and so is a check
      obtain ⟨r', rest, hbelow, -, other, hop⟩ := h' d _ hafter hdialog
      obtain ⟨rfl, -⟩ := List.cons_eq_cons.mp hbelow
      rw [hinFlight] at hop
      exact Or.inl ⟨other, hop⟩
    · exact Or.inr ⟨hreply, d, r, below, htop, hdialog, rfl⟩
  · intro hhides
    refine answered_of_checked hs h hstep (fun _ => Event.noConfusion) ?_
    intro d r rest hafter hbefore hdialog ⟨other, hop⟩
    by_cases hid : r.id = route
    · rcases hhides ⟨d, r, rest, hbefore, hdialog, hid⟩ with ⟨other', hop'⟩ |
        ⟨hreply, d₀, r₀, below, htop, -, rfl⟩
      · refine ⟨other', ?_⟩
        rw [hinFlight, hid]
        exact hop'
      · have hr : r ∈ s.nav.stack := hbefore.mem (List.mem_cons_of_mem _ List.mem_cons_self)
        have hr₀ : r₀ ∈ s.nav.stack := by
          rw [htop]
          exact List.mem_cons_of_mem _ List.mem_cons_self
        obtain rfl : r = r₀ := hs.nav.eq_of_id (mem_mounted_of_mem_stack hr)
          (mem_mounted_of_mem_stack hr₀) hid
        exact absurd hdialog (dialog_goes hs hstep hreply htop hafter)
    · refine ⟨other, condition_stays hstep hop ?_⟩
      intro reply' heq
      obtain ⟨hop', -⟩ := Event.complete.inj heq
      exact hid (Op.condition.inj hop').1.symm

/-- **The step lemma.** -/
theorem answered_step (s : App) (e : Event) (s' : App) (hs : Attributed s) (h : Answered s)
    (hstep : (app c).step s e = some s') : Answered s' ↔ Hides s e := by
  have hother : (∀ button, e ≠ .press button) →
      (∀ route course reply, e ≠ .complete (.condition route course) reply) → Answered s' := by
    intro hpress hcheck
    refine answered_of_checked hs h hstep hpress ?_
    intro d r rest _ _ _ ⟨course, hop⟩
    exact ⟨course, condition_stays hstep hop fun reply => hcheck r.id course reply⟩
  cases e with
  | press button =>
    refine ⟨fun _ => trivial, fun _ => ?_⟩
    cases step_cases hstep with
    | press _ top rest reaction hstack hpress => exact answered_press h hstack hpress hs
  | complete op reply =>
    cases op with
    | condition route course => exact answered_condition hs h hstep
    | _ =>
      refine ⟨fun _ => trivial, fun _ => hother (fun _ => Event.noConfusion) ?_⟩
      intro route course reply' heq
      cases heq
  | _ =>
    exact ⟨fun _ => trivial, fun _ => hother (fun _ => Event.noConfusion)
      fun _ _ _ => Event.noConfusion⟩

theorem answered_start (accounts : List String) (currentUser : Option Nat) :
    Answered (.start accounts currentUser) := by
  intro d below hsuffix hdialog
  obtain rfl := List.mem_singleton.mp (hsuffix.mem List.mem_cons_self)
  cases hdialog

/-- **When every dialog has its check**: in every run of the app, every loading dialog of the stack
    lies on a SecondRoute whose check is in flight, in every state, exactly when each check that
    ends is not the last one of a SecondRoute under a dialog, or comes through and finds this dialog
    on top. -/
theorem dialogs_answered_iff (c : CaseMap) (accounts : List String) (currentUser : Option Nat)
    (es : List Event) (s : App) (hrun : (app c).exec (.start accounts currentUser) es = some s) :
    (app c).Always Answered (.start accounts currentUser) es ↔
      (app c).Along Hides (.start accounts currentUser) es :=
  (app c).always_iff_along attributed_step answered_step es _ s
    (attributed_start accounts currentUser) (answered_start accounts currentUser) hrun

/-- A check that comes through on the dialog of its own tap. -/
theorem dialog_answered :
    (app .ascii).Always Answered (.start ["17CK023456"] (some 0))
      [.press .students, .initializeFirebase 1, .press .takeAttendance, .press (.course 3),
        .complete (.condition 3 "EIE 523") (.confirmed true)] := by
  refine (dialogs_answered_iff .ascii ["17CK023456"] (some 0)
    [.press .students, .initializeFirebase 1, .press .takeAttendance, .press (.course 3),
      .complete (.condition 3 "EIE 523") (.confirmed true)] _ rfl).mpr ?_
  refine .cons _ rfl trivial (.cons _ rfl trivial (.cons _ rfl trivial (.cons _ rfl trivial
    (.cons _ rfl ?_ trivial))))
  exact fun _ => Or.inr ⟨Reply.noConfusion, _, _, _, rfl, rfl, rfl⟩

/-! ## The way back -/

/-- Back, and the answer of a check. -/
def Homeward : Event → Prop
  | .back => True
  | .complete (.condition _ _) (.confirmed _) => True
  | _ => False

/-- What the way back goes along. -/
structure Underway (base : Route Page) (s : App) : Prop where
  attributed : Attributed s
  answered : Answered s
  restsOn : s.nav.RestsOn base

/-- Back closes the page on top, if it is no dialog. -/
theorem underway_back {s : App} {base : Route Page} (h : Underway base s) {top second : Route Page}
    {rest : List (Route Page)} (hstack : s.nav.stack = top :: second :: rest)
    (hpage : top.page ≠ .loadingIndicator) :
    ∃ s', (app c).step s .back = some s' ∧ Underway base s' ∧ s'.nav.stack = second :: rest := by
  have hstep : (app c).step s .back = some (s.go [.pop]) := by
    show s.step c .back = _
    rw [App.step, hstack]
    exact if_pos hpage
  refine ⟨_, hstep, ⟨attributed_step _ _ _ h.attributed hstep, ?_, ?_⟩, ?_⟩
  · exact (answered_step _ _ _ h.attributed h.answered hstep).mpr trivial
  · refine (RestsOn.pop_iff h.restsOn).mpr fun halone => ?_
    rw [hstack] at halone
    cases halone
  · show (s.nav.navigate .pop).stack = _
    simp only [navigate, hstack]

/-- A dialog on top is waiting for a check; once that is answered, the alert is in its place. -/
theorem underway_refused {s : App} {base : Route Page} (h : Underway base s) {top : Route Page}
    {rest : List (Route Page)} (hstack : s.nav.stack = top :: rest)
    (hpage : top.page = .loadingIndicator) :
    ∃ route course s', (app c).step s (.complete (.condition route course) (.confirmed false)) =
        some s' ∧ Underway base s' ∧ s'.nav.stack = ⟨s.nav.nextId, .alertDialog⟩ :: rest := by
  obtain ⟨r, below, hrest, -, course, hop⟩ :=
    h.answered top rest (hstack ▸ List.suffix_refl _) hpage
  have hmounted : s.nav.mounted r.id = true := by
    refine mounted_iff.mpr ⟨r, mem_mounted_of_mem_stack ?_, rfl⟩
    rw [hstack, hrest]
    exact List.mem_cons_of_mem _ List.mem_cons_self
  let ended : App := { s with inFlight := s.inFlight.erase (.condition r.id course) }
  have hstep : (app c).step s (.complete (.condition r.id course) (.confirmed false)) =
      some (ended.resume r.id (afterCondition course false)) := if_pos hop
  have hafter := stack_located (s := ended) hmounted hstack course false
  refine ⟨r.id, course, _, hstep, ⟨attributed_step _ _ _ h.attributed hstep, ?_, ?_⟩, hafter⟩
  · refine (answered_step _ _ _ h.attributed h.answered hstep).mpr fun _ => Or.inr ⟨?_, ?_⟩
    · exact Reply.noConfusion
    · exact ⟨top, r, below, hrest ▸ hstack, hpage, rfl⟩
  · obtain ⟨above, hbase⟩ := h.restsOn
    rw [Navigator.RestsOn, hafter]
    cases above with
    | nil =>
      rw [hstack, hrest] at hbase
      cases hbase
    | cons first above =>
      rw [hstack] at hbase
      obtain ⟨-, rfl⟩ := List.cons_eq_cons.mp hbase
      exact ⟨⟨s.nav.nextId, .alertDialog⟩ :: above, rfl⟩

/-- So one page can always be closed. -/
theorem underway_progress {base : Route Page} (s : App) (h : Underway base s)
    (hnot : s.nav.stack ≠ [base]) :
    ∃ es s', (app c).exec s es = some s' ∧ Underway base s' ∧
      s'.nav.stack.length < s.nav.stack.length ∧ ∀ e ∈ es, Homeward e := by
  have hstack : ∃ top second rest, s.nav.stack = top :: second :: rest := by
    rcases h.restsOn.top with halone | ⟨top, above, hstack⟩
    · exact absurd halone hnot
    · cases above with
      | nil => exact ⟨top, base, [], hstack⟩
      | cons second above => exact ⟨top, second, above ++ [base], hstack⟩
  obtain ⟨top, second, rest, hstack⟩ := hstack
  by_cases hpage : top.page = .loadingIndicator
  · obtain ⟨route, course, s₁, hfirst, h₁, hstack₁⟩ := underway_refused (c := c) h hstack hpage
    obtain ⟨s₂, hback, h₂, hstack₂⟩ :=
      underway_back (c := c) h₁ hstack₁ Page.noConfusion
    refine ⟨[.complete (.condition route course) (.confirmed false), .back], s₂, ?_, h₂, ?_, ?_⟩
    · exact (app c).exec_cons_some.mpr
        ⟨s₁, hfirst, (app c).exec_cons_some.mpr ⟨s₂, hback, rfl⟩⟩
    · rw [hstack, hstack₂]
      exact Nat.lt_succ_self _
    · intro e he
      rcases List.mem_cons.mp he with rfl | he
      · trivial
      · obtain rfl := List.mem_singleton.mp he
        trivial
  · obtain ⟨s', hback, h', hstack'⟩ := underway_back (c := c) h hstack hpage
    refine ⟨[.back], s', (app c).exec_cons_some.mpr ⟨s', hback, rfl⟩, h', ?_, ?_⟩
    · rw [hstack, hstack']
      exact Nat.lt_succ_self _
    · intro e he
      obtain rfl := List.mem_singleton.mp he
      trivial

/-- **There is always a way back**: in every run of the app in which each check that ends is not the
    last one of a SecondRoute under a dialog, or comes through and finds this dialog on top, Back
    and the answers of checks that are in flight lead from the state that is reached to the page at
    the bottom of its stack. -/
theorem way_back (c : CaseMap) (accounts : List String) (currentUser : Option Nat)
    (es : List Event) (s : App) (hrun : (app c).exec (.start accounts currentUser) es = some s)
    (hhides : (app c).Along Hides (.start accounts currentUser) es) (base : Route Page)
    (hbase : s.nav.RestsOn base) :
    ∃ later t, (app c).exec s later = some t ∧ t.nav.stack = [base] ∧
      ∀ e ∈ later, Homeward e := by
  have halways : (app c).Always Answered (.start accounts currentUser) es :=
    ((app c).always_iff_along attributed_step answered_step es _ s
      (attributed_start accounts currentUser) (answered_start accounts currentUser) hrun).mpr hhides
  have hunderway : Underway base s := ⟨attributed_of_run hrun, halways.last _ hrun, hbase⟩
  exact (app c).exec_reaches (I := Underway base) (fun s => s.nav.stack.length)
    (fun s h hnot => underway_progress s h hnot) s hunderway

/-- From under the dialog of a tap. -/
theorem way_back_from_dialog :
    ∃ s, (app .ascii).exec (.start ["17CK023456"] (some 0))
        [.press .students, .initializeFirebase 1, .press .takeAttendance, .press (.course 3)] =
          some s ∧
      ∃ later t, (app .ascii).exec s later = some t ∧ t.nav.stack = [startRoute] ∧
        ∀ e ∈ later, Homeward e := by
  have hhides : (app .ascii).Along Hides (.start ["17CK023456"] (some 0))
      [.press .students, .initializeFirebase 1, .press .takeAttendance, .press (.course 3)] :=
    .cons _ rfl trivial (.cons _ rfl trivial (.cons _ rfl trivial (.cons _ rfl trivial trivial)))
  exact ⟨_, rfl, way_back .ascii ["17CK023456"] (some 0)
    [.press .students, .initializeFirebase 1, .press .takeAttendance, .press (.course 3)] _ rfl
    hhides startRoute
    ⟨[⟨4, .loadingIndicator⟩, ⟨3, .secondRoute⟩, ⟨2, .profilePage 0 "" none⟩], rfl⟩⟩

/-- The student leaves CameraScreen while the capture is awaited, and taps again.  The preview
    covers the dialog, and the check closes the preview. -/
example :
    ((app .ascii).exec (.start ["17CK023456"] (some 0))
        [.press .students, .initializeFirebase 1, .press .takeAttendance, .press (.course 3),
          .complete (.condition 3 "EIE 523") (.confirmed true), .press .capture, .back,
          .press (.course 3), .complete (.captureFace 5) (.picture "1.png"),
          .complete (.condition 3 "EIE 523") (.confirmed true), .back]).map
        (fun s => (s.nav.stack, s.inFlight)) =
      some ([⟨6, .loadingIndicator⟩, ⟨3, .secondRoute⟩, ⟨2, .profilePage 0 "" none⟩, startRoute],
        []) := rfl

end AttendanceApp
