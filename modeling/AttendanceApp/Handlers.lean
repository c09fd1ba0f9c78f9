/-
  Whose page a handler resumes on.

  A handler keeps the context of its page, and looks at it again when the operation it awaited
  completes: `Navigator.of(context)` and `setState` work while the page is mounted.  The model keeps
  the number of the route instead (`App.resume`).  That is sound because no number is given out
  twice, and because a mounted page does not change: as long as the route of an operation in flight
  is mounted, it is the page whose button started the operation, with the data the operation was
  started with (`Op.Of`).
-/
import AttendanceApp.App
import AttendanceApp.Routes

namespace AttendanceApp

open Transition Dart Navigator

variable {c : CaseMap}

/-- The route of the handler that awaits the operation. -/
def Op.route : Op → Nat
  | .signInUsingEmailPassword route => route
  | .createUser route _ => route
  | .updateProfile route _ => route
  | .reload route _ => route
  | .signOut route => route
  | .takePicture route _ _ => route
  | .captureFace route => route
  | .condition route _ => route
  | .enrollImage route _ _ => route

/-- The operation is one of a handler of the page, and of the data on it. -/
def Op.Of : Op → Page → Prop
  | .signInUsingEmailPassword _, page => page = .loginScreen
  | .createUser _ _, page => page = .signUp
  | .updateProfile _ _, page => page = .signUp
  | .reload _ _, page => page = .signUp
  | .signOut _, page => ∃ user matnumber typed, page = .profilePage user matnumber typed
  | .takePicture _ matnumber typed, page => page = .registerCamera matnumber typed
  | .captureFace _, page => ∃ course, page = .cameraScreen course
  | .condition _ _, page => page = .secondRoute
  | .enrollImage _ imageFile subjectId, page =>
    ∃ session typed, page = .pageImageScreen subjectId imageFile session typed

/-- Every operation in flight was started on a route, and as long as this is mounted it is the page
    the operation was started on. -/
def Owned (n : Navigator Page) (op : Op) : Prop :=
  op.route < n.nextId ∧ ∀ r ∈ n.mountedRoutes, r.id = op.route → op.Of r.page

/-- The invariant. -/
structure Attributed (s : App) : Prop where
  nav : s.nav.Identified
  ops : ∀ op ∈ s.inFlight, Owned s.nav op

theorem starts_of {route : Nat} {page : Page} {button : Button} {op : Op}
    (h : Starts route page button op) : op.route = route ∧ op.Of page := by
  cases h with
  | signIn => exact ⟨rfl, rfl⟩
  | signUp name => exact ⟨rfl, rfl⟩
  | signOut user matnumber typed => exact ⟨rfl, user, matnumber, typed, rfl⟩
  | capture matnumber typed => exact ⟨rfl, rfl⟩
  | upload matricNumber imageFile session typed => exact ⟨rfl, session, typed, rfl⟩
  | course index title => exact ⟨rfl, rfl⟩
  | captureFace course => exact ⟨rfl, course, rfl⟩

/-- No button starts in the middle of a registration. -/
theorem starts_first {route : Nat} {page : Page} {button : Button} {op : Op}
    (h : Starts route page button op) (route' user : Nat) :
    op ≠ .updateProfile route' user ∧ op ≠ .reload route' user := by
  cases h <;> exact ⟨nofun, nofun⟩

/-- Whatever is opened, the routes that were there keep their pages. -/
theorem Owned.navigateAll {n : Navigator Page} {op : Op} (h : Owned n op)
    (calls : List (Nav Page)) : Owned (n.navigateAll calls) op := by
  obtain ⟨hlt, hof⟩ := h
  have hnext := nextId_le_navigateAll calls n
  refine ⟨Nat.lt_of_lt_of_le hlt hnext, fun r hr hid => ?_⟩
  rcases mem_mounted_navigateAll hr with hr | ⟨hnew, -⟩
  · exact hof r hr hid
  · omega

theorem Owned.dispose {n : Navigator Page} {op : Op} (h : Owned n op) (id : Nat) :
    Owned (n.dispose id) op :=
  ⟨h.1, fun r hr => h.2 r (mem_mounted_dispose hr)⟩

/-! ## What a step leaves in flight -/

/-- A step moves on the navigator, or disposes a route. -/
theorem nav_of_step {s s' : App} {e : Event} (hstep : (app c).step s e = some s') :
    (∃ calls, s'.nav = s.nav.navigateAll calls) ∨ ∃ route, s'.nav = s.nav.dispose route := by
  have hresume : ∀ (t : App) route calls, t.nav = s.nav →
      ∃ calls', (t.resume route calls).nav = s.nav.navigateAll calls' := by
    intro t route calls ht
    rw [resume_eq]
    by_cases hmounted : t.nav.mounted route = true
    · exact ⟨calls, by rw [if_pos hmounted, ht]⟩
    · exact ⟨[], by rw [if_neg hmounted, ht]; rfl⟩
  cases step_cases hstep with
  | press button top rest reaction hstack hpress => exact Or.inl ⟨reaction.calls, rfl⟩
  | back => exact Or.inl ⟨_, rfl⟩
  | type text id => exact Or.inl ⟨[], rfl⟩
  | dispose route => exact Or.inr ⟨route, rfl⟩
  | nobody route huser => exact Or.inl ⟨[], rfl⟩
  | remembered route user huser => exact Or.inl ⟨_, rfl⟩
  | complete op reply _ hop hc =>
    left
    cases hc with
    | failed _ _ => exact ⟨[], rfl⟩
    | signedIn route user => exact hresume _ _ _ rfl
    | created route name => exact ⟨[], rfl⟩
    | updated route user => exact ⟨[], rfl⟩
    | notUpdated route user => exact hresume _ _ _ rfl
    | notReloaded route user => exact hresume _ _ _ rfl
    | reloaded route user => exact hresume _ _ _ rfl
    | signedOut route => exact hresume _ _ _ rfl
    | taken route matnumber typed path _ => exact hresume _ _ _ rfl
    | captured route path => exact hresume _ _ _ rfl
    | located route course yes => exact hresume _ _ _ rfl
    | enrolled route _ _ => exact hresume _ _ _ rfl

/-- Ids are only given out. -/
theorem nextId_le_of_step {s s' : App} {e : Event} (hstep : (app c).step s e = some s') :
    s.nav.nextId ≤ s'.nav.nextId := by
  rcases nav_of_step hstep with ⟨calls, hnav⟩ | ⟨route, hnav⟩
  · rw [hnav]
    exact Navigator.nextId_le_navigateAll calls s.nav
  · rw [hnav]
    exact Nat.le_refl _

/-- The operation an event sets off: the first one of a handler, or the next one of a
    registration. -/
inductive Launches (s : App) : Event → Op → Prop
  | press (button : Button) (top : Route Page) (op : Op) (htop : top ∈ s.nav.stack)
      (hstarts : Starts top.id top.page button op) : Launches s (.press button) op
  | created (route : Nat) (name : String) (hop : Op.createUser route name ∈ s.inFlight) :
      Launches s (.complete (.createUser route name) .done) (.updateProfile route s.accounts.length)
  | updated (route user : Nat) (hop : Op.updateProfile route user ∈ s.inFlight) :
      Launches s (.complete (.updateProfile route user) .done) (.reload route user)

/-- Nothing else is set off. -/
theorem launches_of_step {s s' : App} {e : Event} (hstep : (app c).step s e = some s') {op : Op}
    (hop : op ∈ s'.inFlight) : op ∈ s.inFlight ∨ Launches s e op := by
  cases step_cases hstep with
  | press button top rest reaction hstack hpress =>
    rcases List.mem_append.mp hop with hop | hop
    · exact Or.inl hop
    · have htop : top ∈ s.nav.stack := hstack ▸ List.mem_cons_self
      rcases (press_cases hpress).2 with hnil | ⟨op', hone, hstarted⟩
      · rw [hnil] at hop
        cases hop
      · rw [hone] at hop
        obtain rfl := List.mem_singleton.mp hop
        exact Or.inr (.press button top op htop hstarted)
  | back => exact Or.inl hop
  | type text id => exact Or.inl hop
  | dispose route => exact Or.inl hop
  | nobody route huser => exact Or.inl hop
  | remembered route user huser => exact Or.inl hop
  | complete ended reply _ hended hc =>
    have hleft : op ∈ s.inFlight.erase ended → op ∈ s.inFlight := List.mem_of_mem_erase
    cases hc with
    | created route name =>
      rcases List.mem_append.mp hop with hop | hop
      · exact Or.inl (hleft hop)
      · obtain rfl := List.mem_singleton.mp hop
        exact Or.inr (.created route name hended)
    | updated route user =>
      rcases List.mem_append.mp hop with hop | hop
      · exact Or.inl (hleft hop)
      · obtain rfl := List.mem_singleton.mp hop
        exact Or.inr (.updated route user hended)
    | failed _ _ => exact Or.inl (hleft hop)
    | _ =>
      rw [resume_inFlight] at hop
      exact Or.inl (hleft hop)

/-- Accounts are only added, and keep their names. -/
theorem accounts_of_step {s s' : App} {e : Event} (hstep : (app c).step s e = some s') :
    s.accounts <+: s'.accounts := by
  cases step_cases hstep with
  | complete op reply _ hop hc =>
    cases hc with
    | failed _ _ => exact List.prefix_refl _
    | created route name => exact List.prefix_append _ _
    | updated route user => exact List.prefix_refl _
    | _ => simp only [resume_accounts, List.prefix_rfl]
  | _ => exact List.prefix_refl _

/-! ## The invariant -/

/-- An operation is set off by its own page, or by the operation of its page that went before. -/
theorem owned_of_launches {s : App} {e : Event} {op : Op} (hs : Attributed s)
    (h : Launches s e op) : Owned s.nav op := by
  cases h with
  | press button top op htop hstarts =>
    obtain ⟨hroute, hof⟩ := starts_of hstarts
    have hmounted := mem_mounted_of_mem_stack htop
    rw [Owned, hroute]
    refine ⟨hs.nav.lt top hmounted, fun r hr hid => ?_⟩
    rw [hs.nav.eq_of_id hr hmounted hid]
    exact hof
  | created route name hop =>
    obtain ⟨hlt, hmounted⟩ := hs.ops _ hop
    exact ⟨hlt, hmounted⟩
  | updated route user hop =>
    obtain ⟨hlt, hmounted⟩ := hs.ops _ hop
    exact ⟨hlt, hmounted⟩

/-- **The step lemma**: what a press starts belongs to the page it was pressed on. -/
theorem attributed_step (s : App) (e : Event) (s' : App) (h : Attributed s)
    (hstep : (app c).step s e = some s') : Attributed s' := by
  have howned : ∀ op ∈ s'.inFlight, Owned s.nav op := by
    intro op hop
    rcases launches_of_step hstep hop with hop | hlaunches
    · exact h.ops op hop
    · exact owned_of_launches h hlaunches
  rcases nav_of_step hstep with ⟨calls, hnav⟩ | ⟨route, hnav⟩
  · refine ⟨hnav ▸ h.nav.navigateAll, fun op hop => ?_⟩
    rw [hnav]
    exact (howned op hop).navigateAll calls
  · refine ⟨hnav ▸ h.nav.dispose route, fun op hop => ?_⟩
    rw [hnav]
    exact (howned op hop).dispose route

theorem attributed_start (accounts : List String) (currentUser : Option Nat) :
    Attributed (.start accounts currentUser) := by
  refine ⟨⟨List.nodup_singleton 0, fun r hr => ?_⟩, fun op hop => absurd hop List.not_mem_nil⟩
  obtain rfl := List.mem_singleton.mp hr
  exact Nat.zero_lt_one

/-- **The numbers stand for the pages**: the ids of the mounted routes are distinct in every run,
    and the route of an operation in flight, while it is mounted, is the page the operation was
    started on. -/
theorem attributed_of_run {accounts : List String} {currentUser : Option Nat} {es : List Event}
    {s : App} (hrun : (app c).exec (.start accounts currentUser) es = some s) : Attributed s :=
  (app c).exec_invariant attributed_step es _ s (attributed_start accounts currentUser) hrun

end AttendanceApp
