/-
  The Flutter navigator: one stack of routes, and the widgets that outlive their route.

  `push`, `pop`, `pushReplacement` and `pushAndRemoveUntil` act on the top of one stack.  A route
  that is taken off the stack is animated out first: its widgets stay MOUNTED, so their handlers
  still run normally, until the animation is over and the route is disposed.  From then on
  `setState` and every lookup through its context throw.  The model keeps the routes that are
  being animated out in `leaving`, and lets `dispose` happen at any later moment.

  `Lifecycle` is the same for a screen that is looked at on its own.
-/
import Mathlib.Data.List.Basic

namespace AttendanceApp

/-- The stages of one route: on top and reacting to presses, animated out, gone. -/
inductive Lifecycle where
  | shown
  | leaving
  | disposed
  deriving DecidableEq, Repr

/-- A route with its identity. -/
structure Route (π : Type*) where
  id : Nat
  page : π
  deriving DecidableEq, Repr

/-- The routes on the stack, top first, and the routes that are being animated out. -/
structure Navigator (π : Type*) where
  stack : List (Route π)
  leaving : List (Route π) := []
  nextId : Nat

/-- One call of the `Navigator`. -/
inductive Nav (π : Type*) where
  | push (page : π)
  | pop
  | pushReplacement (page : π)
  /-- Routes are taken off down to the first one whose page satisfies `keep`. -/
  | pushAndRemoveUntil (page : π) (keep : π → Bool)

/-- The page a call brings up. -/
def Nav.opens {π : Type*} : Nav π → Option π
  | .push page => some page
  | .pop => none
  | .pushReplacement page => some page
  | .pushAndRemoveUntil page _ => some page

namespace Navigator

variable {π : Type*}

/-- The route a call puts on top. -/
def fresh (n : Navigator π) (page : π) : Route π := ⟨n.nextId, page⟩

/-- The stack after a call; the routes it takes off stay mounted until their exit animation ends. -/
def navigate (n : Navigator π) : Nav π → Navigator π
  | .push page => { n with stack := n.fresh page :: n.stack, nextId := n.nextId + 1 }
  | .pop =>
    match n.stack with
    | [] => n
    | top :: rest => { n with stack := rest, leaving := top :: n.leaving }
  | .pushReplacement page =>
    match n.stack with
    | [] => n -- no route to replace: the call throws
    | top :: rest =>
      { stack := n.fresh page :: rest, leaving := top :: n.leaving, nextId := n.nextId + 1 }
  | .pushAndRemoveUntil page keep =>
    { stack := n.fresh page :: n.stack.dropWhile fun r => !keep r.page
      leaving := (n.stack.takeWhile fun r => !keep r.page) ++ n.leaving
      nextId := n.nextId + 1 }

/-- The calls a handler makes, in order. -/
def navigateAll (n : Navigator π) (calls : List (Nav π)) : Navigator π := calls.foldl navigate n

/-- The exit animation of route `id` ends. -/
def dispose (n : Navigator π) (id : Nat) : Navigator π :=
  { n with leaving := n.leaving.filter (·.id ≠ id) }

/-- The routes whose widgets are mounted. -/
def mountedRoutes (n : Navigator π) : List (Route π) := n.stack ++ n.leaving

/-- `mounted` of the state of route `id`. -/
def mounted (n : Navigator π) (id : Nat) : Bool := n.mountedRoutes.any (·.id == id)

theorem stack_pushReplacement {n : Navigator π} (h : n.stack ≠ []) (page : π) :
    (n.navigate (.pushReplacement page)).stack = n.fresh page :: n.stack.tail := by
  rw [navigate]
  cases hstack : n.stack with
  | nil => exact absurd hstack h
  | cons top rest => rfl

theorem fresh_mem_pushReplacement {n : Navigator π} (h : n.stack ≠ []) (page : π) :
    n.fresh page ∈ (n.navigateAll [.pushReplacement page]).stack := by
  show n.fresh page ∈ (n.navigate (.pushReplacement page)).stack
  rw [stack_pushReplacement h]
  exact List.mem_cons_self

theorem pushReplacement_of_empty {n : Navigator π} (h : n.stack = []) (page : π) :
    n.navigate (.pushReplacement page) = n := by
  rw [navigate, h]

/-! ## Where the routes of a navigator come from -/

/-- A route on the stack after a call was there before, or is the page the call opens. -/
theorem mem_stack_navigate {n : Navigator π} {call : Nav π} {r : Route π}
    (h : r ∈ (n.navigate call).stack) : r ∈ n.stack ∨ call.opens = some r.page := by
  cases call with
  | push page =>
    rcases List.mem_cons.mp h with rfl | h
    · exact Or.inr rfl
    · exact Or.inl h
  | pop =>
    simp only [navigate] at h
    split at h
    · exact Or.inl h
    · rename_i heq
      exact Or.inl (heq ▸ List.mem_cons_of_mem _ h)
  | pushReplacement page =>
    simp only [navigate] at h
    split at h
    · exact Or.inl h
    · rename_i heq
      rcases List.mem_cons.mp h with rfl | h
      · exact Or.inr rfl
      · exact Or.inl (heq ▸ List.mem_cons_of_mem _ h)
  | pushAndRemoveUntil page keep =>
    rcases List.mem_cons.mp h with rfl | h
    · exact Or.inr rfl
    · exact Or.inl ((List.dropWhile_sublist _).mem h)

/-! ## Properties of all pages on the stack -/

/-- Every page on the stack satisfies `Q`. -/
def All (Q : π → Prop) (n : Navigator π) : Prop := ∀ r ∈ n.stack, Q r.page

/-- The calls bring up pages satisfying `Q` only. -/
def OpenOnly (Q : π → Prop) (calls : List (Nav π)) : Prop :=
  ∀ call ∈ calls, ∀ page, call.opens = some page → Q page

theorem openOnly_nil {Q : π → Prop} : OpenOnly Q [] := fun _ h => absurd h List.not_mem_nil

theorem openOnly_opens {Q : π → Prop} {call : Nav π} {page : π} (hopens : call.opens = some page)
    (h : Q page) : OpenOnly Q [call] := by
  intro call' hcall page' hopens'
  obtain rfl := List.mem_singleton.mp hcall
  obtain rfl : page = page' := Option.some.inj (hopens.symm.trans hopens')
  exact h

theorem openOnly_pop {Q : π → Prop} : OpenOnly Q [.pop] := by
  intro call hcall page hopens
  obtain rfl := List.mem_singleton.mp hcall
  cases hopens

/-- A property of all pages survives a call that brings up a page with it. -/
theorem All.navigate {Q : π → Prop} {n : Navigator π} {call : Nav π} (h : n.All Q)
    (hcall : ∀ page, call.opens = some page → Q page) : (n.navigate call).All Q := by
  intro r hr
  rcases mem_stack_navigate hr with hr | hopens
  · exact h r hr
  · exact hcall r.page hopens

/-- **What a handler keeps**: a property of all pages that holds of the pages it opens. -/
theorem All.navigateAll {Q : π → Prop} {calls : List (Nav π)} :
    ∀ {n : Navigator π}, n.All Q → OpenOnly Q calls → (n.navigateAll calls).All Q := by
  induction calls with
  | nil => exact fun h _ => h
  | cons call calls ih =>
    intro n h hcalls
    -- the stack after the first call has the property again
    have hfirst : (n.navigate call).All Q :=
      h.navigate fun page => hcalls call List.mem_cons_self page
    exact ih hfirst fun later hlater => hcalls later (List.mem_cons_of_mem _ hlater)

end Navigator
end AttendanceApp
