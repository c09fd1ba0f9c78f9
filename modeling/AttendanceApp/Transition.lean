/-
  Machines that take one event at a time, and what holds along their runs.

  Every screen of the app is a single-threaded event loop: a handler runs to its next `await`
  without being interrupted, and presses and completions of pending futures arrive in any order.
  A screen is therefore a PARTIAL STEP FUNCTION `step : σ → ε → Option σ` (`none` when the event
  cannot happen in that state), and "for every run" means "for every list of events the machine
  can execute".  This file knows nothing of the app.  It fixes the vocabulary

  * `exec s es`     — run the events `es` from `s`;
  * `Always P s es` — `P` holds of every state the run visits, the first and the last included;
  * `Along C s es`  — every step of the run is taken under the condition `C state event`;

  and proves the induction rules once: `exec_invariant` (a step-invariant is a run-invariant) and
  `always_iff_along` (when one step keeps `P` exactly under `C`, a run keeps `P` exactly when all
  its steps meet `C`).  A screen then only owes its one-step lemma.
-/
import Mathlib.Data.List.Basic
import Mathlib.Data.Option.Basic

namespace AttendanceApp.Transition

/-- A machine with states `σ` and events `ε`: `step s e` is the state after event `e`, `none`
    when `e` cannot happen in `s`. -/
structure Machine (σ ε : Type*) where
  step : σ → ε → Option σ

/-- A guarded step is taken when its guard holds. -/
theorem guarded_eq_some {σ : Type*} {c : Prop} [Decidable c] {s s' : σ} :
    (if c then some s else none) = some s' ↔ c ∧ s = s' := by
  rw [Option.ite_none_right_eq_some, Option.some.injEq]

namespace Machine

variable {σ ε : Type*} (M : Machine σ ε)

/-! ## Runs -/

/-- Execute the events in order. -/
def exec : σ → List ε → Option σ
  | s, [] => some s
  | s, e :: es => (M.step s e).bind fun s' => exec s' es

theorem exec_cons (s : σ) (e : ε) (es : List ε) :
    M.exec s (e :: es) = (M.step s e).bind fun s' => M.exec s' es := rfl

/-- The first step of a run, taken apart. -/
theorem exec_cons_some {s t : σ} {e : ε} {es : List ε} :
    M.exec s (e :: es) = some t ↔ ∃ s', M.step s e = some s' ∧ M.exec s' es = some t := by
  rw [exec_cons, Option.bind_eq_some_iff]

/-- A run of `pre ++ post` is a run of `pre` followed by a run of `post`. -/
theorem exec_append (s : σ) (pre post : List ε) :
    M.exec s (pre ++ post) = (M.exec s pre).bind fun m => M.exec m post := by
  induction pre generalizing s with
  | nil => rfl
  | cons e es ih =>
    rw [List.cons_append, exec_cons, exec_cons, Option.bind_assoc]
    congr 1
    funext s'
    exact ih s'

/-- The last step of a run, taken apart. -/
theorem exec_concat_some {s t : σ} {es : List ε} {e : ε} :
    M.exec s (es ++ [e]) = some t ↔ ∃ m, M.exec s es = some m ∧ M.step m e = some t := by
  rw [exec_append, Option.bind_eq_some_iff]
  refine exists_congr fun m => and_congr_right fun _ => ?_
  rw [exec_cons_some]
  exact ⟨fun ⟨_, hstep, hend⟩ => Option.some.inj hend ▸ hstep, fun hstep => ⟨t, hstep, rfl⟩⟩

/-- A machine that takes every event can run every list of events. -/
theorem exec_of_total (htotal : ∀ s e, ∃ s', M.step s e = some s') (s : σ) (es : List ε) :
    ∃ t, M.exec s es = some t := by
  induction es generalizing s with
  | nil => exact ⟨s, rfl⟩
  | cons e es ih =>
    obtain ⟨s', hs'⟩ := htotal s e
    obtain ⟨t, ht⟩ := ih s'
    exact ⟨t, M.exec_cons_some.mpr ⟨s', hs', ht⟩⟩

/-! ## Invariants -/

/-- **The invariant rule**: what one step keeps, a run keeps. -/
theorem exec_invariant {I : σ → Prop}
    (hstep : ∀ s e s', I s → M.step s e = some s' → I s') :
    ∀ (es : List ε) (s t : σ), I s → M.exec s es = some t → I t := by
  intro es
  induction es with
  | nil =>
    intro s t hs ht
    obtain rfl : s = t := Option.some.inj ht
    exact hs
  | cons e es ih =>
    intro s t hs ht
    obtain ⟨s', hs', ht'⟩ := M.exec_cons_some.mp ht
    exact ih s' t (hstep s e s' hs hs') ht'

/-- The invariant rule for what a state has to do with the events before it. -/
theorem exec_records {I : List ε → σ → Prop}
    (hstep : ∀ pre s e s', I pre s → M.step s e = some s' → I (pre ++ [e]) s') :
    ∀ (es pre : List ε) (s t : σ), I pre s → M.exec s es = some t → I (pre ++ es) t := by
  intro es
  induction es with
  | nil =>
    intro pre s t hs ht
    obtain rfl : s = t := Option.some.inj ht
    rw [List.append_nil]
    exact hs
  | cons e es ih =>
    intro pre s t hs ht
    obtain ⟨s', hs', ht'⟩ := M.exec_cons_some.mp ht
    have hrest := ih (pre ++ [e]) s' t (hstep pre s e s' hs hs') ht'
    rw [List.append_assoc] at hrest
    exact hrest

/-- A counter that the events satisfying `p` advance by one, and no other event touches, counts
    those events. -/
theorem exec_counts {f : σ → Nat} {p : ε → Bool}
    (hstep : ∀ s e s', M.step s e = some s' → f s' = f s + (if p e then 1 else 0)) :
    ∀ (es : List ε) (s t : σ), M.exec s es = some t → f t = f s + es.countP p := by
  intro es
  induction es with
  | nil =>
    intro s t ht
    obtain rfl : s = t := Option.some.inj ht
    rfl
  | cons e es ih =>
    intro s t ht
    obtain ⟨s', hs', ht'⟩ := M.exec_cons_some.mp ht
    rw [ih s' t ht', hstep s e s' hs', List.countP_cons]
    omega

/-- The number of steps of a run that are taken under the condition `C`. -/
def tally (C : σ → ε → Prop) [∀ s e, Decidable (C s e)] : σ → List ε → Nat
  | _, [] => 0
  | s, e :: es => (if C s e then 1 else 0) + (M.step s e).elim 0 fun s' => tally C s' es

/-- **The counting rule**: what a step under `C` advances by one, and any other step leaves, counts
    the steps under `C`. -/
theorem exec_tally {C : σ → ε → Prop} [∀ s e, Decidable (C s e)] {I : σ → Prop} {f : σ → Nat}
    (hI : ∀ s e s', I s → M.step s e = some s' → I s')
    (hf : ∀ s e s', I s → M.step s e = some s' → f s' = f s + if C s e then 1 else 0) :
    ∀ (es : List ε) (s t : σ), I s → M.exec s es = some t → f t = f s + M.tally C s es := by
  intro es
  induction es with
  | nil =>
    intro s t _ ht
    obtain rfl : s = t := Option.some.inj ht
    rfl
  | cons e es ih =>
    intro s t hs ht
    obtain ⟨s', hs', ht'⟩ := M.exec_cons_some.mp ht
    have htally : M.tally C s (e :: es) = (if C s e then 1 else 0) + M.tally C s' es := by
      show _ + (M.step s e).elim 0 _ = _
      rw [hs']
      rfl
    rw [ih s' t (hI s e s' hs hs') ht', hf s e s' hs hs', htally]
    omega

/-- **Where a property came from**: if a step that brings `P` about, under the invariant `I`, is one
    that satisfies `Q`, then a run that ends in `P` began in `P` or took such a step. -/
theorem exec_came_from {I P : σ → Prop} {Q : σ → ε → σ → Prop}
    (hI : ∀ s e s', I s → M.step s e = some s' → I s')
    (hstep : ∀ s e s', I s → M.step s e = some s' → P s' → P s ∨ Q s e s') :
    ∀ (es : List ε) (s t : σ), I s → M.exec s es = some t → P t →
      P s ∨ ∃ pre e post m m', es = pre ++ e :: post ∧ M.exec s pre = some m ∧
        M.step m e = some m' ∧ Q m e m' := by
  intro es
  induction es with
  | nil =>
    intro s t _ ht hP
    obtain rfl : s = t := Option.some.inj ht
    exact Or.inl hP
  | cons e es ih =>
    intro s t hIs ht hP
    obtain ⟨s', hs', ht'⟩ := M.exec_cons_some.mp ht
    rcases ih s' t (hI s e s' hIs hs') ht' hP with
      hPs' | ⟨pre, e', post, m, m', rfl, hpre, hm, hQ⟩
    · rcases hstep s e s' hIs hs' hPs' with hPs | hQ
      · exact Or.inl hPs
      · exact Or.inr ⟨[], e, es, s, s', rfl, rfl, hs', hQ⟩
    · exact Or.inr ⟨e :: pre, e', post, m, m', rfl, M.exec_cons_some.mpr ⟨s', hs', hpre⟩, hm, hQ⟩

/-- **The progress rule**: if, in every state of the invariant `I` that is not a goal, some events
    satisfying `Q` can be executed that keep `I` and lower the rank, then a goal can be reached by
    such events. -/
theorem exec_reaches {I G : σ → Prop} {Q : ε → Prop} (rank : σ → Nat)
    (hprogress : ∀ s, I s → ¬ G s → ∃ es s', M.exec s es = some s' ∧ I s' ∧ rank s' < rank s ∧
      ∀ e ∈ es, Q e)
    (s : σ) (hs : I s) : ∃ es t, M.exec s es = some t ∧ G t ∧ ∀ e ∈ es, Q e := by
  induction hrank : rank s using Nat.strongRecOn generalizing s with
  | ind n ih =>
    by_cases hG : G s
    · exact ⟨[], s, rfl, hG, fun _ he => absurd he List.not_mem_nil⟩
    · obtain ⟨es, s', hes, hs', hlt, hQ⟩ := hprogress s hs hG
      obtain ⟨es', t, hes', ht, hQ'⟩ := ih (rank s') (hrank ▸ hlt) s' hs' rfl
      refine ⟨es ++ es', t, ?_, ht, ?_⟩
      · rw [M.exec_append, hes, Option.bind_some, hes']
      · intro e he
        rcases List.mem_append.mp he with he | he
        · exact hQ e he
        · exact hQ' e he

/-! ## Properties of all states and of all steps of a run -/

/-- `P` holds of every state the run visits. -/
def Always (P : σ → Prop) : σ → List ε → Prop
  | s, [] => P s
  | s, e :: es => P s ∧ ∀ s', M.step s e = some s' → Always P s' es

/-- Every step of the run is taken in a state, and on an event, that satisfy `C`. -/
def Along (C : σ → ε → Prop) : σ → List ε → Prop
  | _, [] => True
  | s, e :: es => C s e ∧ ∀ s', M.step s e = some s' → Along C s' es

/-- On a given run, a decidable condition can be checked step by step. -/
instance decidableAlong (C : σ → ε → Prop) [∀ s e, Decidable (C s e)] :
    ∀ (s : σ) (es : List ε), Decidable (M.Along C s es)
  | _, [] => isTrue trivial
  | s, e :: es =>
    have : ∀ s', Decidable (M.Along C s' es) := fun s' => decidableAlong C s' es
    inferInstanceAs (Decidable (C s e ∧ ∀ s' ∈ M.step s e, M.Along C s' es))

/-- A condition that always holds. -/
theorem along_of_forall {C : σ → ε → Prop} (hC : ∀ s e, C s e) (s : σ) (es : List ε) :
    M.Along C s es := by
  induction es generalizing s with
  | nil => trivial
  | cons e es ih => exact ⟨hC s e, fun s' _ => ih s'⟩

/-- On a run whose first step is known. -/
theorem Along.cons {C : σ → ε → Prop} {s s' : σ} {e : ε} {es : List ε}
    (hstep : M.step s e = some s') (hC : C s e) (hrest : M.Along C s' es) :
    M.Along C s (e :: es) := by
  refine ⟨hC, fun s'' hs'' => ?_⟩
  obtain rfl : s' = s'' := Option.some.inj (hstep.symm.trans hs'')
  exact hrest

/-- What holds along a run holds along its prefixes. -/
theorem Along.of_append {C : σ → ε → Prop} {s : σ} {pre post : List ε}
    (h : M.Along C s (pre ++ post)) : M.Along C s pre := by
  induction pre generalizing s with
  | nil => trivial
  | cons e pre ih => exact ⟨h.1, fun s' hs' => ih (h.2 s' hs')⟩

/-- `Always` speaks of the state after every prefix of the run. -/
theorem always_iff_prefix {P : σ → Prop} {s t : σ} {es : List ε} (hrun : M.exec s es = some t) :
    M.Always P s es ↔ ∀ pre post m, es = pre ++ post → M.exec s pre = some m → P m := by
  induction es generalizing s with
  | nil =>
    constructor
    · intro h pre post m hsplit hm
      obtain ⟨rfl, -⟩ := List.append_eq_nil_iff.mp hsplit.symm
      obtain rfl : s = m := Option.some.inj hm
      exact h
    · intro h
      exact h [] [] s rfl rfl
  | cons e es ih =>
    obtain ⟨s', hs', hrun'⟩ := M.exec_cons_some.mp hrun
    constructor
    · rintro ⟨hP, hrest⟩ pre post m hsplit hm
      cases pre with
      | nil =>
        obtain rfl : s = m := Option.some.inj hm
        exact hP
      | cons e' pre =>
        obtain ⟨rfl, hsplit'⟩ := List.cons_eq_cons.mp hsplit
        obtain ⟨s'', hs'', hm'⟩ := M.exec_cons_some.mp hm
        obtain rfl : s' = s'' := Option.some.inj (hs'.symm.trans hs'')
        exact (ih hrun').mp (hrest s' hs') pre post m hsplit' hm'
    · -- a prefix of the rest of the run is, with `e` in front, a prefix of the run
      intro h
      refine ⟨h [] (e :: es) s rfl rfl, fun s'' hs'' => ?_⟩
      obtain rfl : s' = s'' := Option.some.inj (hs'.symm.trans hs'')
      refine (ih hrun').mpr fun pre post m hsplit hm => ?_
      exact h (e :: pre) post m (by rw [hsplit]; rfl)
        (M.exec_cons_some.mpr ⟨s', hs', hm⟩)

/-- `Along` speaks of the state before every event of the run. -/
theorem along_iff_split {C : σ → ε → Prop} {s t : σ} {es : List ε} (hrun : M.exec s es = some t) :
    M.Along C s es ↔ ∀ pre e post m, es = pre ++ e :: post → M.exec s pre = some m → C m e := by
  induction es generalizing s with
  | nil => exact ⟨fun _ pre e post m hsplit _ => by simp at hsplit, fun _ => trivial⟩
  | cons e es ih =>
    obtain ⟨s', hs', hrun'⟩ := M.exec_cons_some.mp hrun
    constructor
    · rintro ⟨hC, hrest⟩ pre e' post m hsplit hm
      cases pre with
      | nil =>
        obtain ⟨rfl, -⟩ := List.cons_eq_cons.mp hsplit
        obtain rfl : s = m := Option.some.inj hm
        exact hC
      | cons e'' pre =>
        obtain ⟨rfl, hsplit'⟩ := List.cons_eq_cons.mp hsplit
        obtain ⟨s'', hs'', hm'⟩ := M.exec_cons_some.mp hm
        obtain rfl : s' = s'' := Option.some.inj (hs'.symm.trans hs'')
        exact (ih hrun').mp (hrest s' hs') pre e' post m hsplit' hm'
    · intro h
      refine ⟨h [] e es s rfl rfl, fun s'' hs'' => ?_⟩
      obtain rfl : s' = s'' := Option.some.inj (hs'.symm.trans hs'')
      refine (ih hrun').mpr fun pre e' post m hsplit hm => ?_
      exact h (e :: pre) e' post m (by rw [hsplit]; rfl) (M.exec_cons_some.mpr ⟨s', hs', hm⟩)

/-- In particular `P` holds of the first state. -/
theorem Always.head {P : σ → Prop} {s : σ} {es : List ε} (h : M.Always P s es) : P s := by
  cases es with
  | nil => exact h
  | cons _ _ => exact h.1

theorem Always.imp {P Q : σ → Prop} (hPQ : ∀ s, P s → Q s) {s : σ} {es : List ε}
    (h : M.Always P s es) : M.Always Q s es := by
  induction es generalizing s with
  | nil => exact hPQ s h
  | cons e es ih => exact ⟨hPQ s h.1, fun s' hs' => ih (h.2 s' hs')⟩

/-- And of the last state. -/
theorem Always.last {P : σ → Prop} {s t : σ} {es : List ε} (h : M.Always P s es)
    (hrun : M.exec s es = some t) : P t :=
  (M.always_iff_prefix hrun).mp h es [] t (List.append_nil es).symm hrun

/-- **The exact run rule**.  If, in states satisfying the invariant `I` and `P`, one step keeps
    `P` exactly under the condition `C`, then a run keeps `P` throughout exactly when every one
    of its steps meets `C`. -/
theorem always_iff_along {I P : σ → Prop} {C : σ → ε → Prop}
    (hI : ∀ s e s', I s → M.step s e = some s' → I s')
    (hP : ∀ s e s', I s → P s → M.step s e = some s' → (P s' ↔ C s e)) :
    ∀ (es : List ε) (s t : σ), I s → P s → M.exec s es = some t →
      (M.Always P s es ↔ M.Along C s es) := by
  intro es
  induction es with
  | nil =>
    intro s t _ hs _
    exact ⟨fun _ => trivial, fun _ => hs⟩
  | cons e es ih =>
    intro s t hIs hs ht
    obtain ⟨s', hs', ht'⟩ := M.exec_cons_some.mp ht
    have hkeep := hP s e s' hIs hs hs'
    have hIs' := hI s e s' hIs hs'
    constructor
    · rintro ⟨-, hrest⟩
      have hPs' : P s' := (hrest s' hs').head M
      refine ⟨hkeep.mp hPs', fun s'' hs'' => ?_⟩
      obtain rfl : s' = s'' := Option.some.inj (hs'.symm.trans hs'')
      exact (ih s' t hIs' hPs' ht').mp (hrest s' hs')
    · rintro ⟨hC, hrest⟩
      refine ⟨hs, fun s'' hs'' => ?_⟩
      obtain rfl : s' = s'' := Option.some.inj (hs'.symm.trans hs'')
      exact (ih s' t hIs' (hkeep.mpr hC) ht').mpr (hrest s' hs')

/-- **The sufficient rule**: if, in states satisfying the invariant `I`, a step under the condition
    `C` keeps `P`, then a run whose steps all meet `C` keeps `P` throughout. -/
theorem always_of_along {I P : σ → Prop} {C : σ → ε → Prop}
    (hI : ∀ s e s', I s → M.step s e = some s' → I s')
    (hP : ∀ s e s', I s → P s → C s e → M.step s e = some s' → P s') :
    ∀ (es : List ε) (s : σ), I s → P s → M.Along C s es → M.Always P s es := by
  intro es
  induction es with
  | nil =>
    intro s _ hs _
    exact hs
  | cons e es ih =>
    rintro s hIs hs ⟨hC, hrest⟩
    refine ⟨hs, fun s' hs' => ?_⟩
    exact ih s' (hI s e s' hIs hs') (hP s e s' hIs hs hC hs') (hrest s' hs')

/-- A property that, once lost, does not come back holds throughout a run exactly when it holds
    of its last state. -/
theorem always_iff_last {I P : σ → Prop} (hI : ∀ s e s', I s → M.step s e = some s' → I s')
    (hback : ∀ s e s', I s → M.step s e = some s' → P s' → P s) :
    ∀ (es : List ε) (s t : σ), I s → M.exec s es = some t → (M.Always P s es ↔ P t) := by
  intro es
  induction es with
  | nil =>
    intro s t _ ht
    obtain rfl : s = t := Option.some.inj ht
    exact Iff.rfl
  | cons e es ih =>
    intro s t hIs ht
    refine ⟨fun h => h.last M ht, fun h => ?_⟩
    obtain ⟨s', hs', ht'⟩ := M.exec_cons_some.mp ht
    have hrest := (ih s' t (hI s e s' hIs hs') ht').mpr h
    refine ⟨hback s e s' hIs hs' (hrest.head M), fun s'' hs'' => ?_⟩
    obtain rfl : s' = s'' := Option.some.inj (hs'.symm.trans hs'')
    exact hrest

/-! ## Projection onto a smaller machine -/

/-- **Simulation**: if every step of `M`, taken under the invariant `I`, is a run of `N` when seen
    through `f`, then so is every run of `M`. -/
theorem exec_simulates {τ δ : Type*} (N : Machine τ δ) {f : σ → τ} {I : σ → Prop}
    (hI : ∀ s e s', I s → M.step s e = some s' → I s')
    (hstep : ∀ s e s', I s → M.step s e = some s' → ∃ ds, N.exec (f s) ds = some (f s')) :
    ∀ (es : List ε) (s t : σ), I s → M.exec s es = some t → ∃ ds, N.exec (f s) ds = some (f t) := by
  intro es
  induction es with
  | nil =>
    intro s t _ ht
    obtain rfl : s = t := Option.some.inj ht
    exact ⟨[], rfl⟩
  | cons e es ih =>
    intro s t hIs ht
    obtain ⟨s', hs', ht'⟩ := M.exec_cons_some.mp ht
    obtain ⟨ds, hds⟩ := hstep s e s' hIs hs'
    obtain ⟨ds', hds'⟩ := ih s' t (hI s e s' hIs hs') ht'
    refine ⟨ds ++ ds', ?_⟩
    rw [N.exec_append, hds, Option.bind_some, hds']

/-- **Renaming**: a map of states and one of events that commute with every step, undefined steps
    included, commute with every run. -/
theorem exec_rename {τ δ : Type*} (N : Machine τ δ) {f : σ → τ} {g : ε → δ}
    (hmap : ∀ s e, (M.step s e).map f = N.step (f s) (g e)) (s : σ) (es : List ε) :
    (M.exec s es).map f = N.exec (f s) (es.map g) := by
  induction es generalizing s with
  | nil => rfl
  | cons e es ih =>
    rw [List.map_cons, exec_cons, exec_cons, ← hmap]
    cases M.step s e with
    | none => rfl
    | some s' => exact ih s'

/-! ## A part of the state that runs by itself

  `f` projects `M` onto `N` when every step of `M`, seen through `f`, is the step of `N`, undefined
  steps included: the part `f` of the state does not depend on the rest. -/

section Projection

variable {τ : Type*} (N : Machine τ ε) {f : σ → τ}

theorem step_of_map (hmap : ∀ s e, (M.step s e).map f = N.step (f s) e) {s s' : σ} {e : ε}
    (hstep : M.step s e = some s') : N.step (f s) e = some (f s') := by
  rw [← hmap, hstep, Option.map_some]

/-- A run of `M` is a run of `N`, and every run of `N` is one of `M`. -/
theorem exec_map (hmap : ∀ s e, (M.step s e).map f = N.step (f s) e) (s : σ) (es : List ε) :
    (M.exec s es).map f = N.exec (f s) es := by
  rw [M.exec_rename N (g := id) hmap, List.map_id]

/-- A condition on the part can be checked on either run. -/
theorem along_map (hmap : ∀ s e, (M.step s e).map f = N.step (f s) e) {C : τ → ε → Prop} {s : σ}
    {es : List ε} (h : N.Along C (f s) es) : M.Along (fun s e => C (f s) e) s es := by
  induction es generalizing s with
  | nil => trivial
  | cons e es ih =>
    obtain ⟨hC, hrest⟩ := h
    refine ⟨hC, fun s' hs' => ?_⟩
    exact ih (hrest (f s') (M.step_of_map N hmap hs'))

end Projection

end Machine
end AttendanceApp.Transition
