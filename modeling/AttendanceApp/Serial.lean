/-
  Calls that share a state and are interleaved at their awaits, and when that makes no difference.

  A call of an `async` function runs to its next `await` without being interrupted, but between two
  of its awaits the other calls run.  Here a PROGRAM is what one call does from each await to the
  next (`advance`), on a state `σ` that all calls share and with data `τ` of its own; `φ` says
  where the call stands.  This file knows nothing of the app.

  The calls are SERIALIZABLE when, once all have ended, the shared state and what each call ended
  with are those of the same calls made one after the other.  The condition is reduction by left
  movers (`Movable`): once a call has taken its first step, each further step of it can be moved in
  front of all that the others did since.  The serial order is then the order of the first steps
  (`order`).

  What a call ends with may depend on what it was moved past, if it depends on nothing more than
  `Alike` allows; with equality for `Alike` each call ends as in the serial run.

  The invariant (`Replays`) is the serial run itself, with every call taken as far as it has come.
  A step of a call that has begun long ago lands in the middle of that run, and `serial_moves`
  carries it to the end.
-/
import AttendanceApp.Transition
import Mathlib.Data.List.Nodup
import Mathlib.Data.List.Infix

namespace AttendanceApp.Serial

open AttendanceApp.Transition

/-! ## Programs and their interleavings -/

/-- What one call does: it starts at `entry`, and `advance` takes it to its next `await`. -/
structure Program (σ τ φ : Type*) where
  entry : φ
  advance : τ → φ → σ → σ × φ
  ended : φ → Bool

/-- The shared state, and the calls in the order they were made, each with where it stands. -/
structure State (σ τ φ : Type*) where
  shared : σ
  calls : List (τ × φ) := []

/-- A call is made, or goes on. -/
inductive Event (τ : Type*) where
  | call (x : τ)
  /-- What call `i` awaits comes through. -/
  | resume (i : Nat)
  deriving DecidableEq, Repr

variable {σ τ φ : Type*} (P : Program σ τ φ)

/-- Two calls stand at the same place, or have both ended and their ends are alike. -/
def Program.Meets (Alike : φ → φ → Prop) (p q : φ) : Prop :=
  p = q ∨ P.ended p = true ∧ P.ended q = true ∧ Alike p q

/-- One event: a call that has not ended does the step it stands before, on what is shared NOW. -/
def Program.step (s : State σ τ φ) : Event τ → Option (State σ τ φ)
  | .call x => some { s with calls := s.calls ++ [(x, P.entry)] }
  | .resume i =>
    match s.calls[i]? with
    | none => none
    | some (x, p) =>
      if P.ended p then none
      else
        some
          { shared := (P.advance x p s.shared).1
            calls := s.calls.set i (x, (P.advance x p s.shared).2) }

/-- Any number of calls, interleaved in any way. -/
def Program.interleaving : Machine (State σ τ φ) (Event τ) := ⟨P.step⟩

/-! ## Calls made one after the other -/

/-- `n` steps of a call with nothing in between.  A call that has ended takes no more. -/
def Program.after (x : τ) (s : σ) : Nat → σ × φ
  | 0 => (s, P.entry)
  | n + 1 =>
    if P.ended (Program.after x s n).2 then Program.after x s n
    else P.advance x (Program.after x s n).2 (Program.after x s n).1

/-- The data of call `i`. -/
def State.data (s : State σ τ φ) (i : Nat) : Option τ := s.calls[i]?.map Prod.fst

/-- `n` steps of call `i`. -/
def Program.turn (data : Nat → Option τ) (n i : Nat) (s : σ) : σ :=
  match data i with
  | some x => (P.after x s n).1
  | none => s

/-- The calls of a list one after the other, `steps i` steps of call `i`. -/
def Program.serial (data : Nat → Option τ) (steps : Nat → Nat) : List Nat → σ → σ
  | [], s => s
  | i :: rest, s => Program.serial data steps rest (P.turn data (steps i) i s)

/-- In that serial run each call comes to where it stands in `calls`. -/
def Program.Follows (Alike : φ → φ → Prop) (calls : List (τ × φ)) (data : Nat → Option τ)
    (steps : Nat → Nat) : List Nat → σ → Prop
  | [], _ => True
  | i :: rest, s =>
    (∀ x p, calls[i]? = some (x, p) → P.Meets Alike p (P.after x s (steps i)).2) ∧
      Program.Follows Alike calls data steps rest (P.turn data (steps i) i s)

/-- Every call ends within `n` steps. -/
def Program.EndsWithin (n : Nat) : Prop := ∀ x s, P.ended (P.after x s n).2 = true

/-! ## The order of the first steps -/

/-- It is call `i` that goes on. -/
def Event.resumes (i : Nat) : Event τ → Bool
  | .call _ => false
  | .resume j => j == i

/-- The number of steps call `i` has taken. -/
def steps (es : List (Event τ)) (i : Nat) : Nat := es.countP (Event.resumes i)

/-- What one more event does to the order. -/
def enqueue (order : List Nat) : Event τ → List Nat
  | .call _ => order
  | .resume i => if i ∈ order then order else order ++ [i]

/-- The calls that have begun, in the order of their first steps. -/
def order (es : List (Event τ)) : List Nat := es.foldl enqueue []

theorem order_concat (es : List (Event τ)) (e : Event τ) :
    order (es ++ [e]) = enqueue (order es) e := by
  unfold order
  rw [List.foldl_append]
  rfl

theorem steps_concat (es : List (Event τ)) (e : Event τ) (i : Nat) :
    steps (es ++ [e]) i = steps es i + if e.resumes i then 1 else 0 := by
  unfold steps
  rw [List.countP_append, List.countP_singleton]

theorem steps_resume (es : List (Event τ)) (i : Nat) :
    steps (es ++ [.resume i]) i = steps es i + 1 := by
  rw [steps_concat]
  show steps es i + (if (i == i) = true then 1 else 0) = steps es i + 1
  rw [beq_self_eq_true, if_pos rfl]

theorem steps_resume_of_ne (es : List (Event τ)) {i j : Nat} (h : j ≠ i) :
    steps (es ++ [.resume i]) j = steps es j := by
  rw [steps_concat]
  show steps es j + (if (i == j) = true then 1 else 0) = steps es j
  rw [beq_eq_false_iff_ne.mpr (Ne.symm h)]
  rfl

theorem steps_call (es : List (Event τ)) (x : τ) : steps (es ++ [.call x]) = steps es := by
  funext i
  rw [steps_concat]
  rfl

/-! ## Meeting -/

section Meets

variable {P} {Alike : φ → φ → Prop} {p q r : φ}

/-- A call that has not ended stands at the very place. -/
theorem eq_of_meets (h : P.Meets Alike p q) (hend : P.ended p = false) : p = q := by
  rcases h with h | ⟨hended, -⟩
  · exact h
  · rw [hend] at hended
    cases hended

theorem ended_of_meets (h : P.Meets Alike p q) (hend : P.ended p = true) : P.ended q = true := by
  rcases h with rfl | ⟨-, hended, -⟩
  · exact hend
  · exact hended

theorem meets_trans (htrans : ∀ p q r, Alike p q → Alike q r → Alike p r)
    (hpq : P.Meets Alike p q) (hqr : P.Meets Alike q r) : P.Meets Alike p r := by
  rcases hpq with rfl | ⟨hp, hq, hpq⟩
  · exact hqr
  · rcases hqr with rfl | ⟨-, hr, hqr⟩
    · exact Or.inr ⟨hp, hq, hpq⟩
    · exact Or.inr ⟨hp, hr, htrans p q r hpq hqr⟩

end Meets

/-! ## Serial runs -/

section Serial

variable {P} {Alike : φ → φ → Prop} {data data' : Nat → Option τ} {n n' : Nat → Nat}
  {calls calls' : List (τ × φ)}

theorem after_succ {x : τ} {s : σ} {m : Nat} (h : P.ended (P.after x s m).2 = false) :
    P.after x s (m + 1) = P.advance x (P.after x s m).2 (P.after x s m).1 := by
  show (if _ then _ else _) = _
  rw [h]
  rfl

/-- A call that has ended takes no more steps. -/
theorem after_of_ended {x : τ} {s : σ} {m k : Nat} (h : P.ended (P.after x s m).2 = true)
    (hle : m ≤ k) : P.after x s k = P.after x s m := by
  induction k, hle using Nat.le_induction with
  | base => rfl
  | succ k hle ih =>
    show (if _ then _ else _) = _
    rw [ih, h]
    rfl

/-- Two numbers of steps that both end a call lead to the same end. -/
theorem after_ended {x : τ} {s : σ} {m k : Nat} (hm : P.ended (P.after x s m).2 = true)
    (hk : P.ended (P.after x s k).2 = true) : P.after x s m = P.after x s k := by
  rcases Nat.le_total m k with hle | hle
  · exact (after_of_ended hm hle).symm
  · exact after_of_ended hk hle

theorem turn_of_data {x : τ} {i : Nat} (h : data i = some x) (m : Nat) (s : σ) :
    P.turn data m i s = (P.after x s m).1 := by
  unfold Program.turn
  rw [h]

/-- A serial run in two parts. -/
theorem serial_append (l l' : List Nat) (s : σ) :
    P.serial data n (l ++ l') s = P.serial data n l' (P.serial data n l s) := by
  induction l generalizing s with
  | nil => rfl
  | cons i rest ih => exact ih _

/-- It depends on the calls that are run, and on nothing else. -/
theorem serial_congr {l : List Nat} (hdata : ∀ i ∈ l, data i = data' i) (hn : ∀ i ∈ l, n i = n' i)
    (s : σ) : P.serial data n l s = P.serial data' n' l s := by
  induction l generalizing s with
  | nil => rfl
  | cons i rest ih =>
    have hturn : P.turn data (n i) i s = P.turn data' (n' i) i s := by
      unfold Program.turn
      rw [hdata i List.mem_cons_self, hn i List.mem_cons_self]
    show P.serial data n rest _ = P.serial data' n' rest _
    rw [hturn]
    apply ih
    · intro j hj
      exact hdata j (List.mem_cons_of_mem _ hj)
    · intro j hj
      exact hn j (List.mem_cons_of_mem _ hj)

/-- A run that is followed in two parts. -/
theorem follows_append (l l' : List Nat) (s : σ) :
    P.Follows Alike calls data n (l ++ l') s ↔
      P.Follows Alike calls data n l s ∧ P.Follows Alike calls data n l' (P.serial data n l s) := by
  induction l generalizing s with
  | nil => exact (iff_of_eq (true_and _)).symm
  | cons i rest ih =>
    show _ ∧ P.Follows Alike calls data n (rest ++ l') _ ↔ (_ ∧ _) ∧ _
    rw [and_assoc, ih]
    rfl

theorem follows_congr {l : List Nat} (hcalls : ∀ i ∈ l, calls[i]? = calls'[i]?)
    (hdata : ∀ i ∈ l, data i = data' i) (hn : ∀ i ∈ l, n i = n' i) (s : σ) :
    P.Follows Alike calls data n l s ↔ P.Follows Alike calls' data' n' l s := by
  induction l generalizing s with
  | nil => exact Iff.rfl
  | cons i rest ih =>
    have hturn : P.turn data (n i) i s = P.turn data' (n' i) i s := by
      unfold Program.turn
      rw [hdata i List.mem_cons_self, hn i List.mem_cons_self]
    show _ ∧ _ ↔ _ ∧ _
    rw [hturn, hcalls i List.mem_cons_self, hn i List.mem_cons_self]
    apply and_congr_right
    intro _
    apply ih
    · intro j hj
      exact hcalls j (List.mem_cons_of_mem _ hj)
    · intro j hj
      exact hdata j (List.mem_cons_of_mem _ hj)
    · intro j hj
      exact hn j (List.mem_cons_of_mem _ hj)

end Serial

/-! ## Reduction -/

/-- **Left movers.**  A call that has begun holds its claim as long as it lives, whatever the others
    do, and under its claim its next step can be taken before or after any steps of a call that
    begins later: both calls come to the same, the moved one up to the end it comes to. -/
structure Program.Movable (Alike : φ → φ → Prop) (Claims : τ → φ → σ → Prop) : Prop where
  trans : ∀ p q r, Alike p q → Alike q r → Alike p r
  entry : P.ended P.entry = false
  first : ∀ x s, Claims x (P.advance x P.entry s).2 (P.advance x P.entry s).1
  next : ∀ x p s, Claims x p s → P.ended p = false →
    Claims x (P.advance x p s).2 (P.advance x p s).1
  kept : ∀ x p s, Claims x p s → ∀ y n, Claims x p (P.after y s n).1
  moves : ∀ x p s, Claims x p s → P.ended p = false → ∀ y n,
    P.after y (P.advance x p s).1 n =
      ((P.advance x p (P.after y s n).1).1, (P.after y s n).2) ∧
    P.Meets Alike (P.advance x p (P.after y s n).1).2 (P.advance x p s).2

section Reduction

variable {P} {Alike : φ → φ → Prop} {Claims : τ → φ → σ → Prop} (h : P.Movable Alike Claims)
variable {data : Nat → Option τ} {n : Nat → Nat} {calls : List (τ × φ)}

include h

/-- A call that has begun holds its claim. -/
theorem claims_after (x : τ) (s : σ) {m : Nat} (hm : 0 < m) :
    Claims x (P.after x s m).2 (P.after x s m).1 := by
  induction m, hm using Nat.le_induction with
  | base =>
    have hone : P.after x s 1 = P.advance x P.entry s := after_succ h.entry
    rw [hone]
    exact h.first x s
  | succ m hm ih =>
    cases hend : P.ended (P.after x s m).2 with
    | true =>
      rw [after_of_ended hend (Nat.le_succ m)]
      exact ih
    | false =>
      rw [after_succ hend]
      exact h.next x _ _ ih hend

/-- A whole turn of another call takes nothing from a claim. -/
theorem claims_turn {x : τ} {p : φ} {s : σ} (hclaims : Claims x p s) (m i : Nat) :
    Claims x p (P.turn data m i s) := by
  unfold Program.turn
  cases data i with
  | none => exact hclaims
  | some y => exact h.kept x p s hclaims y m

/-- A step moves past the turn of another call. -/
theorem turn_moves {x : τ} {p : φ} {s : σ} (hclaims : Claims x p s) (hend : P.ended p = false)
    (data : Nat → Option τ) (m i : Nat) :
    P.turn data m i (P.advance x p s).1 = (P.advance x p (P.turn data m i s)).1 ∧
      P.Meets Alike (P.advance x p (P.turn data m i s)).2 (P.advance x p s).2 := by
  unfold Program.turn
  cases data i with
  | none => exact ⟨rfl, Or.inl rfl⟩
  | some y =>
    obtain ⟨hafter, hsame⟩ := h.moves x p s hclaims hend y m
    refine ⟨?_, hsame⟩
    show (P.after y (P.advance x p s).1 m).1 = _
    rw [hafter]

/-- **A step moves to the end of a serial run** of other calls. -/
theorem serial_moves {x : τ} {p : φ} {s : σ} (hclaims : Claims x p s) (hend : P.ended p = false)
    (data : Nat → Option τ) (n : Nat → Nat) (l : List Nat) :
    P.serial data n l (P.advance x p s).1 = (P.advance x p (P.serial data n l s)).1 ∧
      P.Meets Alike (P.advance x p (P.serial data n l s)).2 (P.advance x p s).2 := by
  induction l generalizing s with
  | nil => exact ⟨rfl, Or.inl rfl⟩
  | cons i rest ih =>
    obtain ⟨hturn, hsame⟩ := turn_moves h hclaims hend data (n i) i
    obtain ⟨hrest, hsame'⟩ := ih (claims_turn h hclaims (n i) i)
    show P.serial data n rest _ = (P.advance x p (P.serial data n rest _)).1 ∧
      P.Meets Alike (P.advance x p (P.serial data n rest _)).2 _
    rw [hturn]
    exact ⟨hrest, meets_trans h.trans hsame' hsame⟩

/-- The calls of that run do not notice. -/
theorem follows_moves {x : τ} {p : φ} {s : σ} (hclaims : Claims x p s) (hend : P.ended p = false)
    {l : List Nat} (hfollows : P.Follows Alike calls data n l s) :
    P.Follows Alike calls data n l (P.advance x p s).1 := by
  induction l generalizing s with
  | nil => exact trivial
  | cons i rest ih =>
    obtain ⟨hhere, hrest⟩ := hfollows
    obtain ⟨hturn, -⟩ := turn_moves h hclaims hend data (n i) i
    refine ⟨?_, ?_⟩
    · intro y q hy
      obtain ⟨hafter, -⟩ := h.moves x p s hclaims hend y (n i)
      rw [hafter]
      exact hhere y q hy
    · rw [hturn]
      exact ih (claims_turn h hclaims (n i) i) hrest

end Reduction

/-! ## The invariant -/

/-- The calls that have begun, each taken as far as it has come and made one after the other in the
    order in which they began, lead to the shared state and to where each of them stands. -/
structure Program.Replays (Alike : φ → φ → Prop) (s₀ : σ) (es : List (Event τ))
    (t : State σ τ φ) : Prop where
  shared : P.serial t.data (steps es) (order es) s₀ = t.shared
  follows : P.Follows Alike t.calls t.data (steps es) (order es) s₀
  nodup : (order es).Nodup
  begun : ∀ i ∈ order es, i < t.calls.length ∧ 0 < steps es i
  waiting : ∀ i, i ∉ order es →
    steps es i = 0 ∧ ∀ x p, t.calls[i]? = some (x, p) → p = P.entry

/-- The ways a step goes. -/
inductive Program.Step (t : State σ τ φ) : Event τ → State σ τ φ → Prop
  | call (x : τ) : Program.Step t (.call x) { t with calls := t.calls ++ [(x, P.entry)] }
  | resume (i : Nat) (x : τ) (p : φ) (hcall : t.calls[i]? = some (x, p))
      (hend : P.ended p = false) :
      Program.Step t (.resume i)
        { shared := (P.advance x p t.shared).1
          calls := t.calls.set i (x, (P.advance x p t.shared).2) }

section Run

variable {P} {Alike : φ → φ → Prop} {s₀ : σ} {es : List (Event τ)} {t t' : State σ τ φ}

theorem step_cases {e : Event τ} (h : P.interleaving.step t e = some t') : P.Step t e t' := by
  cases e with
  | call x =>
    obtain rfl := Option.some.inj h
    exact .call x
  | resume i =>
    simp only [Program.interleaving, Program.step] at h
    split at h
    · cases h
    · rename_i x p hcall
      split at h
      · cases h
      · rename_i hend
        obtain rfl := Option.some.inj h
        exact .resume i x p hcall (Bool.eq_false_iff.mpr hend)

/-- A call that has not ended can be resumed. -/
theorem step_resume {i : Nat} {x : τ} {p : φ} (hcall : t.calls[i]? = some (x, p))
    (hend : P.ended p = false) :
    P.interleaving.step t (.resume i) = some
      { shared := (P.advance x p t.shared).1
        calls := t.calls.set i (x, (P.advance x p t.shared).2) } := by
  simp only [Program.interleaving, Program.step, hcall, hend]
  rfl

/-- Before the first step nothing has been run. -/
theorem replays_start (s₀ : σ) : P.Replays Alike s₀ [] ⟨s₀, []⟩ :=
  ⟨rfl, trivial, List.nodup_nil, fun _ h => absurd h List.not_mem_nil,
    fun _ _ => ⟨rfl, fun _ _ hcall => by cases hcall⟩⟩

/-- A new call changes nothing of what the others have done. -/
theorem replays_call (h : P.Replays Alike s₀ es t) (x : τ) :
    P.Replays Alike s₀ (es ++ [.call x]) { t with calls := t.calls ++ [(x, P.entry)] } := by
  have hcalls : ∀ i ∈ order es, (t.calls ++ [(x, P.entry)])[i]? = t.calls[i]? := by
    intro i hi
    exact List.getElem?_append_left (h.begun i hi).1
  have hdata : ∀ i ∈ order es,
      State.data { t with calls := t.calls ++ [(x, P.entry)] } i = t.data i := by
    intro i hi
    unfold State.data
    rw [hcalls i hi]
  have horder : order (es ++ [.call x]) = order es := order_concat es _
  refine ⟨?_, ?_, ?_, ?_, ?_⟩
  · rw [horder, steps_call, serial_congr hdata (fun _ _ => rfl)]
    exact h.shared
  · rw [horder, steps_call, follows_congr hcalls hdata (fun _ _ => rfl)]
    exact h.follows
  · rw [horder]
    exact h.nodup
  · rw [horder, steps_call]
    intro i hi
    obtain ⟨hlt, hpos⟩ := h.begun i hi
    refine ⟨?_, hpos⟩
    rw [List.length_append]
    omega
  · rw [horder, steps_call]
    intro i hi
    obtain ⟨hzero, hentry⟩ := h.waiting i hi
    refine ⟨hzero, ?_⟩
    intro y p hy
    rcases Nat.lt_trichotomy i t.calls.length with hlt | rfl | hgt
    · rw [List.getElem?_append_left hlt] at hy
      exact hentry y p hy
    · rw [List.getElem?_concat_length] at hy
      cases hy
      rfl
    · rw [List.getElem?_eq_none (by rw [List.length_append, List.length_singleton]; omega)] at hy
      cases hy

/-- The calls keep their data. -/
theorem data_set {i : Nat} {x : τ} {p q : φ} (hcall : t.calls[i]? = some (x, p)) (s : σ) :
    State.data { shared := s, calls := t.calls.set i (x, q) } = t.data := by
  funext j
  unfold State.data
  rw [List.getElem?_set]
  by_cases hj : i = j
  · subst hj
    obtain ⟨hlt, -⟩ := List.getElem?_eq_some_iff.mp hcall
    rw [if_pos rfl, if_pos hlt, hcall]
    rfl
  · rw [if_neg hj]

/-- The first step of a call is the last of the serial run. -/
theorem replays_first (hentry : P.ended P.entry = false) (h : P.Replays Alike s₀ es t) {i : Nat}
    {x : τ} {p : φ} (hcall : t.calls[i]? = some (x, p)) (hnew : i ∉ order es) :
    P.Replays Alike s₀ (es ++ [.resume i])
      { shared := (P.advance x p t.shared).1
        calls := t.calls.set i (x, (P.advance x p t.shared).2) } := by
  obtain ⟨hlt, -⟩ := List.getElem?_eq_some_iff.mp hcall
  obtain ⟨hzero, hwaits⟩ := h.waiting i hnew
  obtain rfl : p = P.entry := hwaits x p hcall
  have hdata : t.data i = some x := congrArg (Option.map Prod.fst) hcall
  have horder : order (es ++ [.resume i]) = order es ++ [i] := by
    rw [order_concat]
    exact if_neg hnew
  have hothers : ∀ j ∈ order es, steps (es ++ [.resume i]) j = steps es j := by
    intro j hj
    exact steps_resume_of_ne es fun hji => hnew (hji ▸ hj)
  have hkept : ∀ j ∈ order es, (t.calls.set i (x, (P.advance x P.entry t.shared).2))[j]? =
      t.calls[j]? := by
    intro j hj
    apply List.getElem?_set_ne
    rintro rfl
    exact hnew hj
  have hshared : P.serial t.data (steps (es ++ [.resume i])) (order es) s₀ = t.shared := by
    rw [serial_congr (fun _ _ => rfl) hothers]
    exact h.shared
  have hafter : P.after x t.shared (steps (es ++ [.resume i]) i) =
      P.advance x P.entry t.shared := by
    rw [steps_resume, hzero]
    exact after_succ hentry
  refine ⟨?_, ?_, ?_, ?_, ?_⟩
  · rw [data_set hcall, horder, serial_append, hshared]
    show P.turn t.data _ i t.shared = _
    rw [turn_of_data hdata, hafter]
  · rw [data_set hcall, horder, follows_append, hshared]
    refine ⟨?_, ?_, trivial⟩
    · rw [follows_congr hkept (fun _ _ => rfl) hothers]
      exact h.follows
    · intro y q hy
      rw [List.getElem?_set_self hlt] at hy
      cases hy
      rw [hafter]
      exact Or.inl rfl
  · rw [horder, ← List.concat_eq_append]
    exact h.nodup.concat hnew
  · rw [horder]
    intro j hj
    rw [List.length_set]
    rcases List.mem_append.mp hj with hj | hj
    · rw [hothers j hj]
      exact h.begun j hj
    · obtain rfl := List.mem_singleton.mp hj
      rw [steps_resume]
      exact ⟨hlt, Nat.succ_pos _⟩
  · rw [horder]
    intro j hj
    have hne : j ≠ i := fun hji => hj (hji ▸ List.mem_append_right _ List.mem_cons_self)
    rw [steps_resume_of_ne es hne, List.getElem?_set_ne hne.symm]
    exact h.waiting j fun hmem => hj (List.mem_append_left _ hmem)

/-- **A later step** of a call is taken in its turn, and moved to the end from there. -/
theorem serial_resume {Claims : τ → φ → σ → Prop} (hmovable : P.Movable Alike Claims)
    {calls : List (τ × φ)} {data : Nat → Option τ} {n n' : Nat → Nat} {pre post : List Nat}
    {i : Nat}
    {x : τ} {p : φ} (hcall : calls[i]? = some (x, p)) (hdata : data i = some x)
    (hend : P.ended p = false) (hpos : 0 < n i) (hsucc : n' i = n i + 1)
    (hothers : ∀ j, j ≠ i → n' j = n j) (hpre : i ∉ pre) (hpost : i ∉ post)
    (hfollows : P.Follows Alike calls data n (pre ++ i :: post) s₀) :
    let s := P.serial data n (pre ++ i :: post) s₀
    P.serial data n' (pre ++ i :: post) s₀ = (P.advance x p s).1 ∧
      P.Follows Alike (calls.set i (x, (P.advance x p s).2)) data n' (pre ++ i :: post) s₀ := by
  intro s
  obtain ⟨hlt, -⟩ := List.getElem?_eq_some_iff.mp hcall
  obtain ⟨hbefore, hhere, hafter⟩ := (follows_append pre (i :: post) s₀).mp hfollows
  have hn : ∀ l : List Nat, i ∉ l → ∀ j ∈ l, n' j = n j := by
    intro l hl j hj
    exact hothers j fun hji => hl (hji ▸ hj)
  have hkept : ∀ l : List Nat, i ∉ l → ∀ q, ∀ j ∈ l, (calls.set i q)[j]? = calls[j]? := by
    intro l hl q j hj
    apply List.getElem?_set_ne
    rintro rfl
    exact hl hj
  -- the call stands at `p` after its turn
  generalize hs₁ : P.serial data n pre s₀ = s₁ at hhere hafter
  obtain rfl : p = (P.after x s₁ (n i)).2 := eq_of_meets (hhere x p hcall) hend
  rw [turn_of_data hdata] at hafter
  have hclaims := claims_after hmovable x s₁ hpos
  obtain ⟨hmoved, hsame⟩ := serial_moves hmovable hclaims hend data n post
  have hs : s = P.serial data n post (P.after x s₁ (n i)).1 := by
    show P.serial data n (pre ++ i :: post) s₀ = _
    rw [serial_append, hs₁]
    show P.serial data n post (P.turn data (n i) i s₁) = _
    rw [turn_of_data hdata]
  have hs₁' : P.serial data n' pre s₀ = s₁ := by
    rw [← hs₁]
    exact serial_congr (fun _ _ => rfl) (hn pre hpre) s₀
  have hstep : P.after x s₁ (n' i) =
      P.advance x (P.after x s₁ (n i)).2 (P.after x s₁ (n i)).1 := by
    rw [hsucc]
    exact after_succ hend
  constructor
  · rw [serial_append, hs₁', hs]
    show P.serial data n' post (P.turn data (n' i) i s₁) = _
    rw [turn_of_data hdata, hstep, serial_congr (fun _ _ => rfl) (hn post hpost)]
    exact hmoved
  · rw [follows_append, hs₁']
    refine ⟨?_, ?_, ?_⟩
    · rw [follows_congr (hkept pre hpre _) (fun _ _ => rfl) (hn pre hpre)]
      exact hbefore
    · intro y q hy
      rw [List.getElem?_set_self hlt] at hy
      cases hy
      rw [hstep, hs]
      exact hsame
    · rw [turn_of_data hdata, hstep, follows_congr (hkept post hpost _) (fun _ _ => rfl)
        (hn post hpost)]
      exact follows_moves hmovable hclaims hend hafter

/-- **The step lemma.** -/
theorem replays_step {Claims : τ → φ → σ → Prop} (hmovable : P.Movable Alike Claims)
    (h : P.Replays Alike s₀ es t) {e : Event τ} (hstep : P.interleaving.step t e = some t') :
    P.Replays Alike s₀ (es ++ [e]) t' := by
  cases step_cases hstep with
  | call x => exact replays_call h x
  | resume i x p hcall hend =>
    by_cases hmem : i ∈ order es
    swap
    · exact replays_first hmovable.entry h hcall hmem
    obtain ⟨hlt, hpos⟩ := h.begun i hmem
    obtain ⟨pre, post, hsplit⟩ := List.append_of_mem hmem
    have hnodup := h.nodup
    rw [hsplit, List.nodup_middle, List.nodup_cons] at hnodup
    have hdata : t.data i = some x := congrArg (Option.map Prod.fst) hcall
    have horder : order (es ++ [.resume i]) = pre ++ i :: post := by
      rw [order_concat, ← hsplit]
      exact if_pos hmem
    have hfollows := h.follows
    rw [hsplit] at hfollows
    have hshared := h.shared
    rw [hsplit] at hshared
    obtain ⟨hserial, hfollows'⟩ := serial_resume hmovable hcall hdata hend hpos
      (steps_resume es i) (fun j hj => steps_resume_of_ne es hj)
      (fun hpre => hnodup.1 (List.mem_append_left _ hpre))
      (fun hpost => hnodup.1 (List.mem_append_right _ hpost)) hfollows
    rw [hshared] at hserial hfollows'
    refine ⟨?_, ?_, ?_, ?_, ?_⟩
    · rw [data_set hcall, horder]
      exact hserial
    · rw [data_set hcall, horder]
      exact hfollows'
    · rw [horder, ← hsplit]
      exact h.nodup
    · rw [horder, ← hsplit]
      intro j hj
      rw [List.length_set]
      by_cases hji : j = i
      · subst hji
        rw [steps_resume]
        exact ⟨hlt, Nat.succ_pos _⟩
      · rw [steps_resume_of_ne es hji]
        exact h.begun j hj
    · rw [horder, ← hsplit]
      intro j hj
      have hji : j ≠ i := fun hji => hj (hji ▸ hmem)
      rw [steps_resume_of_ne es hji, List.getElem?_set_ne hji.symm]
      exact h.waiting j hj

/-- **The run lemma.** -/
theorem replays_of_run {Claims : τ → φ → σ → Prop} (hmovable : P.Movable Alike Claims)
    (hrun : P.interleaving.exec ⟨s₀, []⟩ es = some t) : P.Replays Alike s₀ es t :=
  P.interleaving.exec_records (I := P.Replays Alike s₀)
    (fun _ _ _ _ hpre hstep => replays_step hmovable hpre hstep) es [] _ t (replays_start s₀) hrun

end Run

/-! ## Serializability -/

section Serializable

variable {P} {Alike : φ → φ → Prop} {calls : List (τ × φ)} {data : Nat → Option τ} {n : Nat → Nat}

/-- Where all calls have ended, they may as well be given the steps that end any call. -/
theorem serial_of_ended {m : Nat} (hends : P.EndsWithin m) {l : List Nat} {s : σ}
    (hdata : ∀ i ∈ l, data i = (calls[i]?).map Prod.fst)
    (hended : ∀ c ∈ calls, P.ended c.2 = true) (hfollows : P.Follows Alike calls data n l s) :
    P.serial data n l s = P.serial data (fun _ => m) l s ∧
      P.Follows Alike calls data (fun _ => m) l s := by
  induction l generalizing s with
  | nil => exact ⟨rfl, trivial⟩
  | cons i rest ih =>
    obtain ⟨hhere, hrest⟩ := hfollows
    have hend : ∀ x p, calls[i]? = some (x, p) → P.after x s (n i) = P.after x s m := by
      intro x p hcall
      apply after_ended _ (hends x s)
      exact ended_of_meets (hhere x p hcall) (hended _ (List.mem_of_getElem? hcall))
    have hturn : P.turn data (n i) i s = P.turn data m i s := by
      unfold Program.turn
      rw [hdata i List.mem_cons_self]
      cases hcall : calls[i]? with
      | none => rfl
      | some c => exact congrArg Prod.fst (hend c.1 c.2 hcall)
    have hdata' : ∀ j ∈ rest, data j = (calls[j]?).map Prod.fst := by
      intro j hj
      exact hdata j (List.mem_cons_of_mem _ hj)
    rw [hturn] at hrest
    obtain ⟨hserial, hfollows'⟩ := ih hdata' hrest
    refine ⟨?_, ?_, hfollows'⟩
    · show P.serial data n rest _ = P.serial data _ rest _
      rw [hturn]
      exact hserial
    · intro x p hcall
      rw [← hend x p hcall]
      exact hhere x p hcall

/-- **Serializability**: when the calls are movable and all of them have ended, the shared state is
    the one of the calls made one after the other in the order in which they began, and each call
    has ended as it does in its turn, or alike. -/
theorem serializable {Claims : τ → φ → σ → Prop} (hmovable : P.Movable Alike Claims) {m : Nat}
    (hends : P.EndsWithin m) {s₀ : σ} {es : List (Event τ)} {t : State σ τ φ}
    (hrun : P.interleaving.exec ⟨s₀, []⟩ es = some t) (hended : ∀ c ∈ t.calls, P.ended c.2 = true) :
    t.shared = P.serial t.data (fun _ => m) (order es) s₀ ∧
      ∀ pre i post, order es = pre ++ i :: post → ∀ x p, t.calls[i]? = some (x, p) →
        P.Meets Alike p (P.after x (P.serial t.data (fun _ => m) pre s₀) m).2 := by
  have h := replays_of_run hmovable hrun
  obtain ⟨hserial, hfollows⟩ := serial_of_ended hends (fun _ _ => rfl) hended h.follows
  refine ⟨h.shared.symm.trans hserial, ?_⟩
  intro pre i post hsplit x p hcall
  rw [hsplit, follows_append] at hfollows
  obtain ⟨-, hhere, -⟩ := hfollows
  exact hhere x p hcall

end Serializable

end AttendanceApp.Serial
