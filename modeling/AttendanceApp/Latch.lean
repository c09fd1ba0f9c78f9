/-
  A register that only successes overwrite.

  The pattern `try { field = await request } catch (e) { log }` followed by a use of `field` makes
  the field a LATCH: a request that succeeds stores its reply, one that fails leaves what is there,
  and the code after the `catch` reads the field either way.  Two places of the app are written
  so, with different payloads; what such code can observe is a fact about latches, proved here for
  any reply type `ρ` and any error type `ε`.

  * `settle cell o`  — the field after one request with outcome `o`;
  * `latch cell os`  — the field after the outcomes `os`, in the order they arrive;
  * `latch_none_eq_some` — the field holds exactly the LAST successful reply.
-/
import Mathlib.Data.List.Induction

namespace AttendanceApp

section Latch

variable {ρ ε : Type*}

/-- The register after one request: a success is stored, a failure changes nothing. -/
def settle (cell : Option ρ) : Except ε ρ → Option ρ
  | .ok r => some r
  | .error _ => cell

@[simp] theorem settle_ok (cell : Option ρ) (r : ρ) :
    settle cell (.ok r : Except ε ρ) = some r := rfl

@[simp] theorem settle_error (cell : Option ρ) (e : ε) :
    settle cell (.error e : Except ε ρ) = cell := rfl

/-- The register after a sequence of requests, in order of completion. -/
def latch (cell : Option ρ) (os : List (Except ε ρ)) : Option ρ := os.foldl settle cell

/-- One more request settles on what the earlier ones left. -/
theorem latch_snoc (cell : Option ρ) (os : List (Except ε ρ)) (o : Except ε ρ) :
    latch cell (os ++ [o]) = settle (latch cell os) o := by
  rw [latch, List.foldl_append]
  rfl

/-- Failures alone leave the register as it was. -/
theorem latch_of_failures {cell : Option ρ} {os : List (Except ε ρ)}
    (h : ∀ o ∈ os, ∃ e, o = .error e) : latch cell os = cell := by
  induction os with
  | nil => rfl
  | cons o os ih =>
    obtain ⟨e, rfl⟩ := h o (List.mem_cons_self ..)
    exact ih fun o' ho' => h o' (List.mem_cons_of_mem _ ho')

/-- **Last writer**: a register that starts empty holds `r` exactly when `r` is the reply of the
    last request that succeeded. -/
theorem latch_none_eq_some {os : List (Except ε ρ)} {r : ρ} :
    latch none os = some r ↔
      ∃ pre post, os = pre ++ .ok r :: post ∧ ∀ o ∈ post, ∃ e, o = .error e := by
  constructor
  · induction os using List.reverseRecOn with
    | nil => intro h; cases h
    | append_singleton os o ih =>
      intro h
      rw [latch_snoc] at h
      cases o with
      | ok r' =>
        obtain rfl : r' = r := Option.some.inj h
        exact ⟨os, [], rfl, fun _ ho => absurd ho List.not_mem_nil⟩
      | error e =>
        obtain ⟨pre, post, rfl, hpost⟩ := ih h
        refine ⟨pre, post ++ [.error e], by simp, fun o ho => ?_⟩
        rcases List.mem_append.mp ho with ho | ho
        · exact hpost o ho
        · exact ⟨e, List.mem_singleton.mp ho⟩
  · rintro ⟨pre, post, rfl, hpost⟩
    rw [latch, List.foldl_append, List.foldl_cons, settle_ok]
    exact latch_of_failures hpost

/-- A statement about every entry of a history and the entries before it, when one is added. -/
theorem forall_split_snoc {α : Type*} {P : List α → α → Prop} {history : List α} {last : α}
    (hold : ∀ pre a post, history = pre ++ a :: post → P pre a) (hlast : P history last) :
    ∀ pre a post, history ++ [last] = pre ++ a :: post → P pre a := by
  intro pre a post hsplit
  rcases List.eq_nil_or_concat post with rfl | ⟨post, b, rfl⟩
  · obtain ⟨rfl, ha⟩ := List.append_inj' hsplit rfl
    obtain rfl := (List.cons.inj ha).1
    exact hlast
  · rw [List.concat_eq_append, ← List.cons_append, ← List.append_assoc] at hsplit
    obtain ⟨hhistory, -⟩ := List.append_inj' hsplit rfl
    exact hold pre a post hhistory

end Latch
end AttendanceApp
