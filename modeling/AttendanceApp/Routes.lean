/-
  What the calls of a navigator do to its routes.

  Four things about any sequence of calls, whatever the pages are:

  * IDENTITIES — no number is given out twice, and a call loses no mounted route, so a number stands
    for one page for as long as the route is mounted (`Identified`);
  * the BOTTOM — which calls take the lowest route off (`RestsOn`);
  * the LIFECYCLE — a route goes from the stack to its exit animation to its end, one stage at a
    time and never back (`Ages`);
  * RENAMING — the navigator does not look at its pages, but for what `pushAndRemoveUntil` keeps, so
    it commutes with every map of the pages (`rename_navigateAll`).
-/
import AttendanceApp.Navigator
import Mathlib.Data.List.Nodup

namespace AttendanceApp
namespace Navigator

variable {π : Type*}

/-! ## The identities of routes -/

/-- The route a call puts on top, if it puts one there. -/
def brings (n : Navigator π) : Nav π → Option (Route π)
  | .push page => some (n.fresh page)
  | .pop => none
  | .pushReplacement page => if n.stack = [] then none else some (n.fresh page)
  | .pushAndRemoveUntil page _ => some (n.fresh page)

theorem brings_eq_some {n : Navigator π} {call : Nav π} {r : Route π} (h : n.brings call = some r) :
    call.opens = some r.page ∧ r.id = n.nextId := by
  cases call with
  | push page =>
    obtain rfl := Option.some.inj h
    exact ⟨rfl, rfl⟩
  | pop => cases h
  | pushReplacement page =>
    rw [brings, Option.ite_none_left_eq_some] at h
    obtain ⟨-, h⟩ := h
    obtain rfl := Option.some.inj h
    exact ⟨rfl, rfl⟩
  | pushAndRemoveUntil page keep =>
    obtain rfl := Option.some.inj h
    exact ⟨rfl, rfl⟩

/-- **A call loses no mounted route**, and adds the one it puts on top. -/
theorem mountedRoutes_navigate (n : Navigator π) (call : Nav π) :
    (n.navigate call).mountedRoutes.Perm ((n.brings call).toList ++ n.mountedRoutes) := by
  cases call with
  | push page => exact List.Perm.refl _
  | pop =>
    simp only [navigate, brings, mountedRoutes]
    split
    · rename_i hempty
      rw [hempty]
      rfl
    · rename_i top rest hstack
      rw [hstack]
      exact List.perm_middle
  | pushReplacement page =>
    simp only [navigate, brings, mountedRoutes]
    split
    · rename_i hempty
      rw [hempty]
      rfl
    · rename_i top rest hstack
      rw [hstack, if_neg (List.cons_ne_nil _ _)]
      exact List.Perm.cons _ List.perm_middle
  | pushAndRemoveUntil page keep =>
    let gone := n.stack.takeWhile fun r => !keep r.page
    let kept := n.stack.dropWhile fun r => !keep r.page
    have hstack : gone ++ kept = n.stack := List.takeWhile_append_dropWhile
    have hswap : (kept ++ (gone ++ n.leaving)).Perm (gone ++ kept ++ n.leaving) := by
      rw [← List.append_assoc]
      exact List.perm_append_comm.append_right _
    rw [hstack] at hswap
    exact List.Perm.cons _ hswap

/-- Numbers are given in turn, one to each route. -/
theorem nextId_navigate (n : Navigator π) (call : Nav π) :
    (n.navigate call).nextId = n.nextId + (n.brings call).toList.length := by
  cases call with
  | push page => rfl
  | pop =>
    simp only [navigate, brings]
    split <;> rfl
  | pushReplacement page =>
    simp only [navigate, brings]
    split
    · rename_i hempty
      rw [if_pos hempty]
      rfl
    · rename_i hstack
      rw [if_neg (by rw [hstack]; exact List.cons_ne_nil _ _)]
      rfl
  | pushAndRemoveUntil page keep => rfl

/-- No two mounted routes have the same id, and every id in use has been given out. -/
structure Identified (n : Navigator π) : Prop where
  nodup : (n.mountedRoutes.map Route.id).Nodup
  lt : ∀ r ∈ n.mountedRoutes, r.id < n.nextId

/-- A call gives its route a number that no route has had. -/
theorem Identified.navigate {n : Navigator π} (h : n.Identified) (call : Nav π) :
    (n.navigate call).Identified := by
  have hperm := mountedRoutes_navigate n call
  have hnext := nextId_navigate n call
  cases hbrings : n.brings call with
  | none =>
    rw [hbrings] at hperm hnext
    refine ⟨((hperm.map Route.id).nodup_iff).mpr h.nodup, fun r hr => ?_⟩
    have hlt := h.lt r (hperm.mem_iff.mp hr)
    rw [hnext]
    exact hlt
  | some new =>
    obtain ⟨-, hid⟩ := brings_eq_some hbrings
    rw [hbrings] at hperm hnext
    have hfresh : new.id ∉ n.mountedRoutes.map Route.id := by
      intro hmem
      obtain ⟨r, hr, hsame⟩ := List.mem_map.mp hmem
      have hlt := h.lt r hr
      omega
    have hnew : n.nextId + 1 = (n.navigate call).nextId := hnext.symm
    refine ⟨((hperm.map Route.id).nodup_iff).mpr (List.nodup_cons.mpr ⟨hfresh, h.nodup⟩),
      fun r hr => ?_⟩
    rcases List.mem_cons.mp (hperm.mem_iff.mp hr) with rfl | hr
    · omega
    · have hlt := h.lt r hr
      omega

theorem Identified.dispose {n : Navigator π} (h : n.Identified) (id : Nat) :
    (n.dispose id).Identified := by
  have hsub : (n.dispose id).mountedRoutes.Sublist n.mountedRoutes :=
    List.filter_sublist.append_left _
  exact ⟨(hsub.map Route.id).nodup h.nodup, fun r hr => h.lt r (hsub.mem hr)⟩

/-- So an id stands for one mounted page. -/
theorem Identified.eq_of_id {n : Navigator π} (h : n.Identified) {r r' : Route π}
    (hr : r ∈ n.mountedRoutes) (hr' : r' ∈ n.mountedRoutes) (hid : r.id = r'.id) : r = r' :=
  List.inj_on_of_nodup_map h.nodup hr hr' hid

theorem mounted_iff {n : Navigator π} {id : Nat} :
    n.mounted id = true ↔ ∃ r ∈ n.mountedRoutes, r.id = id := by
  rw [mounted, List.any_eq_true]
  exact exists_congr fun r => and_congr_right fun _ => beq_iff_eq

theorem mem_mounted_of_mem_stack {n : Navigator π} {r : Route π} (h : r ∈ n.stack) :
    r ∈ n.mountedRoutes := List.mem_append_left _ h

theorem mem_mounted_dispose {n : Navigator π} {id : Nat} {r : Route π}
    (h : r ∈ (n.dispose id).mountedRoutes) : r ∈ n.mountedRoutes := by
  rcases List.mem_append.mp h with h | h
  · exact List.mem_append_left _ h
  · exact List.mem_append_right _ (List.mem_filter.mp h).1

/-- A mounted route after a handler was mounted before, or has an id of its own and is on a page
    that the handler opens. -/
theorem mem_mounted_navigateAll {calls : List (Nav π)} :
    ∀ {n : Navigator π} {r : Route π}, r ∈ (n.navigateAll calls).mountedRoutes →
      r ∈ n.mountedRoutes ∨ n.nextId ≤ r.id ∧ ∃ call ∈ calls, call.opens = some r.page := by
  induction calls with
  | nil => exact fun h => Or.inl h
  | cons call calls ih =>
    intro n r h
    have hnext := nextId_navigate n call
    rcases ih h with h | ⟨hid, later, hlater, hopens⟩
    · rcases List.mem_append.mp ((mountedRoutes_navigate n call).mem_iff.mp h) with h | h
      · obtain ⟨hopens, hid⟩ := brings_eq_some (Option.mem_toList.mp h)
        exact Or.inr ⟨by omega, call, List.mem_cons_self, hopens⟩
      · exact Or.inl h
    · exact Or.inr ⟨by omega, later, List.mem_cons_of_mem _ hlater, hopens⟩

theorem Identified.navigateAll {calls : List (Nav π)} :
    ∀ {n : Navigator π}, n.Identified → (n.navigateAll calls).Identified := by
  induction calls with
  | nil => exact fun h => h
  | cons call calls ih => exact fun h => ih (h.navigate call)

theorem nextId_le_navigateAll (calls : List (Nav π)) :
    ∀ n : Navigator π, n.nextId ≤ (n.navigateAll calls).nextId := by
  induction calls with
  | nil => exact fun _ => Nat.le_refl _
  | cons call calls ih =>
    intro n
    have hfirst := nextId_navigate n call
    have hrest : (n.navigate call).nextId ≤ ((n.navigate call).navigateAll calls).nextId := ih _
    show n.nextId ≤ ((n.navigate call).navigateAll calls).nextId
    omega

/-! ## The route at the bottom -/

/-- `base` is the lowest route of the stack. -/
def RestsOn (n : Navigator π) (base : Route π) : Prop := ∃ above, n.stack = above ++ [base]

section RestsOn

variable {n : Navigator π} {base : Route π}

theorem RestsOn.mem (h : n.RestsOn base) : base ∈ n.stack := by
  obtain ⟨above, hstack⟩ := h
  rw [hstack]
  exact List.mem_append_right _ (List.mem_singleton_self base)

theorem RestsOn.push (h : n.RestsOn base) (page : π) : (n.navigate (.push page)).RestsOn base := by
  obtain ⟨above, hstack⟩ := h
  exact ⟨n.fresh page :: above, by rw [navigate, hstack, List.cons_append]⟩

/-- The top route is another one, or there is nothing above the lowest route. -/
theorem RestsOn.top (h : n.RestsOn base) :
    n.stack = [base] ∨ ∃ top above, n.stack = top :: (above ++ [base]) := by
  obtain ⟨above, hstack⟩ := h
  cases above with
  | nil => exact Or.inl hstack
  | cons top above => exact Or.inr ⟨top, above, hstack⟩

theorem cons_ne_base {top : Route π} {above : List (Route π)} :
    top :: (above ++ [base]) ≠ [base] := by
  intro h
  have hlength := congrArg List.length h
  simp at hlength

/-- Only the base itself can be lost by a pop. -/
theorem RestsOn.pop_iff (h : n.RestsOn base) :
    (n.navigate .pop).RestsOn base ↔ n.stack ≠ [base] := by
  rcases h.top with halone | ⟨top, above, hstack⟩
  · refine ⟨fun hpop => ?_, fun hne => absurd halone hne⟩
    obtain ⟨above, hempty⟩ := hpop
    rw [navigate, halone] at hempty
    exact absurd hempty.symm (List.append_ne_nil_of_right_ne_nil _ (List.cons_ne_nil _ _))
  · refine ⟨fun _ => hstack ▸ cons_ne_base, fun _ => ⟨above, ?_⟩⟩
    rw [navigate, hstack]

/-- A route that is alone on the stack and new is not the old one. -/
theorem not_restsOn_fresh (hid : n.Identified) (h : n.RestsOn base) {m : Navigator π} (page : π)
    (hstack : m.stack = [⟨n.nextId, page⟩]) : ¬ m.RestsOn base := by
  rintro ⟨above, hm⟩
  have hbase : base ∈ m.stack := hm ▸ List.mem_append_right _ (List.mem_singleton_self base)
  rw [hstack] at hbase
  obtain rfl := List.mem_singleton.mp hbase
  exact Nat.lt_irrefl _ (hid.lt _ (mem_mounted_of_mem_stack h.mem))

/-- And by a replacement. -/
theorem RestsOn.pushReplacement_iff (hid : n.Identified) (h : n.RestsOn base) (page : π) :
    (n.navigate (.pushReplacement page)).RestsOn base ↔ n.stack ≠ [base] := by
  rcases h.top with halone | ⟨top, above, hstack⟩
  · refine ⟨fun hnew => ?_, fun hne => absurd halone hne⟩
    refine absurd hnew (not_restsOn_fresh hid h page ?_)
    rw [navigate, halone]
    rfl
  · refine ⟨fun _ => hstack ▸ cons_ne_base, fun _ => ⟨n.fresh page :: above, ?_⟩⟩
    rw [navigate, hstack]
    rfl

/-- The top page is closed, and another one opened. -/
theorem RestsOn.pop_push_iff (hid : n.Identified) (h : n.RestsOn base) (page : π) :
    (n.navigateAll [.pop, .push page]).RestsOn base ↔ n.stack ≠ [base] := by
  rcases h.top with halone | ⟨top, above, hstack⟩
  · refine ⟨fun hnew => ?_, fun hne => absurd halone hne⟩
    refine absurd hnew (not_restsOn_fresh hid h page ?_)
    show ((n.navigate .pop).navigate (.push page)).stack = _
    simp only [navigate, halone, fresh]
  · have hne : n.stack ≠ [base] := hstack ▸ cons_ne_base
    exact ⟨fun _ => hne, fun _ => (h.pop_iff.mpr hne).push page⟩

/-- Taking routes off down to one that is kept does not reach below it. -/
theorem RestsOn.pushAndRemoveUntil (h : n.RestsOn base) (page : π) {keep : π → Bool}
    (hkeep : keep base.page = true) :
    (n.navigate (.pushAndRemoveUntil page keep)).RestsOn base := by
  obtain ⟨above, hstack⟩ := h
  have hbase : [base].dropWhile (fun r => !keep r.page) = [base] := by
    rw [List.dropWhile_cons_of_neg (by simp [hkeep])]
  have hdrop : ∃ kept, n.stack.dropWhile (fun r => !keep r.page) = kept ++ [base] := by
    rw [hstack, List.dropWhile_append]
    split
    · exact ⟨[], hbase⟩
    · exact ⟨_, rfl⟩
  obtain ⟨kept, hkept⟩ := hdrop
  refine ⟨n.fresh page :: kept, ?_⟩
  rw [navigate, hkept, List.cons_append]

end RestsOn

/-! ## The lifecycle of one route -/

/-- Where route `id` is. -/
def lifecycle (n : Navigator π) (id : Nat) : Lifecycle :=
  if n.stack.any (·.id == id) then .shown
  else if n.mounted id then .leaving
  else .disposed

theorem lifecycle_of_mem_stack {n : Navigator π} {r : Route π} (h : r ∈ n.stack) :
    n.lifecycle r.id = .shown := by
  rw [lifecycle, if_pos (List.any_eq_true.mpr ⟨r, h, beq_self_eq_true r.id⟩)]

theorem lifecycle_shown_iff {n : Navigator π} {id : Nat} :
    n.lifecycle id = .shown ↔ ∃ r ∈ n.stack, r.id = id := by
  constructor
  · intro h
    rw [lifecycle] at h
    split at h
    · rename_i hany
      obtain ⟨r, hr, hid⟩ := List.any_eq_true.mp hany
      exact ⟨r, hr, beq_iff_eq.mp hid⟩
    · split at h <;> cases h
  · rintro ⟨r, hr, rfl⟩
    exact lifecycle_of_mem_stack hr

theorem lifecycle_disposed_iff {n : Navigator π} {id : Nat} :
    n.lifecycle id = .disposed ↔ ∀ r ∈ n.mountedRoutes, r.id ≠ id := by
  constructor
  · intro h r hr hid
    have hmounted : n.mounted id = true := mounted_iff.mpr ⟨r, hr, hid⟩
    rw [lifecycle, hmounted] at h
    split at h <;> cases h
  · intro h
    have hstack : ¬ n.stack.any (·.id == id) = true := by
      intro hany
      obtain ⟨r, hr, hid⟩ := List.any_eq_true.mp hany
      exact h r (mem_mounted_of_mem_stack hr) (beq_iff_eq.mp hid)
    have hmounted : ¬ n.mounted id = true := by
      intro hyes
      obtain ⟨r, hr, hid⟩ := mounted_iff.mp hyes
      exact h r hr hid
    rw [lifecycle, if_neg hstack, if_neg hmounted]

/-- A route of the stack after a handler is new, or lies on what it lay on before. -/
theorem suffix_navigateAll {calls : List (Nav π)} :
    ∀ {n : Navigator π} {r : Route π} {below : List (Route π)},
      r :: below <:+ (n.navigateAll calls).stack → r :: below <:+ n.stack ∨ n.nextId ≤ r.id := by
  induction calls with
  | nil => exact fun h => Or.inl h
  | cons call calls ih =>
    intro n r below h
    have hnext := nextId_navigate n call
    rcases ih h with h | h
    · cases call with
      | push page =>
        rcases List.suffix_cons_iff.mp h with h | h
        · obtain ⟨rfl, -⟩ := List.cons_eq_cons.mp h
          exact Or.inr (Nat.le_refl _)
        · exact Or.inl h
      | pop =>
        simp only [navigate] at h
        split at h
        · exact Or.inl h
        · rename_i hstack
          exact Or.inl (hstack ▸ h.trans (List.suffix_cons _ _))
      | pushReplacement page =>
        simp only [navigate] at h
        split at h
        · exact Or.inl h
        · rename_i hstack
          rcases List.suffix_cons_iff.mp h with h | h
          · obtain ⟨rfl, -⟩ := List.cons_eq_cons.mp h
            exact Or.inr (Nat.le_refl _)
          · exact Or.inl (hstack ▸ h.trans (List.suffix_cons _ _))
      | pushAndRemoveUntil page keep =>
        rcases List.suffix_cons_iff.mp h with h | h
        · obtain ⟨rfl, -⟩ := List.cons_eq_cons.mp h
          exact Or.inr (Nat.le_refl _)
        · exact Or.inl (h.trans (List.dropWhile_suffix _))
    · exact Or.inr (by omega)

theorem mem_stack_navigateAll {calls : List (Nav π)} {n : Navigator π} {r : Route π}
    (h : r ∈ (n.navigateAll calls).stack) : r ∈ n.stack ∨ n.nextId ≤ r.id := by
  obtain ⟨above, below, hsplit⟩ := List.append_of_mem h
  rcases suffix_navigateAll ⟨above, hsplit.symm⟩ with hold | hnew
  · exact Or.inl (hold.mem List.mem_cons_self)
  · exact Or.inr hnew

theorem mounted_navigateAll {calls : List (Nav π)} :
    ∀ {n : Navigator π} {r : Route π}, r ∈ n.mountedRoutes →
      r ∈ (n.navigateAll calls).mountedRoutes := by
  induction calls with
  | nil => exact fun h => h
  | cons call calls ih =>
    intro n r h
    exact ih ((mountedRoutes_navigate n call).mem_iff.mpr (List.mem_append_right _ h))

/-- One stage further at most. -/
inductive Ages : Lifecycle → Lifecycle → Prop
  | same (life : Lifecycle) : Ages life life
  | leave : Ages .shown .leaving
  | dispose : Ages .leaving .disposed

/-- **A handler takes a route off at most**: one that is animated out does not come back, and none
    is disposed. -/
theorem ages_navigateAll {n : Navigator π} {id : Nat} (hid : id < n.nextId)
    (calls : List (Nav π)) : Ages (n.lifecycle id) ((n.navigateAll calls).lifecycle id) := by
  have hback : (n.navigateAll calls).lifecycle id = .shown → n.lifecycle id = .shown := by
    intro h
    obtain ⟨r, hr, rfl⟩ := lifecycle_shown_iff.mp h
    rcases mem_stack_navigateAll hr with hr | hnew
    · exact lifecycle_of_mem_stack hr
    · omega
  have hkept : (n.navigateAll calls).lifecycle id = .disposed ↔ n.lifecycle id = .disposed := by
    rw [lifecycle_disposed_iff, lifecycle_disposed_iff]
    constructor
    · intro h r hr
      exact h r (mounted_navigateAll hr)
    · intro h r hr hsame
      rcases mem_mounted_navigateAll hr with hr | ⟨hnew, -⟩
      · exact h r hr hsame
      · omega
  cases hbefore : n.lifecycle id with
  | shown =>
    cases hafter : (n.navigateAll calls).lifecycle id with
    | shown => exact .same _
    | leaving => exact .leave
    | disposed => cases hbefore.symm.trans (hkept.mp hafter)
  | leaving =>
    cases hafter : (n.navigateAll calls).lifecycle id with
    | shown => cases hbefore.symm.trans (hback hafter)
    | leaving => exact .same _
    | disposed => cases hbefore.symm.trans (hkept.mp hafter)
  | disposed =>
    rw [hkept.mpr hbefore]
    exact .same _

theorem ages_dispose (n : Navigator π) (id route : Nat) :
    Ages (n.lifecycle id) ((n.dispose route).lifecycle id) := by
  have hshown : (n.dispose route).lifecycle id = .shown ↔ n.lifecycle id = .shown := by
    rw [lifecycle_shown_iff, lifecycle_shown_iff]
    exact Iff.rfl
  cases hbefore : n.lifecycle id with
  | shown =>
    rw [hshown.mpr hbefore]
    exact .same _
  | leaving =>
    cases hafter : (n.dispose route).lifecycle id with
    | shown => cases hbefore.symm.trans (hshown.mp hafter)
    | leaving => exact .same _
    | disposed => exact .dispose
  | disposed =>
    have hgone : (n.dispose route).lifecycle id = .disposed := by
      rw [lifecycle_disposed_iff] at hbefore ⊢
      exact fun r hr => hbefore r (mem_mounted_dispose hr)
    rw [hgone]
    exact .same _

/-! ## Renaming the pages -/

section Rename

variable {f : π → π}

/-- The page is renamed, and the route stays what it is. -/
def renameRoute (f : π → π) (r : Route π) : Route π := ⟨r.id, f r.page⟩

/-- All pages of a navigator are renamed. -/
def rename (f : π → π) (n : Navigator π) : Navigator π where
  stack := n.stack.map (renameRoute f)
  leaving := n.leaving.map (renameRoute f)
  nextId := n.nextId

/-- The call that brings up the renamed page. -/
def renameCall (f : π → π) : Nav π → Nav π
  | .push page => .push (f page)
  | .pop => .pop
  | .pushReplacement page => .pushReplacement (f page)
  | .pushAndRemoveUntil page keep => .pushAndRemoveUntil (f page) keep

/-- What the call keeps does not depend on the names. -/
def Blind (f : π → π) : Nav π → Prop
  | .pushAndRemoveUntil _ keep => ∀ page, keep (f page) = keep page
  | _ => True

/-- A call that is blind to the names does the same to the renamed pages. -/
theorem rename_navigate (n : Navigator π) {call : Nav π} (hblind : Blind f call) :
    (n.navigate call).rename f = (n.rename f).navigate (renameCall f call) := by
  cases call with
  | push page => rfl
  | pop =>
    cases hstack : n.stack with
    | nil => simp only [navigate, renameCall, rename, hstack, List.map_nil]
    | cons top rest => simp only [navigate, renameCall, rename, hstack, List.map_cons]
  | pushReplacement page =>
    cases hstack : n.stack with
    | nil => simp only [navigate, renameCall, rename, hstack, List.map_nil]
    | cons top rest =>
      simp only [navigate, renameCall, rename, hstack, List.map_cons]
      rfl
  | pushAndRemoveUntil page keep =>
    have hsame : (fun r : Route π => !keep r.page) ∘ renameRoute f = fun r => !keep r.page := by
      funext r
      exact congrArg not (hblind r.page)
    simp only [navigate, renameCall, rename, List.map_cons, List.map_append, List.dropWhile_map,
      List.takeWhile_map, hsame]
    rfl

/-- So do all calls of a handler. -/
theorem rename_navigateAll {calls : List (Nav π)} (hblind : ∀ call ∈ calls, Blind f call) :
    ∀ n : Navigator π,
      (n.navigateAll calls).rename f = (n.rename f).navigateAll (calls.map (renameCall f)) := by
  induction calls with
  | nil => exact fun n => rfl
  | cons call calls ih =>
    intro n
    have hrest := ih (fun later hlater => hblind later (List.mem_cons_of_mem _ hlater))
      (n.navigate call)
    rw [rename_navigate n (hblind call List.mem_cons_self)] at hrest
    exact hrest

theorem rename_dispose (n : Navigator π) (id : Nat) :
    (n.dispose id).rename f = (n.rename f).dispose id := by
  simp only [dispose, rename, List.filter_map]
  rfl

theorem mountedRoutes_rename (n : Navigator π) :
    (n.rename f).mountedRoutes = n.mountedRoutes.map (renameRoute f) := List.map_append.symm

theorem mounted_rename (n : Navigator π) (id : Nat) : (n.rename f).mounted id = n.mounted id := by
  rw [mounted, mounted, mountedRoutes_rename, List.any_map]
  rfl

theorem lifecycle_rename (n : Navigator π) (id : Nat) :
    (n.rename f).lifecycle id = n.lifecycle id := by
  have hstack : (n.rename f).stack.any (·.id == id) = n.stack.any (·.id == id) := List.any_map
  rw [lifecycle, lifecycle, hstack, mounted_rename]

end Rename

end Navigator
end AttendanceApp
