/-
  Messages that are sent, and then arrive in any order or are lost.

  `Balanced` is the law of such a delivery: the messages that have arrived, those on their way and
  those lost are together exactly the ones sent, each as often as it was sent.  Whatever is read out
  of the messages is balanced with them (`Balanced.reads`).
-/
import Mathlib.Data.List.Perm.Basic

namespace AttendanceApp.Delivery

variable {μ β : Type*} {arrived inFlight lost sent : List μ} {m : μ} {n : Nat}

/-- Nothing is lost without a trace, and nothing comes from nowhere. -/
def Balanced (arrived inFlight lost sent : List μ) : Prop :=
  (arrived ++ inFlight ++ lost).Perm sent

/-- A message that leaves the list is counted out of it. -/
theorem cons_eraseIdx_perm (hn : inFlight[n]? = some m) :
    (m :: inFlight.eraseIdx n).Perm inFlight := by
  obtain ⟨hlt, rfl⟩ := List.getElem?_eq_some_iff.mp hn
  exact List.getElem_cons_eraseIdx_perm hlt

theorem Balanced.nil : Balanced ([] : List μ) [] [] [] := List.Perm.refl []

/-- What is sent is on its way first. -/
theorem Balanced.sends (h : Balanced arrived inFlight lost sent) (new : List μ) :
    Balanced arrived (inFlight ++ new) lost (sent ++ new) := by
  have hswap : (new ++ lost).Perm (lost ++ new) := List.perm_append_comm
  have hmoved : (arrived ++ (inFlight ++ new) ++ lost).Perm
      (arrived ++ inFlight ++ lost ++ new) := by
    rw [← List.append_assoc, List.append_assoc _ new, List.append_assoc _ lost]
    exact hswap.append_left _
  exact hmoved.trans (h.append_right new)

/-- Any of the messages on their way may arrive. -/
theorem Balanced.arrives (h : Balanced arrived inFlight lost sent) (hn : inFlight[n]? = some m) :
    Balanced (arrived ++ [m]) (inFlight.eraseIdx n) lost sent := by
  have hmoved := ((cons_eraseIdx_perm hn).append_left arrived).append_right lost
  rw [List.append_cons] at hmoved
  exact hmoved.trans h

/-- Any of them may be lost. -/
theorem Balanced.loses (h : Balanced arrived inFlight lost sent) (hn : inFlight[n]? = some m) :
    Balanced arrived (inFlight.eraseIdx n) (lost ++ [m]) sent := by
  have hlast : (inFlight.eraseIdx n ++ [m]).Perm inFlight :=
    (List.perm_append_singleton m _).trans (cons_eraseIdx_perm hn)
  have hswap : (lost ++ [m]).Perm ([m] ++ lost) := List.perm_append_comm
  have hmoved : (arrived ++ inFlight.eraseIdx n ++ (lost ++ [m])).Perm
      (arrived ++ (inFlight.eraseIdx n ++ [m]) ++ lost) := by
    rw [← List.append_assoc arrived, List.append_assoc _ [m]]
    exact hswap.append_left _
  exact hmoved.trans (((hlast.append_left arrived).append_right lost).trans h)

/-- What is read out of the messages. -/
theorem Balanced.reads (h : Balanced arrived inFlight lost sent) (read : μ → Option β) :
    Balanced (arrived.filterMap read) (inFlight.filterMap read) (lost.filterMap read)
      (sent.filterMap read) := by
  have hread := h.filterMap read
  rw [List.filterMap_append, List.filterMap_append] at hread
  exact hread

end AttendanceApp.Delivery
