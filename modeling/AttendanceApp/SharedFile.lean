/-
  A file that several writers rewrite in place.

  A writer opens the file, which truncates it, and then writes its text from the start.  When two
  writers have both opened the file before the first of them writes, nothing truncates it between
  the two writes, and the second text lies OVER the first: if it is the shorter one, the tail of the
  other shows behind it.

  * `overwrite old new`    — the file after one write from the start;
  * `contents text ws`     — the file after the writers `ws` have written, in this order, since it
                             was last truncated;
  * `sole_writer_iff`      — whatever the texts, the file holds the text of an allowed writer
                             exactly when one allowed writer alone has written.

  The last is about all texts at once.  For given texts two writes can come out right: a longer text
  covers a shorter one, and a beginning of the longer one does not change it.
-/
import Mathlib.Data.List.Induction

namespace AttendanceApp.SharedFile

variable {β ι δ : Type*}

/-! ## One write -/

/-- A write from the start of a file covers what it is long enough to cover. -/
def overwrite (old new : List β) : List β := new ++ old.drop new.length

theorem overwrite_nil (new : List β) : overwrite [] new = new := by
  rw [overwrite, List.drop_nil, List.append_nil]

theorem overwrite_self (text : List β) : overwrite text text = text := by
  rw [overwrite, List.drop_length, List.append_nil]

/-- A write is there in full, whatever is behind it. -/
theorem prefix_overwrite (old new : List β) : new <+: overwrite old new := List.prefix_append ..

/-- The tail of a longer text shows behind a shorter one. -/
theorem overwrite_ne_of_length_lt {old new : List β} (h : new.length < old.length) :
    overwrite old new ≠ new := by
  intro hsame
  have hlength := congrArg List.length hsame
  rw [overwrite, List.length_append, List.length_drop] at hlength
  omega

/-! ## The writes since the last truncation -/

/-- What the writes leave of an empty file, each with the text of its writer. -/
def contents (text : ι → List β) (writers : List ι) : List β :=
  writers.foldl (fun old w => overwrite old (text w)) []

/-- The last write goes over the others. -/
theorem contents_concat (text : ι → List β) (writers : List ι) (w : ι) :
    contents text (writers ++ [w]) = overwrite (contents text writers) (text w) := by
  rw [contents, List.foldl_append]
  rfl

theorem contents_singleton (text : ι → List β) (w : ι) : contents text [w] = text w :=
  overwrite_nil _

/-- Writers of one text leave that text. -/
theorem contents_of_forall {text : ι → List β} {writers : List ι} {t : List β}
    (hne : writers ≠ []) (h : ∀ w ∈ writers, text w = t) : contents text writers = t := by
  induction writers using List.reverseRecOn with
  | nil => exact absurd rfl hne
  | append_singleton writers w ih =>
    obtain ⟨hwriters, hw⟩ := List.forall_mem_append.mp h
    have hlast : text w = t := hw w (List.mem_singleton_self w)
    rw [contents_concat, hlast]
    by_cases hfirst : writers = []
    · subst hfirst
      exact overwrite_nil t
    · rw [ih hfirst hwriters]
      exact overwrite_self t

/-- The last text lies over the one of all writers before it. -/
theorem contents_over {text : ι → List β} {earlier : List ι} {last : ι} {long : List β}
    (hearlier : earlier ≠ []) (hlong : ∀ w ∈ earlier, text w = long) :
    contents text (earlier ++ [last]) = overwrite long (text last) := by
  rw [contents_concat, contents_of_forall hearlier hlong]

/-- **Whose text a shared file holds.**  The writers print data of their own, each at most once, and
    among the data are a `short` one and a `long` one that does not begin with it. -/
theorem sole_writer_iff {print : δ → List β} {short long : δ}
    (hlength : (print short).length < (print long).length) (hbegins : ¬ print short <+: print long)
    {allowed : ι → Prop} {writers : List ι} (honce : writers.Nodup) :
    (∀ data : ι → δ, ∃ w, allowed w ∧
      contents (fun v => print (data v)) writers = print (data w)) ↔
    ∃ w, allowed w ∧ writers = [w] := by
  classical
  constructor
  · intro h
    rcases List.eq_nil_or_concat writers with rfl | ⟨earlier, last, rfl⟩
    · -- nobody has written
      obtain ⟨_, -, hempty⟩ := h fun _ => short
      have hnil : [] = print short := hempty
      exact absurd (hnil ▸ List.nil_prefix) hbegins
    rw [List.concat_eq_append] at h honce ⊢
    -- the last one prints the short datum, all others the long one
    let data : ι → δ := fun v => if v = last then short else long
    have hlast : data last = short := if_pos rfl
    have hother : ∀ v, v ≠ last → data v = long := fun v hv => if_neg hv
    obtain ⟨w, hw, hheld⟩ := h data
    by_cases halone : earlier = []
    · subst halone
      have hshort : print (data last) = print (data w) :=
        (contents_singleton (fun v => print (data v)) last).symm.trans hheld
      by_cases hsame : w = last
      · exact ⟨w, hw, by rw [hsame, List.nil_append]⟩
      · rw [hlast, hother w hsame] at hshort
        rw [hshort] at hlength
        exact absurd hlength (Nat.lt_irrefl _)
    · have hlong : ∀ v ∈ earlier, print (data v) = print long := by
        intro v hv
        have hne : v ≠ last := by
          rintro rfl
          exact (List.nodup_append.mp honce).2.2 v hv v (List.mem_singleton_self v) rfl
        rw [hother v hne]
      rw [contents_over halone hlong, hlast] at hheld
      by_cases hsame : w = last
      · rw [hsame, hlast] at hheld
        exact absurd hheld (overwrite_ne_of_length_lt hlength)
      · rw [hother w hsame] at hheld
        exact absurd (hheld ▸ prefix_overwrite (print long) (print short)) hbegins
  · rintro ⟨w, hw, rfl⟩ data
    exact ⟨w, hw, contents_singleton _ w⟩

end AttendanceApp.SharedFile
