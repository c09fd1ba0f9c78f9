/-
  Regular expressions in the notation of program texts, and what they match.

  Mathlib's `RegularExpression` has characters, alternatives, sequences and the star, its language
  `matches'`, and a matcher `rmatch` that decides it.  Patterns in programs are written with more:

  * `anyOf cs`          — a class `[..]` of the characters `cs`;
  * `optional P`        — `P?`;
  * `oneOrMore P`       — `P+`;
  * `upTo P n`          — `P{0,n}`;
  * `separated s P`     — `P(?:sP)*`, one or more `P` with the character `s` between them;
  * `capped es ms n`    — `[es](?:[ms]{0,n}[es])?`, a word over `ms` whose ends are in `es`.

  Each is a Mathlib expression, and has one lemma that says which words it matches, in terms of
  lists: the lengths, the members, the ends, and the parts between separators (`List.splitOn`).
-/
import Mathlib.Computability.RegularExpressions

namespace AttendanceApp.Regex

open RegularExpression

variable {α : Type*}

/-! ## Patterns -/

/-- `[...]`: one of the characters. -/
def anyOf (cs : List α) : RegularExpression α := cs.foldr (fun c P => char c + P) 0

/-- `P?`. -/
def optional (P : RegularExpression α) : RegularExpression α := 1 + P

/-- `P+`. -/
def oneOrMore (P : RegularExpression α) : RegularExpression α := P * P.star

/-- `P{0,n}`. -/
def upTo (P : RegularExpression α) : Nat → RegularExpression α
  | 0 => 1
  | n + 1 => optional (P * upTo P n)

/-- `P(?:sP)*`. -/
def separated (s : α) (P : RegularExpression α) : RegularExpression α := P * (char s * P).star

/-- `[es](?:[ms]{0,n}[es])?`. -/
def capped (es ms : List α) (n : Nat) : RegularExpression α :=
  anyOf es * optional (upTo (anyOf ms) n * anyOf es)

/-! ## What they match -/

theorem mem_anyOf {cs x : List α} : x ∈ (anyOf cs).matches' ↔ ∃ c ∈ cs, x = [c] := by
  induction cs with
  | nil =>
    rw [anyOf, List.foldr_nil, matches'_zero]
    exact ⟨fun h => absurd h (Language.notMem_zero x), fun ⟨_, h, _⟩ => absurd h List.not_mem_nil⟩
  | cons c cs ih =>
    have hcons : (anyOf (c :: cs)).matches' = {[c]} + (anyOf cs).matches' := by
      rw [anyOf, List.foldr_cons, matches'_add, matches'_char, ← anyOf]
    rw [hcons, Language.mem_add, ih, List.exists_mem_cons_iff]
    exact Iff.rfl

theorem mem_optional {P : RegularExpression α} {x : List α} :
    x ∈ (optional P).matches' ↔ x = [] ∨ x ∈ P.matches' := by
  rw [optional, matches'_add, matches'_epsilon, Language.mem_add, Language.mem_one]

/-- A sequence that starts with a class. -/
theorem mem_anyOf_mul {cs x : List α} {P : RegularExpression α} :
    x ∈ (anyOf cs * P).matches' ↔ ∃ c ∈ cs, ∃ y ∈ P.matches', x = c :: y := by
  rw [matches'_mul, Language.mem_mul]
  constructor
  · rintro ⟨a, ha, y, hy, rfl⟩
    obtain ⟨c, hc, rfl⟩ := mem_anyOf.mp ha
    exact ⟨c, hc, y, hy, rfl⟩
  · rintro ⟨c, hc, y, hy, rfl⟩
    exact ⟨[c], mem_anyOf.mpr ⟨c, hc, rfl⟩, y, hy, rfl⟩

/-- A sequence that ends with a class. -/
theorem mem_mul_anyOf {cs x : List α} {P : RegularExpression α} :
    x ∈ (P * anyOf cs).matches' ↔ ∃ y ∈ P.matches', ∃ c ∈ cs, x = y ++ [c] := by
  rw [matches'_mul, Language.mem_mul]
  constructor
  · rintro ⟨y, hy, b, hb, rfl⟩
    obtain ⟨c, hc, rfl⟩ := mem_anyOf.mp hb
    exact ⟨y, hy, c, hc, rfl⟩
  · rintro ⟨y, hy, c, hc, rfl⟩
    exact ⟨y, hy, [c], mem_anyOf.mpr ⟨c, hc, rfl⟩, rfl⟩

theorem mem_star_anyOf {cs x : List α} :
    x ∈ (anyOf cs).star.matches' ↔ ∀ c ∈ x, c ∈ cs := by
  rw [matches'_star, Language.mem_kstar]
  constructor
  · rintro ⟨words, rfl, hwords⟩ c hc
    obtain ⟨w, hw, hcw⟩ := List.mem_flatten.mp hc
    obtain ⟨d, hd, rfl⟩ := mem_anyOf.mp (hwords w hw)
    exact List.mem_singleton.mp hcw ▸ hd
  · intro h
    refine ⟨x.map fun c => [c], (List.flatMap_singleton' x).symm, fun w hw => ?_⟩
    obtain ⟨c, hc, rfl⟩ := List.mem_map.mp hw
    exact mem_anyOf.mpr ⟨c, h c hc, rfl⟩

theorem mem_oneOrMore_anyOf {cs x : List α} :
    x ∈ (oneOrMore (anyOf cs)).matches' ↔ x ≠ [] ∧ ∀ c ∈ x, c ∈ cs := by
  rw [oneOrMore, mem_anyOf_mul]
  constructor
  · rintro ⟨c, hc, y, hy, rfl⟩
    exact ⟨List.cons_ne_nil c y, List.forall_mem_cons.mpr ⟨hc, mem_star_anyOf.mp hy⟩⟩
  · rintro ⟨hne, h⟩
    cases x with
    | nil => exact absurd rfl hne
    | cons c y =>
      obtain ⟨hc, hy⟩ := List.forall_mem_cons.mp h
      exact ⟨c, hc, y, mem_star_anyOf.mpr hy, rfl⟩

/-- **Bounded repetition of a class**, by induction on the bound. -/
theorem mem_upTo_anyOf {cs : List α} {n : Nat} {x : List α} :
    x ∈ (upTo (anyOf cs) n).matches' ↔ x.length ≤ n ∧ ∀ c ∈ x, c ∈ cs := by
  induction n generalizing x with
  | zero =>
    rw [upTo, matches'_epsilon, Language.mem_one, Nat.le_zero, List.length_eq_zero_iff]
    exact ⟨fun h => ⟨h, by simp [h]⟩, fun h => h.1⟩
  | succ n ih =>
    rw [upTo, mem_optional, mem_anyOf_mul]
    constructor
    · rintro (rfl | ⟨c, hc, y, hy, rfl⟩)
      · simp
      · obtain ⟨hlength, hall⟩ := ih.mp hy
        exact ⟨Nat.succ_le_succ hlength, List.forall_mem_cons.mpr ⟨hc, hall⟩⟩
    · rintro ⟨hlength, hall⟩
      cases x with
      | nil => exact Or.inl rfl
      | cons c y =>
        obtain ⟨hc, hy⟩ := List.forall_mem_cons.mp hall
        exact Or.inr ⟨c, hc, y, ih.mpr ⟨Nat.le_of_succ_le_succ hlength, hy⟩, rfl⟩

/-- **A word with restricted ends**: one character, or two ends and at most `n` between them. -/
theorem mem_capped {es ms : List α} (hsub : ∀ e ∈ es, e ∈ ms) {n : Nat} {x : List α} :
    x ∈ (capped es ms n).matches' ↔
      (1 ≤ x.length ∧ x.length ≤ n + 2) ∧ (∀ c ∈ x, c ∈ ms) ∧
        (∀ c ∈ x.head?, c ∈ es) ∧ ∀ c ∈ x.getLast?, c ∈ es := by
  rw [capped, mem_anyOf_mul]
  constructor
  · rintro ⟨c, hc, y, hy, rfl⟩
    rcases mem_optional.mp hy with rfl | hy
    · simp [hc, hsub c hc]
    · obtain ⟨z, hz, d, hd, rfl⟩ := mem_mul_anyOf.mp hy
      obtain ⟨hlength, hall⟩ := mem_upTo_anyOf.mp hz
      refine ⟨⟨by simp, by simpa using hlength⟩, fun a ha => ?_, ?_, ?_⟩
      · rcases List.mem_cons.mp ha with rfl | ha
        · exact hsub a hc
        · rcases List.mem_append.mp ha with ha | ha
          · exact hall a ha
          · exact hsub a (List.mem_singleton.mp ha ▸ hd)
      · simpa using hc
      · rw [← List.cons_append, List.getLast?_concat]
        simpa using hd
  · rintro ⟨⟨hpos, hlength⟩, hall, hhead, hlast⟩
    cases x with
    | nil => exact absurd hpos (by simp)
    | cons c y =>
      refine ⟨c, hhead c rfl, y, mem_optional.mpr ?_, rfl⟩
      rcases List.eq_nil_or_concat y with rfl | ⟨z, d, rfl⟩
      · exact Or.inl rfl
      · rw [List.concat_eq_append] at hlength hall hlast ⊢
        refine Or.inr (mem_mul_anyOf.mpr ⟨z, mem_upTo_anyOf.mpr ⟨?_, fun a ha => ?_⟩, d, ?_, rfl⟩)
        · simpa using hlength
        · exact hall a (List.mem_cons_of_mem c (List.mem_append_left [d] ha))
        · exact hlast d (by rw [← List.cons_append, List.getLast?_concat]; rfl)

/-! ## Separators -/

theorem intercalate_cons (s : α) (a : List α) (rest : List (List α)) :
    [s].intercalate (a :: rest) = a ++ (rest.map (s :: ·)).flatten := by
  induction rest generalizing a with
  | nil => simp
  | cons b rest ih => simp [List.intercalate_cons_cons, ih]

theorem mem_separated {s : α} {P : RegularExpression α} {x : List α} :
    x ∈ (separated s P).matches' ↔
      ∃ parts, parts ≠ [] ∧ (∀ p ∈ parts, p ∈ P.matches') ∧ x = [s].intercalate parts := by
  rw [separated, matches'_mul, Language.mem_mul]
  constructor
  · rintro ⟨a, ha, b, hb, rfl⟩
    rw [matches'_star, Language.mem_kstar] at hb
    obtain ⟨words, rfl, hwords⟩ := hb
    -- every word of the star is the separator and a part
    have htail : ∀ w ∈ words, ∃ p ∈ P.matches', s :: p = w := by
      intro w hw
      have hword := hwords w hw
      rw [matches'_mul, matches'_char, Language.mem_mul] at hword
      obtain ⟨c, rfl, p, hp, rfl⟩ := hword
      exact ⟨p, hp, rfl⟩
    obtain ⟨rest, hrest, rfl⟩ : ∃ rest : List (List α),
        (∀ p ∈ rest, p ∈ P.matches') ∧ rest.map (s :: ·) = words := by
      refine ⟨words.map List.tail, fun p hp => ?_, ?_⟩
      · obtain ⟨w, hw, rfl⟩ := List.mem_map.mp hp
        obtain ⟨q, hq, rfl⟩ := htail w hw
        exact hq
      · rw [List.map_map]
        refine List.map_congr_left (fun w hw => ?_) |>.trans (List.map_id words)
        obtain ⟨p, -, rfl⟩ := htail w hw
        rfl
    exact ⟨a :: rest, List.cons_ne_nil a rest, List.forall_mem_cons.mpr ⟨ha, hrest⟩,
      (intercalate_cons s a rest).symm⟩
  · rintro ⟨parts, hne, hparts, rfl⟩
    cases parts with
    | nil => exact absurd rfl hne
    | cons a rest =>
      obtain ⟨ha, hrest⟩ := List.forall_mem_cons.mp hparts
      refine ⟨a, ha, (rest.map (s :: ·)).flatten, ?_, (intercalate_cons s a rest).symm⟩
      rw [matches'_star]
      refine Language.join_mem_kstar fun w hw => ?_
      obtain ⟨p, hp, rfl⟩ := List.mem_map.mp hw
      rw [matches'_mul, matches'_char]
      exact Language.mem_mul.mpr ⟨[s], rfl, p, hrest p hp, rfl⟩

/-- **Parts between separators**: when no part contains the separator, a word matches exactly when
    all the parts it is split into do. -/
theorem mem_separated_iff_splitOn [BEq α] [LawfulBEq α] {s : α} {P : RegularExpression α}
    (hfree : ∀ p ∈ P.matches', s ∉ p) {x : List α} :
    x ∈ (separated s P).matches' ↔ ∀ p ∈ x.splitOn s, p ∈ P.matches' := by
  rw [mem_separated]
  constructor
  · rintro ⟨parts, hne, hparts, rfl⟩
    rw [List.splitOn_intercalate s (fun p hp => hfree p (hparts p hp)) hne]
    exact hparts
  · intro h
    exact ⟨x.splitOn s, List.splitOn_ne_nil s x, h, (List.intercalate_splitOn s).symm⟩

/-- A member of a word is the separator, or a member of a part. -/
theorem mem_part_of_mem [BEq α] [LawfulBEq α] {s c : α} {x : List α} (h : c ∈ x) (hne : c ≠ s) :
    ∃ p ∈ x.splitOn s, c ∈ p := by
  obtain ⟨a, rest, hsplit⟩ := List.exists_cons_of_ne_nil (List.splitOn_ne_nil s x)
  have hjoined : [s].intercalate (x.splitOn s) = x := List.intercalate_splitOn s
  rw [← hjoined, hsplit, intercalate_cons, List.mem_append, List.mem_flatten] at h
  rw [hsplit]
  rcases h with h | ⟨w, hw, hc⟩
  · exact ⟨a, List.mem_cons_self, h⟩
  · obtain ⟨p, hp, rfl⟩ := List.mem_map.mp hw
    exact ⟨p, List.mem_cons_of_mem a hp, (List.mem_cons.mp hc).resolve_left hne⟩

end AttendanceApp.Regex
