/-
  `lib/utils/validator.dart`: what the forms accept.

      RegExp(r"^[a-zA-Z0-9.!#$%&'*+/=?^_`{|}~-]+@
               [a-zA-Z0-9](?:[a-zA-Z0-9-]{0,253}[a-zA-Z0-9])?
               (?:\.[a-zA-Z0-9](?:[a-zA-Z0-9-]{0,253}[a-zA-Z0-9])?)*$")      (on one line)

  A Dart string is a list of UTF-16 code units, of any kind (a lone surrogate too), and `length` and
  the pattern count code units, so a text is a list of these.  `RegExp.hasMatch` is Mathlib's
  matcher on the pattern, which is anchored at both ends.

  `Email` is the grammar the pattern stands for, label by label, and `hasMatch_iff` says that the
  two agree on every text.
-/
import AttendanceApp.Pages
import AttendanceApp.Regex
import Mathlib.Data.UInt

namespace AttendanceApp.Validator

open Regex RegularExpression

/-! ## Texts -/

/-- A Dart `String`. -/
abbrev Text := List UInt16

/-- The UTF-16 code units of one character: itself, or a surrogate pair. -/
def unitsOf (c : Char) : Text :=
  if c.toNat < 0x10000 then [c.toNat.toUInt16]
  else [(0xD800 + (c.toNat - 0x10000) / 0x400).toUInt16,
    (0xDC00 + (c.toNat - 0x10000) % 0x400).toUInt16]

/-- The text of a Lean string. -/
def codeUnits (s : String) : Text := s.toList.flatMap unitsOf

/-- The code unit of a character that has one. -/
def unit (c : Char) : UInt16 := c.toNat.toUInt16

/-- `a-z` in a class. -/
def range (lo hi : Char) : Text :=
  (List.range' lo.toNat (hi.toNat + 1 - lo.toNat)).map Nat.toUInt16

/-! ## The validators -/

/-- `[a-zA-Z0-9]`. -/
def alphanumeric : Text := range 'a' 'z' ++ range 'A' 'Z' ++ range '0' '9'

/-- `[a-zA-Z0-9-]`. -/
def alphanumericOrHyphen : Text := alphanumeric ++ [unit '-']

/-- The class of the part before the '@'. -/
def localClass : Text := alphanumeric ++ codeUnits ".!#$%&'*+/=?^_`\x7b|\x7d~-"

/-- One label of the domain: at most 255 characters, with no hyphen at either end. -/
def labelRegExp : RegularExpression UInt16 := capped alphanumeric alphanumericOrHyphen 253

/-- The pattern between `^` and `$`. -/
def emailRegExp : RegularExpression UInt16 :=
  oneOrMore (anyOf localClass) * (char (unit '@') * separated (unit '.') labelRegExp)

/-- `emailRegExp.hasMatch(email)`. -/
def hasMatch (email : Text) : Bool := emailRegExp.rmatch email

/-- `Validator.validateEmail`: the error message, if any. -/
def validateEmail : Option Text → Option String
  | none => none
  | some email =>
    if email.isEmpty then some "Email can't be empty"
    else if !hasMatch email then some "Enter a correct email"
    else none

/-- `Validator.validatePassword`: the error message, if any. -/
def validatePassword : Option Text → Option String
  | none => none
  | some password =>
    if password.isEmpty then some "Password can't be empty"
    else if password.length < 6 then some "Enter a password with length at least 6"
    else none

/-- `Validator.validateName`: the error message, if any. -/
def validateName : Option Text → Option String
  | none => none
  | some matric_no => if matric_no.isEmpty then some "Matric Number can't be empty" else none

theorem unitsOf_ne_nil (c : Char) : unitsOf c ≠ [] := by
  rw [unitsOf]
  split <;> exact List.cons_ne_nil _ _

/-- The pages hand on matric numbers as Lean strings, on which the validator is the same. -/
theorem validateName_codeUnits (matric_no : Option String) :
    validateName (matric_no.map codeUnits) = AttendanceApp.validateName matric_no := by
  cases matric_no with
  | none => rfl
  | some s =>
    have hempty : (codeUnits s).isEmpty = s.isEmpty := by
      rw [Bool.eq_iff_iff, List.isEmpty_iff, codeUnits, List.flatMap_eq_nil_iff, String.isEmpty_iff,
        ← String.toList_eq_nil_iff, List.eq_nil_iff_forall_not_mem]
      exact forall_congr' fun c => imp_congr_right fun _ => iff_false_intro (unitsOf_ne_nil c)
    simp only [Option.map_some, validateName, AttendanceApp.validateName, hempty]

theorem validateName_iff (name : Text) : validateName (some name) = none ↔ name ≠ [] := by
  cases name with
  | nil => simp [validateName]
  | cons c cs => simp [validateName]

theorem validatePassword_iff (password : Text) :
    validatePassword (some password) = none ↔ 6 ≤ password.length := by
  rw [validatePassword]
  split
  · rename_i hempty
    rw [List.isEmpty_iff.mp hempty]
    simp
  · split <;> simp_all

/-! ## The grammar of emails -/

/-- An ASCII letter or digit. -/
def IsAlphanumeric (c : UInt16) : Prop :=
  ('a'.toNat ≤ c.toNat ∧ c.toNat ≤ 'z'.toNat) ∨ ('A'.toNat ≤ c.toNat ∧ c.toNat ≤ 'Z'.toNat) ∨
    ('0'.toNat ≤ c.toNat ∧ c.toNat ≤ '9'.toNat)

/-- A letter, a digit or one of the listed signs. -/
def IsLocal (c : UInt16) : Prop :=
  IsAlphanumeric c ∨ c ∈ codeUnits ".!#$%&'*+/=?^_`\x7b|\x7d~-"

/-- 1 to 255 letters, digits and hyphens, with no hyphen at either end. -/
structure Label (l : Text) : Prop where
  length : 1 ≤ l.length ∧ l.length ≤ 255
  members : ∀ c ∈ l, IsAlphanumeric c ∨ c = unit '-'
  first : l.head? ≠ some (unit '-')
  last : l.getLast? ≠ some (unit '-')

/-- The part before the first '@', and the part after it. -/
def localPart (s : Text) : Text := s.takeWhile (· != unit '@')

/-- What follows the first '@'. -/
def domain (s : Text) : Text := (s.dropWhile (· != unit '@')).tail

/-- **The grammar**: one '@', with a non-empty local part before it, and after it labels with points
    between them. -/
structure Email (s : Text) : Prop where
  one_at : s.count (unit '@') = 1
  local_ne_nil : localPart s ≠ []
  local_members : ∀ c ∈ localPart s, IsLocal c
  labels : ∀ l ∈ (domain s).splitOn (unit '.'), Label l

instance (c : UInt16) : Decidable (IsAlphanumeric c) :=
  inferInstanceAs (Decidable ((_ ∧ _) ∨ (_ ∧ _) ∨ (_ ∧ _)))

instance (c : UInt16) : Decidable (IsLocal c) := inferInstanceAs (Decidable (_ ∨ _))

/-- The executable readings of the two structures. -/
def isLabel (l : Text) : Bool :=
  decide (1 ≤ l.length ∧ l.length ≤ 255) &&
    l.all (fun c => decide (IsAlphanumeric c ∨ c = unit '-')) &&
    l.head? != some (unit '-') && l.getLast? != some (unit '-')

/-- `Email`, as it is computed. -/
def isEmail (s : Text) : Bool :=
  s.count (unit '@') == 1 && !(localPart s).isEmpty &&
    (localPart s).all (fun c => decide (IsLocal c)) && ((domain s).splitOn (unit '.')).all isLabel

/-- The executable reading of a label. -/
theorem isLabel_iff {l : Text} : isLabel l = true ↔ Label l := by
  simp only [isLabel, Bool.and_eq_true, decide_eq_true_eq, List.all_eq_true, bne_iff_ne]
  constructor
  · rintro ⟨⟨⟨hlength, hmembers⟩, hfirst⟩, hlast⟩
    exact ⟨hlength, hmembers, hfirst, hlast⟩
  · rintro ⟨hlength, hmembers, hfirst, hlast⟩
    exact ⟨⟨⟨hlength, hmembers⟩, hfirst⟩, hlast⟩

/-- The executable reading of the grammar. -/
theorem isEmail_iff {s : Text} : isEmail s = true ↔ Email s := by
  simp only [isEmail, Bool.and_eq_true, beq_iff_eq, decide_eq_true_eq, List.all_eq_true,
    isLabel_iff, Bool.not_eq_true', List.isEmpty_eq_false_iff]
  constructor
  · rintro ⟨⟨⟨hone, hne⟩, hmembers⟩, hlabels⟩
    exact ⟨hone, hne, hmembers, hlabels⟩
  · rintro ⟨hone, hne, hmembers, hlabels⟩
    exact ⟨⟨⟨hone, hne⟩, hmembers⟩, hlabels⟩

instance (l : Text) : Decidable (Label l) := decidable_of_iff _ isLabel_iff

instance (s : Text) : Decidable (Email s) := decidable_of_iff _ isEmail_iff

/-! ## The pattern is the grammar -/

theorem mem_range {lo hi : Char} (hhi : hi.toNat < 65536) {c : UInt16} :
    c ∈ range lo hi ↔ lo.toNat ≤ c.toNat ∧ c.toNat ≤ hi.toNat := by
  rw [range, List.mem_map]
  constructor
  · rintro ⟨n, hn, rfl⟩
    rw [List.mem_range'_1] at hn
    have hsame : n.toUInt16.toNat = n := by
      rw [Nat.toUInt16_eq, UInt16.toNat_ofNat']
      omega
    rw [hsame]
    omega
  · intro h
    refine ⟨c.toNat, ?_, UInt16.ofNat_toNat⟩
    rw [List.mem_range'_1]
    omega

theorem mem_alphanumeric {c : UInt16} : c ∈ alphanumeric ↔ IsAlphanumeric c := by
  rw [alphanumeric, List.mem_append, List.mem_append, mem_range (by decide), mem_range (by decide),
    mem_range (by decide), or_assoc, IsAlphanumeric]

theorem mem_alphanumericOrHyphen {c : UInt16} :
    c ∈ alphanumericOrHyphen ↔ IsAlphanumeric c ∨ c = unit '-' := by
  rw [alphanumericOrHyphen, List.mem_append, mem_alphanumeric, List.mem_singleton]

theorem mem_localClass {c : UInt16} : c ∈ localClass ↔ IsLocal c := by
  rw [localClass, List.mem_append, mem_alphanumeric, IsLocal]

theorem hyphen_not_alphanumeric : ¬ IsAlphanumeric (unit '-') := by
  rw [← mem_alphanumeric]
  decide

/-- An end of a label is a member that is no hyphen. -/
theorem end_iff {x : Text} (hmembers : ∀ c ∈ x, IsAlphanumeric c ∨ c = unit '-') {o : Option UInt16}
    (ho : ∀ c ∈ o, c ∈ x) : (∀ c ∈ o, c ∈ alphanumeric) ↔ o ≠ some (unit '-') := by
  constructor
  · rintro h rfl
    exact hyphen_not_alphanumeric (mem_alphanumeric.mp (h _ rfl))
  · intro h c hc
    rcases hmembers c (ho c hc) with hc' | rfl
    · exact mem_alphanumeric.mpr hc'
    · exact absurd hc h

/-- The pattern of a label matches the labels. -/
theorem mem_labelRegExp {x : Text} : x ∈ labelRegExp.matches' ↔ Label x := by
  have hsub : ∀ c ∈ alphanumeric, c ∈ alphanumericOrHyphen := fun c => List.mem_append_left _
  rw [labelRegExp, mem_capped hsub]
  simp only [mem_alphanumericOrHyphen]
  constructor
  · rintro ⟨hlength, hmembers, hfirst, hlast⟩
    exact ⟨hlength, hmembers, (end_iff hmembers fun c => List.mem_of_mem_head?).mp hfirst,
      (end_iff hmembers fun c => List.mem_of_mem_getLast?).mp hlast⟩
  · rintro ⟨hlength, hmembers, hfirst, hlast⟩
    exact ⟨hlength, hmembers, (end_iff hmembers fun c => List.mem_of_mem_head?).mpr hfirst,
      (end_iff hmembers fun c => List.mem_of_mem_getLast?).mpr hlast⟩

/-- A label has no character outside its class. -/
theorem not_mem_label {c : UInt16} (hc : c ∉ alphanumericOrHyphen) {x : Text} (h : Label x) :
    c ∉ x :=
  fun hmem => hc (mem_alphanumericOrHyphen.mpr (h.members c hmem))

/-- The parts around the first '@', put together again. -/
theorem localPart_append_domain {s : Text} (h : unit '@' ∈ s) :
    s = localPart s ++ unit '@' :: domain s := by
  induction s with
  | nil => exact absurd h List.not_mem_nil
  | cons c s ih =>
    by_cases hc : c = unit '@'
    · simp [localPart, domain, hc]
    · have htail : unit '@' ∈ s := (List.mem_cons.mp h).resolve_left (Ne.symm hc)
      have hrest := ih htail
      simp only [localPart, domain] at hrest ⊢
      rw [List.takeWhile_cons_of_pos (by simpa using hc),
        List.dropWhile_cons_of_pos (by simpa using hc), List.cons_append, ← hrest]

/-- A text is cut at its first '@'. -/
theorem localPart_append {loc : Text} (h : unit '@' ∉ loc) (dom : Text) :
    localPart (loc ++ unit '@' :: dom) = loc ∧ domain (loc ++ unit '@' :: dom) = dom := by
  have hloc : ∀ c ∈ loc, (c != unit '@') = true := fun c hc => by
    rw [bne_iff_ne]
    exact fun heq => h (heq ▸ hc)
  rw [localPart, domain, List.takeWhile_append_of_pos hloc, List.dropWhile_append_of_pos hloc]
  simp

/-- **The pattern matches exactly the emails of the grammar.** -/
theorem hasMatch_iff (s : Text) : hasMatch s = true ↔ Email s := by
  have hfree : ∀ p ∈ labelRegExp.matches', unit '.' ∉ p := fun p hp =>
    not_mem_label (by decide) (mem_labelRegExp.mp hp)
  have hat : unit '@' ∉ localClass := by decide
  rw [hasMatch, rmatch_iff_matches', emailRegExp, matches'_mul, Language.mem_mul]
  constructor
  · rintro ⟨loc, hloc, rest, hrest, rfl⟩
    rw [matches'_mul, matches'_char, Language.mem_mul] at hrest
    obtain ⟨_, rfl, dom, hdom, rfl⟩ := hrest
    obtain ⟨hne, hmembers⟩ := mem_oneOrMore_anyOf.mp hloc
    have hlabels := (mem_separated_iff_splitOn hfree).mp hdom
    have hatLoc : unit '@' ∉ loc := fun h => hat (hmembers _ h)
    have hatDom : unit '@' ∉ dom := fun h => by
      obtain ⟨p, hp, hatp⟩ := mem_part_of_mem (s := unit '.') h (by decide)
      exact not_mem_label (by decide) (mem_labelRegExp.mp (hlabels p hp)) hatp
    obtain ⟨hlocal, hdomain⟩ := localPart_append hatLoc dom
    show Email (loc ++ unit '@' :: dom)
    refine ⟨?_, by rwa [hlocal], fun c hc => ?_, fun l hl => ?_⟩
    · rw [List.count_append, List.count_cons_self, List.count_eq_zero.mpr hatLoc,
        List.count_eq_zero.mpr hatDom]
    · exact mem_localClass.mp (hmembers c (hlocal ▸ hc))
    · exact mem_labelRegExp.mp (hlabels l (hdomain ▸ hl))
  · rintro ⟨hone, hne, hmembers, hlabels⟩
    have hmem : unit '@' ∈ s := List.count_pos_iff.mp (by omega)
    have hloc : localPart s ∈ (oneOrMore (anyOf localClass)).matches' :=
      mem_oneOrMore_anyOf.mpr ⟨hne, fun c hc => mem_localClass.mpr (hmembers c hc)⟩
    refine ⟨localPart s, hloc, unit '@' :: domain s, ?_, (localPart_append_domain hmem).symm⟩
    rw [matches'_mul, matches'_char, Language.mem_mul]
    refine ⟨[unit '@'], rfl, domain s, ?_, rfl⟩
    exact (mem_separated_iff_splitOn hfree).mpr fun l hl => mem_labelRegExp.mpr (hlabels l hl)

theorem not_email_nil : ¬ Email [] := fun h => absurd h.one_at (by decide)

/-- The validator accepts exactly the emails of the grammar. -/
theorem validateEmail_iff (s : Text) : validateEmail (some s) = none ↔ Email s := by
  rw [validateEmail]
  by_cases hempty : s = []
  · subst hempty
    simp [not_email_nil]
  · rw [if_neg (by simpa using hempty), ← hasMatch_iff]
    cases hasMatch s <;> simp

example : validateEmail (some (codeUnits "17ck023456@stu.cu.edu.ng")) = none :=
  (validateEmail_iff _).mpr (by decide +kernel)

/-- **`validateEmail` accepts exactly its grammar**, and answers every other text with a message. -/
theorem validateEmail_accepts_exactly (s : Text) :
    (validateEmail (some s) = none ↔ Email s) ∧
    (¬ Email s → ∃ message, validateEmail (some s) = some message) := by
  refine ⟨validateEmail_iff s, fun h => ?_⟩
  exact Option.ne_none_iff_exists'.mp fun hnone => h ((validateEmail_iff s).mp hnone)

end AttendanceApp.Validator
