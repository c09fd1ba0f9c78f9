/-
  Flat JSON objects as text: a brace, members `"key":"value"` with commas between them, a brace.

  `writeObject` writes what an encoder writes that escapes the quote, the backslash and the control
  characters and nothing else, the control characters by their letter where they have one.
  `readObject` reads more: any escape but that of a surrogate.  It knows no blanks, and takes the
  whole text or nothing.

  * `readBody_escape`        — an escaped character is read back as itself;
  * `readString_writeString` — a string is read back, and what comes after it is left;
  * `readObject_writeObject` — the round trip.
-/
import Mathlib.Data.List.Basic

namespace AttendanceApp.JsonText

/-! ## Characters -/

/-- The quotation mark. -/
def quote : Char := Char.ofNat 34

/-- The backslash. -/
def backslash : Char := Char.ofNat 92

/-- The digit of a number below 16. -/
def hexDigit (n : Nat) : Char := if n < 10 then Char.ofNat (48 + n) else Char.ofNat (87 + n)

/-- The number of a digit, in either case. -/
def hexValue (c : Char) : Option Nat :=
  if 48 ≤ c.toNat ∧ c.toNat ≤ 57 then some (c.toNat - 48)
  else if 97 ≤ c.toNat ∧ c.toNat ≤ 102 then some (c.toNat - 87)
  else if 65 ≤ c.toNat ∧ c.toNat ≤ 70 then some (c.toNat - 55)
  else none

theorem hexValue_hexDigit : ∀ n < 16, hexValue (hexDigit n) = some n := by decide

/-- The control characters with a letter of their own, and the letters. -/
def letters : List (Char × Char) :=
  [(Char.ofNat 8, 'b'), (Char.ofNat 9, 't'), (Char.ofNat 10, 'n'), (Char.ofNat 12, 'f'),
    (Char.ofNat 13, 'r')]

/-- A character as it is written inside a string. -/
def escape (c : Char) : List Char :=
  if c = quote ∨ c = backslash then [backslash, c]
  else if 32 ≤ c.toNat then [c]
  else
    match letters.lookup c with
    | some letter => [backslash, letter]
    | none => [backslash, 'u', '0', '0', hexDigit (c.toNat / 16), hexDigit (c.toNat % 16)]

/-- What a letter after a backslash stands for. -/
def unescape (e : Char) : Option Char :=
  if e = quote ∨ e = backslash ∨ e = '/' then some e
  else (letters.find? (·.2 = e)).map Prod.fst

/-- The character of four digits after `\u`, unless it is half of a pair. -/
def unicode (w x y z : Char) : Option Char :=
  match hexValue w, hexValue x, hexValue y, hexValue z with
  | some w, some x, some y, some z =>
    let code := ((w * 16 + x) * 16 + y) * 16 + z
    if code.isValidChar then some (Char.ofNat code) else none
  | _, _, _, _ => none

/-! ## Strings -/

/-- A string from behind its opening quotation mark, and what comes after it. -/
def readBody : List Char → Option (List Char × List Char)
  | [] => none
  | c :: rest =>
    if c = quote then some ([], rest)
    else if c = backslash then
      match rest with
      | [] => none
      | e :: rest =>
        if e = 'u' then
          match rest with
          | w :: x :: y :: z :: rest =>
            (unicode w x y z).bind fun d => (readBody rest).map fun p => (d :: p.1, p.2)
          | _ => none
        else (unescape e).bind fun d => (readBody rest).map fun p => (d :: p.1, p.2)
    else if 32 ≤ c.toNat then (readBody rest).map fun p => (c :: p.1, p.2)
    else none

/-- A string, and what comes after it. -/
def readString : List Char → Option (List Char × List Char)
  | c :: rest => if c = quote then readBody rest else none
  | [] => none

/-- A string with its quotation marks. -/
def writeString (cs : List Char) : List Char := quote :: (cs.flatMap escape ++ [quote])

theorem readBody_quote (rest : List Char) : readBody (quote :: rest) = some ([], rest) := by
  rw [readBody.eq_def]
  exact if_pos rfl

/-- A character that needs no escape stands for itself. -/
theorem readBody_plain {c : Char} (hmark : ¬ (c = quote ∨ c = backslash)) (hprint : 32 ≤ c.toNat)
    (rest : List Char) :
    readBody (c :: rest) = (readBody rest).map fun p => (c :: p.1, p.2) := by
  rw [not_or] at hmark
  rw [readBody.eq_def]
  show (if c = quote then _ else _) = _
  rw [if_neg hmark.1, if_neg hmark.2, if_pos hprint]

/-- A backslash and a letter. -/
theorem readBody_letter {e : Char} (he : e ≠ 'u') (rest : List Char) :
    readBody (backslash :: e :: rest) =
      (unescape e).bind fun d => (readBody rest).map fun p => (d :: p.1, p.2) := by
  rw [readBody.eq_def]
  show (if backslash = quote then _ else _) = _
  rw [if_neg (by decide), if_pos rfl]
  exact if_neg he

/-- A backslash, a 'u' and four hexadecimal digits. -/
theorem readBody_unicode (w x y z : Char) (rest : List Char) :
    readBody (backslash :: 'u' :: w :: x :: y :: z :: rest) =
      (unicode w x y z).bind fun d => (readBody rest).map fun p => (d :: p.1, p.2) := by
  rw [readBody.eq_def]
  show (if backslash = quote then _ else _) = _
  rw [if_neg (by decide), if_pos rfl]
  exact if_pos rfl

/-- A character below 32 that has no letter is read from its four digits. -/
theorem unicode_control {n : Nat} (h : n < 32) :
    unicode '0' '0' (hexDigit (n / 16)) (hexDigit (n % 16)) = some (Char.ofNat n) := by
  have hzero : hexValue '0' = some 0 := rfl
  have hhigh := hexValue_hexDigit (n / 16) (by omega)
  have hlow := hexValue_hexDigit (n % 16) (by omega)
  have hcode : ((0 * 16 + 0) * 16 + n / 16) * 16 + n % 16 = n := by omega
  have hvalid : n.isValidChar := Or.inl (by omega)
  simp only [unicode, hzero, hhigh, hlow, hcode]
  rw [if_pos hvalid]

/-- The letters are read back. -/
theorem unescape_letter : ∀ p ∈ letters, p.2 ≠ 'u' ∧ unescape p.2 = some p.1 := by decide

/-- A letter that is written for a control character is one of the table. -/
theorem mem_letters {c letter : Char} (h : letters.lookup c = some letter) :
    (c, letter) ∈ letters := by
  obtain ⟨pre, post, hsplit, -⟩ := List.lookup_eq_some_iff.mp h
  rw [hsplit]
  exact List.mem_append_right _ List.mem_cons_self

/-- **An escaped character is read back as itself.** -/
theorem readBody_escape (c : Char) (rest : List Char) :
    readBody (escape c ++ rest) = (readBody rest).map fun p => (c :: p.1, p.2) := by
  unfold escape
  by_cases hmark : c = quote ∨ c = backslash
  · -- the character itself after a backslash
    rw [if_pos hmark]
    have hplain : c ≠ 'u' := by rcases hmark with rfl | rfl <;> decide
    have hself : unescape c = some c := if_pos (hmark.imp_right Or.inl)
    show readBody (backslash :: c :: rest) = _
    rw [readBody_letter hplain, hself]
    rfl
  rw [if_neg hmark]
  by_cases hprint : 32 ≤ c.toNat
  · rw [if_pos hprint]
    exact readBody_plain hmark hprint rest
  rw [if_neg hprint]
  cases hletter : letters.lookup c with
  | some letter =>
    obtain ⟨hplain, hback⟩ := unescape_letter _ (mem_letters hletter)
    show readBody (backslash :: letter :: rest) = _
    rw [readBody_letter hplain, hback]
    rfl
  | none =>
    have hcode := unicode_control (n := c.toNat) (by omega)
    rw [Char.ofNat_toNat] at hcode
    show readBody (backslash :: 'u' :: '0' :: '0' :: _ :: _ :: rest) = _
    rw [readBody_unicode, hcode]
    rfl

/-- **A string is read back**, and what comes after it is left. -/
theorem readString_writeString (cs rest : List Char) :
    readString (writeString cs ++ rest) = some (cs, rest) := by
  show (if quote = quote then readBody (cs.flatMap escape ++ [quote] ++ rest) else none) = _
  rw [if_pos rfl, List.append_assoc]
  induction cs with
  | nil => exact readBody_quote rest
  | cons c cs ih =>
    rw [List.flatMap_cons, List.append_assoc, readBody_escape, ih]
    rfl

/-! ## Objects -/

/-- One member of an object, and what comes after it. -/
def readMember (text : List Char) : Option ((List Char × List Char) × List Char) :=
  (readString text).bind fun key =>
    match key.2 with
    | c :: rest =>
      if c = ':' then (readString rest).map fun value => ((key.1, value.1), value.2) else none
    | [] => none

/-- One member of an object. -/
def writeMember (m : List Char × List Char) : List Char :=
  writeString m.1 ++ ':' :: writeString m.2

/-- The opening brace. -/
def opening : Char := Char.ofNat 123

/-- The closing brace. -/
def closing : Char := Char.ofNat 125

/-- The members of an object and its closing brace, at most `n` members. -/
def readMembers : Nat → List Char → Option (List (List Char × List Char))
  | 0, _ => none
  | n + 1, text =>
    (readMember text).bind fun m =>
      match m.2 with
      | c :: rest =>
        if c = ',' then (readMembers n rest).map (m.1 :: ·)
        else if c = closing ∧ rest = [] then some [m.1]
        else none
      | [] => none

/-- The members of an object and its closing brace. -/
def writeMembers : List (List Char × List Char) → List Char
  | [] => [closing]
  | [m] => writeMember m ++ [closing]
  | m :: ms => writeMember m ++ ',' :: writeMembers ms

/-- The members of an object, from its text. -/
def readObject : List Char → Option (List (List Char × List Char))
  | c :: rest =>
    if c ≠ opening then none
    else if rest = [closing] then some []
    else readMembers rest.length rest
  | [] => none

/-- The text of an object. -/
def writeObject (ms : List (List Char × List Char)) : List Char := opening :: writeMembers ms

/-- A member comes back, and what follows it is left. -/
theorem readMember_writeMember (m : List Char × List Char) (rest : List Char) :
    readMember (writeMember m ++ rest) = some (m, rest) := by
  unfold readMember writeMember
  rw [List.append_assoc, readString_writeString, Option.bind_some]
  show (if ':' = ':' then (readString (writeString m.2 ++ rest)).map _ else none) = _
  rw [if_pos rfl, readString_writeString]
  rfl

/-- So do all of them, given as many turns as there are members. -/
theorem readMembers_writeMembers (m : List Char × List Char) (ms : List (List Char × List Char))
    {n : Nat} (hn : ms.length < n) : readMembers n (writeMembers (m :: ms)) = some (m :: ms) := by
  induction ms generalizing m n with
  | nil =>
    cases n with
    | zero => exact absurd hn (Nat.not_lt_zero _)
    | succ n =>
      rw [writeMembers, readMembers, readMember_writeMember, Option.bind_some]
      rfl
  | cons m' ms ih =>
    cases n with
    | zero => exact absurd hn (Nat.not_lt_zero _)
    | succ n =>
      have hrest := ih m' (n := n) (by rw [List.length_cons] at hn; omega)
      have hwrites :
          writeMembers (m :: m' :: ms) = writeMember m ++ ',' :: writeMembers (m' :: ms) :=
        rfl
      rw [hwrites, readMembers, readMember_writeMember, Option.bind_some]
      show (if ',' = ',' then (readMembers n (writeMembers (m' :: ms))).map _ else _) = _
      rw [if_pos rfl, hrest]
      rfl

/-- Every member takes room. -/
theorem length_le_writeMembers (ms : List (List Char × List Char)) :
    ms.length ≤ (writeMembers ms).length := by
  induction ms using writeMembers.induct with
  | case1 => exact Nat.zero_le _
  | case2 m => simp [writeMembers]
  | case3 m ms hne ih =>
    rw [writeMembers]
    · simp only [List.length_cons, List.length_append]
      omega
    · exact hne

/-- **The round trip.** -/
theorem readObject_writeObject (ms : List (List Char × List Char)) :
    readObject (writeObject ms) = some ms := by
  show (if opening ≠ opening then none else _) = _
  rw [if_neg (not_not_intro rfl)]
  cases ms with
  | nil => rfl
  | cons m ms =>
    have hlonger : writeMembers (m :: ms) ≠ [closing] := by
      cases ms <;> intro h <;> cases congrArg List.head? h
    have hroom := length_le_writeMembers (m :: ms)
    rw [List.length_cons] at hroom
    rw [if_neg hlonger]
    exact readMembers_writeMembers m ms hroom

end AttendanceApp.JsonText
