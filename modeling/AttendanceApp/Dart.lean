/-
  The Dart values and errors the modelled code works with.

  Replies of the recogniser and of the sheet are read through `jsonDecode` into untyped `dynamic`
  values, which the code then indexes blindly (`reply['images'][0]['candidates']`).  What such an
  index does depends on the value it is applied to, so the model keeps all the shapes of JSON and
  gives `v['k']`, `v[0]` and the implicit casts their Dart meaning, errors included:

  * `null['k']`, `true['k']`, `3['k']`   throw NoSuchMethodError (there is no operator `[]`);
  * `[..]['k']`, `'text'['k']`           throw TypeError (the operator wants an int);
  * `{..}[0]`                            is null (a map with string keys has no key 0);
  * `null` passes every cast, because the app runs with `--no-sound-null-safety`.

  Numbers are read as exact rationals; `double` adds the infinities and NaN, which
  `double.parse` accepts as text.  The upper-case mapping of Unicode is kept abstract (`CaseMap`):
  the code relies on no letter in particular.
-/
import Mathlib.Algebra.Field.Rat
import Mathlib.Data.List.Basic

namespace AttendanceApp.Dart

/-- The errors the modelled code can throw, by class. -/
inductive DartError where
  | noSuchMethod
  | type
  | range
  | format
  /-- `FileSystemException`, from `readAsBytesSync`. -/
  | fileSystem
  /-- `setState`, or a lookup through the context, of a disposed widget. -/
  | disposed
  deriving DecidableEq, Repr

/-! ## Decoded JSON -/

/-- What `jsonDecode` returns.  A decoded map has one entry for each key. -/
inductive Json where
  | null
  | bool (b : Bool)
  | num (q : ℚ)
  | str (s : String)
  | arr (items : List Json)
  | obj (fields : List (String × Json))

namespace Json

/-- The value of a key of a map; null when the key is missing. -/
def lookup (fields : List (String × Json)) (k : String) : Json :=
  (fields.lookup k).getD null

/-- `v['k']` on a `dynamic`. -/
def key (k : String) : Json → Except DartError Json
  | null => .error .noSuchMethod
  | bool _ => .error .noSuchMethod
  | num _ => .error .noSuchMethod
  | str _ => .error .type
  | arr _ => .error .type
  | obj fields => .ok (lookup fields k)

/-- `v[0]` on a `dynamic` (the code indexes lists at 0 only). -/
def first : Json → Except DartError Json
  | null => .error .noSuchMethod
  | bool _ => .error .noSuchMethod
  | num _ => .error .noSuchMethod
  | str s =>
    match s.toList with
    | [] => .error .range
    | c :: _ => .ok (str (String.ofList [c]))
  | arr [] => .error .range
  | arr (v :: _) => .ok v
  | obj _ => .ok null

/-- `v == null`. -/
def isNull : Json → Bool
  | null => true
  | _ => false

/-- `v is String`. -/
def isStr : Json → Bool
  | str _ => true
  | _ => false

/-- `Map<String, dynamic> m = v`: null and maps pass. -/
def asMap : Json → Except DartError Json
  | null => .ok null
  | obj fields => .ok (obj fields)
  | _ => .error .type

/-- `String t = v`: strings and null pass. -/
def asString : Json → Except DartError (Option String)
  | null => .ok none
  | str s => .ok (some s)
  | _ => .error .type

end Json

/-! ## `double` -/

/-- A Dart `double`, finite values read exactly. -/
inductive Double where
  | finite (q : ℚ)
  | infinity (negative : Bool)
  | nan

namespace Double

/-- `d * c` for a positive constant `c`. -/
def scale (c : ℚ) : Double → Double
  | finite q => finite (q * c)
  | infinity negative => infinity negative
  | nan => nan

/-- `d > bound`; false for NaN. -/
def above (bound : ℚ) : Double → Bool
  | finite q => decide (bound < q)
  | infinity negative => !negative
  | nan => false

/-- The white space `double.parse` skips at both ends. -/
def isSpace (c : Char) : Bool :=
  (0x9 ≤ c.toNat && c.toNat ≤ 0xD) || (0x2000 ≤ c.toNat && c.toNat ≤ 0x200A) ||
    [0x20, 0x85, 0xA0, 0x1680, 0x2028, 0x2029, 0x202F, 0x205F, 0x3000, 0xFEFF].contains c.toNat

/-- `double.parse` ignores white space at both ends. -/
def trim (cs : List Char) : List Char :=
  ((cs.dropWhile isSpace).reverse.dropWhile isSpace).reverse

/-- An optional sign, and whether it was `-`. -/
def sign : List Char → Bool × List Char
  | '-' :: cs => (true, cs)
  | '+' :: cs => (false, cs)
  | cs => (false, cs)

/-- The value of a row of decimal digits. -/
def digits (cs : List Char) : Nat :=
  cs.foldl (fun n c => n * 10 + (c.toNat - '0'.toNat)) 0

/-- `e`, an optional sign and one or more digits, or nothing. -/
def exponent : List Char → Option ℤ
  | [] => some 0
  | c :: cs =>
    let (negative, ds) := sign cs
    if (c = 'e' || c = 'E') && !ds.isEmpty && ds.all Char.isDigit then
      some (if negative then -(digits ds : ℤ) else digits ds)
    else none

/-- Digits, with an optional point and more digits, or a point and digits; then an exponent. -/
def magnitude (cs : List Char) : Option ℚ :=
  let (whole, rest) := cs.span Char.isDigit
  let (part, rest) :=
    match rest with
    | '.' :: cs => cs.span Char.isDigit
    | cs => ([], cs)
  if whole.isEmpty && part.isEmpty then none
  else (exponent rest).map fun e =>
    (digits (whole ++ part) : ℚ) * (10 : ℚ) ^ (e - (part.length : ℤ))

/-- `double.parse(text)`. -/
def parse (text : String) : Except DartError Double :=
  let (negative, cs) := sign (trim text.toList)
  if cs = "Infinity".toList then .ok (infinity negative)
  else if cs = "NaN".toList then .ok nan
  else
    match magnitude cs with
    | some q => .ok (finite (if negative then -q else q))
    | none => .error .format

/-- `double.parse(v.toString())`: a number prints as text that parses back to it, a string as
    itself, and `null`, `true`, `[..]`, `{..}` are no numbers. -/
def ofDynamic : Json → Except DartError Double
  | .num q => .ok (finite q)
  | .str s => parse s
  | _ => .error .format

end Double

/-! ## `toUpperCase` -/

/-- `String.toUpperCase`, as the Dart documentation has it: a string that is in upper case already
    is returned as it is, and no character is mapped to nothing. -/
structure CaseMap where
  toUpperCase : String → String
  idem : ∀ s, toUpperCase (toUpperCase s) = toUpperCase s
  eq_empty : ∀ s, toUpperCase s = "" ↔ s = ""

theorem toUpper_toUpper (c : Char) : c.toUpper.toUpper = c.toUpper := by
  by_cases h : 'a'.val ≤ c.val ∧ c.val ≤ 'z'.val
  · -- a small letter is mapped out of the range of the small letters
    have hupper : c.toUpper.val = c.val + ('A'.val - 'a'.val) := by
      delta Char.toUpper
      rw [dif_pos h]
    have hrange : ¬ ('a'.val ≤ c.toUpper.val ∧ c.toUpper.val ≤ 'z'.val) := by
      rw [hupper]
      simp only [UInt32.le_iff_toNat_le, UInt32.toNat_add] at h ⊢
      have ha : 'a'.val.toNat = 97 := rfl
      have hz : 'z'.val.toNat = 122 := rfl
      have hd : ('A'.val - 'a'.val).toNat = 4294967264 := rfl
      omega
    exact dif_neg hrange
  · have hsame : c.toUpper = c := dif_neg h
    rw [hsame, hsame]

/-- The mapping on ASCII texts, which matric numbers are. -/
def CaseMap.ascii : CaseMap where
  toUpperCase s := String.ofList (s.toList.map Char.toUpper)
  idem s := by
    have hmap : Char.toUpper ∘ Char.toUpper = Char.toUpper := funext toUpper_toUpper
    rw [String.toList_ofList, List.map_map, hmap]
  eq_empty s := by
    rw [← String.toList_eq_nil_iff, String.toList_ofList, List.map_eq_nil_iff,
      String.toList_eq_nil_iff]

end AttendanceApp.Dart
