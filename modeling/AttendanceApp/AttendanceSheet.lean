/-
  Attendance entries on their way through the sheet and back.

      FeedbackForm.toJson    {'matricno': matricno, 'attendance': attendance}
      FeedbackForm.fromJson  FeedbackForm("${json['name']}", "${json['attendance']}")

  The decoder reads a key the encoder does not write.  A missing key is null, and interpolation
  makes the text 'null' of it, so every entry comes back well-formed, with the matric number 'null'
  (`fromJson_toJson`), and so do the rows of the CSV file.

  The sheet service is any `Web` that keeps what it is posted (`KeepingSheet`): it may answer the
  posts as it likes.
-/
import AttendanceApp.MarkAttendance

namespace AttendanceApp.MarkAttendance

open AttendanceApp.Dart

/-! ## The decoder and the exporter -/

/-- `"${v}"` of a decoded value.  How a number, a list or a map is printed is left open. -/
structure Interpolation where
  text : Json → String
  text_null : text .null = "null"
  text_str : ∀ s, text (.str s) = s

/-- `FeedbackForm.fromJson`. -/
def FeedbackForm.fromJson (t : Interpolation) (json : Json) : Except DartError FeedbackForm := do
  let name ← json.key "name"
  let attendance ← json.key "attendance"
  return ⟨some (t.text name), t.text attendance⟩

/-- What `getFeedbackList` can end on. -/
inductive ListError where
  | transport
  | dart (e : DartError)
  deriving DecidableEq, Repr

/-- `jsonDecode(response.body) as List`, and the entries of the list. -/
def decodeList (t : Interpolation) (response : HttpResponse) :
    Except DartError (List FeedbackForm) :=
  match response.body with
  | none => .error .format
  | some (.arr items) => items.mapM (FeedbackForm.fromJson t)
  | some .null => .error .noSuchMethod -- null passes the cast, and has no `map`
  | some _ => .error .type

/-- `getFeedbackList`. -/
def getFeedbackList {σ : Type} (t : Interpolation) (web : Web σ) (s : σ) :
    Except ListError (List FeedbackForm) :=
  match (web.get URL s).1 with
  | none => .error .transport
  | some response => (decodeList t response).mapError .dart

/-- The row of one entry in `getCsv`. -/
def FeedbackForm.row (f : FeedbackForm) : List (Option String) := [f.matricno, some f.attendance]

/-- The `data` of `getCsv`. -/
def csvRows (feedbackList : List FeedbackForm) : List (List (Option String)) :=
  [some "Matric No", some "Attendance"] :: feedbackList.map FeedbackForm.row

/-! ## The sheet -/

/-- A posted body as a JSON object. -/
def asJson (body : List (String × Option String)) : Json :=
  .obj (body.map fun field => (field.1, field.2.elim .null .str))

/-- A sheet service that keeps the field names and the values of every body it is posted, in order,
    and lists them. -/
structure KeepingSheet (σ : Type) extends Web σ where
  posted : σ → List Json
  empty : σ
  posted_empty : posted empty = []
  posted_post : ∀ body s, (∀ field ∈ body, field.2.isSome) →
    posted (post URL body s).2 = posted s ++ [asJson body]
  /-- Following a redirect adds nothing. -/
  posted_get : ∀ url s, posted (get url s).2 = posted s
  lists : ∀ s, ∃ response, (get URL s).1 = some response ∧ response.body = some (.arr (posted s))

/-- `submitForm` for each form, one after the other. -/
def submitAll {σ : Type} (web : Web σ) (forms : List FeedbackForm) (s : σ) : σ :=
  forms.foldl (fun s f => (submitForm web f s).2) s

/-- An entry with a matric number and an attendance. -/
def FeedbackForm.of (entry : String × String) : FeedbackForm := ⟨some entry.1, entry.2⟩

section RoundTrip

variable {σ : Type} (t : Interpolation) (sheet : KeepingSheet σ)

/-- One submission adds one row, whatever is answered. -/
theorem posted_submitForm (entry : String × String) (s : σ) :
    sheet.posted (submitForm sheet.toWeb (.of entry) s).2 =
      sheet.posted s ++ [asJson (FeedbackForm.of entry).toJson] := by
  have hpost := sheet.posted_post (FeedbackForm.of entry).toJson s (by
    simp [FeedbackForm.toJson, FeedbackForm.of])
  rw [submitForm, ← hpost]
  rcases sheet.post URL (FeedbackForm.of entry).toJson s with ⟨reply, s'⟩
  simp only
  split
  · exact sheet.posted_get _ s'
  · rfl

/-- **After a run of submissions**, the sheet holds their bodies in posting order. -/
theorem posted_submitAll (entries : List (String × String)) (s : σ) :
    sheet.posted (submitAll sheet.toWeb (entries.map .of) s) =
      sheet.posted s ++ entries.map fun entry => asJson (FeedbackForm.of entry).toJson := by
  induction entries generalizing s with
  | nil => exact (List.append_nil _).symm
  | cons entry entries ih =>
    show sheet.posted (submitAll sheet.toWeb (entries.map .of)
      (submitForm sheet.toWeb (.of entry) s).2) = _
    rw [ih, posted_submitForm, List.append_assoc, List.singleton_append, List.map_cons]

/-- **What comes back of an entry**: its matric number is lost. -/
theorem fromJson_toJson (entry : String × String) :
    FeedbackForm.fromJson t (asJson (FeedbackForm.of entry).toJson) =
      .ok (.of ("null", entry.2)) := by
  show (Except.ok ⟨some (t.text .null), t.text (.str entry.2)⟩ : Except DartError FeedbackForm) = _
  rw [t.text_null, t.text_str]
  rfl

/-- Every row that comes back loses its matric number and keeps its attendance. -/
theorem mapM_fromJson (entries : List (String × String)) :
    (entries.map fun entry => asJson (FeedbackForm.of entry).toJson).mapM
        (FeedbackForm.fromJson t) =
      .ok (entries.map fun entry => .of ("null", entry.2)) := by
  induction entries with
  | nil => rfl
  | cons entry entries ih =>
    rw [List.map_cons, List.mapM_cons, fromJson_toJson, ih]
    rfl

/-- **The list that comes back** of a run of submissions, and not one matric number in it. -/
theorem getFeedbackList_submitAll (entries : List (String × String)) :
    getFeedbackList t sheet.toWeb (submitAll sheet.toWeb (entries.map .of) sheet.empty) =
      .ok (entries.map fun entry => .of ("null", entry.2)) := by
  obtain ⟨response, hget, hbody⟩ :=
    sheet.lists (submitAll sheet.toWeb (entries.map .of) sheet.empty)
  rw [posted_submitAll, sheet.posted_empty, List.nil_append] at hbody
  rw [getFeedbackList, hget]
  simp only [decodeList, hbody, mapM_fromJson]
  rfl

/-- **Attendance survives the round trip**: the list comes back as it was posted, its CSV rows are
    the header and the entries, and each form is decoded to itself. -/
def Survives (entries : List (String × String)) : Prop :=
  getFeedbackList t sheet.toWeb (submitAll sheet.toWeb (entries.map .of) sheet.empty) =
    .ok (entries.map .of) ∧
  (∀ feedbackList,
    getFeedbackList t sheet.toWeb (submitAll sheet.toWeb (entries.map .of) sheet.empty) =
      .ok feedbackList →
    csvRows feedbackList = [some "Matric No", some "Attendance"] ::
      entries.map fun entry => [some entry.1, some entry.2]) ∧
  ∀ entry ∈ entries,
    FeedbackForm.fromJson t (asJson (FeedbackForm.of entry).toJson) = .ok (.of entry)

/-- **When attendance survives**: exactly when every matric number is the text 'null'. -/
theorem survives_iff (entries : List (String × String)) :
    Survives t sheet entries ↔ ∀ entry ∈ entries, entry.1 = "null" := by
  have hentry : ∀ entry : String × String,
      FeedbackForm.of ("null", entry.2) = FeedbackForm.of entry ↔ entry.1 = "null" := by
    intro entry
    simp [FeedbackForm.of, eq_comm]
  unfold Survives
  rw [getFeedbackList_submitAll]
  constructor
  · rintro ⟨-, -, hdecoded⟩ entry hmem
    have hsame := hdecoded entry hmem
    rw [fromJson_toJson] at hsame
    exact (hentry entry).mp (Except.ok.inj hsame)
  · intro hnull
    have hlist : (entries.map fun entry => FeedbackForm.of ("null", entry.2)) = entries.map .of :=
      List.map_congr_left fun entry hmem => (hentry entry).mpr (hnull entry hmem)
    rw [hlist]
    refine ⟨rfl, fun feedbackList heq => ?_, fun entry hmem => ?_⟩
    · obtain rfl := Except.ok.inj heq
      simp [csvRows, FeedbackForm.row, FeedbackForm.of, Function.comp_def]
    · rw [fromJson_toJson, (hentry entry).mpr (hnull entry hmem)]

end RoundTrip

/-! ## One entry -/

/-- A sheet that confirms every post. -/
def plainSheet : KeepingSheet (List Json) where
  post _ body s :=
    (some ⟨200, none, some (.obj [("status", .str STATUS_SUCCESS)])⟩, s ++ [asJson body])
  get _ s := (some ⟨200, none, some (.arr s)⟩, s)
  posted s := s
  empty := []
  posted_empty := rfl
  posted_post _ _ _ := rfl
  posted_get _ _ := rfl
  lists _ := ⟨_, rfl, rfl⟩

/-- Texts as they are, and a name for everything else. -/
def plainText : Interpolation where
  text
    | .str s => s
    | .bool b => toString b
    | .num q => toString q
    | .null => "null"
    | .arr _ => "[...]"
    | .obj _ => "\x7b...\x7d"
  text_null := rfl
  text_str _ := rfl

/-- The entry of a student comes back without the student. -/
theorem matricno_lost : ¬ ∀ (σ : Type) (t : Interpolation) (sheet : KeepingSheet σ)
    (entries : List (String × String)), Survives t sheet entries := by
  intro h
  obtain ⟨-, -, hdecoded⟩ := h (List Json) plainText plainSheet [("17CK023456", "1")]
  have hsame := hdecoded ("17CK023456", "1") List.mem_cons_self
  rw [fromJson_toJson] at hsame
  have hname := congrArg FeedbackForm.matricno (Except.ok.inj hsame)
  exact absurd hname (by decide)

end AttendanceApp.MarkAttendance
