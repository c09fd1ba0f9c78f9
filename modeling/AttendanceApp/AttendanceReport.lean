/-
  From the sheet to the lecturer.

      submitForm  ->  the sheet  ->  getFeedbackList  ->  getCsv  ->  sendMailAndAttachment

  Each stage has a file of its own: `AttendanceSheet.lean` (what comes back of what was posted),
  `AttendanceFile.lean` (what is in the file when a mail leaves).  Here a run of FormController is
  given the lists that the sheet answers with.

  The decoder loses every matric number, and the file shows it: when the mail is complete, it has
  one line for each attendance that was posted, in posting order, and the student of every line is
  'null' (`report_names_nobody`).  Whoever attended, the lecturer is mailed the same text.
-/
import AttendanceApp.AttendanceMail

namespace AttendanceApp.AttendanceFile

open AttendanceApp.Transition MarkAttendance SharedFile

/-- A text of letters, digits and spaces. -/
def Plain (s : String) : Prop := s.toList.all (fun c => c.isAlphanum || c == ' ') = true

instance (s : String) : Decidable (Plain s) :=
  inferInstanceAs (Decidable (s.toList.all (fun c => c.isAlphanum || c == ' ') = true))

/-- The lines of a report on attendances of nobody in particular. -/
def anonymousRows (attendances : List String) : List (List String) :=
  ["Matric No", "Attendance"] :: attendances.map fun attendance => ["null", attendance]

/-- Its bytes. -/
def anonymousReport (attendances : List String) : List UInt8 :=
  ("\r\n".intercalate ((anonymousRows attendances).map fun row => ",".intercalate row)
    ).toUTF8.data.toList

/-! ## The text of a list -/

section Text

variable (converter : ListToCsvConverter)

/-- The rows of a list that has come back from the sheet. -/
theorem csvRows_returned (entries : List (String × String)) :
    csvRows (entries.map fun entry => .of ("null", entry.2)) =
      (anonymousRows (entries.map Prod.snd)).map fun row => row.map some := by
  unfold csvRows anonymousRows
  rw [List.map_map, List.map_cons, List.map_map, List.map_map]
  rfl

/-- They are plain if the attendances are. -/
theorem plain_anonymousRows {attendances : List String} (h : ∀ a ∈ attendances, Plain a) :
    ∀ row ∈ anonymousRows attendances, ∀ field ∈ row,
      field.toList.all (fun c => c.isAlphanum || c == ' ') = true := by
  have hheader : ∀ field ∈ ["Matric No", "Attendance"], Plain field := by decide
  have hnull : Plain "null" := by decide
  intro row hrow field hfield
  rcases List.mem_cons.mp hrow with rfl | hrow
  · exact hheader field hfield
  · obtain ⟨attendance, hattendance, rfl⟩ := List.mem_map.mp hrow
    rcases List.mem_cons.mp hfield with rfl | hfield
    · exact hnull
    · obtain rfl := List.mem_singleton.mp hfield
      exact h field hattendance

/-- **The text `getCsv` makes of a list from the sheet.** -/
theorem csvBytes_returned {entries : List (String × String)}
    (h : ∀ entry ∈ entries, Plain entry.2) :
    csvBytes converter (entries.map fun entry => .of ("null", entry.2)) =
      anonymousReport (entries.map Prod.snd) := by
  have hplain : ∀ a ∈ entries.map Prod.snd, Plain a := by
    intro a ha
    obtain ⟨entry, hentry, rfl⟩ := List.mem_map.mp ha
    exact h entry hentry
  exact csvBytes_plain converter _ _ (csvRows_returned entries) (plain_anonymousRows hplain)

end Text

/-! ## The mails -/

/-- In a run whose emails leave under `SoleWriter`, every mail is complete. -/
theorem mails_complete {converter : ListToCsvConverter} {path : String}
    {lists : Nat → List FeedbackForm} {disk : Disk} {es : List Event} {s : State}
    (hrun : (formController converter path lists).exec { disk := disk } es = some s)
    (hsole : (schedule path).Along SoleWriter {} es) : MailsComplete converter path lists s := by
  have halong := (formController converter path lists).along_map (schedule path)
    (control_step converter path lists) (s := { disk := disk }) hsole
  have halways := (formController converter path lists).always_of_along
    (P := MailsComplete converter path lists) (invariants_step (disk (attendanceCsv path)))
    (fun _ _ _ hs h hsole hstep => complete_step hs.1 hs.2 h hsole hstep) es _
    ⟨consistent_start, follows_start disk⟩ (fun _ h => absurd h List.not_mem_nil) halong
  exact halways.last _ hrun

/-- **The lecturer is told how many and never who**: the `n`-th call of `getCsv` is given what
    `getFeedbackList` answers after the entries `entries n` have been posted.  In every order of
    calls, completions and emails in which each email finds a sole writer, every mail that leaves
    attaches a header and one line 'null,..' for each entry of a call that is due: no matric number
    that was posted is in it. -/
theorem report_names_nobody {σ : Type} (t : Interpolation) (sheet : KeepingSheet σ)
    (converter : ListToCsvConverter) (path : String) (entries : Nat → List (String × String))
    (hplain : ∀ n, ∀ entry ∈ entries n, Plain entry.2) (lists : Nat → List FeedbackForm)
    (hlists : ∀ n, getFeedbackList t sheet.toWeb
      (submitAll sheet.toWeb ((entries n).map .of) sheet.empty) = .ok (lists n))
    (disk : Disk) (es : List Event) (s : State)
    (hrun : (formController converter path lists).exec { disk := disk } es = some s)
    (hsole : (schedule path).Along SoleWriter {} es) :
    ∀ m ∈ s.mails, ∃ call, Due m.completed m.overlapped call ∧
      m.attachment = some (anonymousReport ((entries call).map Prod.snd)) := by
  intro m hm
  obtain ⟨-, call, hdue, hattachment⟩ := mails_complete hrun hsole m hm
  refine ⟨call, hdue, ?_⟩
  have hreturned : lists call = (entries call).map fun entry => .of ("null", entry.2) := by
    have hlist := hlists call
    rw [getFeedbackList_submitAll] at hlist
    exact (Except.ok.inj hlist).symm
  rw [hattachment, hreturned, csvBytes_returned converter (hplain call)]

/-- The file is written and closed, and then mailed. -/
def writtenAndMailed : List Event :=
  [.getCsv, .completes 0, .completes 0, .completes 0, .completes 0, .completes 0,
    .sendMailAndAttachment "2022-05-16", .sent 0]

/-- Two students are marked present, and the lecturer is mailed two lines 'null,1'. -/
theorem two_students_unnamed :
    ∃ s, (formController plainConverter "/files" fun _ => [.of ("null", "1"), .of ("null", "1")]
        ).exec { disk := fun _ => none } writtenAndMailed = some s ∧
      ∀ m ∈ s.mails, ∃ call, Due m.completed m.overlapped call ∧
        m.attachment = some (anonymousReport ["1", "1"]) := by
  refine ⟨_, rfl, ?_⟩
  refine report_names_nobody plainText plainSheet plainConverter "/files"
    (fun _ => [("17CK023456", "1"), ("17CK023457", "1")]) ?_
    (fun _ => [.of ("null", "1"), .of ("null", "1")]) (fun _ => rfl) (fun _ => none)
    writtenAndMailed _ rfl ?_
  · intro n
    decide
  · refine .cons _ rfl trivial (.cons _ rfl trivial (.cons _ rfl trivial (.cons _ rfl trivial ?_)))
    refine .cons _ rfl trivial (.cons _ rfl trivial (.cons _ rfl trivial (.cons _ rfl ?_ trivial)))
    exact ⟨0, ⟨List.mem_singleton_self 0, fun _ => rfl⟩, rfl⟩

end AttendanceApp.AttendanceFile
