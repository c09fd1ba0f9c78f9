/-
  The emails that the attendance file is attached to.

  A mail is complete when attendance.csv holds, as it leaves, exactly the CSV text of the list of a
  `getCsv` call that has completed: the latest one, unless calls have overlapped.  `getCsv` does not
  wait for its own `writeAsString`, so the mail that follows an awaited `getCsv` can carry the empty
  file that `create()` has made (`empty_file_mailed`), the text of an older list, or one text with
  the tail of a longer one behind it.

  `always_complete_iff` is the exact rule.  It is about an order of events and all lists at once:
  for single lists two writes can come out right by accident.
-/
import AttendanceApp.AttendanceFile

namespace AttendanceApp.AttendanceFile

open AttendanceApp.Transition MarkAttendance SharedFile

/-! ## Complete mails -/

section Mails

variable {converter : ListToCsvConverter} {path : String} {lists : Nat → List FeedbackForm}

/-- A call whose text a mail may carry: it has completed, and is the latest to have done so unless
    calls have overlapped. -/
def Due (completed : List Nat) (overlapped : Bool) (call : Nat) : Prop :=
  call ∈ completed ∧ (overlapped = false → completed.getLast? = some call)

variable (converter path lists) in
/-- **A complete mail** attaches attendance.csv, with exactly the CSV text of the list of a call
    that is due. -/
def Mailed.Complete (m : Mailed) : Prop :=
  m.email.attachmentPath = attendanceCsv path ∧
    ∃ call, Due m.completed m.overlapped call ∧
      m.attachment = some (csvBytes converter (lists call))

variable (converter path lists) in
/-- The property of a run: all mails that have left are complete. -/
def MailsComplete (s : State) : Prop := ∀ m ∈ s.mails, m.Complete converter path lists

variable (converter path) in
/-- In this order of events every mail is complete, whatever the lists and whatever the disk held
    before. -/
def AlwaysComplete (es : List Event) : Prop :=
  ∀ lists disk, (formController converter path lists).Always (MailsComplete converter path lists)
    { disk := disk } es

/-- An email leaves only when a single call has written to the file since it was last truncated, and
    this call is due. -/
def SoleWriter (c : Control) : Event → Prop
  | .sent _ => ∃ call, Due c.completed c.overlapped call ∧ c.writers = some [call]
  | _ => True

theorem mailsAfter_sent {s : State} {index : Nat} (hindex : index < s.control.sending.length) :
    s.mailsAfter (.sent index) = s.mails ++
      [⟨s.control.sending[index], s.disk s.control.sending[index].attachmentPath,
        s.control.completed, s.control.overlapped⟩] := by
  simp only [State.mailsAfter, List.getElem?_eq_getElem hindex]

/-- **What a mail carries** is decided by the file when it leaves. -/
theorem sent_complete_iff {s s' : State} {index : Nat} (hcode : Consistent path s.control)
    (h : MailsComplete converter path lists s)
    (hstep : (formController converter path lists).step s (.sent index) = some s') :
    MailsComplete converter path lists s' ↔
      ∃ call, Due s.control.completed s.control.overlapped call ∧
        s.disk (attendanceCsv path) = some (csvBytes converter (lists call)) := by
  obtain ⟨hcontrol, -, hmails⟩ := formController_step hstep
  generalize s'.control = c' at hcontrol
  cases hcontrol with
  | sent _ hindex =>
    have hpath := hcode.sending _ (List.getElem_mem hindex)
    unfold MailsComplete
    rw [hmails, mailsAfter_sent hindex, List.forall_mem_append, List.forall_mem_singleton]
    refine (and_iff_right h).trans ?_
    unfold Mailed.Complete
    simp only [hpath, true_and]

/-- **The step lemma**: a mail that leaves while one call alone is writing is complete. -/
theorem complete_step {before : Option (List UInt8)} {s s' : State} {e : Event}
    (hcode : Consistent path s.control) (hfile : Follows converter path lists before s)
    (h : MailsComplete converter path lists s) (hsole : SoleWriter s.control e)
    (hstep : (formController converter path lists).step s e = some s') :
    MailsComplete converter path lists s' := by
  cases e with
  | sent index =>
    obtain ⟨call, hdue, hwriters⟩ := hsole
    refine (sent_complete_iff hcode h hstep).mpr ⟨call, hdue, ?_⟩
    rw [hfile.rewritten [call] hwriters, contents_singleton]
  | _ =>
    obtain ⟨-, -, hmails⟩ := formController_step hstep
    unfold MailsComplete
    rw [hmails]
    exact h

/-- At a sending of an order of events that is always complete, the file holds the text of a call
    that is due. -/
theorem held_at_sending {es pre post : List Event} {index : Nat} {c m : Control}
    (h : AlwaysComplete converter path es) (hrun : (schedule path).exec {} es = some c)
    (hsplit : es = pre ++ .sent index :: post) (hpre : (schedule path).exec {} pre = some m)
    (lists : Nat → List FeedbackForm) (disk : Disk) :
    ∃ s, s.control = m ∧ Consistent path s.control ∧
      Follows converter path lists (disk (attendanceCsv path)) s ∧
      ∃ call, Due m.completed m.overlapped call ∧
        s.disk (attendanceCsv path) = some (csvBytes converter (lists call)) := by
  obtain ⟨t, ht, -⟩ := exec_lift converter lists disk hrun
  obtain ⟨s, hs, rfl⟩ := exec_lift converter lists disk hpre
  obtain ⟨hcode, hfile⟩ := (formController converter path lists).exec_invariant
    (invariants_step _) pre _ s ⟨consistent_start, follows_start disk⟩ hs
  have halways := (Machine.always_iff_prefix (formController converter path lists) ht).mp
    (h lists disk)
  have hbefore := halways pre (.sent index :: post) s hsplit hs
  -- the run goes on after the sending, so the sending can be taken
  have hrest := ht
  rw [hsplit, (formController converter path lists).exec_append, hs, Option.bind_some] at hrest
  obtain ⟨s', hstep, -⟩ := (formController converter path lists).exec_cons_some.mp hrest
  have hsent : (formController converter path lists).exec { disk := disk } (pre ++ [.sent index]) =
      some s' := (formController converter path lists).exec_concat_some.mpr ⟨s, hs, hstep⟩
  have hafter := halways (pre ++ [.sent index]) post s' (by rw [hsplit, List.append_cons]) hsent
  exact ⟨s, rfl, hcode, hfile, (sent_complete_iff hcode hbefore hstep).mp hafter⟩

end Mails

/-! ## When mails are complete -/

section Exact

variable (converter : ListToCsvConverter) (path : String)

/-- A list of one row, the last one of `longList`. -/
def shortList : List FeedbackForm := [.of ("17CK023457", "1")]

/-- A list whose text is longer than that of `shortList`, and does not begin with it. -/
def longList : List FeedbackForm := [.of ("17CK023456", "1"), .of ("17CK023457", "1")]

/-- The text of plain fields does not depend on how others are quoted. -/
theorem csvBytes_plain (feedbackList : List FeedbackForm) (rows : List (List String))
    (hrows : csvRows feedbackList = rows.map fun row => row.map some)
    (hplain : ∀ row ∈ rows, ∀ field ∈ row,
      field.toList.all (fun c => c.isAlphanum || c == ' ') = true) :
    csvBytes converter feedbackList =
      ("\r\n".intercalate (rows.map fun row => ",".intercalate row)).toUTF8.data.toList := by
  rw [csvBytes, hrows, converter.convert_plain rows hplain]

theorem csvBytes_short : csvBytes converter shortList =
    "Matric No,Attendance\r\n17CK023457,1".toUTF8.data.toList := by
  rw [csvBytes_plain converter shortList [["Matric No", "Attendance"], ["17CK023457", "1"]] rfl
    (by decide +kernel)]
  decide +kernel

theorem csvBytes_long : csvBytes converter longList =
    "Matric No,Attendance\r\n17CK023456,1\r\n17CK023457,1".toUTF8.data.toList := by
  rw [csvBytes_plain converter longList
    [["Matric No", "Attendance"], ["17CK023456", "1"], ["17CK023457", "1"]] rfl (by decide +kernel)]
  decide +kernel

theorem length_short_lt_long :
    (csvBytes converter shortList).length < (csvBytes converter longList).length := by
  rw [csvBytes_short, csvBytes_long]
  decide +kernel

/-- So the longer text shows behind the shorter one, and neither is the file. -/
theorem short_not_prefix_long : ¬ csvBytes converter shortList <+: csvBytes converter longList := by
  rw [csvBytes_short, csvBytes_long, ← List.isPrefixOf_iff_prefix]
  decide +kernel

/-- **What a sending needs**: on a disk without the file, the lists of the calls can be chosen so
    that every mail but that of a sole writer is incomplete. -/
theorem sole_writer_at_sending {es pre post : List Event} {index : Nat} {c m : Control}
    (h : AlwaysComplete converter path es) (hrun : (schedule path).exec {} es = some c)
    (hsplit : es = pre ++ .sent index :: post) (hpre : (schedule path).exec {} pre = some m) :
    SoleWriter m (.sent index) := by
  have hheld := fun lists => held_at_sending h hrun hsplit hpre lists fun _ => none
  cases hwriters : m.writers with
  | none =>
    obtain ⟨s, rfl, -, hfile, _, -, htext⟩ := hheld fun _ => shortList
    have hnil : csvBytes converter shortList = [] := hfile.empty hwriters htext
    exact absurd (hnil ▸ List.nil_prefix) (short_not_prefix_long converter)
  | some ws =>
    have honce : ws.Nodup := by
      obtain ⟨s, rfl, hcode, -⟩ := hheld fun _ => shortList
      exact hcode.once ws hwriters
    have hall : ∀ lists : Nat → List FeedbackForm, ∃ call,
        Due m.completed m.overlapped call ∧
        contents (fun v => csvBytes converter (lists v)) ws = csvBytes converter (lists call) := by
      intro lists
      obtain ⟨s, rfl, -, hfile, call, hdue, htext⟩ := hheld lists
      rw [hfile.rewritten ws hwriters] at htext
      exact ⟨call, hdue, Option.some.inj htext⟩
    obtain ⟨call, hdue, rfl⟩ := (sole_writer_iff (length_short_lt_long converter)
      (short_not_prefix_long converter) honce).mp hall
    exact ⟨call, hdue, hwriters⟩

/-- **When every mail is complete**: in a given order of events, whatever the lists and whatever the
    disk held before, exactly when every email that leaves finds a single call to have written to
    the file since it was last truncated, and this call due. -/
theorem always_complete_iff (es : List Event) (c : Control)
    (hrun : (schedule path).exec {} es = some c) :
    AlwaysComplete converter path es ↔ (schedule path).Along SoleWriter {} es := by
  constructor
  · intro h
    rw [(schedule path).along_iff_split hrun]
    intro pre e post m hsplit hpre
    cases e with
    | sent index => exact sole_writer_at_sending converter path h hrun hsplit hpre
    | _ => trivial
  · intro halong lists disk
    have hsole := (formController converter path lists).along_map (schedule path)
      (control_step converter path lists) (s := { disk := disk }) halong
    refine (formController converter path lists).always_of_along
      (invariants_step (disk (attendanceCsv path))) (fun s e s' hs h hsole hstep => ?_) es _
      ⟨consistent_start, follows_start disk⟩ (fun _ h => absurd h List.not_mem_nil) hsole
    exact complete_step hs.1 hs.2 h hsole hstep

end Exact

/-- A converter that quotes nothing. -/
def plainConverter : ListToCsvConverter where
  convert rows :=
    "\r\n".intercalate (rows.map fun row => ",".intercalate (row.map fun f => f.getD "null"))
  convert_plain rows _ := by
    have hrow : ∀ row : List String, (row.map some).map (fun f => f.getD "null") = row := by
      intro row
      rw [List.map_map]
      exact List.map_id row
    rw [List.map_map]
    simp only [Function.comp_def, hrow]

/-- A mail that leaves after the file has been written and closed. -/
theorem closed_file_mailed : AlwaysComplete plainConverter "/files"
    [.getCsv, .completes 0, .completes 0, .completes 0, .completes 0, .completes 0,
      .sendMailAndAttachment "2022-05-16", .sent 0] := by
  refine (always_complete_iff plainConverter "/files" _ _ rfl).mpr ?_
  refine .cons _ rfl trivial (.cons _ rfl trivial (.cons _ rfl trivial (.cons _ rfl trivial ?_)))
  refine .cons _ rfl trivial (.cons _ rfl trivial (.cons _ rfl trivial (.cons _ rfl ?_ trivial)))
  exact ⟨0, ⟨List.mem_singleton_self 0, fun _ => rfl⟩, rfl⟩

/-- `await getCsv(..)`, and then `sendMailAndAttachment()`: the mail can carry an empty file. -/
theorem empty_file_mailed :
    ¬ ∀ converter path es, AlwaysComplete converter path es := by
  intro h
  have hmails := h plainConverter "/files"
    [.getCsv, .completes 0, .completes 0, .sendMailAndAttachment "2022-05-16", .sent 0]
  have hrun : (schedule "/files").exec {}
      [.getCsv, .completes 0, .completes 0, .sendMailAndAttachment "2022-05-16", .sent 0] =
      some _ := rfl
  have hpre : (schedule "/files").exec {}
      [.getCsv, .completes 0, .completes 0, .sendMailAndAttachment "2022-05-16"] = some _ := rfl
  obtain ⟨s, hs, -, hfile, _, -, htext⟩ :=
    held_at_sending hmails hrun rfl hpre (fun _ => shortList) fun _ => none
  have hempty := hfile.empty (by rw [hs]) htext
  rw [csvBytes_short] at hempty
  exact absurd hempty (by decide +kernel)

end AttendanceApp.AttendanceFile
