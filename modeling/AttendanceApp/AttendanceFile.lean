/-
  The attendance file of FormController.

      getCsv:                 File f = await _localFile     -- sets filePath, then awaits create()
                              f.writeAsString(csv)          -- NOT awaited
      sendMailAndAttachment:  FlutterEmailSender.send(.. attachmentPath: filePath ..)

  `getCsv` returns while its `writeAsString` has yet to open (and so truncate), write and close the
  file, which are three steps of their own; all calls share one path; and `filePath` is set before
  the file exists.

  The code never reads the file, so what it does next does not depend on what is in it.  The model
  has two layers.  `Control` is the code's own state, and `schedule` its machine: calls, pending
  operations that complete in any order, emails on their way.  `formController` adds the disk, which
  the operations change as they complete, and the mails that have left (`control_step`).  A run is
  an order of events, and the list given to the `n`-th call of `getCsv` is `lists n`.

  The invariants: no call writes twice, and only after it has truncated the file (`Consistent`); and
  the file holds what has been written since it was last truncated (`Follows`).
-/
import AttendanceApp.AttendanceSheet
import AttendanceApp.SharedFile
import AttendanceApp.Transition
import Mathlib.Data.List.Nodup
import Mathlib.Logic.Function.Basic

namespace AttendanceApp.AttendanceFile

open AttendanceApp.Transition MarkAttendance SharedFile

/-! ## The code -/

/-- An `Email`.  Its recipients are one constant address, and left out. -/
structure Email where
  body : String
  subject : String
  isHTML : Bool
  attachmentPath : String
  deriving DecidableEq, Repr

/-- The operation whose completion a call of `getCsv` waits for. -/
inductive Phase where
  /-- `getApplicationSupportDirectory()`. -/
  | locating
  /-- `File.create()`. -/
  | creating
  /-- `getCsv` has returned; its `writeAsString` opens the file. -/
  | opening
  | writing
  | closing
  | closed
  /-- An exception has left `getCsv`. -/
  | threw
  /-- An exception has left `writeAsString`, whose future nobody awaits. -/
  | lost
  deriving DecidableEq, Repr

/-- `getCsv` has not returned yet. -/
def Phase.running : Phase → Bool
  | .locating | .creating => true
  | _ => false

/-- The call has not written to the file yet. -/
def Phase.yetToWrite : Phase → Bool
  | .locating | .creating | .opening | .writing => true
  | _ => false

/-- The operation throws. -/
def Phase.failed : Phase → Option Phase
  | .locating | .creating => some .threw
  | .opening | .writing | .closing => some .lost
  | .closed | .threw | .lost => none

/-- One FormController, and what is pending on it. -/
structure Control where
  /-- `late String filePath`. -/
  filePath : Option String := none
  /-- The calls of `getCsv`, in the order they are made. -/
  calls : List Phase := []
  /-- The emails handed to `FlutterEmailSender.send` that have not left. -/
  sending : List Email := []
  /-- History: the calls that have returned, in that order. -/
  completed : List Nat := []
  /-- History: a call has been made while another one was running. -/
  overlapped : Bool := false
  /-- History: the calls that have written to the file since one last truncated it. -/
  writers : Option (List Nat) := none
  deriving DecidableEq, Repr

/-- What can happen to a FormController: its methods are called, and what they await comes through.
    -/
inductive Event where
  | getCsv
  /-- The operation a call waits for completes. -/
  | completes (call : Nat)
  /-- It throws, and has changed nothing. -/
  | fails (call : Nat)
  /-- `now` is `DateTime.now().toString()`. -/
  | sendMailAndAttachment (now : String)
  /-- An email leaves, with what is in the attached file at this moment. -/
  | sent (index : Nat)
  | sendFails (index : Nat)

/-- `_localFile`: the file in the documents directory. -/
def attendanceCsv (path : String) : String := path ++ "/attendance.csv"

section Schedule

-- `path` is the `_localPath`
variable (path : String)

/-- What a call does when the operation it waits for completes. -/
def Control.resume (c : Control) (call : Nat) : Phase → Option Control
  | .locating =>
    some { c with filePath := some (attendanceCsv path), calls := c.calls.set call .creating }
  | .creating =>
    some { c with calls := c.calls.set call .opening, completed := c.completed ++ [call] }
  | .opening => some { c with calls := c.calls.set call .writing, writers := some [] }
  | .writing =>
    some
      { c with
        calls := c.calls.set call .closing
        writers := c.writers.map fun ws => ws ++ [call] }
  | .closing => some { c with calls := c.calls.set call .closed }
  | .closed | .threw | .lost => none

/-- The email of `sendMailAndAttachment`. -/
def email (now filePath : String) : Email where
  body := "Good Day Sir, the  attendance it!"
  subject := "Attendance Entry for " ++ now
  isHTML := true
  attachmentPath := filePath

/-- One event, as far as the code is concerned: the disk and the mails follow it. -/
def Control.step (c : Control) : Event → Option Control
  | .getCsv =>
    some
      { c with
        calls := c.calls ++ [.locating]
        overlapped := c.overlapped || c.calls.any Phase.running }
  | .completes call => c.calls[call]?.bind (c.resume path call)
  | .fails call =>
    (c.calls[call]?.bind Phase.failed).map fun phase =>
      { c with calls := c.calls.set call phase }
  | .sendMailAndAttachment now =>
    -- a `filePath` that is not set yet throws a LateInitializationError, and nothing is sent
    some { c with sending := c.sending ++ (c.filePath.map (email now)).toList }
  | .sent index | .sendFails index =>
    if index < c.sending.length then some { c with sending := c.sending.eraseIdx index } else none

/-- The code of one FormController: calls of both methods, and completions, in any order. -/
def schedule : Machine Control Event := ⟨Control.step path⟩

end Schedule

/-! ## The disk -/

/-- `const ListToCsvConverter()`: on fields of letters, digits and spaces it prints the rows line by
    line, with commas between the fields.  How it quotes other fields is left open. -/
structure ListToCsvConverter where
  convert : List (List (Option String)) → String
  convert_plain : ∀ rows : List (List String),
    (∀ row ∈ rows, ∀ field ∈ row, field.toList.all (fun c => c.isAlphanum || c == ' ') = true) →
    convert (rows.map fun row => row.map some) =
      "\r\n".intercalate (rows.map fun row => ",".intercalate row)

/-- The files, by path. -/
abbrev Disk := String → Option (List UInt8)

/-- A mail that has left, and what had become of the calls by then. -/
structure Mailed where
  email : Email
  attachment : Option (List UInt8)
  completed : List Nat
  overlapped : Bool

/-- The code, with the disk it writes to and the mails that have left. -/
structure State where
  control : Control := {}
  disk : Disk
  mails : List Mailed := []

section Runs

variable (converter : ListToCsvConverter) (path : String) (lists : Nat → List FeedbackForm)

/-- The bytes of the CSV text of a list. -/
def csvBytes (feedbackList : List FeedbackForm) : List UInt8 :=
  (converter.convert (csvRows feedbackList)).toUTF8.data.toList

/-- What the operation of a call has done to the disk when it completes. -/
def effect (disk : Disk) (call : Nat) : Phase → Disk
  | .creating =>
    Function.update disk (attendanceCsv path) (some ((disk (attendanceCsv path)).getD []))
  | .opening => Function.update disk (attendanceCsv path) (some [])
  | .writing =>
    Function.update disk (attendanceCsv path)
      ((disk (attendanceCsv path)).map fun old => overwrite old (csvBytes converter (lists call)))
  | _ => disk

/-- An operation on the file takes effect when it completes; one that throws leaves the disk alone.
    -/
def State.diskAfter (s : State) : Event → Disk
  | .completes call =>
    match s.control.calls[call]? with
    | some phase => effect converter path lists s.disk call phase
    | none => s.disk
  | _ => s.disk

/-- A mail that leaves reads its attachment from the disk at that moment. -/
def State.mailsAfter (s : State) : Event → List Mailed
  | .sent index =>
    match s.control.sending[index]? with
    | some email =>
      s.mails ++
        [⟨email, s.disk email.attachmentPath, s.control.completed, s.control.overlapped⟩]
    | none => s.mails
  | _ => s.mails

/-- One event of the whole; it can happen when the code can take it. -/
def State.step (s : State) (e : Event) : Option State :=
  (s.control.step path e).map fun control =>
    { control, disk := s.diskAfter converter path lists e, mails := s.mailsAfter e }

/-- One FormController with its disk. -/
def formController : Machine State Event := ⟨State.step converter path lists⟩

/-- **The code runs by itself**: what it does does not depend on the disk. -/
theorem control_step (s : State) (e : Event) :
    ((formController converter path lists).step s e).map State.control =
      (schedule path).step s.control e := by
  show ((s.control.step path e).map _).map State.control = s.control.step path e
  cases s.control.step path e with
  | none => rfl
  | some control => rfl

end Runs

/-! ## What a step does -/

section Steps

variable {path : String}

variable (path) in
/-- The ways a step of the code can go. -/
inductive Step (c : Control) : Event → Control → Prop
  | getCsv :
      Step c .getCsv
        { c with
          calls := c.calls ++ [.locating]
          overlapped := c.overlapped || c.calls.any Phase.running }
  | located (call : Nat) (hphase : c.calls[call]? = some .locating) :
      Step c (.completes call)
        { c with filePath := some (attendanceCsv path), calls := c.calls.set call .creating }
  | created (call : Nat) (hphase : c.calls[call]? = some .creating) :
      Step c (.completes call)
        { c with calls := c.calls.set call .opening, completed := c.completed ++ [call] }
  | opened (call : Nat) (hphase : c.calls[call]? = some .opening) :
      Step c (.completes call)
        { c with calls := c.calls.set call .writing, writers := some [] }
  | written (call : Nat) (hphase : c.calls[call]? = some .writing) :
      Step c (.completes call)
        { c with
          calls := c.calls.set call .closing
          writers := c.writers.map fun ws => ws ++ [call] }
  | closed (call : Nat) (hphase : c.calls[call]? = some .closing) :
      Step c (.completes call) { c with calls := c.calls.set call .closed }
  | fails (call : Nat) (phase phase' : Phase) (hphase : c.calls[call]? = some phase)
      (hfailed : phase.failed = some phase') :
      Step c (.fails call) { c with calls := c.calls.set call phase' }
  | sendMailAndAttachment (now : String) :
      Step c (.sendMailAndAttachment now)
        { c with sending := c.sending ++ (c.filePath.map (email now)).toList }
  | sent (index : Nat) (hindex : index < c.sending.length) :
      Step c (.sent index) { c with sending := c.sending.eraseIdx index }
  | sendFails (index : Nat) (hindex : index < c.sending.length) :
      Step c (.sendFails index) { c with sending := c.sending.eraseIdx index }

theorem step_cases {c c' : Control} {e : Event} (h : (schedule path).step c e = some c') :
    Step path c e c' := by
  cases e with
  | getCsv =>
    obtain rfl := Option.some.inj h
    exact .getCsv
  | completes call =>
    obtain ⟨phase, hphase, hresume⟩ := Option.bind_eq_some_iff.mp h
    cases phase with
    | locating =>
      obtain rfl := Option.some.inj hresume
      exact .located call hphase
    | creating =>
      obtain rfl := Option.some.inj hresume
      exact .created call hphase
    | opening =>
      obtain rfl := Option.some.inj hresume
      exact .opened call hphase
    | writing =>
      obtain rfl := Option.some.inj hresume
      exact .written call hphase
    | closing =>
      obtain rfl := Option.some.inj hresume
      exact .closed call hphase
    | closed => cases hresume
    | threw => cases hresume
    | lost => cases hresume
  | fails call =>
    obtain ⟨phase', hfails, rfl⟩ := Option.map_eq_some_iff.mp h
    obtain ⟨phase, hphase, hfailed⟩ := Option.bind_eq_some_iff.mp hfails
    exact .fails call phase phase' hphase hfailed
  | sendMailAndAttachment now =>
    obtain rfl := Option.some.inj h
    exact .sendMailAndAttachment now
  | sent index =>
    obtain ⟨hindex, rfl⟩ := guarded_eq_some.mp h
    exact .sent index hindex
  | sendFails index =>
    obtain ⟨hindex, rfl⟩ := guarded_eq_some.mp h
    exact .sendFails index hindex

/-- A call that has been made, and will not write any more. -/
def Wrote (calls : List Phase) (call : Nat) : Prop :=
  ∃ phase, calls[call]? = some phase ∧ phase.yetToWrite = false

theorem Wrote.concat {calls : List Phase} {call : Nat} (h : Wrote calls call) (phase : Phase) :
    Wrote (calls ++ [phase]) call := by
  obtain ⟨own, hown, hwrote⟩ := h
  have hlt : call < calls.length := (List.getElem?_eq_some_iff.mp hown).1
  exact ⟨own, by rw [List.getElem?_append_left hlt, hown], hwrote⟩

/-- It stays so when some call goes on to its next phase. -/
theorem Wrote.set {calls : List Phase} {call other : Nat} {phase phase' : Phase}
    (h : Wrote calls call) (hphase : calls[other]? = some phase)
    (hkeep : phase.yetToWrite = false → phase'.yetToWrite = false) :
    Wrote (calls.set other phase') call := by
  obtain ⟨own, hown, hwrote⟩ := h
  by_cases hsame : other = call
  · subst hsame
    obtain rfl := Option.some.inj (hown.symm.trans hphase)
    have hlt : other < calls.length := (List.getElem?_eq_some_iff.mp hown).1
    exact ⟨phase', List.getElem?_set_self hlt, hkeep hwrote⟩
  · exact ⟨own, by rw [List.getElem?_set_ne hsame, hown], hwrote⟩

/-- A call that has failed does not write any more. -/
theorem failed_stops {phase phase' : Phase} (h : phase.failed = some phase') :
    phase'.yetToWrite = false := by
  cases phase <;> cases h <;> rfl

/-- A call that is about to write was so before, if another one has gone on to a phase that is not
    the writing. -/
theorem writing_of_set {calls : List Phase} {call other : Nat} {phase : Phase}
    (hphase : phase ≠ .writing) (h : (calls.set other phase)[call]? = some Phase.writing) :
    calls[call]? = some Phase.writing := by
  by_cases hsame : other = call
  · subst hsame
    have hlt : other < (calls.set other phase).length := (List.getElem?_eq_some_iff.mp h).1
    rw [List.length_set] at hlt
    rw [List.getElem?_set_self hlt] at h
    exact absurd (Option.some.inj h) hphase
  · rwa [List.getElem?_set_ne hsame] at h

variable (path) in
/-- The invariant of the code: there is one path, a call that is about to write has truncated the
    file, and no call writes twice. -/
structure Consistent (c : Control) : Prop where
  filePath : ∀ p, c.filePath = some p → p = attendanceCsv path
  sending : ∀ m ∈ c.sending, m.attachmentPath = attendanceCsv path
  opened : ∀ call : Nat, c.calls[call]? = some Phase.writing → c.writers ≠ none
  wrote : ∀ ws, c.writers = some ws → ∀ call ∈ ws, Wrote c.calls call
  once : ∀ ws, c.writers = some ws → ws.Nodup

theorem Consistent.wrote_set {c : Control} (h : Consistent path c) {call : Nat}
    {phase phase' : Phase} (hphase : c.calls[call]? = some phase)
    (hkeep : phase.yetToWrite = false → phase'.yetToWrite = false) :
    ∀ ws, c.writers = some ws → ∀ v ∈ ws, Wrote (c.calls.set call phase') v :=
  fun ws hws v hv => (h.wrote ws hws v hv).set hphase hkeep

/-- **The step lemma** of the code. -/
theorem consistent_step (c : Control) (e : Event) (c' : Control) (h : Consistent path c)
    (hstep : (schedule path).step c e = some c') : Consistent path c' := by
  -- a call that goes on, but not to the writing
  have hgoes : ∀ {call : Nat} {phase' : Phase}, phase' ≠ .writing → ∀ v : Nat,
      (c.calls.set call phase')[v]? = some Phase.writing → c.writers ≠ none :=
    fun hne v hv => h.opened v (writing_of_set hne hv)
  cases step_cases hstep with
  | getCsv =>
    refine ⟨h.filePath, h.sending, fun v hv => h.opened v ?_, fun ws hws v hv => ?_, h.once⟩
    · by_cases hlt : v < c.calls.length
      · rwa [List.getElem?_append_left hlt] at hv
      · -- the new call starts by locating
        rw [List.getElem?_append_right (Nat.le_of_not_lt hlt), List.getElem?_singleton] at hv
        split at hv <;> cases hv
    · exact (h.wrote ws hws v hv).concat _
  | located call hphase =>
    exact ⟨fun p hp => (Option.some.inj hp).symm, h.sending, hgoes (by decide),
      h.wrote_set hphase (by decide), h.once⟩
  | created call hphase =>
    exact ⟨h.filePath, h.sending, hgoes (by decide), h.wrote_set hphase (by decide), h.once⟩
  | opened call hphase =>
    refine ⟨h.filePath, h.sending, fun _ _ => Option.some_ne_none _, fun ws hws v hv => ?_,
      fun ws hws => ?_⟩
    · obtain rfl := Option.some.inj hws
      exact absurd hv List.not_mem_nil
    · obtain rfl := Option.some.inj hws
      exact List.nodup_nil
  | written call hphase =>
    have hlt : call < c.calls.length := (List.getElem?_eq_some_iff.mp hphase).1
    refine ⟨h.filePath, h.sending, fun v hv => ?_, fun ws hws v hv => ?_, fun ws hws => ?_⟩
    · exact fun hnone => h.opened call hphase (Option.map_eq_none_iff.mp hnone)
    · obtain ⟨earlier, hearlier, rfl⟩ := Option.map_eq_some_iff.mp hws
      rcases List.mem_append.mp hv with hv | hv
      · exact h.wrote_set hphase (by decide) earlier hearlier v hv
      · rw [List.mem_singleton.mp hv]
        exact ⟨.closing, List.getElem?_set_self hlt, rfl⟩
    · -- the writer has not written before: it was about to write
      obtain ⟨earlier, hearlier, rfl⟩ := Option.map_eq_some_iff.mp hws
      have hfresh : call ∉ earlier := by
        intro hmem
        obtain ⟨phase, hown, hwrote⟩ := h.wrote earlier hearlier call hmem
        obtain rfl := Option.some.inj (hown.symm.trans hphase)
        cases hwrote
      rw [← List.concat_eq_append]
      exact (h.once earlier hearlier).concat hfresh
  | closed call hphase =>
    exact ⟨h.filePath, h.sending, hgoes (by decide), h.wrote_set hphase (by decide), h.once⟩
  | fails call phase phase' hphase hfailed =>
    have hstops := failed_stops hfailed
    have hne : phase' ≠ .writing := by
      rintro rfl
      cases hstops
    exact ⟨h.filePath, h.sending, hgoes hne, h.wrote_set hphase fun _ => hstops, h.once⟩
  | sendMailAndAttachment now =>
    refine ⟨h.filePath, fun m hm => ?_, h.opened, h.wrote, h.once⟩
    rcases List.mem_append.mp hm with hm | hm
    · exact h.sending m hm
    · obtain ⟨p, hp, rfl⟩ := Option.map_eq_some_iff.mp (Option.mem_toList.mp hm)
      exact h.filePath p hp
  | sent index hindex =>
    exact ⟨h.filePath, fun m hm => h.sending m (List.mem_of_mem_eraseIdx hm), h.opened, h.wrote,
      h.once⟩
  | sendFails index hindex =>
    exact ⟨h.filePath, fun m hm => h.sending m (List.mem_of_mem_eraseIdx hm), h.opened, h.wrote,
      h.once⟩

end Steps

/-! ## What is in the file -/

section File

variable {converter : ListToCsvConverter} {path : String} {lists : Nat → List FeedbackForm}

/-- A step of the whole is a step of the code, and the disk and the mails follow. -/
theorem formController_step {s s' : State} {e : Event}
    (h : (formController converter path lists).step s e = some s') :
    Step path s.control e s'.control ∧ s'.disk = s.diskAfter converter path lists e ∧
      s'.mails = s.mailsAfter e := by
  obtain ⟨control, hcontrol, rfl⟩ := Option.map_eq_some_iff.mp h
  exact ⟨step_cases hcontrol, rfl, rfl⟩

theorem diskAfter_completes {s : State} {call : Nat} {phase : Phase}
    (hphase : s.control.calls[call]? = some phase) :
    s.diskAfter converter path lists (.completes call) =
      effect converter path lists s.disk call phase := by
  simp only [State.diskAfter, hphase]

variable (converter path lists) in
/-- The invariant of the file, in which `before` was found: it is as it was, except that it may have
    been created, until a call truncates it; and from then on it holds what has been written since
    it was last truncated. -/
structure Follows (before : Option (List UInt8)) (s : State) : Prop where
  untouched : s.control.writers = none →
    s.disk (attendanceCsv path) = before ∨ s.disk (attendanceCsv path) = some (before.getD [])
  rewritten : ∀ ws, s.control.writers = some ws →
    s.disk (attendanceCsv path) = some (contents (fun call => csvBytes converter (lists call)) ws)

theorem Follows.same {before : Option (List UInt8)} {s s' : State}
    (h : Follows converter path lists before s) (hwriters : s'.control.writers = s.control.writers)
    (hdisk : s'.disk = s.disk) : Follows converter path lists before s' := by
  constructor
  · rw [hwriters, hdisk]
    exact h.untouched
  · rw [hwriters, hdisk]
    exact h.rewritten

/-- A file that was not there, and that no call has truncated, is empty. -/
theorem Follows.empty {s : State} (h : Follows converter path lists none s)
    (hwriters : s.control.writers = none) {text : List UInt8}
    (htext : s.disk (attendanceCsv path) = some text) : text = [] := by
  rcases h.untouched hwriters with hnone | hempty
  · cases hnone.symm.trans htext
  · exact (Option.some.inj (hempty.symm.trans htext)).symm

/-- **The step lemma** of the file. -/
theorem follows_step (before : Option (List UInt8)) (s : State) (e : Event) (s' : State)
    (hcode : Consistent path s.control) (h : Follows converter path lists before s)
    (hstep : (formController converter path lists).step s e = some s') :
    Follows converter path lists before s' := by
  obtain ⟨hcontrol, hdisk, -⟩ := formController_step hstep
  generalize hc : s'.control = c' at hcontrol
  cases hcontrol with
  | getCsv => exact h.same (by rw [hc]) hdisk
  | located call hphase =>
    rw [diskAfter_completes hphase] at hdisk
    exact h.same (by rw [hc]) hdisk
  | created call hphase =>
    rw [diskAfter_completes hphase] at hdisk
    have hfile : s'.disk (attendanceCsv path) = some ((s.disk (attendanceCsv path)).getD []) := by
      rw [hdisk, effect, Function.update_self]
    constructor
    · rw [hc, hfile]
      intro hnone
      rcases h.untouched hnone with hbefore | hbefore
      · rw [hbefore]
        exact Or.inr rfl
      · rw [hbefore]
        exact Or.inr rfl
    · rw [hc, hfile]
      intro ws hws
      rw [h.rewritten ws hws]
      rfl
  | opened call hphase =>
    rw [diskAfter_completes hphase] at hdisk
    constructor
    · rw [hc]
      exact fun hnone => by cases hnone
    · rw [hc, hdisk, effect, Function.update_self]
      intro ws hws
      obtain rfl := Option.some.inj hws
      rfl
  | written call hphase =>
    rw [diskAfter_completes hphase] at hdisk
    have hfile : s'.disk (attendanceCsv path) = (s.disk (attendanceCsv path)).map
        fun old => overwrite old (csvBytes converter (lists call)) := by
      rw [hdisk, effect, Function.update_self]
    constructor
    · rw [hc]
      exact fun hnone => absurd (Option.map_eq_none_iff.mp hnone) (hcode.opened call hphase)
    · rw [hc, hfile]
      intro ws hws
      obtain ⟨earlier, hearlier, rfl⟩ := Option.map_eq_some_iff.mp hws
      rw [h.rewritten earlier hearlier, contents_concat]
      rfl
  | closed call hphase =>
    rw [diskAfter_completes hphase] at hdisk
    exact h.same (by rw [hc]) hdisk
  | fails call phase phase' hphase hfailed => exact h.same (by rw [hc]) hdisk
  | sendMailAndAttachment now => exact h.same (by rw [hc]) hdisk
  | sent index hindex => exact h.same (by rw [hc]) hdisk
  | sendFails index hindex => exact h.same (by rw [hc]) hdisk

theorem consistent_start : Consistent path {} where
  filePath _ h := by cases h
  sending _ h := absurd h List.not_mem_nil
  opened _ h := by cases h
  wrote _ h := by cases h
  once _ h := by cases h

/-- Before the first write the file is what it was. -/
theorem follows_start (disk : Disk) :
    Follows converter path lists (disk (attendanceCsv path)) { disk := disk } where
  untouched _ := Or.inl rfl
  rewritten _ h := by cases h

/-- Both invariants together. -/
theorem invariants_step (before : Option (List UInt8)) (s : State) (e : Event) (s' : State)
    (h : Consistent path s.control ∧ Follows converter path lists before s)
    (hstep : (formController converter path lists).step s e = some s') :
    Consistent path s'.control ∧ Follows converter path lists before s' := by
  obtain ⟨hcode, hfile⟩ := h
  have hnext := (formController converter path lists).step_of_map (schedule path)
    (control_step converter path lists) hstep
  exact ⟨consistent_step _ e _ hcode hnext, follows_step before s e s' hcode hfile hstep⟩

variable (converter lists) in
/-- The code's run lifts to the disk. -/
theorem exec_lift (disk : Disk) {es : List Event} {c : Control}
    (hrun : (schedule path).exec {} es = some c) :
    ∃ s, (formController converter path lists).exec { disk := disk } es = some s ∧
      s.control = c := by
  have hmap := (formController converter path lists).exec_map (schedule path)
    (control_step converter path lists) { disk := disk } es
  exact Option.map_eq_some_iff.mp (hmap.trans hrun)

end File
end AttendanceApp.AttendanceFile
