/-
  The CSV archive (`storage/src/csv_sink.rs`, and `Archiver` in `daemon/src/main.rs`).

  One file for each slot and day.  `append` makes the directory, asks whether the file exists, opens it
  for appending, writes the header line if it did not exist, and then the row.  Each of these calls may
  fail; the sink's caller logs the error and goes on, so the next call finds the files as they were left.

  Whether the header is written is decided by whether the file existed, and an error of that check counts
  as no.  Neither says what is in the file: a call that fails behind the open leaves a file that exists and
  has no header.
-/
import HassSma.Lib.Fallible
import HassSma.Lib.History
import HassSma.Lib.Lines
import Mathlib.Logic.Function.Basic

namespace HassSma

open Fallible

/-! ## Texts -/

/-- The bytes of a text. -/
def utf8 (s : String) : List UInt8 := s.toByteArray.data.toList

/-- `{:0width}` -/
def zeroPadded (width : Nat) (n : Int) : String :=
  let digits := toString n.natAbs
  let sign := if n < 0 then "-" else ""
  sign ++ String.ofList (List.replicate (width - (sign ++ digits).length) '0') ++ digits

/-- `Path::join` -/
def joinPath (root name : String) : String :=
  if name.toList.head? = some '/' then name
  else if root = "" ∨ root.toList.getLast? = some '/' then root ++ name
  else root ++ "/" ++ name

/-! ## Files -/

/-- What is in the files, by their paths. -/
abbrev Files := String → Option (List UInt8)

inductive StorageError where
  | io (errno : Nat)
  deriving DecidableEq, Repr

/-- How a `write_all` ends: all is written, or it fails with some of the bytes written. -/
inductive WriteAll where
  | done
  | failed (errno written : Nat)
  deriving DecidableEq, Repr

/-- How the calls of one `append` end: the errno they fail with, if they do. -/
structure Outcomes where
  createDirAll : Option Nat
  tryExists : Option Nat
  openFile : Option Nat
  writeHeader : WriteAll
  writeRow : WriteAll
  flush : Option Nat
  deriving DecidableEq, Repr

/-- Nothing fails. -/
def Outcomes.good : Outcomes := ⟨none, none, none, .done, .done, none⟩

/-- Work on the files that may fail, and keeps what it has done by then. -/
abbrev FileM := EStateM StorageError Files

/-- A call without an effect on the files. -/
def call : Option Nat → FileM Unit
  | none => pure ()
  | some errno => throw (.io errno)

def tryExists (path : String) : Option Nat → FileM (Except Nat Bool)
  | none => do pure (.ok ((← get) path).isSome)
  | some errno => pure (.error errno)

/-- `OpenOptions::new().create(true).append(true).open(path)` -/
def openAppend (path : String) (result : Option Nat) : FileM Unit := do
  call result
  modify fun files => Function.update files path (some ((files path).getD []))

/-- What a `write_all` of `bytes` puts into the file. -/
def WriteAll.put (bytes : List UInt8) : WriteAll → List UInt8
  | .done => bytes
  | .failed _ written => bytes.take written

def writeAll (path : String) (bytes : List UInt8) (result : WriteAll) : FileM Unit := do
  modify fun files => Function.update files path (some ((files path).getD [] ++ result.put bytes))
  match result with
  | .done => pure ()
  | .failed errno _ => throw (.io errno)

/-! ## The sink -/

/-- The text begins with a year: a digit, or the sign of a year with more than four digits. -/
def YearFirst (text : String) : Prop :=
  ∃ b rest, utf8 text = b :: rest ∧ (0x30 ≤ b ∧ b ≤ 0x39 ∨ b = 0x2B ∨ b = 0x2D)

/-- What the sink takes from a time: its date, and its RFC 3339 text. -/
structure DateTime where
  year : Int
  month : Nat
  day : Nat
  rfc3339 : String
  year_first : YearFirst rfc3339

structure CsvSink where
  root : String

/-- The header, without its newline. -/
def header : List UInt8 := utf8 "time,serial,metric,value"

def newline : UInt8 := 0x0A

/-- The line of one reading.  The value stands as the text that `{}` gives for it. -/
def rowText (time : DateTime) (serial : Int) (metric value : String) : String :=
  time.rfc3339 ++ "," ++ toString serial ++ "," ++ metric ++ "," ++ value ++ "\n"

namespace CsvSink

def filenameFor (sink : CsvSink) (slot : String) (time : DateTime) : String :=
  joinPath sink.root
    (slot ++ "-" ++ zeroPadded 4 time.year ++ "-" ++ zeroPadded 2 time.month ++ "-" ++
      zeroPadded 2 time.day ++ ".csv")

def append (sink : CsvSink) (time : DateTime) (slot : String) (serial : Int) (metric value : String)
    (result : Outcomes) : FileM Unit := do
  let path := sink.filenameFor slot time
  call result.createDirAll
  let found ← tryExists path result.tryExists
  -- a check that fails counts as "not there"
  let isNew := !(found.toOption.getD false)
  openAppend path result.openFile
  if isNew then
    writeAll path (header ++ [newline]) result.writeHeader
  writeAll path (utf8 (rowText time serial metric value)) result.writeRow
  call result.flush

/-- A call of `append`, with how the calls it makes end. -/
structure Call where
  time : DateTime
  slot : String
  serial : Int
  metric : String
  value : String
  result : Outcomes

/-- One call, in a run that goes on behind an error. -/
def step (sink : CsvSink) (c : Call) (files : Files) : Except StorageError Unit × Files :=
  outcome (sink.append c.time c.slot c.serial c.metric c.value c.result) files

end CsvSink

/-- The daemon's archive, here with a CSV sink. -/
structure Archiver where
  inner : Option CsvSink

/-- `Archiver::record`: the error goes into the log, and nowhere else. -/
def Archiver.record (archiver : Archiver) (now : DateTime) (slot : String) (serial : Int)
    (metric value : String) (result : Outcomes) : FileM Unit :=
  match archiver.inner with
  | some sink => do let _ ← attempt (sink.append now slot serial metric value result)
  | none => pure ()

/-- So the daemon's runs are runs of `step`. -/
theorem Archiver.run_record (sink : CsvSink) (c : CsvSink.Call) (files : Files) :
    ((Archiver.mk (some sink)).record c.time c.slot c.serial c.metric c.value c.result).run files
      = .ok () (sink.step c files).2 := rfl

namespace CsvSink

/-! ## What a call does to the files -/

namespace Call

def path (sink : CsvSink) (c : Call) : String := sink.filenameFor c.slot c.time

/-- The call gets as far as its file. -/
def Opened (c : Call) : Prop := c.result.createDirAll = none ∧ c.result.openFile = none

instance (c : Call) : Decidable c.Opened := inferInstanceAs (Decidable (_ ∧ _))

/-- The call takes its file for a new one: it is not there, or the check fails. -/
def TakenAsNew (before : Option (List UInt8)) (c : Call) : Prop :=
  before = none ∨ c.result.tryExists ≠ none

instance (before : Option (List UInt8)) (c : Call) : Decidable (c.TakenAsNew before) :=
  inferInstanceAs (Decidable (_ ∨ _))

/-- What the call puts into its file of the row. -/
def row (c : Call) : List UInt8 :=
  c.result.writeRow.put (utf8 (rowText c.time c.serial c.metric c.value))

/-- What the call puts into its file, given what was there. -/
def appended (before : Option (List UInt8)) (c : Call) : List UInt8 :=
  if c.TakenAsNew before then
    match c.result.writeHeader with
    | .done => header ++ newline :: c.row
    | .failed _ written => (header ++ [newline]).take written
  else c.row

end Call

/-- The end of an `append`: the row is written as far as it goes, and nothing else happens. -/
theorem final_row (path : String) (bytes : List UInt8) (result : WriteAll) (flush : Option Nat)
    (files : Files) :
    final ((do writeAll path bytes result; call flush : FileM Unit).run files)
      = Function.update files path (some ((files path).getD [] ++ result.put bytes)) := by
  cases result with
  | done => cases flush <;> rfl
  | failed errno written => rfl

/-- From the open on: the file is there, and then takes the header, if it is to have one, and the row. -/
theorem final_opened (path : String) (isNew : Bool) (bytes : List UInt8) (hdr row : WriteAll)
    (flush : Option Nat) (files : Files) :
    final ((do
        openAppend path none
        if isNew then
          writeAll path (header ++ [newline]) hdr
        writeAll path bytes row
        call flush : FileM Unit).run files)
      = Function.update files path (some ((files path).getD [] ++
          if isNew then
            match hdr with
            | .done => header ++ newline :: row.put bytes
            | .failed _ written => (header ++ [newline]).take written
          else row.put bytes)) := by
  let opened : Files := Function.update files path (some ((files path).getD []))
  have hopened : (opened path).getD [] = (files path).getD [] := by
    show (Function.update files path _ path).getD [] = _
    rw [Function.update_self]
    rfl
  cases isNew with
  | false =>
    refine (final_row path bytes row flush opened).trans ?_
    rw [hopened, Function.update_idem]
    rfl
  | true =>
    cases hdr with
    | failed errno written =>
      -- the error takes the call out before the row
      show Function.update opened path (some ((opened path).getD [] ++ _)) = _
      rw [hopened, Function.update_idem]
      rfl
    | done =>
      refine (final_row path bytes row flush
        (Function.update opened path (some ((opened path).getD [] ++ (header ++ [newline]))))).trans ?_
      rw [Function.update_self, hopened, Function.update_idem, Function.update_idem]
      simp

/-- The check decides whether the file is taken for a new one. -/
theorem run_tryExists (sink : CsvSink) (c : Call) (files : Files) :
    ∃ found, (tryExists (c.path sink) c.result.tryExists).run files = .ok found files ∧
      (!(found.toOption.getD false)) = decide (c.TakenAsNew (files (c.path sink))) := by
  cases hcheck : c.result.tryExists with
  | some errno =>
    refine ⟨.error errno, rfl, ?_⟩
    exact (decide_eq_true (.inr (by rw [hcheck]; exact nofun))).symm
  | none =>
    refine ⟨.ok (files (c.path sink)).isSome, rfl, ?_⟩
    cases hfound : files (c.path sink) with
    | none => exact (decide_eq_true (.inl rfl)).symm
    | some content =>
      refine (decide_eq_false ?_).symm
      rintro (h | h)
      · nomatch h
      · exact h hcheck

/-- **What one call does**: nothing, if it does not get as far as its file; else it appends to the
    file, and leaves all the others alone. -/
theorem files_step (sink : CsvSink) (c : Call) (files : Files) :
    (sink.step c files).2 =
      if c.Opened then
        Function.update files (c.path sink)
          (some ((files (c.path sink)).getD [] ++ c.appended (files (c.path sink))))
      else files := by
  obtain ⟨found, hrun, hnew⟩ := run_tryExists sink c files
  show final ((sink.append c.time c.slot c.serial c.metric c.value c.result).run files) = _
  unfold append
  cases hdir : c.result.createDirAll with
  | some errno =>
    rw [if_neg fun hopened : c.Opened => nomatch hdir.symm.trans hopened.1]
    rfl
  | none =>
    show final ((tryExists (c.path sink) c.result.tryExists >>= _).run files) = _
    rw [bind_of_ok hrun, hnew]
    cases hopen : c.result.openFile with
    | some errno =>
      rw [if_neg fun hopened : c.Opened => nomatch hopen.symm.trans hopened.2]
      rfl
    | none =>
      rw [if_pos (show c.Opened from ⟨hdir, hopen⟩), Call.appended]
      refine (final_opened (c.path sink) _ _ _ _ _ files).trans ?_
      simp only [decide_eq_true_eq]
      rfl

/-! ## Well-formed archives -/

/-- A file is empty, or its first line is the header and no other line is. -/
def WellFormed (content : List UInt8) : Prop :=
  content = [] ∨ Lines.Headed newline header content

instance (content : List UInt8) : Decidable (WellFormed content) :=
  inferInstanceAs (Decidable (_ ∨ (_ ∧ _)))

/-- Every file that exists is well formed. -/
def Archive (files : Files) : Prop := ∀ path content, files path = some content → WellFormed content

theorem newline_not_mem_header : newline ∉ header := by decide

theorem length_header : header.length = 24 := by decide

theorem utf8_append (a b : String) : utf8 (a ++ b) = utf8 a ++ utf8 b := by
  rw [utf8, String.toByteArray_append, ByteArray.data_append, Array.toList_append]
  rfl

/-- A row begins with a byte that is in no header, as far as anything of it is written. -/
theorem row_eq (c : Call) :
    c.row = [] ∨ ∃ b rest, c.row = b :: rest ∧ b ∉ header ∧ b ≠ newline := by
  obtain ⟨b, rest, hb, hyear⟩ := c.time.year_first
  have hout : b ∉ newline :: header := by
    have hall : (newline :: header).all fun b =>
        decide ¬ (0x30 ≤ b ∧ b ≤ 0x39 ∨ b = 0x2B ∨ b = 0x2D) := by decide
    intro hmem
    exact of_decide_eq_true (List.all_eq_true.mp hall b hmem) hyear
  rw [List.mem_cons, not_or] at hout
  obtain ⟨tail, htail⟩ : ∃ tail, utf8 (rowText c.time c.serial c.metric c.value) = b :: tail := by
    rw [rowText]
    simp only [utf8_append, hb, List.cons_append]
    exact ⟨_, rfl⟩
  rw [Call.row, htail]
  cases c.result.writeRow with
  | done => exact .inr ⟨b, tail, rfl, hout.2, hout.1⟩
  | failed errno written =>
    cases written with
    | zero => exact .inl rfl
    | succ written => exact .inr ⟨b, tail.take written, rfl, hout.2, hout.1⟩

/-- Its first line never makes a header of the line it goes into. -/
theorem openLine_row_ne (c : Call) {line : List UInt8} (hline : line ≠ header) :
    line ++ Lines.firstLine newline c.row ≠ header := by
  rcases row_eq c with hempty | ⟨b, rest, hrow, hout, hnewline⟩
  · rw [hempty]
    show line ++ [] ≠ header
    rwa [List.append_nil]
  · rw [hrow, Lines.firstLine_cons newline hnewline]
    intro heq
    apply hout
    rw [← heq]
    exact List.mem_append_right _ List.mem_cons_self

/-- No beginning of the header is its end too, so that a piece of it makes a header only of nothing. -/
theorem append_take_header {line : List UInt8} (hline : line ≠ header) {n : Nat} (hn : n ≤ 24) :
    line ++ header.take n = header ↔ line = [] ∧ n = 24 := by
  have hborder : ∀ n < 24, 0 < n → header.take n ≠ header.drop (24 - n) := by decide
  constructor
  · intro heq
    have hlen := congrArg List.length heq
    rw [List.length_append, List.length_take, length_header, Nat.min_eq_left hn] at hlen
    -- the piece is a beginning of the header, and here also an end of it
    have hend : header.take n = header.drop (24 - n) := by
      rw [show 24 - n = line.length by omega]
      conv => rhs; rw [← heq]
      exact (List.drop_left).symm
    rcases Nat.lt_or_ge n 24 with hlt | hge
    · rcases Nat.eq_zero_or_pos n with rfl | hpos
      · rw [List.take_zero, List.append_nil] at heq
        exact absurd heq hline
      · exact absurd hend (hborder n hlt hpos)
    · exact ⟨List.eq_nil_of_length_eq_zero (by omega), by omega⟩
  · rintro ⟨rfl, rfl⟩
    rfl

/-- As much of the header line as a failed write leaves. -/
theorem take_headerLine (n : Nat) :
    (header ++ [newline]).take n = if n ≤ 24 then header.take n else header ++ [newline] := by
  by_cases hn : n ≤ 24
  · rw [if_pos hn, List.take_append_of_le_length (by rwa [length_header])]
  · rw [if_neg hn, List.take_of_length_le (by rw [List.length_append, length_header]; simp; omega)]

/-- Alone in its file: nothing of it, or all. -/
theorem wellFormed_take_iff (n : Nat) :
    WellFormed ((header ++ [newline]).take n) ↔ ¬ (0 < n ∧ n ≤ 24) := by
  rw [take_headerLine]
  by_cases hn : n ≤ 24
  · rw [if_pos hn]
    constructor
    · rintro (hempty | ⟨hline, -⟩) ⟨hpos, -⟩
      · have hlen := congrArg List.length hempty
        rw [List.length_take, length_header, List.length_nil] at hlen
        omega
      · have hlen := hline.length_le
        rw [List.length_append, List.length_take, length_header, List.length_singleton] at hlen
        omega
    · intro hcut
      obtain rfl : n = 0 := by omega
      exact .inl rfl
  · rw [if_neg hn]
    refine iff_of_true (.inr ?_) (by omega)
    exact (Lines.headed_line_iff newline_not_mem_header []).mpr (by decide)

/-- Behind a headed text: it makes a second header only on a line of its own. -/
theorem headed_append_take_iff {content : List UInt8} (h : Lines.Headed newline header content) (n : Nat) :
    Lines.Headed newline header (content ++ (header ++ [newline]).take n) ↔
      ¬ (Lines.openLine newline content = [] ∧ 24 ≤ n) := by
  rw [h.append_iff newline_not_mem_header, take_headerLine]
  have hopen := h.openLine_ne newline_not_mem_header
  by_cases hn : n ≤ 24
  · rw [if_pos hn]
    have hplain : newline ∉ header.take n := fun hmem => newline_not_mem_header (List.mem_of_mem_take hmem)
    have hlines := List.splitOn_eq_singleton hplain
    rw [Lines.firstLine, Lines.laterLines, hlines]
    show Lines.openLine newline content ++ header.take n ≠ header ∧ header ∉ [] ↔ _
    rw [and_iff_left List.not_mem_nil, Ne, append_take_header hopen hn]
    refine not_congr (and_congr_right fun _ => ?_)
    omega
  · rw [if_neg hn]
    have hlines := Lines.splitOn_line newline newline_not_mem_header []
    rw [Lines.firstLine, Lines.laterLines, hlines]
    show Lines.openLine newline content ++ header ≠ header ∧ header ∉ [[]] ↔ _
    rw [and_iff_left (by decide), Ne, List.append_left_eq_self]
    refine not_congr (iff_self_and.mpr fun _ => ?_)
    omega

/-! ## What spoils a file -/

/-- **What may go wrong**: the calls that leave a file with a row and no header, or with a second header.
    None of them looks into the file it appends to. -/
inductive Call.Spoils (before : Option (List UInt8)) (c : Call) : Prop where
  /-- The file is there, left empty by an earlier call, so the row goes in without a header. -/
  | rowFirst : before = some [] → ¬ c.TakenAsNew before → c.row ≠ [] → Call.Spoils before c
  /-- The header is written in part. -/
  | cutHeader (errno written : Nat) : before.getD [] = [] → c.TakenAsNew before →
      c.result.writeHeader = .failed errno written → 0 < written → written ≤ 24 → Call.Spoils before c
  /-- The check fails, so that a file in use takes another header, on a line of its own. -/
  | secondHeader : before.getD [] ≠ [] → c.TakenAsNew before → Lines.openLine newline (before.getD []) = [] →
      24 ≤ (c.result.writeHeader.put (header ++ [newline])).length → Call.Spoils before c
  /-- The header is a line of the row, as the metric or the value may hold newlines. -/
  | headerInRow : (c.TakenAsNew before → c.result.writeHeader = .done) →
      header ∈ Lines.laterLines newline c.row → Call.Spoils before c

/-- A call that takes the file for one with a header. -/
theorem spoils_found_iff {before : Option (List UInt8)} {c : Call} (hnew : ¬ c.TakenAsNew before) :
    c.Spoils before ↔
      before = some [] ∧ c.row ≠ [] ∨ header ∈ Lines.laterLines newline c.row := by
  constructor
  · rintro (⟨hempty, -, hrow⟩ | ⟨-, -, -, hnew', -, -, -⟩ | ⟨-, hnew', -, -⟩ | ⟨-, hmem⟩)
    · exact .inl ⟨hempty, hrow⟩
    · exact absurd hnew' hnew
    · exact absurd hnew' hnew
    · exact .inr hmem
  · rintro (⟨hempty, hrow⟩ | hmem)
    · exact .rowFirst hempty hnew hrow
    · exact .headerInRow (fun hnew' => absurd hnew' hnew) hmem

/-- A call that writes the header, and gets to the row. -/
theorem spoils_done_iff {before : Option (List UInt8)} {c : Call} (hnew : c.TakenAsNew before)
    (hwrite : c.result.writeHeader = .done) :
    c.Spoils before ↔
      before.getD [] ≠ [] ∧ Lines.openLine newline (before.getD []) = [] ∨
        header ∈ Lines.laterLines newline c.row := by
  constructor
  · rintro (⟨-, hold, -⟩ | ⟨errno, written, -, -, hfailed, -, -⟩ | ⟨hfull, -, hline, -⟩ | ⟨-, hmem⟩)
    · exact absurd hnew hold
    · exact nomatch hwrite.symm.trans hfailed
    · exact .inl ⟨hfull, hline⟩
    · exact .inr hmem
  · rintro (⟨hfull, hline⟩ | hmem)
    · refine .secondHeader hfull hnew hline ?_
      rw [hwrite]
      show 24 ≤ (header ++ [newline]).length
      rw [List.length_append, length_header]
      omega
    · exact .headerInRow (fun _ => hwrite) hmem

/-- A call that fails in the header. -/
theorem spoils_failed_iff {before : Option (List UInt8)} {c : Call} (hnew : c.TakenAsNew before)
    {errno written : Nat} (hwrite : c.result.writeHeader = .failed errno written) :
    c.Spoils before ↔
      before.getD [] = [] ∧ 0 < written ∧ written ≤ 24 ∨
        before.getD [] ≠ [] ∧ Lines.openLine newline (before.getD []) = [] ∧ 24 ≤ written := by
  have hput : 24 ≤ (c.result.writeHeader.put (header ++ [newline])).length ↔ 24 ≤ written := by
    rw [hwrite]
    show 24 ≤ ((header ++ [newline]).take written).length ↔ _
    rw [List.length_take, List.length_append, length_header, List.length_singleton]
    omega
  constructor
  · rintro (⟨-, hold, -⟩ | ⟨errno', written', hempty, -, hfailed, hpos, hcut⟩ | ⟨hfull, -, hline, hlen⟩ |
      ⟨hdone, -⟩)
    · exact absurd hnew hold
    · obtain ⟨-, rfl⟩ := WriteAll.failed.inj (hwrite.symm.trans hfailed)
      exact .inl ⟨hempty, hpos, hcut⟩
    · exact .inr ⟨hfull, hline, hput.mp hlen⟩
    · exact nomatch hwrite.symm.trans (hdone hnew)
  · rintro (⟨hempty, hpos, hcut⟩ | ⟨hfull, hline, hn⟩)
    · exact .cutHeader errno written hempty hnew hwrite hpos hcut
    · exact .secondHeader hfull hnew hline (hput.mpr hn)

/-- The row, alone in its file, is a text without a header. -/
theorem wellFormed_row_iff (c : Call) : WellFormed c.row ↔ c.row = [] := by
  refine or_iff_left fun ⟨hline, _⟩ => ?_
  rcases row_eq c with hempty | ⟨b, rest, hrow, hout, -⟩
  · rw [hempty] at hline
    nomatch List.prefix_nil.mp hline
  · rw [hrow] at hline
    obtain ⟨tail, htail⟩ := hline
    have hfirst := (List.cons.inj htail).1
    exact hout (hfirst ▸ List.mem_cons_self)

/-- The header and the row behind it. -/
theorem header_not_mem_row_iff (c : Call) :
    header ∉ c.row.splitOn newline ↔ header ∉ Lines.laterLines newline c.row := by
  have hfirst : [] ++ Lines.firstLine newline c.row ≠ header := openLine_row_ne c nofun
  rw [Lines.splitOn_eq, List.mem_cons, not_or]
  exact and_iff_right hfirst.symm

/-- Into a file with nothing in it. -/
theorem wellFormed_new_iff {before : Option (List UInt8)} (hbefore : before.getD [] = []) (c : Call) :
    WellFormed (c.appended before) ↔ ¬ c.Spoils before := by
  by_cases hnew : c.TakenAsNew before
  · rw [Call.appended, if_pos hnew]
    cases hwrite : c.result.writeHeader with
    | failed errno written =>
      show WellFormed ((header ++ [newline]).take written) ↔ _
      rw [wellFormed_take_iff, spoils_failed_iff hnew hwrite, and_iff_right hbefore]
      exact not_congr (or_iff_left fun hfull => hfull.1 hbefore).symm
    | done =>
      show WellFormed (header ++ newline :: c.row) ↔ _
      have hne : header ++ newline :: c.row ≠ [] := nofun
      rw [WellFormed, or_iff_right hne, Lines.headed_line_iff newline_not_mem_header,
        header_not_mem_row_iff, spoils_done_iff hnew hwrite]
      exact not_congr (or_iff_right fun hfull => hfull.1 hbefore).symm
  · -- an empty file that is found has no header, and gets none
    have hsome : before = some [] := by
      cases before with
      | none => exact absurd (.inl rfl) hnew
      | some content => exact congrArg some hbefore
    rw [Call.appended, if_neg hnew, wellFormed_row_iff, spoils_found_iff hnew, and_iff_right hsome]
    constructor
    · rintro hrow (hne | hmem)
      · exact hne hrow
      · rw [hrow] at hmem
        nomatch hmem
    · intro hgood
      by_contra hne
      exact hgood (.inl hne)

/-- Into a file that has its header. -/
theorem headed_append_iff {before : Option (List UInt8)}
    (h : Lines.Headed newline header (before.getD [])) (c : Call) :
    Lines.Headed newline header (before.getD [] ++ c.appended before) ↔ ¬ c.Spoils before := by
  have hfull : before.getD [] ≠ [] := by
    intro hempty
    rw [hempty] at h
    nomatch List.prefix_nil.mp h.1
  by_cases hnew : c.TakenAsNew before
  · rw [Call.appended, if_pos hnew]
    cases hwrite : c.result.writeHeader with
    | failed errno written =>
      show Lines.Headed newline header (before.getD [] ++ (header ++ [newline]).take written) ↔ _
      rw [headed_append_take_iff h, spoils_failed_iff hnew hwrite, and_iff_right hfull]
      exact not_congr (or_iff_right fun hempty => hfull hempty.1).symm
    | done =>
      show Lines.Headed newline header (before.getD [] ++ (header ++ newline :: c.row)) ↔ _
      -- the header goes into the open line, and is a line of its own only if that is empty
      have hlines := Lines.splitOn_line newline newline_not_mem_header c.row
      rw [h.append_iff newline_not_mem_header, Lines.firstLine, Lines.laterLines, hlines]
      show Lines.openLine newline (before.getD []) ++ header ≠ header ∧ header ∉ c.row.splitOn newline ↔ _
      rw [Ne, List.append_left_eq_self, header_not_mem_row_iff, ← not_or, spoils_done_iff hnew hwrite,
        and_iff_right hfull]
  · have hopen := h.openLine_ne newline_not_mem_header
    rw [Call.appended, if_neg hnew, h.append_iff newline_not_mem_header,
      and_iff_right (openLine_row_ne c hopen), spoils_found_iff hnew]
    refine not_congr (or_iff_right fun hfirst => ?_).symm
    rw [hfirst.1] at hfull
    exact hfull rfl

/-- Into a well-formed file, whichever it is. -/
theorem wellFormed_append_iff {before : Option (List UInt8)} (h : WellFormed (before.getD [])) (c : Call) :
    WellFormed (before.getD [] ++ c.appended before) ↔ ¬ c.Spoils before := by
  rcases h with hempty | hheaded
  · rw [hempty, List.nil_append]
    exact wellFormed_new_iff hempty c
  · rw [← headed_append_iff hheaded c, WellFormed]
    refine or_iff_right fun hnone => ?_
    rw [(List.append_eq_nil_iff.mp hnone).1] at hheaded
    nomatch List.prefix_nil.mp hheaded.1

/-! ## Runs -/

/-- The call gets to its file and spoils it. -/
def SpoilsIn (sink : CsvSink) (c : Call) (files : Files) : Prop :=
  c.Opened ∧ c.Spoils (files (c.path sink))

/-- **One call**, whatever fails in it, leaves a well-formed archive exactly if it spoils no file. -/
theorem archive_step_iff (sink : CsvSink) (c : Call) {files : Files} (h : Archive files) :
    Archive (sink.step c files).2 ↔ ¬ sink.SpoilsIn c files := by
  rw [files_step]
  by_cases hopened : c.Opened
  · have hbefore : WellFormed ((files (c.path sink)).getD []) := by
      cases hfile : files (c.path sink) with
      | none => exact .inl rfl
      | some content => exact h _ content hfile
    rw [if_pos hopened, SpoilsIn, and_iff_right hopened, ← wellFormed_append_iff hbefore c]
    constructor
    · intro hafter
      exact hafter _ _ (Function.update_self ..)
    · intro hfile path content hcontent
      by_cases hpath : path = c.path sink
      · rw [hpath, Function.update_self] at hcontent
        exact Option.some.inj hcontent ▸ hfile
      · -- no other file is touched
        rw [Function.update_of_ne hpath] at hcontent
        exact h path content hcontent
  · rw [if_neg hopened]
    exact iff_of_true h fun hspoils => hopened hspoils.1

/-- **Every archive file is well formed behind every call of a run** exactly if none of its calls spoils
    a file: the check for existence stands in for the content only until one does. -/
theorem archive_wellFormed_iff (sink : CsvSink) {files : Files} (h : Archive files) (calls : List Call) :
    (∀ e ∈ History.history sink.step calls files, Archive e.after) ↔
      ∀ e ∈ History.history sink.step calls files, ¬ sink.SpoilsIn e.call e.before := by
  have hstep : ∀ c ∈ calls, ∀ files, Archive files →
      (Archive (History.entry sink.step c files).after ↔ ¬ sink.SpoilsIn c files) := by
    intro c _ files hfiles
    exact archive_step_iff sink c hfiles
  exact History.history_safe_iff hstep h

/-- A reading of the day in the tests, with how its calls end. -/
def reading (value : String) (result : Outcomes) : Call :=
  ⟨⟨2026, 4, 19, "2026-04-19T06:43:12+00:00", _, _, rfl, by decide⟩, "zolder", 2120121246, "ac_power",
    value, result⟩

/-- A full disk tears the first row, and the second one goes behind what is there of it. -/
def tornRun : List (History.Entry Call Files (Except StorageError Unit)) :=
  History.history (CsvSink.mk "/share").step
    [reading "641" { Outcomes.good with writeRow := .failed 28 10 }, reading "655" .good] (fun _ => none)

theorem archive_wellFormed_iff_torn :
    (∀ e ∈ tornRun, ¬ SpoilsIn ⟨"/share"⟩ e.call e.before) ∧ ∀ e ∈ tornRun, Archive e.after := by
  have hnone : Archive fun _ => none := by
    intro path content hfile
    cases hfile
  suffices hgood : ∀ e ∈ tornRun, ¬ SpoilsIn ⟨"/share"⟩ e.call e.before from
    ⟨hgood, (archive_wellFormed_iff ⟨"/share"⟩ hnone _).mpr hgood⟩
  rw [tornRun, History.history, History.history, History.history, List.forall_mem_cons,
    List.forall_mem_singleton]
  refine ⟨?_, ?_⟩
  · rintro ⟨-, ⟨hempty, -, -⟩ | ⟨errno, written, -, -, hfailed, -, -⟩ | ⟨hfull, -, -, -⟩ | ⟨-, hmem⟩⟩
    · cases hempty
    · cases hfailed
    · exact hfull rfl
    · revert hmem
      decide
  · rintro ⟨-, ⟨hempty, -, -⟩ | ⟨errno, written, -, -, hfailed, -, -⟩ | ⟨-, hnew, -, -⟩ | ⟨-, hmem⟩⟩
    · revert hempty
      decide
    · cases hfailed
    · revert hnew
      decide
    · revert hmem
      decide

/-- The header write of the first call fails with nothing written; the second call, in which nothing
    fails, takes the file it finds for one with a header. -/
theorem header_lost :
    ¬ ∀ (sink : CsvSink) (calls : List Call),
      ∀ e ∈ History.history sink.step calls (fun _ => none), Archive e.after := by
  intro hall
  let lost := reading "641" { Outcomes.good with writeHeader := .failed 28 0 }
  have hlast := hall ⟨"/share"⟩ [lost, reading "655" .good] _ (List.mem_cons_of_mem _ List.mem_cons_self)
  have hfile := hlast "/share/zolder-2026-04-19.csv"
    (utf8 "2026-04-19T06:43:12+00:00,2120121246,ac_power,655\n") (by decide)
  revert hfile
  decide

end CsvSink

end HassSma
