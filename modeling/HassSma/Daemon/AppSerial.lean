/-
  The serial under which the daemon logs on, over all its restarts (`mint_new_app_serial` and the
  beginning of `run_inverter` in `daemon/src/main.rs`).

  An inverter remembers its clients by their serial and turns away a second one, so the daemon must come
  back under the serial it had.  A start reads the slot's file; if there are four bytes in it, they
  are the serial, otherwise a new one is made from the clock and the slot and written to the file.
  Reading may fail, and so may writing, at any byte.

  1. **One start (`start_cases`)** — it restores what is in the file, or mints, and then the file is as
     it was or holds the first bytes of the new serial.
  2. **Runs** — four bytes in a slot's file are always a serial under which a start of that slot has logged
     on (`Traced`): half a serial is never taken for one.
  3. **`serial_survives_restarts`** — a serial changes only where a write has failed or a file could not
     be read.
-/
import HassSma.Lib.Bytes
import HassSma.Storage.CsvSink

namespace HassSma

open Bytes Fallible History

/-! ## The program -/

/-- `PathBuf::from(format!("/data/app_serial_{}", inv_cfg.slot))` -/
def appSerialPath (slot : String) : String := "/data/app_serial_" ++ slot

/-- The slot's bytes, mixed into the seconds. -/
def mixSlot (slot : String) (secs : UInt32) : UInt32 :=
  (utf8 slot).foldl (fun h b => h * 31 + b.toUInt32) secs

/-- A new serial. -/
def mintedSerial (slot : String) (secs : UInt32) : UInt32 :=
  900000000 + (mixSlot slot secs &&& 0x05F5E0FF)

/-- One start of the task of a slot, with how the calls it makes end. -/
structure Start where
  slot : String
  /-- The errno with which a file that is there cannot be read. -/
  read : Option Nat
  /-- The seconds since the epoch; `none` for a clock before it. -/
  secs : Option UInt32
  openFile : Option Nat
  write : WriteAll

namespace Start

/-- `std::fs::write`: the file is opened and emptied, then written. -/
def fsWrite (path : String) (bytes : List UInt8) (openFile : Option Nat) (write : WriteAll) :
    FileM Unit := do
  call openFile
  modify fun files => Function.update files path (some [])
  writeAll path bytes write

/-- The serial that this start would mint. -/
def minted (c : Start) : UInt32 := mintedSerial c.slot (c.secs.getD 900000000)

/-- A write that fails is logged, and the new serial used all the same. -/
def mintNewAppSerial (c : Start) (path : String) (files : Files) : UInt32 × Files :=
  (c.minted, final ((fsWrite path (writeU32 c.minted) c.openFile c.write).run files))

/-- What the file has to say to this start. -/
def found (c : Start) (files : Files) : Option (List UInt8) :=
  match c.read with
  | none => files (appSerialPath c.slot)
  | some _ => none

/-- The stable serial of a slot. -/
def stableAppSerial (c : Start) (files : Files) : UInt32 × Files :=
  let path := appSerialPath c.slot
  match c.found files with
  | some bytes => if bytes.length = 4 then (readU32 bytes, files) else c.mintNewAppSerial path files
  | none => c.mintNewAppSerial path files

/-! ## One start -/

theorem appSerialPath_inj {slot slot' : String} : appSerialPath slot = appSerialPath slot' ↔ slot = slot' := by
  show "/data/app_serial_" ++ slot = "/data/app_serial_" ++ slot' ↔ slot = slot'
  exact String.append_right_inj _

theorem final_fsWrite (path : String) (bytes : List UInt8) (openFile : Option Nat) (write : WriteAll)
    (files : Files) :
    final ((fsWrite path bytes openFile write).run files)
      = if openFile = none then Function.update files path (some (write.put bytes)) else files := by
  cases openFile with
  | some errno => rfl
  | none =>
    cases write with
    | done =>
      show Function.update (Function.update files path (some [])) path
        (some ((Function.update files path (some []) path).getD [] ++ _)) = _
      rw [Function.update_self, Function.update_idem]
      rfl
    | failed errno written =>
      show Function.update (Function.update files path (some [])) path
        (some ((Function.update files path (some []) path).getD [] ++ _)) = _
      rw [Function.update_self, Function.update_idem]
      rfl

/-- **What one start does.**  It restores the serial in its file and leaves the files alone, or it mints
    one; then its file is as it was, or holds the new serial up to some byte. -/
theorem start_cases (c : Start) (files : Files) :
    (∃ bytes, c.read = none ∧ files (appSerialPath c.slot) = some bytes ∧ bytes.length = 4 ∧
        c.stableAppSerial files = (readU32 bytes, files)) ∨
      (c.stableAppSerial files).1 = c.minted ∧
        ((c.stableAppSerial files).2 = files ∧ c.openFile ≠ none ∨
          (c.stableAppSerial files).2 = Function.update files (appSerialPath c.slot)
            (some (c.write.put (writeU32 c.minted))) ∧ c.openFile = none) := by
  have hmint : (c.mintNewAppSerial (appSerialPath c.slot) files).2 = files ∧ c.openFile ≠ none ∨
      (c.mintNewAppSerial (appSerialPath c.slot) files).2
        = Function.update files (appSerialPath c.slot)
          (some (c.write.put (writeU32 c.minted))) ∧ c.openFile = none := by
    rw [mintNewAppSerial, final_fsWrite]
    split
    · rename_i hopen
      exact .inr ⟨rfl, hopen⟩
    · rename_i hopen
      exact .inl ⟨rfl, hopen⟩
  rw [stableAppSerial]
  cases hfound : c.found files with
  | none => exact .inr ⟨rfl, hmint⟩
  | some bytes =>
    simp only
    split
    · rename_i hfour
      left
      rw [found] at hfound
      split at hfound
      · rename_i hread
        exact ⟨bytes, hread, hfound, hfour, rfl⟩
      · nomatch hfound
    · exact .inr ⟨rfl, hmint⟩

/-- A start leaves the files of other slots alone. -/
theorem files_other (c : Start) (files : Files) {slot : String} (h : slot ≠ c.slot) :
    (c.stableAppSerial files).2 (appSerialPath slot) = files (appSerialPath slot) := by
  have hpath : appSerialPath slot ≠ appSerialPath c.slot := fun heq => h (appSerialPath_inj.mp heq)
  rcases start_cases c files with ⟨bytes, -, -, -, heq⟩ | ⟨-, ⟨heq, -⟩ | ⟨heq, -⟩⟩
  · rw [heq]
  · rw [heq]
  · rw [heq, Function.update_of_ne hpath]

/-- A minted serial has nine digits and begins with a nine. -/
theorem minted_range (c : Start) : 900000000 ≤ c.minted.toNat ∧ c.minted.toNat ≤ 999999999 := by
  have hmask : (mixSlot c.slot (c.secs.getD 900000000) &&& 0x05F5E0FF).toNat ≤ 99999999 := by
    rw [UInt32.toNat_and]
    exact Nat.and_le_right
  have hval : c.minted.toNat = (900000000
      + (mixSlot c.slot (c.secs.getD 900000000) &&& 0x05F5E0FF).toNat) % 4294967296 := by
    rw [minted, mintedSerial, UInt32.toNat_add]
    rfl
  omega

/-- As many bytes as a serial has, written of a serial, are the serial. -/
theorem put_eq_of_length {write : WriteAll} {x : UInt32} (h : (write.put (writeU32 x)).length = 4) :
    write.put (writeU32 x) = writeU32 x := by
  cases write with
  | done => rfl
  | failed errno written =>
    rw [WriteAll.put, List.length_take, length_writeU32] at h
    rw [WriteAll.put, List.take_of_length_le]
    rw [length_writeU32]
    omega

end Start

/-! ## Restarts -/

/-- A start in a history. -/
abbrev StartEntry := Entry Start Files UInt32

/-- The starts of the daemon's tasks, one after the other. -/
def restarts (starts : List Start) (files : Files) : List StartEntry :=
  history Start.stableAppSerial starts files

/-- Behind the start, its serial is in its file. -/
def Kept (e : StartEntry) : Prop := e.after (appSerialPath e.call.slot) = some (writeU32 e.result)

/-- Four bytes in a slot's file were there from the beginning, or are the serial of an earlier start of
    the slot. -/
def Traced (files : Files) (past : List StartEntry) (now : Files) : Prop :=
  ∀ slot x, now (appSerialPath slot) = some (writeU32 x) →
    files (appSerialPath slot) = some (writeU32 x) ∨
      ∃ e ∈ past, e.call.slot = slot ∧ e.result = x

theorem traced_start (files : Files) (past : List StartEntry) (c : Start) (now : Files)
    (h : Traced files past now) :
    Traced files (past ++ [entry Start.stableAppSerial c now])
      (entry Start.stableAppSerial c now).after := by
  have hbefore : ∀ slot x, now (appSerialPath slot) = some (writeU32 x) →
      files (appSerialPath slot) = some (writeU32 x) ∨
        ∃ e ∈ past ++ [entry Start.stableAppSerial c now], e.call.slot = slot ∧ e.result = x := by
    intro slot x hx
    rcases h slot x hx with hx | ⟨e, he, hslot, hresult⟩
    · exact .inl hx
    · exact .inr ⟨e, List.mem_append_left _ he, hslot, hresult⟩
  intro slot x hx
  change (c.stableAppSerial now).2 (appSerialPath slot) = some (writeU32 x) at hx
  by_cases hslot : slot = c.slot
  · subst hslot
    rcases Start.start_cases c now with ⟨bytes, -, -, -, heq⟩ | ⟨hminted, ⟨heq, -⟩ | ⟨heq, -⟩⟩
    · rw [heq] at hx
      exact hbefore c.slot x hx
    · rw [heq] at hx
      exact hbefore c.slot x hx
    · -- what was written is the new serial, if it is four bytes long
      rw [heq, Function.update_self, Option.some.injEq] at hx
      have hlen : (c.write.put (writeU32 c.minted)).length = 4 := by rw [hx, length_writeU32]
      rw [Start.put_eq_of_length hlen] at hx
      have hserial : c.minted = x := by rw [← readU32_writeU32 c.minted, hx, readU32_writeU32]
      exact .inr ⟨entry Start.stableAppSerial c now, by simp, rfl, hminted.trans hserial⟩
  · rw [c.files_other now hslot] at hx
    exact hbefore slot x hx

/-- While a slot's file holds a serial and can be read, it stays there and is what is used. -/
theorem restarts_restore {slot : String} {x : UInt32} (starts : List Start) {files : Files}
    (hfile : files (appSerialPath slot) = some (writeU32 x))
    (hread : ∀ c ∈ starts, c.slot = slot → c.read = none) :
    behind files (restarts starts files) (appSerialPath slot) = some (writeU32 x) ∧
      ∀ e ∈ restarts starts files, e.call.slot = slot → e.result = x := by
  induction starts generalizing files with
  | nil => exact ⟨hfile, nofun⟩
  | cons c starts ih =>
    rw [List.forall_mem_cons] at hread
    have hstep : (c.stableAppSerial files).2 (appSerialPath slot) = some (writeU32 x) ∧
        (c.slot = slot → (c.stableAppSerial files).1 = x) := by
      by_cases hslot : c.slot = slot
      · subst hslot
        have hfound : c.found files = some (writeU32 x) := by
          rw [Start.found, hread.1 rfl]
          exact hfile
        rw [Start.stableAppSerial]
        simp only [hfound]
        rw [if_pos (length_writeU32 x)]
        exact ⟨hfile, fun _ => readU32_writeU32 x⟩
      · rw [c.files_other files (Ne.symm hslot)]
        exact ⟨hfile, fun heq => absurd heq hslot⟩
    obtain ⟨hbehind, hall⟩ := ih hstep.1 hread.2
    refine ⟨hbehind, ?_⟩
    intro e he
    rcases List.mem_cons.mp he with rfl | he
    · exact hstep.2
    · exact hall e he

/-- A start that can write has its serial in its file, restored or new. -/
theorem kept_of_done {c : Start} (hopen : c.openFile = none) (hwrite : c.write = .done) (files : Files) :
    Kept (entry Start.stableAppSerial c files) := by
  show (c.stableAppSerial files).2 (appSerialPath c.slot) = some (writeU32 (c.stableAppSerial files).1)
  rcases Start.start_cases c files with ⟨bytes, -, hfile, hfour, heq⟩ | ⟨hminted, ⟨-, hnot⟩ | ⟨heq, -⟩⟩
  · rw [heq]
    show files (appSerialPath c.slot) = some (writeU32 (readU32 bytes))
    rw [hfile, writeU32_readU32 hfour]
  · exact absurd hopen hnot
  · rw [hminted, heq, Function.update_self, hwrite]
    rfl

/-- **A serial survives restarts.**  Over any starts of any slots, from any files, whatever fails:
    a start logs on under a new serial of nine digits, or under one that an earlier start of its slot has
    had, or that was there from the beginning; once a start has its serial in its file, and as long as the
    file can be read, every later start of the slot has the same; and a start that can write has it
    there. -/
theorem serial_survives_restarts (starts : List Start) (files : Files) :
    (∀ past e future, restarts starts files = past ++ e :: future →
        (e.result = e.call.minted ∧ 900000000 ≤ e.result.toNat ∧ e.result.toNat ≤ 999999999) ∨
          (∃ d ∈ past, d.call.slot = e.call.slot ∧ d.result = e.result) ∨
          files (appSerialPath e.call.slot) = some (writeU32 e.result)) ∧
      (∀ past e future, restarts starts files = past ++ e :: future → Kept e →
        ∀ later rest, future = later ++ rest →
          (∀ d ∈ later, d.call.slot = e.call.slot → d.call.read = none) →
          ∀ d ∈ later, d.call.slot = e.call.slot → d.result = e.result) ∧
      ∀ e ∈ restarts starts files, e.call.openFile = none → e.call.write = .done → Kept e := by
  refine ⟨?_, ?_, ?_⟩
  · intro past e future hsplit
    have htraced : Traced files past e.before :=
      history_before (I := fun past now => Traced files past now)
        (fun past c now h => traced_start files past c now h) (fun _ _ h => .inl h) hsplit
    have hmem : e ∈ restarts starts files := by
      rw [hsplit]
      simp
    have he : e = entry Start.stableAppSerial e.call e.before := eq_entry_of_mem hmem
    have hresult : e.result = (e.call.stableAppSerial e.before).1 := congrArg Entry.result he
    rcases Start.start_cases e.call e.before with ⟨bytes, -, hfile, hfour, heq⟩ | ⟨hminted, -⟩
    · right
      have hx : e.result = readU32 bytes := by rw [hresult, heq]
      have hspelled : e.before (appSerialPath e.call.slot) = some (writeU32 e.result) := by
        rw [hfile, hx, writeU32_readU32 hfour]
      exact (htraced _ _ hspelled).symm
    · left
      rw [hresult, hminted]
      exact ⟨rfl, e.call.minted_range⟩
  · rintro past e future hsplit hkept later rest rfl hread
    -- the later starts are a history from the files that `e` leaves
    have hcut : restarts starts files = (past ++ [e]) ++ (later ++ rest) := by
      rw [hsplit]
      simp
    obtain ⟨cs₁, cs₂, -, -, hrest⟩ := history_cut hcut
    obtain ⟨cs₃, cs₄, -, hlater, -⟩ := history_cut hrest.symm
    rw [behind_append] at hlater
    have hcalls : ∀ c ∈ cs₃, c.slot = e.call.slot → c.read = none := by
      intro c hc hslot
      rw [← map_call_history Start.stableAppSerial cs₃ (behind (behind files past) [e]), ← hlater] at hc
      obtain ⟨d, hd, rfl⟩ := List.mem_map.mp hc
      exact hread d hd hslot
    intro d hd hslot
    rw [hlater] at hd
    exact (restarts_restore cs₃ (show behind (behind files past) [e] _ = _ from hkept) hcalls).2 d hd hslot
  · intro e he hopen hwrite
    rw [eq_entry_of_mem he]
    exact kept_of_done hopen hwrite e.before

/-- A disk that is full once: the serial of the second start stays. -/
def sampleStarts : List Start :=
  [⟨"zolder", none, some 1776600000, none, .failed 28 2⟩,
    ⟨"zolder", none, some 1776600060, none, .done⟩,
    ⟨"zolder", none, some 1776700000, none, .done⟩]

theorem serial_survives_restarts_zolder :
    ∃ first second third, restarts sampleStarts (fun _ => none) = [first, second, third] ∧
      third.result = second.result := by
  obtain ⟨first, second, third, hruns, hopen, hwrite, hslot, hread⟩ :
      ∃ first second third, restarts sampleStarts (fun _ => none) = [first, second, third] ∧
        second.call.openFile = none ∧ second.call.write = .done ∧
        third.call.slot = second.call.slot ∧ third.call.read = none :=
    ⟨_, _, _, rfl, rfl, rfl, rfl, rfl⟩
  have hkept : Kept second := (serial_survives_restarts sampleStarts fun _ => none).2.2 second
    (by rw [hruns]; simp) hopen hwrite
  refine ⟨first, second, third, hruns, ?_⟩
  exact (serial_survives_restarts sampleStarts fun _ => none).2.1 [first] second [third] hruns hkept
    [third] [] rfl (by simpa using fun _ => hread) third (List.mem_singleton.mpr rfl) hslot

end HassSma
