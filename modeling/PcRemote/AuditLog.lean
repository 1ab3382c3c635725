import PcRemote.Delimited
import PcRemote.Text
import PcRemote.Transition

/-! The audit log of the bridge: a line for each record, and one older generation. Each operation
on the files may fail, and a write may break off in the middle of its line. -/
namespace PcRemote.AuditLog
open Delimited Text Transition

def auditLogMaxBytes : ℕ := 1000000

def newline : UInt8 := 10

/-- The files audit.log and audit.log.1. -/
structure Files where
  log : Option (List UInt8)
  rotated : Option (List UInt8)
  deriving DecidableEq, Repr

inductive AuditError
  | metadata
  | rename
  | opening
  | write
  | sync
  deriving DecidableEq, Repr

/-- The operations of one call that fail; a write that fails has written some bytes of its line. -/
structure Faults where
  metadata : Bool
  remove : Bool
  rename : Bool
  opening : Bool
  write : Option ℕ
  sync : Bool
  deriving DecidableEq, Repr

/-- What a record holds; none of it breaks the line. -/
structure Entry where
  timestamp : String
  action : String
  dryRun : Bool
  result : String
  oneLine : '\n' ∉ (timestamp ++ action ++ result).toList

def Entry.text (e : Entry) : String :=
  e.timestamp ++ " action=" ++ e.action ++ " dry_run=" ++ (if e.dryRun then "true" else "false") ++
    " result=" ++ e.result

def Entry.record (e : Entry) : List UInt8 := utf8 e.text ++ [newline]

def Files.tooLarge (files : Files) : Bool :=
  files.log.any fun content => auditLogMaxBytes ≤ content.length

/-- The removal of the older generation may fail unnoticed; the renaming may not. -/
def rotateIfTooLarge (files : Files) (f : Faults) : Files × Except AuditError Unit :=
  if f.metadata then (files, .error .metadata)
  else if ¬ files.tooLarge then (files, .ok ())
  else
    let removed := if f.remove then files else { files with rotated := none }
    if f.rename then (removed, .error .rename) else (⟨none, files.log⟩, .ok ())

/-- A file that is absent is created. -/
def write (files : Files) (f : Faults) (record : List UInt8) : Files × Except AuditError Unit :=
  if f.opening then (files, .error .opening)
  else
    let content := files.log.getD []
    match f.write with
    | some n => ({ files with log := some (content ++ record.take n) }, .error .write)
    | none =>
        let written := { files with log := some (content ++ record) }
        if f.sync then (written, .error .sync) else (written, .ok ())

def append (files : Files) (call : Faults × Entry) : Files × Except AuditError Unit :=
  match rotateIfTooLarge files call.1 with
  | (rotated, .error e) => (rotated, .error e)
  | (rotated, .ok ()) => write rotated call.1 call.2.record

/-- The call gets as far as the rotation. -/
def Files.rotates (files : Files) (f : Faults) : Bool := files.tooLarge && !f.metadata

/-- The files after a rotation that was not needed, or that succeeded. -/
def Files.ready (files : Files) : Files := if files.tooLarge then ⟨none, files.log⟩ else files

/-- The content that a record is appended to. -/
def Files.base (files : Files) : List UInt8 := files.ready.log.getD []

lemma length_base_lt (files : Files) : files.base.length < auditLogMaxBytes := by
  unfold Files.base Files.ready
  split_ifs with h
  · exact Nat.zero_lt_succ _
  · cases hlog : files.log with
    | none => exact Nat.zero_lt_succ _
    | some content => simpa [Files.tooLarge, hlog] using h

/-- A call that fails before it writes leaves the files as they were, or with the older generation
gone, or rotated. -/
inductive Unwritten (files : Files) (f : Faults) : Files → Prop
  | unchanged : Unwritten files f files
  | removed (h : files.rotates f = true) : Unwritten files f { files with rotated := none }
  | rotated (h : f.metadata = false) : Unwritten files f files.ready

/-- How a call ends: with nothing written, with a part of its line, or with all of it. -/
inductive Outcome (files : Files) (f : Faults) (record : List UInt8) :
    Files × Except AuditError Unit → Prop
  | unwritten {files' : Files} (e : AuditError) (h : Unwritten files f files') :
      Outcome files f record (files', .error e)
  | torn (n : ℕ) (e : AuditError) (h : f.metadata = false) :
      Outcome files f record
        ({ files.ready with log := some (files.base ++ record.take n) }, .error e)
  | written (h : f.metadata = false) :
      Outcome files f record ({ files.ready with log := some (files.base ++ record) }, .ok ())

lemma rotateIfTooLarge_cases (files : Files) (f : Faults) :
    (∃ files' e, rotateIfTooLarge files f = (files', .error e) ∧ Unwritten files f files') ∨
      f.metadata = false ∧ rotateIfTooLarge files f = (files.ready, .ok ()) := by
  unfold rotateIfTooLarge Files.ready
  cases hmetadata : f.metadata with
  | true => exact .inl ⟨_, _, rfl, .unchanged⟩
  | false =>
    by_cases hlarge : files.tooLarge = true
    · cases hrename : f.rename with
      | true =>
        have hremoved : Unwritten files f
            (if f.remove then files else { files with rotated := none }) := by
          split_ifs
          · exact .unchanged
          · exact .removed (by simp [Files.rotates, hlarge, hmetadata])
        exact .inl ⟨_, .rename, by simp [hlarge], hremoved⟩
      | false => exact .inr ⟨rfl, by simp [hlarge]⟩
    · exact .inr ⟨rfl, by simp [hlarge]⟩

lemma outcome_append (files : Files) (call : Faults × Entry) :
    Outcome files call.1 call.2.record (append files call) := by
  unfold append
  rcases rotateIfTooLarge_cases files call.1 with ⟨files', e, heq, h⟩ | ⟨hmetadata, heq⟩
  · rw [heq]
    exact .unwritten e h
  · rw [heq]
    simp only [write]
    by_cases hopening : call.1.opening = true
    · rw [if_pos hopening]
      exact .unwritten _ (.rotated hmetadata)
    · rw [if_neg hopening]
      cases call.1.write with
      | some n => exact .torn n _ hmetadata
      | none =>
        by_cases hsync : call.1.sync = true
        · simp only [if_pos hsync]
          have htorn : Outcome files call.1 call.2.record _ :=
            .torn call.2.record.length .sync hmetadata
          rwa [List.take_length] at htorn
        · simp only [if_neg hsync]
          exact .written hmetadata

/-- The complete records of a file. -/
def records (content : Option (List UInt8)) : List (List UInt8) :=
  terminated newline (content.getD [])

lemma newline_notMem_text (e : Entry) : newline ∉ utf8 e.text := by
  apply newline_notMem_utf8
  have honeLine := e.oneLine
  simp only [String.toList_append, List.mem_append, not_or] at honeLine
  obtain ⟨⟨htimestamp, haction⟩, hresult⟩ := honeLine
  cases hdry : e.dryRun <;> simp [Entry.text, hdry, htimestamp, haction, hresult]

/-- What a call keeps of the records, whether it fails or not. -/
structure Keeps (files : Files) (call : Faults × Entry) (r : Files × Except AuditError Unit) :
    Prop where
  failed : ∀ e, r.2 = .error e → files.rotates call.1 = false →
    records files.log <+: records r.1.log ∧ r.1.rotated = files.rotated
  failed_rotating : ∀ e, r.2 = .error e → files.rotates call.1 = true →
    r.1.log = files.log ∨ r.1.rotated = files.log
  last : r.2 = .ok () → (records r.1.log).getLast? =
    some (unfinished newline files.base ++ utf8 call.2.text) ∧
      ∃ content, r.1.log = some content ∧ unfinished newline content = []
  appended : r.2 = .ok () → files.tooLarge = false →
    records r.1.log = records files.log ++ [unfinished newline files.base ++ utf8 call.2.text] ∧
      r.1.rotated = files.rotated
  rotated : r.2 = .ok () → files.tooLarge = true →
    records r.1.log = [utf8 call.2.text] ∧ r.1.rotated = files.log
  /-- What is written is this record or the beginning of it, and it goes to the log as it was, below
  the limit, or to a new one: there was none, or this call has rotated it away. -/
  bounded : ∀ content, r.1.log = some content → files.log = some content ∨
    ∃ base n, content = base ++ call.2.record.take n ∧ base.length < auditLogMaxBytes ∧
      (files.log = some base ∨ base = [] ∧
        (files.log = none ∨ files.rotates call.1 = true ∧ r.1.rotated = files.log))

lemma ready_of_small {files : Files} (h : files.tooLarge = false) :
    files.ready = files ∧ files.base = files.log.getD [] := by
  simp [Files.base, Files.ready, h]

lemma ready_of_large {files : Files} (h : files.tooLarge = true) :
    files.ready = ⟨none, files.log⟩ ∧ files.base = [] := by
  simp [Files.base, Files.ready, h]

/-- Bytes appended leave the complete records as they are. -/
lemma records_extend (content : Option (List UInt8)) (bytes : List UInt8) :
    records content <+: records (some (content.getD [] ++ bytes)) :=
  terminated_prefix _ _

/-- A record appended ends its line, which is the last one. -/
lemma records_record (base : List UInt8) (e : Entry) :
    records (some (base ++ e.record)) =
        records (some base) ++ [unfinished newline base ++ utf8 e.text] ∧
      unfinished newline (base ++ e.record) = [] :=
  scan_line base (newline_notMem_text e)

/-- What a record is appended to is the log as it was, or a new one. -/
lemma base_cases (files : Files) :
    files.log = some files.base ∨ files.base = [] ∧
      (files.log = none ∨ files.tooLarge = true ∧ files.ready.rotated = files.log) := by
  cases h : files.tooLarge with
  | true =>
    obtain ⟨hready, hbase⟩ := ready_of_large h
    exact .inr ⟨hbase, .inr ⟨rfl, by rw [hready]⟩⟩
  | false =>
    rw [(ready_of_small h).2]
    cases files.log with
    | none => exact .inr ⟨rfl, .inl rfl⟩
    | some content => exact .inl rfl

/-- A record, or the beginning of one, is written below the limit. -/
lemma bounded_base {files : Files} {f : Faults} (hmetadata : f.metadata = false)
    (record : List UInt8) (n : ℕ) :
    ∃ base m, files.base ++ record.take n = base ++ record.take m ∧
      base.length < auditLogMaxBytes ∧
      (files.log = some base ∨ base = [] ∧
        (files.log = none ∨ files.rotates f = true ∧ files.ready.rotated = files.log)) := by
  refine ⟨files.base, n, rfl, length_base_lt files, ?_⟩
  rw [Files.rotates, hmetadata, Bool.not_false, Bool.and_true]
  exact base_cases files

lemma Unwritten.log {files files' : Files} {f : Faults} (h : Unwritten files f files')
    {content : List UInt8} (hcontent : files'.log = some content) : files.log = some content := by
  cases h with
  | unchanged => exact hcontent
  | removed => exact hcontent
  | rotated =>
    cases hlarge : files.tooLarge with
    | true => simp [(ready_of_large hlarge).1] at hcontent
    | false => rwa [(ready_of_small hlarge).1] at hcontent

/-- A call that reads the size and does not rotate finds the file small. -/
lemma small_of_not_rotates {files : Files} {f : Faults} (hmetadata : f.metadata = false)
    (h : files.rotates f = false) : files.tooLarge = false := by
  simpa [Files.rotates, hmetadata] using h

lemma large_of_rotates {files : Files} {f : Faults} (h : files.rotates f = true) :
    files.tooLarge = true := by
  simp only [Files.rotates, Bool.and_eq_true] at h
  exact h.1

lemma Unwritten.failed {files files' : Files} {f : Faults} (h : Unwritten files f files')
    (hrotates : files.rotates f = false) : files' = files := by
  cases h with
  | unchanged => rfl
  | removed hremoved => simp [hrotates] at hremoved
  | rotated hmetadata => exact (ready_of_small (small_of_not_rotates hmetadata hrotates)).1

lemma Unwritten.failed_rotating {files files' : Files} {f : Faults} (h : Unwritten files f files')
    (hlarge : files.tooLarge = true) : files'.log = files.log ∨ files'.rotated = files.log := by
  cases h with
  | unchanged => exact .inl rfl
  | removed => exact .inl rfl
  | rotated => exact .inr (by rw [(ready_of_large hlarge).1])

lemma keeps_append (files : Files) (call : Faults × Entry) :
    Keeps files call (append files call) := by
  have houtcome := outcome_append files call
  generalize append files call = r at houtcome
  cases houtcome with
  | unwritten e h =>
    refine ⟨fun _ _ hrotates => ?_, fun _ _ hrotates => ?_, by simp, by simp, by simp, ?_⟩
    · rw [h.failed hrotates]
      exact ⟨List.prefix_refl _, rfl⟩
    · exact h.failed_rotating (large_of_rotates hrotates)
    · exact fun content hcontent => .inl (h.log hcontent)
  | torn n e hmetadata =>
    refine ⟨fun _ _ hrotates => ?_, fun _ _ hrotates => .inr ?_, by simp, by simp, by simp, ?_⟩
    · obtain ⟨hready, hbase⟩ := ready_of_small (small_of_not_rotates hmetadata hrotates)
      rw [hready, hbase]
      exact ⟨records_extend _ _, rfl⟩
    · rw [(ready_of_large (large_of_rotates hrotates)).1]
    · rintro content hcontent
      obtain rfl := Option.some.inj hcontent
      exact .inr (bounded_base hmetadata _ n)
  | written hmetadata =>
    obtain ⟨hrecords, hends⟩ := records_record files.base call.2
    refine ⟨by simp, by simp, fun _ => ⟨?_, _, rfl, hends⟩, fun _ hsmall => ?_,
      fun _ hlarge => ?_, ?_⟩
    · rw [hrecords, List.getLast?_concat]
    · obtain ⟨hready, hbase⟩ := ready_of_small hsmall
      rw [hready, hrecords, hbase]
      exact ⟨rfl, rfl⟩
    · obtain ⟨hready, hbase⟩ := ready_of_large hlarge
      rw [hready, hrecords, hbase]
      exact ⟨rfl, rfl⟩
    · rintro content hcontent
      obtain rfl := Option.some.inj hcontent
      have hbounded := @bounded_base files _ hmetadata call.2.record call.2.record.length
      rw [List.take_length] at hbounded
      exact .inr hbounded

/-- The files that a sequence of calls leaves behind. -/
def after (start : Files) (calls : List (Faults × Entry)) : Files := (feed append start calls).2

/-- In any sequence of calls, a failed one loses no complete record of the log, and none of the
older generation unless a rotation was begun. One that succeeds ends the log with its record; only
a rotation discards records, and only those of the older generation. -/
theorem audit_log_keeps (start : Files) (calls : List (Faults × Entry)) (call : Faults × Entry) :
    Keeps (after start calls) call (append (after start calls) call) :=
  keeps_append _ _

def noFaults : Faults := ⟨false, false, false, false, none, false⟩

def renameFails : Faults := ⟨false, false, true, false, none, false⟩

/-- The write breaks off after four bytes. -/
def writeBreaks : Faults := ⟨false, false, false, false, some 4, false⟩

def rebootEntry : Entry where
  timestamp := "2026-01-01T00:00:00Z"
  action := "reboot"
  dryRun := false
  result := "accepted"
  oneLine := by decide

/-- A renaming that fails leaves the log as it was, and its older generation removed. -/
lemma append_rename_fails {content older : List UInt8} (h : auditLogMaxBytes ≤ content.length)
    (e : Entry) : append ⟨some content, some older⟩ (renameFails, e) =
      (⟨some content, none⟩, .error .rename) := by
  have hlarge : (⟨some content, some older⟩ : Files).tooLarge = true := decide_eq_true h
  simp [append, rotateIfTooLarge, hlarge, renameFails]

lemma records_of_free {content : List UInt8} (h : newline ∉ content) :
    records (some content) = [] :=
  congrArg Prod.fst (scan_free [] h)

/-- A log of one unfinished line of the given length. -/
def filler (n : ℕ) : List UInt8 := List.replicate n 120

lemma length_filler (n : ℕ) : (filler n).length = n := List.length_replicate

lemma newline_notMem_filler (n : ℕ) : newline ∉ filler n := fun h =>
  absurd (List.eq_of_mem_replicate h) (by decide)

lemma records_old : records (some (utf8 "old" ++ [newline])) = [utf8 "old"] := by decide

/-- A log that is due for rotation, and an older generation of one record. -/
def dueFiles (n : ℕ) : Files := ⟨some (filler n), some (utf8 "old" ++ [newline])⟩

lemma dueFiles_lost {n : ℕ} (h : auditLogMaxBytes ≤ n) :
    (append (dueFiles n) (renameFails, rebootEntry)).2 = .error .rename ∧
      records (dueFiles n).rotated = [utf8 "old"] ∧
      utf8 "old" ∉ records (append (dueFiles n) (renameFails, rebootEntry)).1.log ∧
      (append (dueFiles n) (renameFails, rebootEntry)).1.rotated = none := by
  rw [dueFiles, append_rename_fails ((length_filler n).symm ▸ h), records_of_free
    (newline_notMem_filler n)]
  exact ⟨rfl, records_old, by simp, rfl⟩

lemma torn_continued :
    let torn := after ⟨none, none⟩ [(writeBreaks, rebootEntry)]
    (append torn (noFaults, rebootEntry)).2 = .ok () ∧
      (records (append torn (noFaults, rebootEntry)).1.log).getLast? ≠
        some (utf8 rebootEntry.text) := by
  decide

/-- A rotation whose renaming fails loses the older generation. A write that breaks off leaves a
piece of a line, which the next record continues. -/
theorem audit_log_loses :
    ((append (dueFiles auditLogMaxBytes) (renameFails, rebootEntry)).2 = .error .rename ∧
      records (dueFiles auditLogMaxBytes).rotated = [utf8 "old"] ∧
      utf8 "old" ∉ records
        (append (dueFiles auditLogMaxBytes) (renameFails, rebootEntry)).1.log ∧
      (append (dueFiles auditLogMaxBytes) (renameFails, rebootEntry)).1.rotated = none) ∧
    let torn := after ⟨none, none⟩ [(writeBreaks, rebootEntry)]
    (append torn (noFaults, rebootEntry)).2 = .ok () ∧
      (records (append torn (noFaults, rebootEntry)).1.log).getLast? ≠
        some (utf8 rebootEntry.text) :=
  ⟨dueFiles_lost (Nat.le_refl _), torn_continued⟩

end PcRemote.AuditLog
