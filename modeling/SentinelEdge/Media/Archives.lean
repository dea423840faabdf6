import Mathlib.Data.List.Infix
import SentinelEdge.Update.Metadata

/-! # Archive inspection

`inspect_archive` looks at the members of an archive before anything is extracted.
What the members of an archive it reports valid cannot do, and what the test for a
drive lets through.
-/

namespace SentinelEdge.Media

open Foundation Domain
open Update (split replaceBackslashes)

/-- What reading the archive raises. -/
inductive ZipError where
  /-- `OSError`, `BadZipFile`, `RuntimeError` or `ValueError` -/
  | handled
  | unhandled
  deriving DecidableEq

structure ArchiveMember where
  filename : String
  fileSize : Int
  /-- What `archive.read` of the member gives. -/
  content : Except ZipError (List UInt8)

/-- The keyword arguments of `inspect_archive`. -/
structure ArchiveLimits where
  maximumInputBytes : Int := 32 * 1024 * 1024
  maximumMembers : Int := 256
  maximumUncompressedBytes : Int := 64 * 1024 * 1024
  maximumNesting : Int := 8

structure ArchiveReport where
  valid : Bool
  failures : List String
  members : Nat
  deriving DecidableEq

namespace ArchiveMember

def name (m : ArchiveMember) : String := replaceBackslashes m.filename

/-- The segments of the name that are neither empty nor the directory they are in. -/
def parts (m : ArchiveMember) : List String := FilePath.parts m.name

/-- `":" in parts[0:1]` asks for a first segment that is a colon. -/
def pathInvalid (limits : ArchiveLimits) (m : ArchiveMember) : Bool :=
  FilePath.isAbsolute m.name || m.parts.contains ".." || (m.parts.take 1).contains ":" ||
    decide (limits.maximumNesting < m.parts.length)

def isMarkup (P : Platform) (m : ArchiveMember) : Bool :=
  [".xml", ".svg", ".xhtml"].any fun tail => tail.toList.isSuffixOf (P.lower m.name).toList

end ArchiveMember

/-- `sample.lower()` on bytes. -/
def lowerBytes (sample : List UInt8) : List UInt8 := sample.map fun b => if 65 ≤ b ∧ b ≤ 90 then b + 32 else b

/-- `b"<!doctype" in sample or b"<!entity" in sample` -/
def declaresEntities (sample : List UInt8) : Bool :=
  ["<!doctype", "<!entity"].any fun tag => decide (tag.toUTF8.toList <:+: lowerBytes sample)

/-- What the loop has found so far. -/
structure ArchiveScan where
  failures : List String
  total : Int := 0

namespace ArchiveScan

def fail (scan : ArchiveScan) (failed : Bool) (failure : String) : ArchiveScan :=
  if failed then { scan with failures := scan.failures ++ [failure] } else scan

/-- The path and the size of a member. -/
def measure (limits : ArchiveLimits) (scan : ArchiveScan) (m : ArchiveMember) : ArchiveScan :=
  let scan := scan.fail (m.pathInvalid limits) "archive_path_or_nesting_invalid"
  let scan := { scan with total := scan.total + max 0 m.fileSize }
  scan.fail (limits.maximumUncompressedBytes < scan.total) "archive_uncompressed_size_limit_exceeded"

/-- One round of the loop, and the error that ends it. -/
def visit (P : Platform) (limits : ArchiveLimits) (scan : ArchiveScan) (m : ArchiveMember) : ArchiveScan × Option ZipError :=
  let scan := scan.measure limits m
  if m.isMarkup P then
    match m.content with
    | .error error => (scan, some error)
    | .ok sample => (scan.fail (declaresEntities sample) "archive_xml_entity_declaration_rejected", none)
  else (scan, none)

def run (P : Platform) (limits : ArchiveLimits) : ArchiveScan → List ArchiveMember → ArchiveScan × Option ZipError
  | scan, [] => (scan, none)
  | scan, m :: rest =>
      match scan.visit P limits m with
      | (scan, some error) => (scan, some error)
      | (scan, none) => run P limits scan rest

end ArchiveScan

def reported (failures : List String) (members : Nat) : ArchiveReport := ⟨failures.isEmpty, sortedSet failures, members⟩

/-- `inspect_archive`, on what opening the archive gives. -/
def inspectArchive (P : Platform) (limits : ArchiveLimits) (inputBytes : Int) (opened : Except ZipError (List ArchiveMember)) :
    Except ZipError ArchiveReport :=
  if limits.maximumInputBytes < inputBytes then .ok (reported ["archive_input_size_limit_exceeded"] 0)
  else match opened with
    | .error .handled => .ok (reported ["archive_invalid"] 0)
    | .error .unhandled => .error .unhandled
    | .ok members =>
        let start : ArchiveScan := { failures :=
          if limits.maximumMembers < members.length then ["archive_member_count_limit_exceeded"] else [] }
        match start.run P limits members with
        | (scan, none) => .ok (reported scan.failures members.length)
        | (scan, some .handled) => .ok (reported (scan.failures ++ ["archive_invalid"]) members.length)
        | (_, some .unhandled) => .error .unhandled

/-! ## What a valid report rules out -/

namespace ArchiveScan

variable {P : Platform} {limits : ArchiveLimits}

theorem fail_clean {scan : ArchiveScan} {failed : Bool} {failure : String} :
    (scan.fail failed failure).failures = [] ↔ scan.failures = [] ∧ failed = false := by
  cases failed <;> simp [fail]

theorem fail_total (scan : ArchiveScan) (failed : Bool) (failure : String) : (scan.fail failed failure).total = scan.total := by
  cases failed <;> rfl

theorem measure_clean {scan : ArchiveScan} {m : ArchiveMember} :
    (scan.measure limits m).failures = [] ↔
      scan.failures = [] ∧ m.pathInvalid limits = false ∧ (scan.measure limits m).total ≤ limits.maximumUncompressedBytes := by
  simp only [measure, fail_clean, fail_total, decide_eq_false_iff_not, not_lt, and_assoc]

theorem measure_total (scan : ArchiveScan) (m : ArchiveMember) :
    (scan.measure limits m).total = scan.total + max 0 m.fileSize := by
  simp only [measure, fail_total]

/-- A round that goes on without a failure found none before, and none in the member. -/
theorem visit_clean {scan next : ArchiveScan} {m : ArchiveMember} (visited : scan.visit P limits m = (next, none))
    (clean : next.failures = []) : (scan.measure limits m).failures = [] ∧ next.total = scan.total + max 0 m.fileSize := by
  unfold visit at visited
  simp only at visited
  split at visited
  · cases content : m.content with
    | error error => simp [content] at visited
    | ok sample =>
        simp only [content, Prod.mk.injEq, and_true] at visited
        subst visited
        exact ⟨(fail_clean.mp clean).1, by rw [fail_total, measure_total]⟩
  · simp only [Prod.mk.injEq, and_true] at visited
    subst visited
    exact ⟨clean, measure_total scan m⟩

/-- Nor did the whole loop. -/
theorem run_clean {scan last : ArchiveScan} {members : List ArchiveMember} (ran : scan.run P limits members = (last, none))
    (clean : last.failures = []) :
    scan.failures = [] ∧ (∀ m ∈ members, m.pathInvalid limits = false) ∧
      last.total = scan.total + (members.map fun m => max 0 m.fileSize).sum ∧
      (members ≠ [] → last.total ≤ limits.maximumUncompressedBytes) := by
  induction members generalizing scan with
  | nil =>
      cases ran
      simp [clean]
  | cons m rest ih =>
      rw [run] at ran
      obtain ⟨next, outcome⟩ : ∃ next, scan.visit P limits m = next := ⟨_, rfl⟩
      rw [outcome] at ran
      obtain ⟨next, error⟩ := next
      cases error with
      | some error => simp at ran
      | none =>
          obtain ⟨nextClean, others, total, bounded⟩ := ih ran
          obtain ⟨measured, grown⟩ := visit_clean outcome nextClean
          obtain ⟨before, path, within⟩ := measure_clean.mp measured
          refine ⟨before, ?_, ?_, ?_⟩
          · exact List.forall_mem_cons.mpr ⟨path, others⟩
          · rw [total, grown, List.map_cons, List.sum_cons, add_assoc]
          · intro _
            cases rest with
            | nil =>
                rw [measure_total] at within
                simp only [List.map_nil, List.sum_nil, add_zero] at total
                omega
            | cons => exact bounded (by simp)

end ArchiveScan

theorem inspectArchive_valid {P : Platform} {limits : ArchiveLimits} {inputBytes : Int} {members : List ArchiveMember}
    {report : ArchiveReport} (inspected : inspectArchive P limits inputBytes (.ok members) = .ok report)
    (valid : report.valid = true) :
    (members.length : Int) ≤ limits.maximumMembers ∧ (∀ m ∈ members, m.pathInvalid limits = false) ∧
      (members ≠ [] → (members.map fun m => max 0 m.fileSize).sum ≤ limits.maximumUncompressedBytes) := by
  unfold inspectArchive at inspected
  split at inspected
  · cases inspected
    simp [reported] at valid
  · simp only at inspected
    split at inspected
    · rename_i last ran
      cases inspected
      have clean : last.failures = [] := by simpa [reported] using valid
      obtain ⟨start, paths, total, bounded⟩ := ArchiveScan.run_clean ran clean
      refine ⟨?_, paths, ?_⟩
      · by_contra many
        simp [not_le.mp many] at start
      · intro some
        rw [zero_add] at total
        rw [← total]
        exact bounded some
    · cases inspected
      simp [reported] at valid
    · cases inspected

/-! ## Confinement -/

/-- The segments of the name that are not empty. -/
def ArchiveMember.segments (m : ArchiveMember) : List String := (split m.name '/').filter (fun segment => segment ≠ "")

/-- The name does not begin with a segment that may name a drive. -/
def ArchiveMember.Driveless (m : ArchiveMember) : Prop := ∀ first ∈ m.parts.head?, ':' ∉ first.toList

/-- Extracted below a directory, on any system, the members stay there and stay within the limits. -/
structure Confined (limits : ArchiveLimits) (members : List ArchiveMember) : Prop where
  relative : ∀ m ∈ members, FilePath.isAbsolute m.name = false
  driveless : ∀ m ∈ members, m.Driveless
  downward : ∀ m ∈ members, ".." ∉ split m.name '/'
  shallow : ∀ m ∈ members, (m.segments.length : Int) ≤ limits.maximumNesting
  few : (members.length : Int) ≤ limits.maximumMembers
  small : (members.map ArchiveMember.fileSize).sum ≤ limits.maximumUncompressedBytes

theorem mem_parts_iff (m : ArchiveMember) : ".." ∈ m.parts ↔ ".." ∈ split m.name '/' := by
  simp [ArchiveMember.parts, FilePath.parts, split]

theorem sum_fileSize_le (members : List ArchiveMember) :
    (members.map ArchiveMember.fileSize).sum ≤ (members.map fun m => max 0 m.fileSize).sum := by
  induction members with
  | nil => simp
  | cons m rest ih =>
      simp only [List.map_cons, List.sum_cons]
      omega

/-- The members of an archive that is reported valid are confined exactly when none of
    them begins with a drive, since the test for that finds nothing but a lone colon, when
    none is nested too deep with the segments `.` counted, and when some size is allowed. -/
theorem valid_archive_confined_iff (P : Platform) (limits : ArchiveLimits) {inputBytes : Int} {members : List ArchiveMember}
    {report : ArchiveReport} (inspected : inspectArchive P limits inputBytes (.ok members) = .ok report)
    (valid : report.valid = true) :
    Confined limits members ↔ (∀ m ∈ members, m.Driveless) ∧
      (∀ m ∈ members, (m.segments.length : Int) ≤ limits.maximumNesting) ∧
      (members ≠ [] ∨ 0 ≤ limits.maximumUncompressedBytes) := by
  obtain ⟨few, paths, bounded⟩ := inspectArchive_valid inspected valid
  have path (m : ArchiveMember) (here : m ∈ members) : FilePath.isAbsolute m.name = false ∧ ".." ∉ m.parts := by
    have tested := paths m here
    simp only [ArchiveMember.pathInvalid, Bool.or_eq_false_iff, List.contains_eq_mem, decide_eq_false_iff_not] at tested
    exact ⟨tested.1.1.1, tested.1.1.2⟩
  constructor
  · intro confined
    refine ⟨confined.driveless, confined.shallow, ?_⟩
    by_cases none : members = []
    · have small := confined.small
      rw [none] at small
      exact .inr small
    · exact .inl none
  · rintro ⟨driveless, shallow, some⟩
    refine ⟨fun m here => (path m here).1, driveless, ?_, shallow, few, ?_⟩
    · intro m here
      rw [← mem_parts_iff]
      exact (path m here).2
    · by_cases none : members = []
      · rw [none]
        exact some.resolve_left (not_not.mpr none)
      · exact (sum_fileSize_le members).trans (bounded none)

/-- An archive of one empty text file. -/
def archiveOf (filename : String) : List ArchiveMember := [⟨filename, 0, .ok []⟩]

/-- A manual in a directory. -/
theorem manual_confined_iff : Confined {} (archiveOf "docs/manual.txt") ↔
    (∀ m ∈ archiveOf "docs/manual.txt", m.Driveless) ∧
      (∀ m ∈ archiveOf "docs/manual.txt", (m.segments.length : Int) ≤ 8) ∧
      (archiveOf "docs/manual.txt" ≠ [] ∨ (0 : Int) ≤ 64 * 1024 * 1024) :=
  @valid_archive_confined_iff .transparent {} 100 _ ⟨true, [], 1⟩ (by decide +kernel) rfl

/-- A file for the drive C is reported valid. -/
theorem drive_reported_valid :
    inspectArchive .transparent {} 100 (.ok (archiveOf "C:evil.txt")) = .ok ⟨true, [], 1⟩ ∧
      ¬ Confined {} (archiveOf "C:evil.txt") := by
  refine ⟨by decide +kernel, ?_⟩
  intro confined
  have driveless := confined.driveless ⟨"C:evil.txt", 0, .ok []⟩ (by simp [archiveOf])
  exact driveless "C:evil.txt" (by decide +kernel) (by decide +kernel)

end SentinelEdge.Media
