import SentinelEdge.Collector.SensorFrames
import SentinelEdge.Collector.Service

/-! # The sensor plane

`SensorPlaneAdapter` turns the frames of one read into observations. Its cursor moves with
every frame that is in sequence, the observations are returned when all frames have been
read.
-/

namespace SentinelEdge.Collector

open Foundation Domain Security

/-- `ImuSample` -/
structure ImuSample where
  sequence : Nat
  monotonicNs : Nat
  x : ℚ
  y : ℚ
  z : ℚ
  unit : String
  deriving DecidableEq

/-- `json` and `pydantic`, as the adapter uses them. -/
structure SensorPlaneLibrary where
  codec : SensorFrame.Codec
  /-- `ImuSample.model_validate` -/
  imuSample : SensorPayload → Except Error ImuSample

inductive SensorPlaneError where
  /-- `SensorPlaneUnavailable` -/
  | unavailable (message : String)
  | raised (e : Error)
  deriving DecidableEq, Repr

structure SensorPlaneAdapter where
  sourceId : String
  bootId : String
  maxPayloadBytes : Nat := 4096
  maxFrames : Nat := 256
  clockEpoch : Nat := 0
  lastSequence : Option Nat := none
  nonBlank : isBlank sourceId = false ∧ isBlank bootId = false
  positive : 0 < maxPayloadBytes ∧ 0 < maxFrames

namespace SensorPlaneAdapter

/-- `SensorPlaneAdapter(...)` -/
def make (sourceId bootId : String) (maxPayloadBytes maxFrames clockEpoch : Int) : Except Error SensorPlaneAdapter :=
  if nonBlank : isBlank sourceId = false ∧ isBlank bootId = false then
    if bounds : 0 < maxPayloadBytes ∧ 0 < maxFrames ∧ 0 ≤ clockEpoch then .ok {
      sourceId := sourceId
      bootId := bootId
      maxPayloadBytes := maxPayloadBytes.toNat
      maxFrames := maxFrames.toNat
      clockEpoch := clockEpoch.toNat
      nonBlank := nonBlank
      positive := by omega }
    else .error (.valueError "sensor-plane bounds must be positive")
  else .error (.valueError "source_id and boot_id must not be blank")

abbrev PlaneCall (α : Type) := Call SensorPlaneAdapter SensorPlaneError α

/-- `except (SensorFrameRejected, ValueError, TypeError)` -/
def caught : SensorFrameError → SensorPlaneError
  | .rejected _ => .unavailable "sensor-plane frame rejected"
  | .raised (.typeError _) => .unavailable "sensor-plane frame rejected"
  | .raised e => if e.isValueError then .unavailable "sensor-plane frame rejected" else .raised e

variable (lib : SensorPlaneLibrary)

/-- The sample in a frame. -/
def sampleOf (a : SensorPlaneAdapter) (frame : List UInt8) : Except SensorPlaneError ImuSample :=
  match decodeSensorFrame lib.codec frame a.maxPayloadBytes with
  | .error e => .error (caught e)
  | .ok payload => match lib.imuSample payload with
      | .error e => .error (caught (.raised e))
      | .ok sample => .ok sample

/-- The measurement that the validator of an observation generates for one axis. -/
def measurement (a : SensorPlaneAdapter) (axis : String) (value : ℚ) (unit : String) : MeasurementValue where
  observedPropertyId := "accel_" ++ axis
  value := value
  unit := unit
  statistic := .instantaneous
  axis := some axis
  orientation := some ("sensor-frame:" ++ axis ++ ":positive-source-declared")
  reference := some ("sensor-frame:" ++ a.sourceId)
  sourceValueKey := "accel_" ++ axis

/-- The observation of a sample, with the ids that are drawn for it. -/
def observed (a : SensorPlaneAdapter) (ids : UUID × UUID) (now : DateTime) (sample : ImuSample) : Observation where
  observationId := ids.1
  correlationId := ids.2
  sourceId := a.sourceId
  hazard := .earthquake
  sourceMode := .live
  bootId := a.bootId
  observedAt := now
  receivedAt := now
  values := Dict.ofPairs [("accel_x", sample.x), ("accel_y", sample.y), ("accel_z", sample.z)]
  units := Dict.ofPairs [("accel_x", sample.unit), ("accel_y", sample.unit), ("accel_z", sample.unit)]
  qualityFlags := []
  sourceLineage := "cortex-m33-sensor-plane"
  clockEpoch := a.clockEpoch
  measurements := [a.measurement "x" sample.x sample.unit, a.measurement "y" sample.y sample.unit,
    a.measurement "z" sample.z sample.unit]
  sequence := sample.sequence

/-- `Observation(...)`: a measurement needs a unit. -/
def observation (a : SensorPlaneAdapter) (ids : UUID × UUID) (now : DateTime) (sample : ImuSample) :
    Except SensorPlaneError Observation :=
  if isBlank sample.unit then
    .error (.raised (.validationError "measurement identifiers and unit must not be blank"))
  else .ok (a.observed ids now sample)

/-- The loop of `read`, with the observations so far. -/
def readFrames (ids : Nat → UUID × UUID) (now : DateTime) (observations : List Observation) :
    List (List UInt8) → PlaneCall (List Observation)
  | [] => pure observations
  | frame :: frames => do
      let a ← Call.read id
      if a.maxFrames ≤ observations.length then Call.raise (.unavailable "sensor-plane frame bound exceeded")
      else do
        let sample ← Call.lift (a.sampleOf lib frame)
        if a.lastSequence.any (fun last => sample.sequence ≤ last) then
          Call.raise (.unavailable "sensor-plane sequence is not increasing")
        else do
          Call.modify (fun a => { a with lastSequence := some sample.sequence })
          let observation ← Call.lift (a.observation (ids observations.length) now sample)
          readFrames ids now (observations ++ [observation]) frames

/-- `read`; `ids` are the ids that `uuid4` draws for its observations, one after the other. -/
def read (ids : Nat → UUID × UUID) (frames : List (List UInt8)) (now : DateTime) : PlaneCall (List Observation) :=
  readFrames lib ids now [] frames

/-! ## Batches -/

variable {lib}
variable {a a' : SensorPlaneAdapter} {ids : Nat → UUID × UUID} {now : DateTime} {observations : List Observation}
  {frame : List UInt8} {frames : List (List UInt8)} {sample : ImuSample} {samples : List ImuSample} {room : Nat}

/-- The cursor at a sample. -/
def advanced (a : SensorPlaneAdapter) (sample : ImuSample) : SensorPlaneAdapter :=
  { a with lastSequence := some sample.sequence }

@[simp] theorem advanced_maxFrames (a : SensorPlaneAdapter) (sample : ImuSample) :
    (a.advanced sample).maxFrames = a.maxFrames := rfl

/-- The sample is ahead of the cursor. -/
def IsAhead (a : SensorPlaneAdapter) (sample : ImuSample) : Prop := ∀ last ∈ a.lastSequence, last < sample.sequence

/-- The frame moves the cursor. -/
def Admits (lib : SensorPlaneLibrary) (a : SensorPlaneAdapter) (frame : List UInt8) : Prop :=
  ∃ sample, a.sampleOf lib frame = .ok sample ∧ a.IsAhead sample

/-- The frames hold these samples, whose units are stated and whose sequence numbers increase
    from the cursor on, and there is room for them. -/
structure Readable (lib : SensorPlaneLibrary) (a : SensorPlaneAdapter) (room : Nat) (frames : List (List UInt8))
    (samples : List ImuSample) : Prop where
  decoded : List.Forall₂ (fun frame sample => a.sampleOf lib frame = .ok sample) frames samples
  stated : ∀ sample ∈ samples, isBlank sample.unit = false
  ahead : ∀ sample ∈ samples, a.IsAhead sample
  increasing : samples.Pairwise (fun s t => s.sequence < t.sequence)
  bounded : frames.length ≤ room

theorem readable_nil : a.Readable lib room [] [] := ⟨.nil, by simp, by simp, .nil, by simp⟩

theorem readable_cons : a.Readable lib room (frame :: frames) (sample :: samples) ↔
    0 < room ∧ a.sampleOf lib frame = .ok sample ∧ a.IsAhead sample ∧ isBlank sample.unit = false ∧
      (a.advanced sample).Readable lib (room - 1) frames samples := by
  constructor
  · rintro ⟨decoded, stated, ahead, increasing, bounded⟩
    simp only [List.forall₂_cons, List.mem_cons, forall_eq_or_imp, List.pairwise_cons, List.length_cons] at *
    refine ⟨by omega, decoded.1, ahead.1, stated.1, decoded.2, stated.2, ?_, increasing.2, by omega⟩
    rintro later member last ⟨⟩
    exact increasing.1 later member
  · rintro ⟨positive, here, first, unit, ⟨decoded, stated, ahead, increasing, bounded⟩⟩
    have behind : ∀ later ∈ samples, sample.sequence < later.sequence := fun later member => ahead later member _ rfl
    constructor
    · exact .cons here decoded
    · simpa [unit] using stated
    · simp only [List.mem_cons, forall_eq_or_imp]
      exact ⟨first, fun later member last known => (first last known).trans (behind later member)⟩
    · exact .cons behind increasing
    · simp only [List.length_cons]
      omega

/-- What the first frame of the rest does. -/
theorem readFrames_cons (lib : SensorPlaneLibrary) (a : SensorPlaneAdapter) (ids : Nat → UUID × UUID) (now : DateTime)
    (observations : List Observation) (frame : List UInt8) (frames : List (List UInt8)) :
    ((observations.length < a.maxFrames → ¬ a.Admits lib frame) ∧
      ∃ e, readFrames lib ids now observations (frame :: frames) a = (.error e, a)) ∨
    ∃ sample, observations.length < a.maxFrames ∧ a.sampleOf lib frame = .ok sample ∧ a.IsAhead sample ∧
      ((isBlank sample.unit = true ∧
        ∃ e, readFrames lib ids now observations (frame :: frames) a = (.error e, a.advanced sample)) ∨
      (isBlank sample.unit = false ∧ readFrames lib ids now observations (frame :: frames) a =
        readFrames lib ids now (observations ++ [a.observed (ids observations.length) now sample]) frames
          (a.advanced sample))) := by
  simp only [readFrames, Call.read_bind, id]
  by_cases full : a.maxFrames ≤ observations.length
  · rw [if_pos full]
    exact Or.inl ⟨fun room => absurd full (not_le.mpr room), _, rfl⟩
  · rw [if_neg full]
    cases decoded : a.sampleOf lib frame with
    | error e =>
        refine Or.inl ⟨fun _ admits => ?_, e, Call.bind_of_error rfl⟩
        obtain ⟨sample, here, -⟩ := admits
        rw [decoded] at here
        cases here
    | ok sample =>
        rw [Call.bind_of_ok (Call.lift_apply _ _)]
        by_cases behind : a.lastSequence.any (fun last => sample.sequence ≤ last) = true
        · rw [if_pos behind]
          refine Or.inl ⟨fun _ admits => ?_, _, rfl⟩
          obtain ⟨other, here, ahead⟩ := admits
          rw [decoded] at here
          cases here
          obtain ⟨last, known, above⟩ := (Option.any_eq_true _ _).mp behind
          have below := ahead last known
          simp only [decide_eq_true_eq] at above
          omega
        · rw [if_neg behind, Call.modify_bind]
          refine Or.inr ⟨sample, not_le.mp full, rfl, ?_, ?_⟩
          · intro last known
            by_contra above
            exact behind ((Option.any_eq_true _ _).mpr ⟨last, known, decide_eq_true (not_lt.mp above)⟩)
          · cases blank : isBlank sample.unit with
            | true =>
                have refused : a.observation (ids observations.length) now sample = .error (.raised
                    (.validationError "measurement identifiers and unit must not be blank")) := if_pos blank
                exact Or.inl ⟨rfl, _, Call.bind_of_error (congrArg (fun r => (r, a.advanced sample)) refused)⟩
            | false =>
                have built : a.observation (ids observations.length) now sample =
                    .ok (a.observed (ids observations.length) now sample) := if_neg (by simp [blank])
                exact Or.inr ⟨rfl, Call.bind_of_ok (congrArg (fun r => (r, a.advanced sample)) built)⟩

/-- The observations of samples, with the ids drawn from the `n`th on. -/
def observedFrom (a : SensorPlaneAdapter) (ids : Nat → UUID × UUID) (now : DateTime) : Nat → List ImuSample → List Observation
  | _, [] => []
  | n, sample :: samples => a.observed (ids n) now sample :: observedFrom a ids now (n + 1) samples

theorem observedFrom_advanced (n : Nat) :
    (a.advanced sample).observedFrom ids now n samples = a.observedFrom ids now n samples := by
  induction samples generalizing n with
  | nil => rfl
  | cons later samples ih => exact congrArg (_ :: ·) (ih (n + 1))

/-- Readable frames give the observations of their samples. -/
theorem readFrames_of_readable (readable : a.Readable lib (a.maxFrames - observations.length) frames samples) :
    ∃ a', readFrames lib ids now observations frames a =
      (.ok (observations ++ a.observedFrom ids now observations.length samples), a') := by
  induction frames generalizing a observations samples with
  | nil =>
      cases readable.decoded
      exact ⟨a, by simp [readFrames, observedFrom]⟩
  | cons frame frames ih =>
      cases samples with
      | nil => cases readable.decoded
      | cons sample samples =>
          obtain ⟨room, here, ahead, unit, rest⟩ := readable_cons.mp readable
          rcases readFrames_cons lib a ids now observations frame frames with
            ⟨stays, -⟩ | ⟨other, -, decoded, -, blank | moves⟩
          · exact absurd ⟨sample, here, ahead⟩ (stays (by omega))
          · cases decoded.symm.trans here
            rw [unit] at blank
            cases blank.1
          · cases decoded.symm.trans here
            have rest : (a.advanced sample).Readable lib ((a.advanced sample).maxFrames -
                (observations ++ [a.observed (ids observations.length) now sample]).length) frames samples := by
              simpa [Nat.sub_sub] using rest
            obtain ⟨a', read⟩ := ih rest
            refine ⟨a', ?_⟩
            rw [moves.2, read, observedFrom_advanced]
            simp [observedFrom]

theorem read_of_readable (ids : Nat → UUID × UUID) (now : DateTime) (readable : a.Readable lib a.maxFrames frames samples) :
    ∃ a', read lib ids frames now a = (.ok (a.observedFrom ids now 0 samples), a') :=
  @readFrames_of_readable lib a ids now [] frames samples readable

/-- The samples of frames that are read are readable. -/
theorem readable_of_readFrames {all : List Observation}
    (read : readFrames lib ids now observations frames a = (.ok all, a')) :
    ∃ samples, a.Readable lib (a.maxFrames - observations.length) frames samples := by
  induction frames generalizing a observations with
  | nil => exact ⟨[], readable_nil⟩
  | cons frame frames ih =>
      rcases readFrames_cons lib a ids now observations frame frames with
        ⟨-, e, raised⟩ | ⟨sample, room, here, ahead, ⟨-, e, raised⟩ | ⟨unit, moves⟩⟩
      · cases raised.symm.trans read
      · cases raised.symm.trans read
      · obtain ⟨samples, rest⟩ := ih (moves.symm.trans read)
        refine ⟨sample :: samples, readable_cons.mpr ⟨by omega, here, ahead, unit, ?_⟩⟩
        simpa [Nat.sub_sub] using rest

/-- The cursor never goes back. -/
theorem readFrames_advances (lib : SensorPlaneLibrary) (ids : Nat → UUID × UUID) (now : DateTime)
    (frames : List (List UInt8)) (a : SensorPlaneAdapter) (observations : List Observation) :
    ∀ last ∈ a.lastSequence, ∃ now' ∈ (readFrames lib ids now observations frames a).2.lastSequence, last ≤ now' := by
  induction frames generalizing a observations with
  | nil => exact fun last known => ⟨last, known, le_rfl⟩
  | cons frame frames ih =>
      intro last known
      rcases readFrames_cons lib a ids now observations frame frames with
        ⟨-, e, raised⟩ | ⟨sample, -, -, ahead, ⟨-, e, raised⟩ | ⟨-, moves⟩⟩
      · rw [raised]
        exact ⟨last, known, le_rfl⟩
      · rw [raised]
        exact ⟨sample.sequence, rfl, (ahead last known).le⟩
      · rw [moves]
        obtain ⟨final, reached, above⟩ := ih (a.advanced sample) _ sample.sequence rfl
        exact ⟨final, reached, (ahead last known).le.trans above⟩

/-- Once its first frame is admitted, a read leaves the cursor elsewhere. -/
theorem read_moves (ids : Nat → UUID × UUID) (now : DateTime) (frames : List (List UInt8)) (admits : a.Admits lib frame) :
    (read lib ids (frame :: frames) now a).2.lastSequence ≠ a.lastSequence := by
  have elsewhere : ∀ sample : ImuSample, a.IsAhead sample →
      ∀ final ∈ (read lib ids (frame :: frames) now a).2.lastSequence, sample.sequence ≤ final →
      (read lib ids (frame :: frames) now a).2.lastSequence ≠ a.lastSequence := by
    intro sample ahead final reached above same
    have below := ahead final (same ▸ reached)
    omega
  rcases readFrames_cons lib a ids now [] frame frames with
    ⟨stays, -⟩ | ⟨sample, -, -, ahead, ⟨-, e, raised⟩ | ⟨-, moves⟩⟩
  · exact absurd admits (stays a.positive.2)
  · exact elsewhere sample ahead sample.sequence (by rw [read, raised]; rfl) le_rfl
  · obtain ⟨final, reached, above⟩ := readFrames_advances lib ids now frames (a.advanced sample)
      ([] ++ [a.observed (ids ([] : List Observation).length) now sample]) sample.sequence rfl
    exact elsewhere sample ahead final (by rw [read, moves]; exact reached) above

/-- The cursor is where it was, and frames that can be read alone can be read again. -/
def LosesNothing (lib : SensorPlaneLibrary) (frames : List (List UInt8)) (a a' : SensorPlaneAdapter) : Prop :=
  a'.lastSequence = a.lastSequence ∧ ∀ (valid : List (List UInt8)) samples, valid.Sublist frames →
    a.Readable lib a.maxFrames valid samples → ∀ ids now, ∃ a'', read lib ids valid now a' =
      (.ok (a.observedFrom ids now 0 samples), a'')

/-- A read that fails loses nothing exactly if the whole batch can be read, or its first frame
    does not move the cursor. -/
theorem failed_read_loses_nothing_iff (lib : SensorPlaneLibrary) (ids : Nat → UUID × UUID) (frames : List (List UInt8))
    (now : DateTime) (a : SensorPlaneAdapter) :
    (∀ e a', read lib ids frames now a = (.error e, a') → LosesNothing lib frames a a') ↔
      (∃ samples, a.Readable lib a.maxFrames frames samples) ∨ ∀ first ∈ frames.head?, ¬ a.Admits lib first := by
  constructor
  · intro keeps
    by_cases readable : ∃ samples, a.Readable lib a.maxFrames frames samples
    · exact Or.inl readable
    · right
      intro first head admits
      obtain ⟨rest, rfl⟩ : ∃ rest, frames = first :: rest := by
        cases frames with
        | nil => cases head
        | cons frame rest =>
            cases head
            exact ⟨rest, rfl⟩
      have moved := read_moves ids now rest admits
      rcases result : read lib ids (first :: rest) now a with ⟨outcome, a'⟩
      rw [result] at moved
      cases outcome with
      | ok all => exact readable (readable_of_readFrames result)
      | error e => exact moved (keeps e a' result).1
  · intro harmless e a' raised
    have unmoved : a' = a := by
      cases harmless with
      | inl readable =>
          obtain ⟨samples, readable⟩ := readable
          obtain ⟨after, returned⟩ := read_of_readable ids now readable
          cases returned.symm.trans raised
      | inr stuck =>
          cases frames with
          | nil => cases raised
          | cons frame frames =>
              rcases readFrames_cons lib a ids now [] frame frames with
                ⟨-, cause, failed⟩ | ⟨sample, -, here, ahead, -⟩
              · cases failed.symm.trans raised
                rfl
              · exact absurd ⟨sample, here, ahead⟩ (stuck frame rfl)
    subst unmoved
    refine ⟨rfl, ?_⟩
    intro valid samples _ readable ids now
    exact read_of_readable ids now readable

/-- The payload of a sample at rest. -/
def atRest : Json := .obj [("monotonic_ns", .int 0), ("sequence", .int 1), ("unit", .str "g"), ("x", .int 0), ("y", .int 0),
  ("z", .int 1)]

/-- The libraries on that sample. -/
def restLibrary : SensorPlaneLibrary where
  codec := {
    dumps := fun value =>
      if value = atRest then .ok (encode atRest.text) else .error (.typeError "Object is not JSON serializable")
    loads := fun body => if body = encode atRest.text then .ok atRest else .error .jsonDecodeError }
  imuSample payload :=
    if .obj payload = atRest then .ok ⟨1, 0, 0, 0, 1, "g"⟩ else .error (.validationError "ImuSample")

def pico : SensorPlaneAdapter where
  sourceId := "pico-imu"
  bootId := "pico-boot"
  nonBlank := by decide
  positive := by decide

/-- Its frame, and one that has been cut off. -/
def interrupted : List (List UInt8) := [SensorFrame.frameOf (encode atRest.text), []]

theorem sample_before_truncated_frame_is_lost : ¬ ∀ (ids : Nat → UUID × UUID) (frames : List (List UInt8)) (now : DateTime)
    (a a' : SensorPlaneAdapter) (e : SensorPlaneError),
    read restLibrary ids frames now a = (.error e, a') → LosesNothing restLibrary frames a a' := by
  intro keeps
  obtain ⟨failed, moved⟩ :
      (read restLibrary (fun n => (UUID.ofNat n, UUID.ofNat n)) interrupted 0 pico).1.isOk = false ∧
      (read restLibrary (fun n => (UUID.ofNat n, UUID.ofNat n)) interrupted 0 pico).2.lastSequence ≠ pico.lastSequence := by
    decide +kernel
  rcases result : read restLibrary (fun n => (UUID.ofNat n, UUID.ofNat n)) interrupted 0 pico with ⟨outcome, after⟩
  rw [result] at failed moved
  cases outcome with
  | ok all => cases failed
  | error e => exact moved (keeps _ _ _ _ _ e result).1

end SensorPlaneAdapter

end SentinelEdge.Collector
