import Mathlib.Algebra.Order.Ring.Cast
import Mathlib.Tactic.Linarith
import SentinelEdge.Collector.Service

/-! # What the collector remembers of a source

Of the observations it has accepted the collector keeps the last one's boot, clock
epoch, sequence number and time, and the latest time of all. Lateness is measured
from the last one, so late observations may follow each other ever further back;
sequence numbers are compared with the last one, so a boot that comes back may
repeat them.
-/

namespace SentinelEdge.Collector

open Foundation Domain Analysis

variable {P : Platform}

namespace StreamingSourceCollector

variable {c c' : StreamingSourceCollector} {o : Observation} {source : String} {log : List Observation}

/-- What a health record says about the observations of its source. -/
def memory (h : SourceHealth) : Option String × Option Nat × Option Nat × Option DateTime × Option DateTime :=
  (h.bootId, h.clockEpoch, h.lastSequence, h.lastObservedAt, h.eventTimeWatermark)

def view (c : StreamingSourceCollector) (source : String) :
    Option (Option String × Option Nat × Option Nat × Option DateTime × Option DateTime) :=
  (c.health.get? source).map memory

/-- The two remember the same. -/
def SameView (c c' : StreamingSourceCollector) : Prop :=
  c'.sourceConfigurations = c.sourceConfigurations ∧ ∀ source, c'.view source = c.view source

theorem SameView.refl (c : StreamingSourceCollector) : SameView c c := ⟨rfl, fun _ => rfl⟩

theorem SameView.trans {c₁ c₂ c₃ : StreamingSourceCollector} (first : SameView c₁ c₂) (later : SameView c₂ c₃) :
    SameView c₁ c₃ := ⟨later.1.trans first.1, fun source => (later.2 source).trans (first.2 source)⟩

theorem view_insert (c : StreamingSourceCollector) {h h' : SourceHealth} {key : String} (known : c.health.get? key = some h)
    (same : memory h' = memory h) (s : SourceCursorStore) :
    SameView c { c with cursorStore := s, health := c.health.insert key h' } := by
  refine ⟨rfl, fun source => ?_⟩
  simp only [view, Dict.get?_insert]
  split
  · next here => rw [here, known, Option.map_some, Option.map_some, same]
  · rfl

/-! ## Marking -/

theorem record_health (P : Platform) (sourceId : String) (updated : SourceHealth) (now : DateTime)
    (c : StreamingSourceCollector) : ∃ s, (record P sourceId updated now c).2 =
      { c with cursorStore := s, health := c.health.insert sourceId updated } := by
  unfold record
  rw [Call.modify_bind]
  exact ⟨_, rfl⟩

theorem markOne_view (P : Platform) (now : DateTime) (thresholdSeconds : Int) {item : String × SourceHealth}
    (shown : c.view item.1 = some (memory item.2)) : SameView c (markOne P now thresholdSeconds item c).2 := by
  unfold markOne
  split
  · obtain ⟨s, after⟩ := record_health P item.1 (staled item.2) now c
    obtain ⟨h, known, same⟩ := Option.map_eq_some_iff.mp shown
    have unchanged : memory (staled item.2) = memory h := same.symm
    rw [after]
    exact view_insert c known unchanged s
  · exact SameView.refl c

theorem markOverdue_view (P : Platform) (now : DateTime) (thresholdSeconds : Int) (items : List (String × SourceHealth)) :
    ∀ c : StreamingSourceCollector, (∀ item ∈ items, c.view item.1 = some (memory item.2)) →
      SameView c (markOverdue P now thresholdSeconds items c).2 := by
  induction items with
  | nil => exact fun c _ => SameView.refl c
  | cons item items ih =>
      intro c shown
      have marked := markOne_view P now thresholdSeconds (shown item List.mem_cons_self)
      unfold markOverdue
      cases ran : markOne P now thresholdSeconds item c with
      | mk r c₁ =>
          rw [ran] at marked
          cases r with
          | error e =>
              rw [Call.bind_of_error ran]
              exact marked
          | ok _ =>
              rw [Call.bind_of_ok ran]
              apply marked.trans
              apply ih
              intro item member
              rw [marked.2]
              exact shown item (List.mem_cons_of_mem _ member)

theorem markStale_view (P : Platform) (now : DateTime) (thresholdSeconds : Int) (c : StreamingSourceCollector) :
    SameView c (markStale P now thresholdSeconds c).2 := by
  unfold markStale
  rw [Call.read_bind]
  apply markOverdue_view
  intro item member
  rw [view, Dict.get?_eq_some_iff.mpr member, Option.map_some]

theorem markFailed_view (P : Platform) (sourceId reason : String) (now : DateTime) (c : StreamingSourceCollector) :
    SameView c (markFailed P sourceId reason now c).2 := by
  unfold markFailed
  rw [Call.read_bind]
  cases known : c.health.get? sourceId with
  | none => exact SameView.refl c
  | some current =>
      obtain ⟨s, after⟩ := record_health P sourceId (failed reason current) now c
      have unchanged : memory (failed reason current) = memory current := rfl
      dsimp only
      rw [after]
      exact view_insert c known unchanged s

/-! ## The examination -/

theorem settled_admitted {previous : Option SourceHealth} {examination : Examination} {state : HealthState}
    {reasons : List String} (went : settled o previous examination = .admitted state reasons) :
    ∃ state₀ reasons₀, examination = .admitted state₀ reasons₀ := by
  cases examination with
  | refused e => cases went
  | late rejected => cases went
  | admitted state₀ reasons₀ => exact ⟨state₀, reasons₀, rfl⟩

theorem settled_late {previous : Option SourceHealth} {examination : Examination} {rejected : SourceHealth}
    (went : settled o previous examination = .late rejected) : examination = .late rejected := by
  cases examination with
  | refused e => cases went
  | late other => exact went
  | admitted state₀ reasons₀ =>
      simp only [settled] at went
      repeat' split at went
      all_goals cases went

/-- An admitted observation is ahead of the last one of its boot and epoch, and not
    too far behind the last one of its source. -/
theorem examine_admitted {state : HealthState} {reasons : List String} (examined : c.examine o = .admitted state reasons)
    {previous : SourceHealth} (known : c.health.get? o.sourceId = some previous) {lastSequence : Nat} {last : DateTime}
    (sequence : previous.lastSequence = some lastSequence) (observed : previous.lastObservedAt = some last) :
    (sameEpoch previous o = true → lastSequence < o.sequence) ∧
      (o.observedAt < last → ((last - o.observedAt : Int) : ℚ) ≤ c.latenessBound o.sourceId) := by
  unfold examine at examined
  split at examined
  · cases examined
  · split at examined
    · cases examined
    · obtain ⟨state₀, reasons₀, went⟩ := settled_admitted examined
      simp only [compared, known, continued, sequence, observed] at went
      split at went
      · cases went
      · next ahead =>
          split at went
          · cases went
          · next near =>
              constructor
              · intro same
                simpa [same] using ahead
              · intro late
                simpa [late] using near

/-- A late observation that goes too far back degrades the record and nothing else. -/
theorem examine_late {rejected : SourceHealth} (examined : c.examine o = .late rejected) :
    ∃ previous, c.health.get? o.sourceId = some previous ∧ rejected = { previous with
      state := .degraded
      reasonCodes := sortedSet (previous.reasonCodes ++ ["late_event_exceeded"]) } := by
  unfold examine at examined
  split at examined
  · cases examined
  · split at examined
    · cases examined
    · have went := settled_late examined
      cases known : c.health.get? o.sourceId with
      | none =>
          rw [compared, known] at went
          cases went
      | some previous =>
          refine ⟨previous, rfl, ?_⟩
          simp only [compared, known, continued] at went
          split at went
          · cases went
          · split at went
            · cases went
            · split at went
              · cases went
                rfl
              · cases went

/-! ## Runs -/

/-- The log of a source and what the collector remembers of it: its last and its
    latest observation. -/
inductive Tracks (c : StreamingSourceCollector) (source : String) : List Observation → Prop where
  | fresh (unknown : c.view source = none) : Tracks c source []
  | known {log : List Observation} {last top : Observation} (ends : log.getLast? = some last) (among : top ∈ log)
      (seen : c.view source = some (some last.bootId, some last.clockEpoch, some last.sequence, some last.observedAt,
        some top.observedAt))
      (latest : ∀ o ∈ log, o.observedAt ≤ top.observedAt) : Tracks c source log

/-- What the operation accepts from the source. -/
def acceptedOf (P : Platform) (source : String) (c : StreamingSourceCollector) (op : Operation) : List Observation :=
  (accepted P c op).filter (fun o => o.sourceId = source)

theorem Tracks.congr (tracks : Tracks c source log) (same : c'.view source = c.view source) : Tracks c' source log := by
  cases tracks with
  | fresh unknown => exact .fresh (same.trans unknown)
  | known ends among seen latest => exact .known ends among (same.trans seen) latest

theorem Tracks.accepted (tracks : Tracks c source log) (here : o.sourceId = source) (state : HealthState)
    (reasons : List String) (seen : c'.view source = some (memory (c.recorded o state reasons))) :
    Tracks c' source (log ++ [o]) := by
  cases tracks with
  | fresh unknown =>
      have watermark : (c.health.get? o.sourceId).bind SourceHealth.eventTimeWatermark = none := by
        rw [here, Option.map_eq_none_iff.mp unknown, Option.bind_none]
      refine .known (List.getLast?_concat ..) (List.mem_append_right _ (List.mem_singleton.mpr rfl)) ?_ ?_
      · rw [seen, memory, recorded, watermark]
      · intro other member
        rw [List.nil_append, List.mem_singleton] at member
        rw [member]
  | @known _ last top ends among remembered latest =>
      obtain ⟨h, known, same⟩ := Option.map_eq_some_iff.mp remembered
      have watermark : (c.health.get? o.sourceId).bind SourceHealth.eventTimeWatermark = some top.observedAt := by
        rw [here, known, Option.bind_some]
        exact congrArg (fun m => m.2.2.2.2) same
      by_cases late : o.observedAt < top.observedAt
      · refine .known (List.getLast?_concat ..) (List.mem_append_left _ among) ?_ ?_
        · rw [seen, memory, recorded, watermark]
          simp only [if_pos late]
        · intro other member
          cases List.mem_append.mp member with
          | inl old => exact latest other old
          | inr new =>
              rw [List.mem_singleton.mp new]
              exact le_of_lt late
      · refine .known (List.getLast?_concat ..) (List.mem_append_right _ (List.mem_singleton.mpr rfl)) ?_ ?_
        · rw [seen, memory, recorded, watermark]
          simp only [if_neg late]
        · intro other member
          cases List.mem_append.mp member with
          | inl old => exact (latest other old).trans (not_lt.mp late)
          | inr new => rw [List.mem_singleton.mp new]

/-- The system with the log of one source keeps track of it. -/
def Follows (source : String) (configurations : Dict String SourceConfiguration)
    (x : StreamingSourceCollector × List Observation) : Prop :=
  x.1.sourceConfigurations = configurations ∧ Tracks x.1 source x.2

variable {configurations : Dict String SourceConfiguration} {x : StreamingSourceCollector × List Observation}

theorem Follows.of_view (follows : Follows source configurations x) (same : SameView x.1 c') :
    Follows source configurations (c', x.2) :=
  ⟨same.1.trans follows.1, follows.2.congr (same.2 source)⟩

theorem Follows.step (P : Platform) (follows : Follows source configurations x) (op : Operation) :
    Follows source configurations (traced (step P) (acceptedOf P source) x op) := by
  obtain ⟨c, log⟩ := x
  cases op with
  | markStale now thresholdSeconds =>
      show Follows source configurations ((markStale P now thresholdSeconds c).2, log ++ [])
      rw [List.append_nil]
      exact follows.of_view (markStale_view P now thresholdSeconds c)
  | markFailed sourceId reason now =>
      show Follows source configurations ((markFailed P sourceId reason now c).2, log ++ [])
      rw [List.append_nil]
      exact follows.of_view (markFailed_view P sourceId reason now c)
  | ingest o =>
      have ingests := ingest_ingests P c o
      show Follows source configurations ((ingest P o c).2,
        log ++ (ingest P o c).1.toOption.toList.filter (fun o => o.sourceId = source))
      have unlogged : ∀ e : Error, (Except.error e : Except Error Observation).toOption.toList.filter
          (fun o => o.sourceId = source) = [] := fun e => rfl
      generalize (ingest P o c).1 = r at ingests ⊢
      generalize (ingest P o c).2 = c' at ingests ⊢
      cases ingests with
      | refuses examined =>
          rw [unlogged, List.append_nil]
          exact follows
      | unrecorded examined raised =>
          rw [unlogged, List.append_nil]
          exact follows
      | raises not examined =>
          rw [unlogged, List.append_nil]
          exact follows.of_view ⟨rfl, fun _ => rfl⟩
      | @degrades rejected e s examined recorded =>
          obtain ⟨previous, known, same⟩ := examine_late examined
          have unchanged : memory rejected = memory previous := by
            rw [same]
            rfl
          rw [unlogged, List.append_nil]
          exact follows.of_view (view_insert c known unchanged _)
      | @accepts state reasons accepts examined =>
          refine ⟨follows.1, ?_⟩
          by_cases here : o.sourceId = source
          · have kept : (Except.ok o : Except Error Observation).toOption.toList.filter (fun o => o.sourceId = source) = [o] := by
              simp [Except.toOption, here]
            rw [kept]
            refine follows.2.accepted here state reasons ?_
            rw [view, Dict.get?_insert, if_pos here.symm, Option.map_some]
          · have left : (Except.ok o : Except Error Observation).toOption.toList.filter (fun o => o.sourceId = source) = [] := by
              simp [Except.toOption, here]
            rw [left, List.append_nil]
            refine follows.2.congr ?_
            simp only [view, Dict.get?_insert, if_neg (Ne.symm here)]

/-- A collector on an empty store, with its sources configured. -/
def start (capacity : Int) (measurements : Domain.Observation → MeasurementContractReport)
    (configurations : Dict String SourceConfiguration) : StreamingSourceCollector :=
  { create capacity measurements {} with sourceConfigurations := configurations }

theorem start_follows (capacity : Int) (measurements : Domain.Observation → MeasurementContractReport)
    (configurations : Dict String SourceConfiguration) (source : String) :
    Follows source configurations (start capacity measurements configurations, []) :=
  ⟨rfl, .fresh rfl⟩

theorem emits_iff (R : Observation → Observation → Prop) (x : StreamingSourceCollector × List Observation)
    (op : Operation) : EmitsAfter (acceptedOf P source) R x op ↔
      ∀ o, op = .ingest o → o.sourceId = source → x.1.Accepts P o → ∀ earlier ∈ x.2, R earlier o := by
  cases op with
  | markStale now thresholdSeconds =>
      constructor
      · rintro - o ⟨⟩
      · intro _
        exact ⟨.nil, fun _ _ later none => absurd none List.not_mem_nil⟩
  | markFailed sourceId reason now =>
      constructor
      · rintro - o ⟨⟩
      · intro _
        exact ⟨.nil, fun _ _ later none => absurd none List.not_mem_nil⟩
  | ingest o =>
      have shape : acceptedOf P source x.1 (.ingest o) =
          (accepted P x.1 (.ingest o)).filter (fun o => o.sourceId = source) := rfl
      cases accepted_ingest P x.1 o with
      | inl refused =>
          have nothing : acceptedOf P source x.1 (.ingest o) = [] := by rw [shape, refused.1, List.filter_nil]
          constructor
          · rintro - o ⟨⟩ - accepts
            exact absurd accepts refused.2
          · intro _
            rw [EmitsAfter, nothing]
            exact ⟨.nil, fun _ _ later none => absurd none List.not_mem_nil⟩
      | inr done =>
          by_cases here : o.sourceId = source
          · have one : acceptedOf P source x.1 (.ingest o) = [o] := by
              rw [shape, done.1]
              simp [here]
            rw [EmitsAfter, one]
            constructor
            · rintro ⟨-, across⟩ o ⟨⟩ - - earlier member
              exact across earlier member o (List.mem_singleton.mpr rfl)
            · intro after
              refine ⟨List.pairwise_singleton _ _, ?_⟩
              intro earlier member later same
              rw [List.mem_singleton.mp same]
              exact after o rfl here done.2 earlier member
          · have nothing : acceptedOf P source x.1 (.ingest o) = [] := by
              rw [shape, done.1]
              simp [here]
            constructor
            · rintro - o ⟨⟩ there
              exact absurd there here
            · intro _
              rw [EmitsAfter, nothing]
              exact ⟨.nil, fun _ _ later none => absurd none List.not_mem_nil⟩

/-! ## Lateness -/

/-- The later observation is no further than the bound before the earlier one. -/
def Within (bound : ℚ) (earlier later : Observation) : Prop := ((earlier.observedAt - later.observedAt : Int) : ℚ) ≤ bound

/-- After a late observation none is accepted that is further than the bound before
    the watermark. -/
def NoDrift (P : Platform) (source : String) (c : StreamingSourceCollector) (op : Operation) : Prop :=
  ∀ o, op = .ingest o → o.sourceId = source → c.Accepts P o → ∀ h last watermark, c.health.get? source = some h →
    h.lastObservedAt = some last → h.eventTimeWatermark = some watermark → last < watermark →
    ((watermark - o.observedAt : Int) : ℚ) ≤ c.latenessBound source

theorem latenessBound_nonneg (c : StreamingSourceCollector) (source : String) : 0 ≤ c.latenessBound source := by
  unfold latenessBound
  cases c.sourceConfigurations.get? source with
  | none => simp
  | some configuration => exact mul_nonneg configuration.nonNegative (by norm_num)

theorem Follows.within_iff (follows : Follows source configurations x) (here : o.sourceId = source)
    (accepts : x.1.Accepts P o) :
    (∀ earlier ∈ x.2, Within (x.1.latenessBound source) earlier o) ↔
      ∀ h last watermark, x.1.health.get? source = some h → h.lastObservedAt = some last →
        h.eventTimeWatermark = some watermark → last < watermark →
        ((watermark - o.observedAt : Int) : ℚ) ≤ x.1.latenessBound source := by
  obtain ⟨state, reasons, examined, -, -⟩ := accepts
  obtain ⟨c, log⟩ := x
  have tracks := follows.2
  dsimp only at tracks examined ⊢
  cases tracks with
  | fresh unknown =>
      constructor
      · intro _ h last watermark known
        rw [view, known] at unknown
        cases unknown
      · intro _ earlier none
        exact absurd none List.not_mem_nil
  | @known _ last top ends among seen latest =>
      obtain ⟨h, known, same⟩ := Option.map_eq_some_iff.mp seen
      have sequence : h.lastSequence = some last.sequence := congrArg (fun m => m.2.2.1) same
      have observed : h.lastObservedAt = some last.observedAt := congrArg (fun m => m.2.2.2.1) same
      have watermark : h.eventTimeWatermark = some top.observedAt := congrArg (fun m => m.2.2.2.2) same
      constructor
      · intro within h' last' watermark' known' _ watermarked _
        rw [known] at known'
        cases known'
        rw [watermark] at watermarked
        cases watermarked
        exact within top among
      · intro steady earlier member
        have below : ((earlier.observedAt - o.observedAt : Int) : ℚ) ≤ ((top.observedAt - o.observedAt : Int) : ℚ) :=
          Int.cast_le.mpr (Int.sub_le_sub_right (latest earlier member) _)
        apply below.trans
        by_cases late : last.observedAt < top.observedAt
        · exact steady h _ _ known observed watermark late
        · by_cases behind : o.observedAt < last.observedAt
          · have near := (examine_admitted examined (here ▸ known) sequence observed).2 behind
            rw [here] at near
            exact le_trans (Int.cast_le.mpr (Int.sub_le_sub_right (not_lt.mp late) _)) near
          · have ahead : (top.observedAt - o.observedAt : Int) ≤ 0 :=
              Int.sub_nonpos_of_le ((not_lt.mp late).trans (not_lt.mp behind))
            exact le_trans (Int.cast_nonpos.mpr ahead) (latenessBound_nonneg c source)

/-- The observations accepted from a source stay within its bound of the latest one
    before them exactly when no late observation is followed by one that is further back
    than the bound allows. -/
theorem lateness_bounded_iff (P : Platform) (capacity : Int) (measurements : Domain.Observation → MeasurementContractReport)
    (configurations : Dict String SourceConfiguration) (source : String) (ops : List Operation) :
    (Foundation.run (traced (step P) (acceptedOf P source)) (start capacity measurements configurations, []) ops).2.Pairwise
        (Within ((start capacity measurements configurations).latenessBound source)) ↔
      Foundation.Meets (step P) (NoDrift P source) (start capacity measurements configurations) ops := by
  rw [trace_pairwise_iff List.Pairwise.nil, ← @meets_traced_iff _ _ _ (step P) (acceptedOf P source) _
    (start capacity measurements configurations, [])]
  refine Meets.congr ?_ (fun x op follows _ => follows.step P op) (start_follows capacity measurements configurations source) ops
  intro x op follows
  have bound : (start capacity measurements configurations).latenessBound source = x.1.latenessBound source := by
    rw [latenessBound, latenessBound, follows.1]
    rfl
  rw [emits_iff, bound]
  constructor
  · intro emits o same here accepts
    exact (follows.within_iff here accepts).mp (emits o same here accepts)
  · intro steady o same here accepts
    exact (follows.within_iff here accepts).mpr (steady o same here accepts)

/-- A frame of the camera at the gate. -/
def frame (bootId : String) (sequence : Nat) (observedAt : DateTime) : Observation where
  observationId := UUID.ofNat sequence
  correlationId := UUID.ofNat 0
  sourceId := "camera-1"
  hazard := .wildfire
  sourceMode := .live
  bootId := bootId
  observedAt := observedAt
  receivedAt := 5000000
  values := Dict.empty.insert "smoke_score" (1 / 10)
  units := Dict.empty.insert "smoke_score" "ratio"
  qualityFlags := []
  sourceLineage := "camera"
  clockEpoch := 0
  measurements := [{
    observedPropertyId := "smoke_score"
    value := 1 / 10
    unit := "ratio"
    statistic := .instantaneous
    sourceValueKey := "smoke_score" }]
  sequence := sequence

/-- Its frames may come two seconds late. -/
def camera : Dict String SourceConfiguration :=
  Dict.empty.insert "camera-1" ⟨"camera-1", .camera, "gate", 2, by decide, by decide⟩

/-- The last one is four seconds before the first. -/
def lateFrames : List Operation := [
  .ingest (frame "boot" 1 4000000),
  .ingest (frame "boot" 2 2000000),
  .ingest (frame "boot" 3 0)]

instance (bound : ℚ) (earlier later : Observation) : Decidable (Within bound earlier later) :=
  inferInstanceAs (Decidable (_ ≤ _))

theorem lateness_drifts :
    ¬ (Foundation.run (traced (step Platform.mixing) (acceptedOf Platform.mixing "camera-1"))
      (start 256 validate camera, []) lateFrames).2.Pairwise (Within ((start 256 validate camera).latenessBound "camera-1")) := by
  decide +kernel

/-! ## Sequence numbers -/

/-- Of one boot and clock epoch, the later observation has the higher sequence number. -/
def InSequence (earlier later : Observation) : Prop :=
  earlier.bootId = later.bootId → earlier.clockEpoch = later.clockEpoch → earlier.sequence < later.sequence

/-- A boot or clock epoch other than the last is accepted only above all the sequence
    numbers accepted from it before. -/
def ResumesAhead (P : Platform) (source : String) (x : StreamingSourceCollector × List Observation) (op : Operation) : Prop :=
  ∀ o, op = .ingest o → o.sourceId = source → x.1.Accepts P o → ∀ h, x.1.health.get? source = some h →
    sameEpoch h o = false → ∀ earlier ∈ x.2, InSequence earlier o

theorem Follows.inSequence_iff (follows : Follows source configurations x) (ordered : x.2.Pairwise InSequence)
    (here : o.sourceId = source) (accepts : x.1.Accepts P o) :
    (∀ earlier ∈ x.2, InSequence earlier o) ↔
      ∀ h, x.1.health.get? source = some h → sameEpoch h o = false → ∀ earlier ∈ x.2, InSequence earlier o := by
  constructor
  · intro before _ _ _
    exact before
  · intro resumes earlier member
    obtain ⟨state, reasons, examined, -, -⟩ := accepts
    obtain ⟨c, log⟩ := x
    have tracks := follows.2
    dsimp only at tracks examined member ordered resumes
    cases tracks with
    | fresh unknown => exact absurd member List.not_mem_nil
    | @known _ last top ends among seen latest =>
        obtain ⟨h, known, same⟩ := Option.map_eq_some_iff.mp seen
        have boot : h.bootId = some last.bootId := congrArg (fun m => m.1) same
        have epoch : h.clockEpoch = some last.clockEpoch := congrArg (fun m => m.2.1) same
        have sequence : h.lastSequence = some last.sequence := congrArg (fun m => m.2.2.1) same
        have observed : h.lastObservedAt = some last.observedAt := congrArg (fun m => m.2.2.2.1) same
        cases continues : sameEpoch h o with
        | false => exact resumes h known continues earlier member
        | true =>
            -- the last observation is of the same epoch and ahead of all that are
            have ahead := (examine_admitted examined (here ▸ known) sequence observed).1 continues
            simp only [sameEpoch, boot, epoch, Bool.and_eq_true, decide_eq_true_eq, Option.some.injEq] at continues
            obtain ⟨before, split⟩ := List.getLast?_eq_some_iff.mp ends
            intro sameBoot sameClock
            rw [split] at member ordered
            cases List.mem_append.mp member with
            | inl old =>
                have lower := (List.pairwise_append.mp ordered).2.2 earlier old last (List.mem_singleton.mpr rfl)
                  (sameBoot.trans continues.1.symm) (sameClock.trans continues.2.symm)
                omega
            | inr own =>
                rw [List.mem_singleton.mp own]
                exact ahead

/-- The observations accepted from a source are in sequence exactly when every boot and
    clock epoch that is taken up again goes on above where it was. -/
theorem sequences_increase_iff (P : Platform) (capacity : Int) (measurements : Domain.Observation → MeasurementContractReport)
    (configurations : Dict String SourceConfiguration) (source : String) (ops : List Operation) :
    (Foundation.run (traced (step P) (acceptedOf P source)) (start capacity measurements configurations, []) ops).2.Pairwise
        InSequence ↔
      Foundation.Meets (traced (step P) (acceptedOf P source)) (ResumesAhead P source)
        (start capacity measurements configurations, []) ops := by
  rw [trace_pairwise_iff List.Pairwise.nil]
  refine Meets.congr (I := fun x => Follows source configurations x ∧ x.2.Pairwise InSequence) ?_ ?_
    ⟨start_follows capacity measurements configurations source, .nil⟩ ops
  · rintro x op ⟨follows, ordered⟩
    rw [emits_iff]
    constructor
    · intro emits o same here accepts
      exact (follows.inSequence_iff ordered here accepts).mp (emits o same here accepts)
    · intro resumes o same here accepts
      exact (follows.inSequence_iff ordered here accepts).mpr (resumes o same here accepts)
  · rintro x op ⟨follows, ordered⟩ emits
    exact ⟨follows.step P op, (pairwise_traced_iff ordered op).mpr emits⟩

/-- A boot that comes back after another one repeats its frame. -/
def repeatedFrames : List Operation := [
  .ingest (frame "boot-a" 1 4000000),
  .ingest (frame "boot-b" 1 4000000),
  .ingest (frame "boot-a" 1 4000000)]

instance (earlier later : Observation) : Decidable (InSequence earlier later) :=
  inferInstanceAs (Decidable (_ → _ → _))

theorem returning_boot_repeats :
    ¬ (Foundation.run (traced (step Platform.mixing) (acceptedOf Platform.mixing "camera-1"))
      (start 256 validate camera, []) repeatedFrames).2.Pairwise InSequence := by
  decide +kernel

end StreamingSourceCollector

end SentinelEdge.Collector
