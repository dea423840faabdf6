import Mathlib.Tactic.Linarith
import Mathlib.Tactic.GCongr
import SentinelEdge.Analysis.Hazards
import SentinelEdge.Domain.Timestamp

/-! # Rain windows

The landslide adapter drops rain that is older than a day, but for the one point
that still holds where the day begins. What it accumulates over a day or less is
what it would accumulate from all rain ever recorded.
-/

namespace SentinelEdge.Analysis.Landslide

open Foundation Domain

/-! ## Recording on the calendar -/

/-- `_record_rain` without the cut. -/
def recordWhole (history : RainHistory) (o : Observation) : RainHistory :=
  match o.values.get? "rainfall_mm_h" with
  | none => history
  | some rate =>
      match history.getLast? with
      | none => history ++ [(o.observedAt, max 0 rate)]
      | some last =>
          if last.1 < o.observedAt then history ++ [(o.observedAt, max 0 rate)]
          else if o.observedAt = last.1 then history.dropLast ++ [(o.observedAt, max 0 rate)]
          else history

/-- The history that `_record_rain` leaves. A point is on record before the cut, which
    raises where the day before is outside the calendar. -/
def leaves (utcOffset : Observation → Int) (history : RainHistory) (o : Observation) : RainHistory :=
  match recordRain history o, (Timestamp.mk o.observedAt (utcOffset o)).add (-(24 * hour)) with
  | .error _, _ => history
  | .ok _, .error _ => recordWhole history o
  | .ok recorded, .ok _ => recorded

/-- `_accumulation` on the calendar. -/
def accumulationOn (history : RainHistory) (now : Timestamp) (hours : Int) : Except Error ℚ :=
  if history.isEmpty then .ok 0
  else (now.add (-(hours * hour))).map (fun _ => accumulation history now.instant hours)

/-! ## What pruning keeps -/

theorem prune_spec (cutoff : DateTime) {history : RainHistory} (some : history ≠ []) :
    ∃ dropped, history = dropped ++ prune cutoff history ∧ prune cutoff history ≠ [] ∧
      (dropped ≠ [] → ∃ first ∈ (prune cutoff history).head?, first.1 ≤ cutoff) := by
  induction history with
  | nil => exact absurd rfl some
  | cons first rest ih =>
      cases rest with
      | nil => exact ⟨[], by simp [prune]⟩
      | cons second rest =>
          by_cases old : second.1 ≤ cutoff
          · obtain ⟨dropped, whole, kept, edge⟩ := ih (by simp)
            have step : prune cutoff (first :: second :: rest) = prune cutoff (second :: rest) := by simp [prune, old]
            rw [step]
            refine ⟨first :: dropped, by rw [List.cons_append, ← whole], kept, fun _ => ?_⟩
            cases dropped with
            | nil =>
                rw [List.nil_append] at whole
                exact ⟨second, by simp [← whole], old⟩
            | cons => exact edge (by simp)
          · exact ⟨[], by simp [prune, old]⟩

/-- `kept` is the end of `full` from a point that is a day or more before the last one. -/
structure Prunes (full kept : RainHistory) : Prop where
  cut : ∃ dropped, full = dropped ++ kept ∧
    (dropped ≠ [] → ∃ first ∈ kept.head?, ∃ last ∈ kept.getLast?, first.1 ≤ last.1 - 24 * hour)
  rising : full.Pairwise (fun a b => a.1 < b.1)
  nonneg : ∀ point ∈ full, 0 ≤ point.2

namespace Prunes

variable {full kept : RainHistory}

theorem refl_nil : Prunes [] [] := ⟨⟨[], by simp⟩, by simp, by simp⟩

theorem nil_iff (prunes : Prunes full kept) : full = [] ↔ kept = [] := by
  obtain ⟨dropped, rfl, edge⟩ := prunes.cut
  cases dropped with
  | nil => simp
  | cons first rest =>
      obtain ⟨first, head, -⟩ := edge (by simp)
      cases kept with
      | nil => cases head
      | cons => simp

theorem getLast?_eq (prunes : Prunes full kept) : full.getLast? = kept.getLast? := by
  by_cases empty : kept = []
  · rw [prunes.nil_iff.mpr empty, empty]
  · obtain ⟨dropped, rfl, -⟩ := prunes.cut
    exact List.getLast?_append_of_ne_nil _ empty

theorem append (prunes : Prunes full kept) (point : DateTime × ℚ) (later : ∀ last ∈ kept.getLast?, last.1 < point.1)
    (positive : 0 ≤ point.2) : Prunes (full ++ [point]) (kept ++ [point]) where
  cut := by
    obtain ⟨dropped, whole, edge⟩ := prunes.cut
    refine ⟨dropped, by simp [whole], fun some => ?_⟩
    obtain ⟨first, head, last, ends, apart⟩ := edge some
    refine ⟨first, ?_, point, by simp, ?_⟩
    · rw [Option.mem_def] at head ⊢
      rw [List.head?_append, head, Option.some_or]
    · linarith [later last ends]
  rising := by
    rw [List.pairwise_append]
    refine ⟨prunes.rising, by simp, ?_⟩
    intro a here b only
    rw [List.mem_singleton.mp only]
    obtain ⟨last, ends⟩ : ∃ last, full.getLast? = some last :=
      Option.isSome_iff_exists.mp (by simpa using List.ne_nil_of_mem here)
    have before := later last (by rw [← prunes.getLast?_eq, ends]; rfl)
    obtain ⟨init, rfl⟩ := List.getLast?_eq_some_iff.mp ends
    rcases List.mem_append.mp here with early | final
    · exact lt_trans ((List.pairwise_append.mp prunes.rising).2.2 a early last (by simp)) before
    · rw [List.mem_singleton.mp final]
      exact before
  nonneg := by
    intro other here
    rcases List.mem_append.mp here with early | final
    · exact prunes.nonneg other early
    · rw [List.mem_singleton.mp final]
      exact positive

theorem replace (prunes : Prunes full kept) {last : DateTime × ℚ} (ends : kept.getLast? = some last)
    (point : DateTime × ℚ) (same : point.1 = last.1) (positive : 0 ≤ point.2) :
    Prunes (full.dropLast ++ [point]) (kept.dropLast ++ [point]) := by
  obtain ⟨init, rfl⟩ := List.getLast?_eq_some_iff.mp ends
  obtain ⟨dropped, rfl, edge⟩ := prunes.cut
  have rising := prunes.rising
  have nonneg := prunes.nonneg
  rw [← List.append_assoc] at rising nonneg ⊢
  rw [List.dropLast_concat, List.dropLast_concat]
  refine ⟨⟨dropped, by simp, fun some => ?_⟩, ?_, ?_⟩
  · obtain ⟨first, head, last', ends', apart⟩ := edge some
    cases init with
    | nil =>
        simp only [List.nil_append, List.head?_cons, List.getLast?_singleton, Option.mem_some_iff] at head ends'
        subst head ends'
        have positive : 0 < hour := by decide
        linarith
    | cons second rest =>
        have final : last = last' := by
          rw [List.getLast?_concat] at ends'
          exact Option.some.inj ends'
        refine ⟨first, head, point, List.getLast?_concat, ?_⟩
        rw [same, final]
        exact apart
  · rw [List.pairwise_append] at rising ⊢
    simpa [same] using rising
  · intro other here
    rcases List.mem_append.mp here with early | final
    · exact nonneg other (List.mem_append_left _ early)
    · rw [List.mem_singleton.mp final]
      exact positive

theorem prune (prunes : Prunes full kept) {last : DateTime × ℚ} (ends : kept.getLast? = some last) :
    Prunes full (Landslide.prune (last.1 - 24 * hour) kept) := by
  have some : kept ≠ [] := by
    rintro rfl
    cases ends
  obtain ⟨more, whole, left, edge⟩ := prune_spec (last.1 - 24 * hour) some
  obtain ⟨dropped, all, before⟩ := prunes.cut
  refine ⟨⟨dropped ++ more, by rw [List.append_assoc, ← whole, all], fun cut => ?_⟩, prunes.rising, prunes.nonneg⟩
  cases more with
  | nil =>
      rw [List.nil_append] at whole
      rw [← whole]
      exact before (by simpa using cut)
  | cons =>
      obtain ⟨first, head, old⟩ := edge (by simp)
      refine ⟨first, head, last, ?_, old⟩
      rw [whole, List.getLast?_append_of_ne_nil _ left] at ends
      exact ends

end Prunes

/-! ## What an accumulation reads -/

/-- A point whose successor is no later than the start of the window adds nothing. -/
theorem total_cons_old {now : DateTime} {hours : Int} {point next : DateTime × ℚ} (rest : RainHistory)
    (old : next.1 ≤ now - hours * hour) :
    accumulation.total now hours (point :: next :: rest) = accumulation.total now hours (next :: rest) := by
  have empty : ¬ max point.1 (now - hours * hour) < min next.1 now :=
    not_lt.mpr (le_trans (min_le_left _ _) (le_trans old (le_max_right _ _)))
  simp [accumulation.total, accumulation.segment, empty]

theorem total_append_old {now : DateTime} {hours : Int} (dropped : RainHistory) {first : DateTime × ℚ} {rest : RainHistory}
    (rising : (dropped ++ first :: rest).Pairwise (fun a b => a.1 < b.1)) (old : first.1 ≤ now - hours * hour) :
    accumulation.total now hours (dropped ++ first :: rest) = accumulation.total now hours (first :: rest) := by
  induction dropped with
  | nil => rfl
  | cons point others ih =>
      rw [← ih rising.of_cons]
      cases others with
      | nil => exact total_cons_old rest old
      | cons next others =>
          have before : next.1 < first.1 := List.rel_of_pairwise_cons rising.of_cons (by simp)
          exact total_cons_old _ (before.le.trans old)

/-- Over a day or less, what was dropped does not count. -/
theorem Prunes.accumulation_eq {full kept : RainHistory} (prunes : Prunes full kept) {now : DateTime}
    (late : ∀ last ∈ kept.getLast?, last.1 ≤ now) {hours : Int} (within : hours ≤ 24) :
    accumulation kept now hours = accumulation full now hours := by
  obtain ⟨dropped, rfl, edge⟩ := prunes.cut
  by_cases none : dropped = []
  · rw [none, List.nil_append]
  · obtain ⟨first, head, last, ends, old⟩ := edge none
    obtain ⟨rest, rfl⟩ := List.head?_eq_some_iff.mp head
    have window : hours * hour ≤ 24 * hour := Int.mul_le_mul_of_nonneg_right within (by decide)
    have start : first.1 ≤ now - hours * hour := by linarith [late last ends]
    rw [accumulation, accumulation, total_append_old dropped prunes.rising start]

theorem segment_mono {now : DateTime} {hours hours' : Int} (longer : hours ≤ hours') {point : DateTime × ℚ}
    (nonneg : 0 ≤ point.2) (next : DateTime) :
    accumulation.segment now hours point next ≤ accumulation.segment now hours' point next := by
  have window : hours * hour ≤ hours' * hour := Int.mul_le_mul_of_nonneg_right longer (by decide)
  have start : max point.1 (now - hours' * hour) ≤ max point.1 (now - hours * hour) := max_le_max_left _ (by linarith)
  have positive : (0 : ℚ) < hour := by norm_num [hour]
  simp only [accumulation.segment]
  by_cases covers : max point.1 (now - hours * hour) < min next now
  · rw [if_pos covers, if_pos (lt_of_le_of_lt start covers)]
    gcongr
  · rw [if_neg covers]
    split
    case isTrue more =>
      have span : (0 : ℚ) ≤ (min next now - max point.1 (now - hours' * hour) : Int) := by
        exact_mod_cast (sub_pos.mpr more).le
      positivity
    case isFalse => exact le_refl _

/-- A longer window accumulates no less. -/
theorem accumulation_mono {history : RainHistory} (nonneg : ∀ point ∈ history, 0 ≤ point.2) (now : DateTime)
    {hours hours' : Int} (longer : hours ≤ hours') : accumulation history now hours ≤ accumulation history now hours' := by
  have totals : accumulation.total now hours history ≤ accumulation.total now hours' history := by
    induction history with
    | nil => exact le_refl _
    | cons point rest ih =>
        cases rest with
        | nil => exact segment_mono longer (nonneg point (by simp)) now
        | cons next rest =>
            have later := ih (fun other here => nonneg other (List.mem_cons_of_mem _ here))
            exact add_le_add (segment_mono longer (nonneg point (by simp)) next.1) later
  exact max_le_max_left 0 totals

/-! ## Whole runs -/

variable (utcOffset : Observation → Int)

/-- One observation, no earlier than the last point. -/
theorem Prunes.record {full kept : RainHistory} (prunes : Prunes full kept) {o : Observation}
    (later : ∀ last ∈ kept.getLast?, last.1 ≤ o.observedAt) :
    Prunes (recordWhole full o) (leaves utcOffset kept o) ∧
      ∀ last ∈ (leaves utcOffset kept o).getLast?, last.1 ≤ o.observedAt := by
  cases rain : o.values.get? "rainfall_mm_h" with
  | none =>
      have dry : leaves utcOffset kept o = kept := by
        simp only [leaves, recordRain, recordWhole, rain]
        split <;> simp_all
      rw [dry]
      exact ⟨by simpa [recordWhole, rain] using prunes, later⟩
  | some rate =>
      have positive : (0 : ℚ) ≤ max 0 rate := le_max_left _ _
      have appended (rises : ∀ last ∈ kept.getLast?, last.1 < o.observedAt) :
          Prunes (recordWhole full o) (leaves utcOffset kept o) ∧
            ∀ last ∈ (leaves utcOffset kept o).getLast?, last.1 ≤ o.observedAt := by
        have whole := prunes.append (o.observedAt, max 0 rate) rises positive
        have cut := whole.prune List.getLast?_concat
        have grows : recordWhole full o = full ++ [(o.observedAt, max 0 rate)] := by
          rw [recordWhole, rain, prunes.getLast?_eq]
          cases ends : kept.getLast? with
          | none => rfl
          | some last => simp [rises last ends]
        have leftOver : leaves utcOffset kept o = kept ++ [(o.observedAt, max 0 rate)] ∨
            leaves utcOffset kept o = Landslide.prune (o.observedAt - 24 * hour) (kept ++ [(o.observedAt, max 0 rate)]) := by
          simp only [leaves, recordRain, recordWhole, rain]
          cases ends : kept.getLast? with
          | none => cases (Timestamp.mk o.observedAt (utcOffset o)).add (-(24 * hour)) <;> simp
          | some last =>
              cases (Timestamp.mk o.observedAt (utcOffset o)).add (-(24 * hour)) <;> simp [rises last ends]
        have final : ∀ last ∈ (full ++ [(o.observedAt, max 0 rate)]).getLast?, last.1 ≤ o.observedAt := by simp
        rw [grows]
        rcases leftOver with same | pruned
        · rw [same]
          exact ⟨whole, by rw [← whole.getLast?_eq]; exact final⟩
        · rw [pruned]
          exact ⟨cut, by rw [← cut.getLast?_eq]; exact final⟩
      cases ends : kept.getLast? with
      | none => exact appended (by simp [ends])
      | some last =>
          rcases (later last ends).lt_or_eq with rises | same
          · exact appended (by simpa [ends] using rises)
          · have replaced := prunes.replace ends (o.observedAt, max 0 rate) same.symm positive
            have grows : recordWhole full o = full.dropLast ++ [(o.observedAt, max 0 rate)] := by
              simp [recordWhole, rain, prunes.getLast?_eq, ends, same]
            have leftOver : leaves utcOffset kept o = kept.dropLast ++ [(o.observedAt, max 0 rate)] := by
              simp only [leaves, recordRain, recordWhole, rain, ends, same, lt_irrefl, if_false, if_true]
              cases (Timestamp.mk o.observedAt (utcOffset o)).add (-(24 * hour)) <;> rfl
            rw [grows, leftOver]
            exact ⟨replaced, by simp⟩

theorem Prunes.run {full kept : RainHistory} (prunes : Prunes full kept) {os : List Observation}
    (rising : os.Pairwise (fun a b => a.observedAt ≤ b.observedAt)) {now : DateTime} (late : ∀ o ∈ os, o.observedAt ≤ now)
    (later : ∀ last ∈ kept.getLast?, last.1 ≤ now ∧ ∀ o ∈ os, last.1 ≤ o.observedAt) :
    Prunes (os.foldl recordWhole full) (os.foldl (leaves utcOffset) kept) ∧
      ∀ last ∈ (os.foldl (leaves utcOffset) kept).getLast?, last.1 ≤ now := by
  induction os generalizing full kept with
  | nil => exact ⟨prunes, fun last ends => (later last ends).1⟩
  | cons o rest ih =>
      obtain ⟨recorded, final⟩ := prunes.record utcOffset fun last ends => (later last ends).2 o (by simp)
      obtain ⟨after, others⟩ := List.pairwise_cons.mp rising
      apply ih recorded others (fun o' here => late o' (List.mem_cons_of_mem _ here))
      intro last ends
      have before := final last ends
      exact ⟨before.trans (late o (by simp)), fun o' here => before.trans (after o' here)⟩

/-- Pruning loses nothing: over a day or less the history that is kept accumulates what
    all rain recorded would, never less than nothing and never less over a longer window. -/
theorem pruning_loses_nothing {os : List Observation}
    (rising : os.Pairwise (fun a b => a.observedAt ≤ b.observedAt)) {now : Timestamp}
    (late : ∀ o ∈ os, o.observedAt ≤ now.instant) :
    (∀ hours ≤ 24, accumulationOn (os.foldl (leaves utcOffset) []) now hours =
      accumulationOn (os.foldl recordWhole []) now hours) ∧
    (∀ hours amount, accumulationOn (os.foldl (leaves utcOffset) []) now hours = .ok amount → 0 ≤ amount) ∧
    ∀ hours hours' amount amount', hours ≤ hours' →
      accumulationOn (os.foldl (leaves utcOffset) []) now hours = .ok amount →
      accumulationOn (os.foldl (leaves utcOffset) []) now hours' = .ok amount' → amount ≤ amount' := by
  obtain ⟨prunes, before⟩ := Prunes.refl_nil.run utcOffset rising late (by simp)
  have nonneg : ∀ point ∈ os.foldl (leaves utcOffset) [], 0 ≤ point.2 := by
    obtain ⟨dropped, whole, -⟩ := prunes.cut
    exact fun point here => prunes.nonneg point (whole ▸ List.mem_append_right _ here)
  have computed {hours : Int} {amount : ℚ}
      (ok : accumulationOn (os.foldl (leaves utcOffset) []) now hours = .ok amount) :
      amount = accumulation (os.foldl (leaves utcOffset) []) now.instant hours := by
    unfold accumulationOn at ok
    split at ok
    case isTrue empty =>
      rw [List.isEmpty_iff.mp empty]
      exact (Except.ok.inj ok).symm
    case isFalse =>
      cases start : now.add (-(hours * hour)) with
      | error error => simp [start, Except.map] at ok
      | ok time =>
          have same : accumulation (os.foldl (leaves utcOffset) []) now.instant hours = amount := by
            simpa [start, Except.map] using ok
          exact same.symm
  refine ⟨?_, ?_, ?_⟩
  · intro hours within
    have empty : (os.foldl (leaves utcOffset) []).isEmpty = (os.foldl recordWhole []).isEmpty := by
      rw [Bool.eq_iff_iff, List.isEmpty_iff, List.isEmpty_iff, prunes.nil_iff]
    simp only [accumulationOn, empty, prunes.accumulation_eq before within]
  · intro hours amount ok
    rw [computed ok]
    exact le_max_left _ _
  · intro hours hours' amount amount' longer ok ok'
    rw [computed ok, computed ok']
    exact accumulation_mono nonneg now.instant longer

/-- A reading of the rain gauge, at a number of hours. -/
def shower (hours : Int) (rate : ℚ) : Observation where
  observationId := UUID.ofNat 1
  correlationId := UUID.ofNat 2
  sourceId := "gauge"
  hazard := .landslide
  sourceMode := .live
  bootId := "boot"
  observedAt := hours * hour
  receivedAt := hours * hour
  values := Dict.empty.insert "rainfall_mm_h" rate
  units := Dict.empty.insert "rainfall_mm_h" "mm/h"
  qualityFlags := []
  sourceLineage := "gauge"
  clockEpoch := 0
  measurements := []

/-- Two days of rain, one of its rates corrected. -/
theorem showers_lose_nothing :
    (∀ hours ≤ 24, accumulationOn ([shower 0 4, shower 5 2, shower 5 3, shower 40 1].foldl (leaves fun _ => 0) [])
        ⟨41 * hour, 0⟩ hours =
      accumulationOn ([shower 0 4, shower 5 2, shower 5 3, shower 40 1].foldl recordWhole []) ⟨41 * hour, 0⟩ hours) ∧
    (∀ hours amount, accumulationOn ([shower 0 4, shower 5 2, shower 5 3, shower 40 1].foldl (leaves fun _ => 0) [])
      ⟨41 * hour, 0⟩ hours = .ok amount → 0 ≤ amount) ∧
    ∀ hours hours' amount amount', hours ≤ hours' →
      accumulationOn ([shower 0 4, shower 5 2, shower 5 3, shower 40 1].foldl (leaves fun _ => 0) [])
        ⟨41 * hour, 0⟩ hours = .ok amount →
      accumulationOn ([shower 0 4, shower 5 2, shower 5 3, shower 40 1].foldl (leaves fun _ => 0) [])
        ⟨41 * hour, 0⟩ hours' = .ok amount' → amount ≤ amount' :=
  pruning_loses_nothing (fun _ => 0) (by decide +kernel) (by decide +kernel)

end SentinelEdge.Analysis.Landslide
