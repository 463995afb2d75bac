import RunningBalance.Metrics.Exposition
import RunningBalance.Proofs.Text.Line
import RunningBalance.Proofs.Text.Run

/-!
# What an exposition shows

No name and no value holds the end of a line, so the lines of an exposition can be told apart again
(`split_join`). A reader finds the samples of a name by the text that starts their lines
(`Metrics.samples`). There is one for each counter and one for the number of durations
(`samples_counters`), and below `2 ^ 53` it is the count itself, digit by digit
(`Decimal.ofRoundedNat_of_lt`).
-/

set_option autoImplicit false
set_option relaxedAutoImplicit false

namespace RunningBalance

/-! ### The characters of a value -/

namespace Decimal

theorem newline_not_mem_positional (digits : ℕ) (place : ℤ) : '\n' ∉ positional digits place := by
  have hpadded : '\n' ∉ (ofNat digits).leftpad ((-place).toNat + 1) '0' :=
    newline_not_mem_padded _ digits
  unfold positional
  dsimp only
  split
  · simp [newline_not_mem_ofNat, List.mem_replicate]
  · split
    · exact fun hwhole ↦ hpadded (List.mem_of_mem_take hwhole)
    · intro hmem
      rcases List.mem_append.1 hmem with hwhole | hfraction
      · exact hpadded (List.mem_of_mem_take hwhole)
      · rcases List.mem_cons.1 hfraction with hpoint | hdigit
        · exact absurd hpoint (by decide)
        · exact hpadded (List.mem_of_mem_drop (Text.mem_of_mem_dropTrailing hdigit))

theorem newline_not_mem_ofRoundedNat (n : ℕ) : '\n' ∉ ofRoundedNat n := by
  unfold ofRoundedNat
  split
  · exact newline_not_mem_ofNat n
  · exact newline_not_mem_positional _ _

theorem newline_not_mem_ofFloat (x : Float) : '\n' ∉ ofFloat x := by
  unfold ofFloat
  dsimp only
  split
  · split
    · split <;> decide
    · decide
  · split
    · split <;> decide
    · intro hmem
      rcases List.mem_append.1 hmem with hsign | hdigit
      · revert hsign
        split <;> decide
      · exact newline_not_mem_positional _ _ hdigit

/-- Below `2 ^ 53` a number is not rounded. -/
theorem ofRoundedNat_of_lt {n : ℕ} (h : n < 2 ^ 53) : ofRoundedNat n = ofNat n :=
  if_pos h

end Decimal

namespace Metrics

open Text (IsLine isLine_append isLine_ofList)

/-! ### Lines -/

theorem isLine_write (value : Value) : IsLine value.write := by
  cases value with
  | count n => exact isLine_ofList.2 (Decimal.newline_not_mem_ofRoundedNat n.toNat)
  | measure x => exact isLine_ofList.2 (Decimal.newline_not_mem_ofFloat x)

theorem isLine_bucketSuffix {bound : String} (hbound : IsLine bound) :
    IsLine (bucketSuffix bound) := by
  simp only [bucketSuffix, isLine_append, hbound]
  decide

theorem Family.isLine_of_mem_lines {family : Family} (hname : IsLine family.name)
    (hhelp : IsLine family.help) (htype : IsLine family.type)
    (hsuffix : ∀ sample ∈ family.samples, IsLine sample.1) {line : String}
    (hline : line ∈ family.lines) : IsLine line := by
  rw [Family.lines, List.mem_cons, List.mem_cons, List.mem_map] at hline
  rcases hline with rfl | rfl | ⟨sample, hsample, rfl⟩
  · simp only [isLine_append, hname, hhelp]
    decide
  · simp only [isLine_append, hname, htype]
    decide
  · simp only [isLine_append, hname, hsuffix sample hsample, isLine_write]
    decide

/-- A histogram has samples for the buckets, the sum and the count, in this order. -/
theorem exists_samples_histogramFamily (name help : String) (histogram : Histogram) :
    ∃ buckets, (histogramFamily name help histogram).samples =
        buckets ++ [("_sum", .measure histogram.sum), ("_count", .count histogram.observations)] ∧
      ∀ sample ∈ buckets, ∃ bound, IsLine bound ∧ sample.1 = bucketSuffix bound := by
  refine ⟨Histogram.bounds.zipWith
      (fun bound count ↦ (bucketSuffix (Value.measure bound).write, Value.count count))
      (Histogram.cumulative 0 histogram.counts) ++
    [(bucketSuffix "+Inf", .count histogram.observations)], ?_, ?_⟩
  · rw [List.append_assoc]
    rfl
  · intro sample hsample
    rw [← List.map_uncurry_zip_eq_zipWith, List.mem_append, List.mem_map, List.mem_singleton]
      at hsample
    rcases hsample with ⟨⟨bound, count⟩, -, rfl⟩ | rfl
    · exact ⟨_, isLine_write (.measure bound), rfl⟩
    · exact ⟨"+Inf", by decide, rfl⟩

theorem isLine_of_mem_lines_counter {name help line : String} {value : UInt64}
    (hname : IsLine name) (hhelp : IsLine help) (hline : line ∈ (counter name help value).lines) :
    IsLine line := by
  refine Family.isLine_of_mem_lines hname hhelp (by decide : IsLine "counter") ?_ hline
  intro sample hsample
  rw [List.mem_singleton.1 hsample]
  exact (by decide : IsLine "")

theorem isLine_of_mem_lines_histogramFamily {name help line : String} {histogram : Histogram}
    (hname : IsLine name) (hhelp : IsLine help)
    (hline : line ∈ (histogramFamily name help histogram).lines) : IsLine line := by
  obtain ⟨buckets, hsamples, hbuckets⟩ := exists_samples_histogramFamily name help histogram
  refine Family.isLine_of_mem_lines hname hhelp (by decide : IsLine "histogram") ?_ hline
  intro sample hsample
  rw [hsamples, List.mem_append, List.mem_cons, List.mem_singleton] at hsample
  rcases hsample with hbucket | rfl | rfl
  · obtain ⟨bound, hbound, hsuffix⟩ := hbuckets sample hbucket
    rw [hsuffix]
    exact isLine_bucketSuffix hbound
  · exact (by decide : IsLine "_sum")
  · exact (by decide : IsLine "_count")

theorem isLine_of_mem_lines {metrics : Metrics} {line : String} (hline : line ∈ metrics.lines) :
    IsLine line := by
  rw [lines, families, List.mem_flatMap] at hline
  obtain ⟨family, hfamily, hmem⟩ := hline
  simp only [List.mem_cons, List.not_mem_nil, or_false] at hfamily
  rcases hfamily with rfl | rfl | rfl | rfl
  · exact isLine_of_mem_lines_counter (by decide +kernel) (by decide +kernel) hmem
  · exact isLine_of_mem_lines_histogramFamily (by decide +kernel) (by decide +kernel) hmem
  · exact isLine_of_mem_lines_counter (by decide +kernel) (by decide +kernel) hmem
  · exact isLine_of_mem_lines_counter (by decide +kernel) (by decide +kernel) hmem

/-- Lines with their ends are told apart by these, and nothing follows the last one. -/
theorem split_join {lines : List String} (hlines : ∀ line ∈ lines, IsLine line) :
    Text.split '\n' (String.join (lines.map (· ++ "\n"))).toList =
      lines.map String.toList ++ [[]] := by
  have hjoin : (String.join (lines.map (· ++ "\n"))).toList =
      ['\n'].intercalate (lines.map String.toList ++ [[]]) := by
    clear hlines
    induction lines with
    | nil => rfl
    | cons line lines ih =>
      rw [String.toList_join] at ih ⊢
      rw [List.map_cons, List.flatMap_cons, ih, List.map_cons, List.cons_append,
        List.intercalate_cons_of_ne_nil (by simp), String.toList_append]
      rfl
  refine (congrArg _ hjoin).trans (Text.split_intercalate ?_ (by simp))
  intro piece hpiece
  rcases List.mem_append.1 hpiece with hline | hlast
  · obtain ⟨line, hmem, rfl⟩ := List.mem_map.1 hline
    exact hlines line hmem
  · rw [List.mem_singleton.1 hlast]
    exact List.not_mem_nil

/-! ### Samples -/

/-- The value in a line, if this is a sample of the name. -/
def valueIn? (name : String) (line : List Char) : Option (List Char) :=
  Text.after? (name ++ " ").toList line

/-- The values of the samples of a name in an exposition. -/
def samples (name exposition : String) : List (List Char) :=
  (Text.split '\n' exposition.toList).filterMap (valueIn? name)

/-- A sample of the name does not start like the text. -/
def IsApart (name text : String) : Prop :=
  ¬(name ++ " ").toList <+: text.toList ∧ ¬text.toList <+: (name ++ " ").toList

instance (name text : String) : Decidable (IsApart name text) :=
  inferInstanceAs (Decidable (_ ∧ _))

theorem valueIn?_self (name value : String) :
    valueIn? name (name ++ " " ++ value).toList = some value.toList := by
  rw [valueIn?, Text.after?_eq_some_iff, String.toList_append]

theorem IsApart.valueIn?_eq_none {name text : String} (hapart : IsApart name text)
    (more : String) : valueIn? name (text ++ more).toList = none := by
  refine Option.eq_none_iff_forall_ne_some.2 fun value hvalue ↦ ?_
  rw [valueIn?, Text.after?_eq_some_iff] at hvalue
  have htext : text.toList <+: (text ++ more).toList := by
    rw [String.toList_append]
    exact List.prefix_append _ _
  rcases List.prefix_or_prefix_of_prefix htext ⟨value, hvalue.symm⟩ with hshort | hlong
  · exact hapart.2 hshort
  · exact hapart.1 hlong

theorem samples_exposition (name : String) (metrics : Metrics) :
    samples name metrics.exposition =
      metrics.lines.filterMap fun line ↦ valueIn? name line.toList := by
  have hnone : valueIn? name [] = none := by
    rw [valueIn?, String.toList_append]
    cases name.toList <;> rfl
  rw [samples, exposition, split_join fun line ↦ isLine_of_mem_lines, List.filterMap_append,
    List.filterMap_map, List.filterMap_cons, hnone, List.filterMap_nil, List.append_nil]
  rfl

/-- The lines of a family that are samples of a name are among its samples, not its first lines. -/
theorem Family.filterMap_lines (family : Family) {name : String} (hhelp : IsApart name "# HELP ")
    (htype : IsApart name "# TYPE ") :
    (family.lines.filterMap fun line ↦ valueIn? name line.toList) =
      family.samples.filterMap fun sample ↦
        valueIn? name (family.name ++ sample.1 ++ " " ++ sample.2.write).toList := by
  have hfirst : valueIn? name ("# HELP " ++ family.name ++ " " ++ family.help).toList = none := by
    rw [String.append_assoc, String.append_assoc]
    exact hhelp.valueIn?_eq_none _
  have hsecond : valueIn? name ("# TYPE " ++ family.name ++ " " ++ family.type).toList = none := by
    rw [String.append_assoc, String.append_assoc]
    exact htype.valueIn?_eq_none _
  rw [Family.lines, List.filterMap_cons, hfirst, List.filterMap_cons, hsecond, List.filterMap_map]
  rfl

/-- A family with another name has no samples of the name. -/
theorem Family.filterMap_lines_of_isApart (family : Family) {name : String}
    (hhelp : IsApart name "# HELP ") (htype : IsApart name "# TYPE ")
    (hname : IsApart name family.name) :
    (family.lines.filterMap fun line ↦ valueIn? name line.toList) = [] := by
  rw [family.filterMap_lines hhelp htype, List.filterMap_eq_nil_iff]
  intro sample _
  rw [String.append_assoc, String.append_assoc]
  exact hname.valueIn?_eq_none _

theorem filterMap_lines_counter_of_isApart {name other : String} (help : String) (value : UInt64)
    (hhelp : IsApart name "# HELP ") (htype : IsApart name "# TYPE ")
    (hother : IsApart name other) :
    ((counter other help value).lines.filterMap fun line ↦ valueIn? name line.toList) = [] :=
  Family.filterMap_lines_of_isApart _ hhelp htype hother

theorem filterMap_lines_histogram_of_isApart {name other : String} (help : String)
    (histogram : Histogram) (hhelp : IsApart name "# HELP ") (htype : IsApart name "# TYPE ")
    (hother : IsApart name other) :
    ((histogramFamily other help histogram).lines.filterMap fun line ↦ valueIn? name line.toList) =
      [] :=
  Family.filterMap_lines_of_isApart _ hhelp htype hother

/-- A counter has one sample, its value. -/
theorem filterMap_lines_counter (name help : String) (value : UInt64)
    (hhelp : IsApart name "# HELP ") (htype : IsApart name "# TYPE ") :
    ((counter name help value).lines.filterMap fun line ↦ valueIn? name line.toList) =
      [Decimal.ofRoundedNat value.toNat] := by
  have hvalue : valueIn? name (name ++ "" ++ " " ++ (Value.count value).write).toList =
      some (Decimal.ofRoundedNat value.toNat) := by
    rw [String.append_empty, valueIn?_self, Value.write, String.toList_ofList]
  rw [Family.filterMap_lines _ hhelp htype]
  simp only [counter, List.filterMap_cons, hvalue, List.filterMap_nil]

/-- A histogram has one sample of its count. -/
theorem filterMap_lines_histogram {name countName : String} (help : String) (histogram : Histogram)
    (hname : countName = name ++ "_count") (hhelp : IsApart countName "# HELP ")
    (htype : IsApart countName "# TYPE ")
    (hbucket : IsApart countName (name ++ "_bucket\x7ble=\""))
    (hsum : IsApart countName (name ++ "_sum")) :
    ((histogramFamily name help histogram).lines.filterMap
        fun line ↦ valueIn? countName line.toList) =
      [Decimal.ofRoundedNat histogram.observations.toNat] := by
  subst hname
  obtain ⟨buckets, hsamples, hbuckets⟩ := exists_samples_histogramFamily name help histogram
  have hbucketsNone : (buckets.filterMap fun sample ↦
      valueIn? (name ++ "_count") (name ++ sample.1 ++ " " ++ sample.2.write).toList) = [] := by
    rw [List.filterMap_eq_nil_iff]
    intro sample hsample
    obtain ⟨bound, -, hsuffix⟩ := hbuckets sample hsample
    have htext : name ++ sample.1 ++ " " ++ sample.2.write =
        name ++ "_bucket\x7ble=\"" ++ (bound ++ ("\"\x7d" ++ (" " ++ sample.2.write))) := by
      simp only [hsuffix, bucketSuffix, String.append_assoc]
    rw [htext]
    exact hbucket.valueIn?_eq_none _
  have hsumNone : valueIn? (name ++ "_count")
      (name ++ "_sum" ++ " " ++ (Value.measure histogram.sum).write).toList = none := by
    rw [@String.append_assoc (name ++ "_sum")]
    exact hsum.valueIn?_eq_none _
  have hcount : valueIn? (name ++ "_count")
      (name ++ "_count" ++ " " ++ (Value.count histogram.observations).write).toList =
        some (Decimal.ofRoundedNat histogram.observations.toNat) := by
    rw [valueIn?_self, Value.write, String.toList_ofList]
  rw [Family.filterMap_lines _ hhelp htype, hsamples, List.filterMap_append]
  refine (congrArg (· ++ _) hbucketsNone).trans ?_
  simp only [histogramFamily, List.filterMap_cons, hsumNone, hcount, List.filterMap_nil,
    List.nil_append]

/-- In an exposition each counter has one sample, and so has the number of durations. Each is the
count, which is rounded from `2 ^ 53` on. -/
theorem samples_counters (metrics : Metrics) :
    samples "balance_reconciliations_total" metrics.exposition =
        [Decimal.ofRoundedNat metrics.reconciliations.toNat] ∧
      samples "balance_reconcile_duration_seconds_count" metrics.exposition =
        [Decimal.ofRoundedNat metrics.durations.observations.toNat] ∧
      samples "balance_entries_dropped_total" metrics.exposition =
        [Decimal.ofRoundedNat metrics.dropped.toNat] ∧
      samples "balance_reconciliation_failures_total" metrics.exposition =
        [Decimal.ofRoundedNat metrics.failures.toNat] := by
  have hsplit (name : String) := samples_exposition name metrics
  simp only [lines, families, List.flatMap_cons, List.flatMap_nil, List.filterMap_append,
    List.append_nil] at hsplit
  simp (disch := decide +kernel) only [hsplit, filterMap_lines_counter_of_isApart,
    filterMap_lines_counter, filterMap_lines_histogram_of_isApart, filterMap_lines_histogram,
    List.nil_append, List.append_nil, and_self]

/-- A text shows the counters of a collector: below `2 ^ 53` the sample of each is its number, and
the number of durations is shown as that of the successful passes. -/
structure IsShown (metrics : Metrics) (text : String) : Prop where
  reconciliations : metrics.reconciliations.toNat < 2 ^ 53 →
    samples "balance_reconciliations_total" text = [Decimal.ofNat metrics.reconciliations.toNat]
  dropped : metrics.dropped.toNat < 2 ^ 53 →
    samples "balance_entries_dropped_total" text = [Decimal.ofNat metrics.dropped.toNat]
  failures : metrics.failures.toNat < 2 ^ 53 →
    samples "balance_reconciliation_failures_total" text = [Decimal.ofNat metrics.failures.toNat]
  observations : samples "balance_reconcile_duration_seconds_count" text =
    samples "balance_reconciliations_total" text

theorem isShown_exposition {metrics : Metrics}
    (hcount : metrics.durations.observations.toNat = metrics.reconciliations.toNat) :
    metrics.IsShown metrics.exposition := by
  obtain ⟨hreconciliations, hobservations, hdropped, hfailures⟩ := samples_counters metrics
  refine ⟨fun hlt ↦ ?_, fun hlt ↦ ?_, fun hlt ↦ ?_, ?_⟩
  · rw [hreconciliations, Decimal.ofRoundedNat_of_lt hlt]
  · rw [hdropped, Decimal.ofRoundedNat_of_lt hlt]
  · rw [hfailures, Decimal.ofRoundedNat_of_lt hlt]
  · rw [hobservations, hreconciliations, hcount]

end Metrics

end RunningBalance
