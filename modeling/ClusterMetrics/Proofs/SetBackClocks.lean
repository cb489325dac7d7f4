import ClusterMetrics.Proofs.CalendarBuckets
import Mathlib.Algebra.Order.Group.Abs
import Mathlib.Algebra.Order.Group.Unbundled.Int

/-! # Clocks that are set back

Minutes and hours of a local clock are as long as on any other, but a clock that is set back shows
some of them twice. Instants that share a bucket are then further apart, by no more than the clock
was set back.

* **`CalendarUnit.sub_lt_of_truncate_eq`**: readings in one minute or hour are close.
* **`Bucketing.IsSetApart`**: instants in one bucket are close, but for what a clock was set back.
* **`shared_buckets_are_short_but_for_set_back_clocks`**: minutes and hours of a zone are so. -/

namespace ClusterMetrics

open ClusterMetrics.Calendar

/-- Readings in one minute or hour are **less than it apart**. -/
theorem Calendar.CalendarUnit.sub_lt_of_truncate_eq {unit : CalendarUnit}
    (hunit : unit = .minute ∨ unit = .hour) {s t : Int} (h : unit.truncate s = unit.truncate t) :
    t - s < unit.seconds := by
  rcases hunit with rfl | rfl
  · change s - s % 60 = t - t % 60 at h
    show t - s < 60
    omega
  · change s - s % 3600 = t - t % 3600 at h
    show t - s < 3600
    omega

/-- Instants that share a bucket are **less than a length apart**, unless the clock of a zone is set
back from the earlier to the later; by this they may be further apart. -/
structure Bucketing.IsSetApart (bucketing : Bucketing) (zone : Zone) (length : Int) : Prop where
  near : ∀ s t, s ≤ t → bucketing.bucket s = bucketing.bucket t →
    zone.offsetAt s ≤ zone.offsetAt t → t - s < length
  near_of_set_back : ∀ s t, s ≤ t → bucketing.bucket s = bucketing.bucket t →
    zone.offsetAt t ≤ zone.offsetAt s → t - s < length + (zone.offsetAt s - zone.offsetAt t)

/-- The minutes and hours of a zone are **set apart by its clock**. -/
theorem Bucketing.isSetApart_calendar {unit : CalendarUnit} (hunit : unit = .minute ∨ unit = .hour)
    (zone : Zone) : (Bucketing.calendar unit zone).IsSetApart zone unit.seconds := by
  -- what the clock shows is close; the time between differs by what the clock was turned
  have hclock : ∀ s t, (Bucketing.calendar unit zone).bucket s
      = (Bucketing.calendar unit zone).bucket t →
      t + zone.offsetAt t - (s + zone.offsetAt s) < unit.seconds :=
    fun s t heq => CalendarUnit.sub_lt_of_truncate_eq hunit heq
  constructor
  · intro s t _ heq hoffset
    have hlt := hclock s t heq
    omega
  · intro s t _ heq _
    have hlt := hclock s t heq
    omega

/-- **Instants in one minute or hour of a zone are less than it apart, but for what its clock was
set back.** Wherever a rule with a zone puts instants into buckets of minutes, two that share one
are less than 60 seconds apart if the clock is no further behind at the later than at the earlier;
if it is, they are less than 60 seconds apart and what it was set back. For hours the same holds of
3600 seconds. -/
theorem shared_buckets_are_short_but_for_set_back_clocks {rule : BucketRule} {name : String}
    (explicit : rule.zoneName = some name) {bucketing : Bucketing}
    (answers : rule.bucketing = .ok bucketing) :
    ∃ zone, Zone.find name = .zone zone ∧
      (rule.unit = .minute → bucketing.IsSetApart zone 60) ∧
      (rule.unit = .hour → bucketing.IsSetApart zone 3600) := by
  obtain ⟨zone, hfind, rfl⟩ := (BucketRule.bucketing_eq_ok_iff explicit).1 answers
  refine ⟨zone, hfind, fun hunit => ?_, fun hunit => ?_⟩
  · rw [hunit]
    exact Bucketing.isSetApart_calendar (.inl rfl) zone
  · rw [hunit]
    exact Bucketing.isSetApart_calendar (.inr rfl) zone

/-- New Year's Day of 2019 in units of the clock of São Tomé. -/
def ofSaoTome (unit : CalendarUnit) : BucketRule :=
  ⟨⟨1546300800000000, some 0⟩, ⟨1546387200000000, some 0⟩, unit, 1, some "Africa/Sao_Tome"⟩

/-- On that day the clock of São Tomé was **set back** by an hour, at 01:00 UTC. -/
theorem offsets_of_sao_tome :
    ∃ zone, Zone.find "Africa/Sao_Tome" = .zone zone ∧ zone.offsetAt 1546300800 = 3600 ∧
      zone.offsetAt 1546304459 = 0 ∧ zone.offsetAt 1546307999 = 0 := by
  have hoffsets : (Zone.find "Africa/Sao_Tome").zone?.map
      (fun z => [z.offsetAt 1546300800, z.offsetAt 1546304459, z.offsetAt 1546307999])
      = some [3600, 0, 0] := by decide +kernel
  obtain ⟨zone, hzone, hoffsets⟩ := Option.map_eq_some_iff.1 hoffsets
  simp only [List.cons.injEq, and_true] at hoffsets
  exact ⟨zone, Zone.Lookup.zone?_eq_some_iff.1 hzone, hoffsets⟩

/-- The rules of São Tomé put instants into **units of its clock**. -/
theorem bucketing_ofSaoTome {zone : Zone} (hfind : Zone.find "Africa/Sao_Tome" = .zone zone)
    (unit : CalendarUnit) : (ofSaoTome unit).bucketing = .ok (.calendar unit zone) :=
  (BucketRule.bucketing_eq_ok_iff rfl).2 ⟨zone, hfind, rfl⟩

/-- Two instants that share the minute 01:00 of São Tomé are less than a minute and an hour apart.
-/
theorem shared_minute_of_sao_tome :
    (ofSaoTome .minute).zoneName = some "Africa/Sao_Tome" ∧
      ∃ bucketing zone, (ofSaoTome .minute).bucketing = .ok bucketing ∧
        Zone.find "Africa/Sao_Tome" = .zone zone ∧ bucketing.IsSetApart zone 60 ∧
        bucketing.bucket 1546300800 = bucketing.bucket 1546304459 ∧
        (1546304459 - 1546300800 : Int)
          < 60 + (zone.offsetAt 1546300800 - zone.offsetAt 1546304459) := by
  obtain ⟨zone, hfind, hbefore, hafter, -⟩ := offsets_of_sao_tome
  have hb := bucketing_ofSaoTome hfind .minute
  obtain ⟨zone', hfind', hminute, -⟩ := shared_buckets_are_short_but_for_set_back_clocks rfl hb
  obtain rfl : zone = zone' := Zone.Lookup.zone.inj (hfind.symm.trans hfind')
  have hshared : (Bucketing.calendar .minute zone).bucket 1546300800
      = (Bucketing.calendar .minute zone).bucket 1546304459 := by
    rw [Bucketing.bucket, Bucketing.bucket, Zone.localSeconds, Zone.localSeconds, hbefore, hafter]
    decide
  refine ⟨rfl, _, zone, hb, hfind, hminute rfl, hshared, ?_⟩
  exact (hminute rfl).near_of_set_back _ _ (by decide) hshared (by rw [hbefore, hafter]; decide)

/-- The clock of São Tomé shows the minute 01:00 and the hour from one **twice** in that night: two
instants that share the minute are an hour apart, and two that share the hour almost two. -/
theorem hour_of_a_set_back_clock_is_one_bucket :
    ∃ minutes hours, (ofSaoTome .minute).bucketing = .ok minutes ∧
      (ofSaoTome .hour).bucketing = .ok hours ∧
      (minutes.bucket 1546300800 = minutes.bucket 1546304459 ∧
        ¬ |(1546304459 - 1546300800 : Int)| < 60) ∧
      (hours.bucket 1546300800 = hours.bucket 1546307999 ∧
        ¬ |(1546307999 - 1546300800 : Int)| < 3600) := by
  obtain ⟨zone, hfind, hbefore, hminute, hhour⟩ := offsets_of_sao_tome
  refine ⟨_, _, bucketing_ofSaoTome hfind .minute, bucketing_ofSaoTome hfind .hour,
    ⟨?_, by decide⟩, ?_, by decide⟩
  · rw [Bucketing.bucket, Bucketing.bucket, Zone.localSeconds, Zone.localSeconds, hbefore, hminute]
    decide
  · rw [Bucketing.bucket, Bucketing.bucket, Zone.localSeconds, Zone.localSeconds, hbefore, hhour]
    decide

end ClusterMetrics
