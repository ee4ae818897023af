/-
# Which instants that are read can be written

A text is read by its local date, which lies in the years 1 to 9999, and an
instant is written in UTC, in the same years. An offset is less than a day,
so the two ranges differ at their ends only: on the first day of year 1 an
offset may lead back to the day before, and on the last day of year 9999 one
may lead on to the day after. These texts are read, but what they are read as
has no text. Every other instant that is read is written and read back, and
with it the instance that was created then.

Key definitions: `DateTime.clock`, `DateTime.IsCarriedOut`,
`Payload.LeavesYears`, `Instance.CreatedOutOfYears`.
Key theorems: `Date.dayNumber_le_of_year_le`, `DateTime.instant_in_range_iff`,
`Instance.read_instants_are_written_iff`.
-/
import VmResource.Proofs.DateTimeGrammar
import VmResource.Proofs.InstantOrder
import VmResource.Proofs.SamePayload

namespace VmResource

/-! ### The last day -/

namespace Date

/-- The last date of the years up to 9999. -/
def lastDate : Date := ⟨9999, 12, 31⟩

theorem eq_of_dayNumber_eq {d e : Date} (hd : d.IsReal) (he : e.IsReal)
    (h : d.dayNumber = e.dayNumber) : d = e := by
  rw [← iterate_next_first hd, h, iterate_next_first he]

theorem isReal_first : first.IsReal := ⟨by decide, by decide, by decide⟩

theorem isReal_lastDate : lastDate.IsReal := ⟨by decide, by decide, by decide⟩

theorem dayNumber_lastDate : lastDate.dayNumber = 3652058 := by decide

/-- No day of the years up to 9999 comes after the last one. -/
theorem dayNumber_le_of_year_le {d : Date} (h : d.IsReal) (hyear : d.year ≤ 9999) :
    d.dayNumber ≤ 3652058 := by
  by_contra hlt
  have hday : d.day ≤ 31 := by
    have hvalid := isValid_iff.mpr ⟨h, hyear⟩
    exact hvalid.month_day_le.2
  have hmonth := h.month.2
  have hlater := numbers_lt_of_dayNumber_lt isReal_lastDate h
    (by rw [dayNumber_lastDate]; omega)
  simp only [numbers, lastDate, List.cons_lt_cons_iff, List.lt_irrefl, and_false, or_false]
    at hlater
  omega

end Date

/-! ### Where an offset leads -/

namespace DateTime

/-- The seconds of the day that are shown. -/
def clock (t : DateTime) : Int := 3600 * t.hour + 60 * t.minute + t.second

/-- In UTC the date-time is on the day before the first one of year 1, or on
the day after the last one of year 9999. -/
def IsCarriedOut (t : DateTime) : Prop :=
  (t.date = Date.first ∧ t.clock < t.offset.seconds) ∨
    (t.date = Date.lastDate ∧ 86400 ≤ t.clock - t.offset.seconds)

instance (t : DateTime) : Decidable t.IsCarriedOut := inferInstanceAs (Decidable (_ ∨ _))

/-- An offset is less than a day. -/
theorem IsCivil.seconds_offset {t : DateTime} (h : t.IsCivil) :
    -86400 < t.offset.seconds ∧ t.offset.seconds < 86400 := by
  obtain ⟨hhours, hminutes⟩ := h.offset
  unfold Offset.seconds
  split <;> omega

theorem IsCivil.clock {t : DateTime} (h : t.IsCivil) : 0 ≤ t.clock ∧ t.clock < 86400 := by
  have hhour := h.hour
  have hminute := h.minute
  have hsecond := h.second
  unfold DateTime.clock
  omega

theorem millis_lt {t : DateTime} (h : ∀ d ∈ t.fraction, d.isDigit = true) : t.millis < 1000 := by
  have hlt := Text.ofDigitChars_lt h
  rw [millis_eq_div h]
  apply Nat.div_lt_of_lt_mul
  omega

/-- An instant can be written exactly if its offset does not lead out of the
years that can be shown. -/
theorem instant_in_range_iff {t : DateTime} (hcivil : t.IsCivil)
    (hfraction : ∀ d ∈ t.fraction, d.isDigit = true) :
    (Instant.first ≤ t.instant ∧ t.instant ≤ Instant.last) ↔ ¬ t.IsCarriedOut := by
  have hfirst : t.date = Date.first ↔ t.date.dayNumber = 0 := by
    refine ⟨fun h => by rw [h]; rfl, fun h => ?_⟩
    exact Date.eq_of_dayNumber_eq hcivil.date Date.isReal_first h
  have hlast : t.date = Date.lastDate ↔ t.date.dayNumber = 3652058 := by
    refine ⟨fun h => by rw [h, Date.dayNumber_lastDate], fun h => ?_⟩
    exact Date.eq_of_dayNumber_eq hcivil.date Date.isReal_lastDate
      (h.trans Date.dayNumber_lastDate.symm)
  have hinstant : t.instant = 1000 * (86400 * ((t.date.dayNumber : Int) - 719162) + t.clock
      - t.offset.seconds) + t.millis := by
    unfold instant DateTime.clock epochDay
    omega
  have hdays := Date.dayNumber_le_of_year_le hcivil.date hcivil.year
  have hclock := hcivil.clock
  have hoffset := hcivil.seconds_offset
  have hmillis := millis_lt hfraction
  rw [IsCarriedOut, hfirst, hlast, hinstant, Instant.first, Instant.last]
  omega

end DateTime

/-! ### Texts -/

namespace Payload

open DateTime Instant

/-- The offset of the text leads out of the years that can be written. -/
def LeavesYears (u : Text) : Prop := ∃ t : DateTime, t.HasText u ∧ t.IsCarriedOut

theorem leavesYears_iff {s : String} {t : DateTime} (h : ofText? s = some t) :
    LeavesYears s ↔ t.IsCarriedOut := by
  refine ⟨?_, fun hout => ⟨t, ofText?_eq_some_iff.mp h, hout⟩⟩
  rintro ⟨u, hu, hout⟩
  rw [ofText?_eq_some_iff.mpr hu] at h
  rwa [← Option.some.inj h]

/-- What a text is read as can be written unless its offset leads out. -/
theorem in_range_iff_of_timestamp {u : Text} {n : Int} (h : timestamp (.text u) = .ok n) :
    (first ≤ n ∧ n ≤ last) ↔ ¬ LeavesYears u := by
  rcases u with s | ⟨cs, hcs⟩
  case broken => cases h
  cases hread : ofText? s with
  | none => simp [timestamp, hread] at h
  | some t =>
    by_cases hvalid : t.IsValid
    · simp only [timestamp, hread, hvalid, if_true, Except.ok.injEq] at h
      rw [leavesYears_iff hread, ← h]
      exact instant_in_range_iff (isValid_iff_isCivil.mp hvalid)
        (ofText?_eq_some_iff.mp hread).isDigit
    · simp [timestamp, hread, hvalid] at h

end Payload

/-! ### Instances -/

namespace Instance

open Json (valueOf)
open Payload

/-- The payload gives a creation whose offset leads out of the years that can
be written. -/
def CreatedOutOfYears (p : Json) : Prop :=
  ∃ es u, p = .object es ∧ valueOf es "creationTimestamp" = .text u ∧ LeavesYears u

/-- Two instances can be compared exactly if both can be written. -/
theorem exists_samePayload_eq_ok_iff {x y : Instance} :
    (∃ b, x.samePayload y = .ok b) ↔ (∃ q, x.payload = .ok q) ∧ ∃ r, y.payload = .ok r := by
  refine ⟨?_, ?_⟩
  · rintro ⟨b, h⟩
    obtain ⟨q, hq, h⟩ := Except.bind_eq_ok_iff.mp h
    obtain ⟨r, hr, -⟩ := Except.bind_eq_ok_iff.mp h
    exact ⟨⟨q, hq⟩, r, hr⟩
  · rintro ⟨⟨q, hq⟩, r, hr⟩
    exact ⟨_, samePayload_eq hq hr⟩

/-- The creation that was read is in range unless the payload says otherwise. -/
theorem created_in_range_iff {p : Json} {x : Instance} (h : (ofPayload p).outcome = .ok x) :
    (∀ n, x.created = some n → Instant.first ≤ n ∧ n ≤ Instant.last) ↔ ¬ CreatedOutOfYears p := by
  obtain ⟨es, rfl, hread⟩ := ofPayload_eq_ok_iff.mp h
  have hout : CreatedOutOfYears (.object es) ↔
      ∃ s, valueOf es "creationTimestamp" = .text s ∧ LeavesYears s := by
    simp [CreatedOutOfYears]
  rw [hout]
  rcases Json.ifSet_eq_ok_iff.mp hread.created with ⟨hnull, hnone⟩ | ⟨-, n, hn, hsome⟩
  · simp [hnull, hnone]
  · cases hv : valueOf es "creationTimestamp" with
    | text s =>
      rw [hv] at hn
      rw [hsome]
      simpa using in_range_iff_of_timestamp hn
    | _ =>
      rw [hv] at hn
      simp [timestamp, Error.about] at hn

/-- **What is read is written, unless an offset leads out of the years.** A
text that is read is written again as a text of the same instant if and only
if its offset does not lead out of the years 1 to 9999; if it does, there is no
text to write. An instance that was read is written and read back, and can be
compared with all others that are written, if and only if this is so for its
creation and no size of a disk is too long an integer. -/
theorem read_instants_are_written_iff (u : Text) (p : Json) :
    (∀ n, timestamp (.text u) = .ok n →
      ((∃ s', timestampText n = .ok s' ∧ timestamp (.text s') = .ok n) ↔ ¬ LeavesYears u) ∧
      (LeavesYears u → timestampText n = .error .instantOutOfRange)) ∧
    ∀ x, (ofPayload p).outcome = .ok x →
      ((∃ q, x.payload = .ok q ∧ (ofPayload q).outcome = .ok x) ↔
        ¬ CreatedOutOfYears p ∧ ∀ size ∈ x.diskSizes, (Nat.toDigits 10 size).length ≤ 4300) ∧
      (∀ y, (∃ b, x.samePayload y = .ok b) ↔
        (¬ CreatedOutOfYears p ∧ ∀ size ∈ x.diskSizes, (Nat.toDigits 10 size).length ≤ 4300) ∧
          ∃ r, y.payload = .ok r) ∧
      (CreatedOutOfYears p → (∀ size ∈ x.diskSizes, (Nat.toDigits 10 size).length ≤ 4300) →
        x.payload = .error .instantOutOfRange) := by
  refine ⟨?_, ?_⟩
  · intro n h
    have hrange := in_range_iff_of_timestamp h
    refine ⟨?_, fun hout => timestampText_eq_error fun hin => hrange.mp hin hout⟩
    rw [← hrange, ← exists_timestampText_eq_ok_iff]
    refine ⟨fun ⟨s', hs', _⟩ => ⟨s', hs'⟩, fun ⟨s', hs'⟩ => ?_⟩
    exact ⟨s', hs', timestamp_text? (timestampText_eq_ok_iff.mp hs')⟩
  · intro x h
    have hplain := allPlain_of_ofPayload h
    have hnamed := isNamed_of_allPlain hplain
    have hrange := created_in_range_iff h
    have hwritten : (∃ q, x.payload = .ok q) ↔
        ¬ CreatedOutOfYears p ∧ ∀ size ∈ x.diskSizes, (Nat.toDigits 10 size).length ≤ 4300 := by
      rw [exists_payload_eq_ok_iff, ← hrange, forall_mem_diskSizes_isLong_iff]
      exact ⟨fun ⟨_, hlong, hin⟩ => ⟨hin, hlong⟩, fun ⟨hin, hlong⟩ => ⟨hnamed, hlong, hin⟩⟩
    refine ⟨?_, ?_, ?_⟩
    · rw [← hwritten]
      refine ⟨fun ⟨q, hq, _⟩ => ⟨q, hq⟩, fun ⟨q, hq⟩ => ⟨q, hq, ?_⟩⟩
      exact ofPayload_of_payload hplain (isServerId_of_ofPayload h) hq
    · intro y
      rw [exists_samePayload_eq_ok_iff, hwritten]
    · intro hout hsizes
      have hlong := forall_mem_diskSizes_isLong_iff.mpr hsizes
      have hnot : ¬ ∀ n, x.created = some n → Instant.first ≤ n ∧ n ≤ Instant.last :=
        fun hin => hrange.mp hin hout
      simp only [not_forall] at hnot
      obtain ⟨n, hn, hn'⟩ := hnot
      exact payload_eq_error hnamed hlong hn hn'

theorem createdOutOfYears_dated {s : String} : CreatedOutOfYears (dated s) ↔ LeavesYears s := by
  refine ⟨?_, fun hout => ⟨_, s, rfl, rfl, hout⟩⟩
  rintro ⟨es, t, hes, ht, hout⟩
  cases hes
  obtain rfl : s = t := Json.text.inj ht
  exact hout

/-- By a clock one hour ahead, the first hour of year 1 has to pass before a
creation can be written. -/
theorem dated_after_the_first_hour : ∃ x y,
    (ofPayload (dated "0001-01-01T01:00:00+01:00")).outcome = .ok x ∧
    (ofPayload (dated "0001-01-01T00:59:59.999+01:00")).outcome = .ok y ∧
    x.samePayload x = .ok true ∧ y.payload = .error .instantOutOfRange := by
  have hafter : (ofPayload (dated "0001-01-01T01:00:00+01:00")).outcome =
      .ok (createdAt (-62135596800000)) := rfl
  have hbefore : (ofPayload (dated "0001-01-01T00:59:59.999+01:00")).outcome =
      .ok (createdAt (-62135596800001)) := rfl
  have hinstances := fun s : String => (read_instants_are_written_iff s (dated s)).2
  obtain ⟨hwritten, -, -⟩ := hinstances _ _ hafter
  obtain ⟨-, -, hlost⟩ := hinstances _ _ hbefore
  have hin : ¬ CreatedOutOfYears (dated "0001-01-01T01:00:00+01:00") := fun hout =>
    absurd ((leavesYears_iff rfl).mp (createdOutOfYears_dated.mp hout)) (by decide)
  have hout : CreatedOutOfYears (dated "0001-01-01T00:59:59.999+01:00") :=
    createdOutOfYears_dated.mpr ((leavesYears_iff rfl).mpr (by decide))
  have hsizes : ∀ n, ∀ size ∈ (createdAt n).diskSizes, (Nat.toDigits 10 size).length ≤ 4300 := by
    intro n
    change ∀ size ∈ [20], (Nat.toDigits 10 size).length ≤ 4300
    decide
  obtain ⟨q, hq, -⟩ := hwritten.mpr ⟨hin, hsizes _⟩
  refine ⟨_, _, hafter, hbefore, ?_, hlost hout (hsizes _)⟩
  rw [samePayload_eq hq hq, decide_eq_true rfl]

/-- Not all instants that are read can be written: half an hour into year 1,
by a clock one hour ahead, it is still the year before in UTC. -/
theorem not_all_read_instants_are_written : ¬ ∀ s n, timestamp (.text s) = .ok n →
    ∃ s', timestampText n = .ok s' ∧ timestamp (.text s') = .ok n := by
  intro h
  have hread : timestamp (.text "0001-01-01T00:30:00+01:00") = .ok (-62135598600000) := by rfl
  obtain ⟨s', hs', -⟩ := h _ _ hread
  have herror := timestampText_eq_error (n := -62135598600000) (by decide)
  rw [herror] at hs'
  cases hs'

end Instance
end VmResource
