/-
# Which texts are date-times, and what they count

The grammar of a date-time text, written beside its reader: digits of fixed
width between their separators, a point with the digits of a fraction, and an
offset. A text of this form whose numbers name a day of the calendar, a time
of day and an offset of less than a day is read as the exact number of
milliseconds from the start of 1970, rounded down; every other text is
malformed.

Key definitions: `DateTime.Writes`, `DateTime.HasText`, `DateTime.IsCivil`,
`DateTime.Gives`, `DateTime.moment`.
Key theorems: `DateTime.ofText?_eq_some_iff`, `DateTime.floor_moment`,
`Payload.timestamp_is_civil_instant`.
-/
import Mathlib.Data.List.TakeWhile
import Mathlib.Data.Rat.Floor
import VmResource.Proofs.DayCount
import VmResource.Proofs.InstantText
import VmResource.Proofs.IntegerText

namespace VmResource

namespace DateTime

/-! ### The form of a text -/

/-- The characters `ds` are `width` digits that write the number `n`. -/
def Writes (width : Nat) (ds : List Char) (n : Nat) : Prop :=
  ds.length = width ∧ (∀ d ∈ ds, d.isDigit = true) ∧ Nat.ofDigitChars 10 ds 0 = n

/-- What may stand after the seconds: nothing, or a point before one digit or
more. -/
inductive WritesFraction : List Char → List Char → Prop
  | none : WritesFraction [] []
  | point {ds : List Char} (hne : ds ≠ []) (hdigits : ∀ d ∈ ds, d.isDigit = true) :
    WritesFraction ('.' :: ds) ds

/-- The sign of an offset. -/
def sign (negative : Bool) : Char := if negative then '-' else '+'

/-- What may end a text: nothing or `Z`, both meaning no offset, or a sign
with hours and minutes. -/
inductive WritesOffset : List Char → Offset → Prop
  | none : WritesOffset [] .utc
  | zulu : WritesOffset ['Z'] .utc
  | signed (negative : Bool) {hs ms : List Char} {hours minutes : Nat}
    (hhours : Writes 2 hs hours) (hminutes : Writes 2 ms minutes) :
    WritesOffset (sign negative :: (hs ++ ':' :: ms)) ⟨negative, hours, minutes⟩

/-- The text `u` writes the date-time `t`, whatever its numbers are. -/
def HasText (t : DateTime) (u : Text) : Prop :=
  ∃ year month day hour minute second fraction offset : List Char,
    u.codes = CodePoint.ofChars (year ++ '-' :: (month ++ '-' :: (day ++ 'T' ::
      (hour ++ ':' :: (minute ++ ':' :: (second ++ (fraction ++ offset))))))) ∧
    Writes 4 year t.date.year ∧ Writes 2 month t.date.month ∧ Writes 2 day t.date.day ∧
    Writes 2 hour t.hour ∧ Writes 2 minute t.minute ∧ Writes 2 second t.second ∧
    WritesFraction fraction t.fraction ∧ WritesOffset offset t.offset

/-! ### Readers -/

theorem digits?_eq_some_iff {width n : Nat} {cs rest : List Char} :
    digits? width cs = some (n, rest) ↔ ∃ ds, cs = ds ++ rest ∧ Writes width ds n := by
  unfold digits? Writes
  refine ⟨?_, ?_⟩
  · intro h
    split at h
    · next htake =>
      obtain ⟨hlen, hall⟩ := htake
      obtain ⟨rfl, rfl⟩ := Prod.mk.inj (Option.some.inj h)
      exact ⟨cs.take width, (List.take_append_drop width cs).symm, hlen,
        List.all_eq_true.mp hall, rfl⟩
    · cases h
  · intro h
    obtain ⟨ds, rfl, hlen, hdigits, rfl⟩ := h
    rw [List.take_left' hlen, List.drop_left' hlen,
      if_pos ⟨hlen, List.all_eq_true.mpr hdigits⟩]

theorem after?_eq_some_iff {c : Char} {cs rest : List Char} :
    after? c cs = some rest ↔ cs = c :: rest := by
  cases cs with
  | nil => simp [after?]
  | cons d cs =>
    simp only [after?, List.cons.injEq]
    split
    · next hd => simp [hd]
    · next hd => simp [hd]

theorem signed?_eq_some_iff {negative : Bool} {cs : List Char} {o : Offset} :
    signed? negative cs = some o ↔ ∃ hs ms hours minutes, cs = hs ++ ':' :: ms ∧
      Writes 2 hs hours ∧ Writes 2 ms minutes ∧ o = ⟨negative, hours, minutes⟩ := by
  simp only [signed?, Option.bind_eq_bind, Option.bind_eq_some_iff, Prod.exists,
    digits?_eq_some_iff, after?_eq_some_iff]
  refine ⟨?_, ?_⟩
  · intro h
    obtain ⟨hours, _, ⟨hs, rfl, hhours⟩, _, rfl, minutes, rest, ⟨ms, rfl, hminutes⟩, hend⟩ := h
    split at hend
    · next hnil =>
      subst hnil
      rw [List.append_nil]
      exact ⟨hs, ms, hours, minutes, rfl, hhours, hminutes, (Option.some.inj hend).symm⟩
    · cases hend
  · intro h
    obtain ⟨hs, ms, hours, minutes, rfl, hhours, hminutes, rfl⟩ := h
    exact ⟨hours, _, ⟨hs, rfl, hhours⟩, ms, rfl, minutes, [], ⟨ms, (List.append_nil ms).symm,
      hminutes⟩, rfl⟩

theorem offset?_eq_some_iff {cs : List Char} {o : Offset} :
    offset? cs = some o ↔ WritesOffset cs o := by
  refine ⟨?_, ?_⟩
  · intro h
    unfold offset? at h
    split at h
    · obtain rfl := Option.some.inj h
      exact .none
    · obtain rfl := Option.some.inj h
      exact .zulu
    · obtain ⟨hs, ms, hours, minutes, rfl, hhours, hminutes, rfl⟩ := signed?_eq_some_iff.mp h
      exact .signed false hhours hminutes
    · obtain ⟨hs, ms, hours, minutes, rfl, hhours, hminutes, rfl⟩ := signed?_eq_some_iff.mp h
      exact .signed true hhours hminutes
    · cases h
  · intro h
    cases h with
    | none => rfl
    | zulu => rfl
    | signed negative hhours hminutes =>
      have hread := signed?_eq_some_iff.mpr
        ⟨_, _, _, _, rfl, hhours, hminutes, (rfl : (⟨negative, _, _⟩ : Offset) = _)⟩
      cases negative with
      | false => exact hread
      | true => exact hread

/-- An offset begins with no digit and no point, so it ends a fraction. -/
theorem WritesOffset.head {cs : List Char} {o : Offset} (h : WritesOffset cs o) :
    ∀ c ∈ cs.head?, c.isDigit = false ∧ c ≠ '.' := by
  cases h with
  | none => simp
  | zulu => simp
  | signed negative =>
    cases negative with
    | false => simp [sign]
    | true => simp [sign]

theorem fraction?_eq_some {cs ds rest : List Char} (h : fraction? cs = some (ds, rest)) :
    ∃ fs, cs = fs ++ rest ∧ WritesFraction fs ds := by
  unfold fraction? at h
  split at h
  · next cs =>
    split at h
    · cases h
    · next hne =>
      obtain ⟨rfl, rfl⟩ := Prod.mk.inj (Option.some.inj h)
      refine ⟨'.' :: cs.takeWhile Char.isDigit, ?_, .point hne ?_⟩
      · rw [List.cons_append, List.takeWhile_append_dropWhile]
      · intro d hd
        exact List.mem_takeWhile_imp hd
  · obtain ⟨rfl, rfl⟩ := Prod.mk.inj (Option.some.inj h)
    exact ⟨[], rfl, .none⟩

theorem fraction?_append {fs ds rest : List Char} (h : WritesFraction fs ds)
    (hrest : ∀ c ∈ rest.head?, c.isDigit = false ∧ c ≠ '.') :
    fraction? (fs ++ rest) = some (ds, rest) := by
  cases h with
  | none =>
    cases rest with
    | nil => rfl
    | cons c rest =>
      obtain ⟨-, hpoint⟩ := hrest c rfl
      rw [List.nil_append, fraction?]
      intro cs hcs
      exact hpoint (List.cons.inj hcs).1
  | point hne hdigits =>
    have hhead : rest.takeWhile Char.isDigit = [] ∧ rest.dropWhile Char.isDigit = rest := by
      cases rest with
      | nil => exact ⟨rfl, rfl⟩
      | cons c rest =>
        obtain ⟨hdigit, -⟩ := hrest c rfl
        simp [hdigit]
    have htake : (ds ++ rest).takeWhile Char.isDigit = ds := by
      rw [List.takeWhile_append_of_pos hdigits, hhead.1, List.append_nil]
    have hdrop : (ds ++ rest).dropWhile Char.isDigit = rest := by
      rw [List.dropWhile_append_of_pos hdigits, hhead.2]
    rw [List.cons_append, fraction?, htake, hdrop, if_neg hne]

/-- Only a string writes a date-time. -/
theorem HasText.exists_eq {u : Text} {t : DateTime} (h : t.HasText u) :
    ∃ s : String, u = .unicode s := by
  obtain ⟨_, _, _, _, _, _, _, _, hcodes, -⟩ := h
  exact ⟨_, Text.codes_injective (hcodes.trans (by rw [Text.codes_unicode, String.toList_ofList]))⟩

/-- Exactly the texts of the form of a date-time are taken apart. -/
theorem ofText?_eq_some_iff {s : String} {t : DateTime} : ofText? s = some t ↔ t.HasText s := by
  simp only [ofText?, Option.bind_eq_bind, Option.bind_eq_some_iff, Prod.exists,
    digits?_eq_some_iff, after?_eq_some_iff, offset?_eq_some_iff, Option.some.injEq]
  refine ⟨?_, ?_⟩
  · intro h
    obtain ⟨_, _, ⟨year, hs, hyear⟩, _, rfl, _, _, ⟨month, rfl, hmonth⟩, _, rfl, _, _,
      ⟨day, rfl, hday⟩, _, rfl, _, _, ⟨hour, rfl, hhour⟩, _, rfl, _, _,
      ⟨minute, rfl, hminute⟩, _, rfl, _, _, ⟨second, rfl, hsecond⟩, _, offset, hread, _,
      hoffset, rfl⟩ := h
    obtain ⟨fraction, rfl, hfraction⟩ := fraction?_eq_some hread
    exact ⟨year, month, day, hour, minute, second, fraction, offset,
      congrArg CodePoint.ofChars hs, hyear, hmonth, hday, hhour, hminute, hsecond, hfraction,
      hoffset⟩
  · intro h
    obtain ⟨year, month, day, hour, minute, second, fraction, offset, hcodes, hyear, hmonth, hday,
      hhour, hminute, hsecond, hfraction, hoffset⟩ := h
    have hs := CodePoint.ofChars_injective hcodes
    exact ⟨_, _, ⟨year, hs, hyear⟩, _, rfl, _, _, ⟨month, rfl, hmonth⟩, _, rfl, _, _,
      ⟨day, rfl, hday⟩, _, rfl, _, _, ⟨hour, rfl, hhour⟩, _, rfl, _, _,
      ⟨minute, rfl, hminute⟩, _, rfl, _, _, ⟨second, rfl, hsecond⟩, _, _,
      fraction?_append hfraction hoffset.head, _, hoffset, rfl⟩

theorem WritesFraction.isDigit {fs ds : List Char} (h : WritesFraction fs ds) :
    ∀ d ∈ ds, d.isDigit = true := by
  cases h with
  | none => simp
  | point _ hdigits => exact hdigits

/-! ### The moment of a date-time -/

/-- The numbers of a date-time are those of the calendar up to year 9999, of
a clock without leap seconds, and of an offset of less than a day. -/
structure IsCivil (t : DateTime) : Prop where
  date : t.date.IsReal
  year : t.date.year ≤ 9999
  hour : t.hour ≤ 23
  minute : t.minute ≤ 59
  second : t.second ≤ 59
  offset : t.offset.hours ≤ 23 ∧ t.offset.minutes ≤ 59

theorem isValid_iff_isCivil {t : DateTime} : t.IsValid ↔ t.IsCivil := by
  unfold IsValid
  rw [Date.isValid_iff]
  refine ⟨?_, ?_⟩
  · intro h
    obtain ⟨⟨hdate, hyear⟩, hhour, hminute, hsecond, hoffset⟩ := h
    exact ⟨hdate, hyear, hhour, hminute, hsecond, hoffset⟩
  · intro h
    exact ⟨⟨h.date, h.year⟩, h.hour, h.minute, h.second, h.offset⟩

/-- 1 January 1970. -/
def epoch : Date := ⟨1970, 1, 1⟩

theorem isDaysFrom_epoch_iff {t : DateTime} (h : t.IsCivil) {days : Int} :
    epoch.IsDaysFrom t.date days ↔ days = (t.date.dayNumber : Int) - epochDay := by
  have hepoch : epoch.IsReal := ⟨by decide, by decide, by decide⟩
  have hnumber : epoch.dayNumber = epochDay := by decide
  rw [Date.isDaysFrom_iff hepoch h.date, hnumber]

/-- The text `u` gives the date-time `t`, on the day `days` from the start of
1970. -/
structure Gives (u : Text) (t : DateTime) (days : Int) : Prop where
  text : t.HasText u
  civil : t.IsCivil
  days : epoch.IsDaysFrom t.date days

/-- Whole seconds from the start of 1970 in UTC to the second that is shown. -/
def seconds (t : DateTime) (days : Int) : Int :=
  86400 * days + 3600 * t.hour + 60 * t.minute + t.second - t.offset.seconds

/-- The exact time in seconds from the start of 1970 in UTC. -/
def moment (t : DateTime) (days : Int) : ℚ :=
  t.seconds days + (Nat.ofDigitChars 10 t.fraction 0 : ℚ) / 10 ^ t.fraction.length

/-- The first three digits of a fraction are its milliseconds, the rest of
the fraction left out. -/
theorem millis_eq_div {t : DateTime} (h : ∀ d ∈ t.fraction, d.isDigit = true) :
    t.millis = 1000 * Nat.ofDigitChars 10 t.fraction 0 / 10 ^ t.fraction.length := by
  have hdigits : ∀ d ∈ t.fraction ++ ['0', '0', '0'], d.isDigit = true := by
    simpa [or_imp, forall_and] using h
  have hvalue : Nat.ofDigitChars 10 (t.fraction ++ ['0', '0', '0']) 0 =
      1000 * Nat.ofDigitChars 10 t.fraction 0 := by
    simp only [Nat.ofDigitChars_append, Nat.ofDigitChars_cons, Nat.ofDigitChars_nil]
    omega
  have hlen : ((t.fraction ++ ['0', '0', '0']).drop 3).length = t.fraction.length := by simp
  have hlt : Nat.ofDigitChars 10 ((t.fraction ++ ['0', '0', '0']).drop 3) 0 <
      10 ^ ((t.fraction ++ ['0', '0', '0']).drop 3).length :=
    Text.ofDigitChars_lt fun d hd => hdigits d (List.mem_of_mem_drop hd)
  rw [← List.take_append_drop 3 (t.fraction ++ ['0', '0', '0']), Nat.ofDigitChars_append,
    Nat.ofDigitChars_eq_ofDigitChars_zero, hlen] at hvalue
  rw [hlen] at hlt
  rw [← hvalue, Nat.mul_add_div (Nat.pow_pos (by decide)), Nat.div_eq_of_lt hlt, Nat.add_zero,
    millis]

/-- The instant of a date-time is its exact time in milliseconds, rounded
down. -/
theorem floor_moment {t : DateTime} (h : ∀ d ∈ t.fraction, d.isDigit = true) (days : Int) :
    ⌊1000 * t.moment days⌋ = 1000 * t.seconds days + t.millis := by
  have hsplit : 1000 * t.moment days = ((1000 * t.seconds days : Int) : ℚ) +
      ((1000 * Nat.ofDigitChars 10 t.fraction 0 : Nat) : ℚ) /
        ((10 ^ t.fraction.length : Nat) : ℚ) := by
    rw [moment, mul_add, mul_div_assoc']
    push_cast
    rfl
  rw [hsplit, Int.floor_intCast_add, Rat.floor_natCast_div_natCast, millis_eq_div h]
  rfl

theorem HasText.isDigit {u : Text} {t : DateTime} (h : t.HasText u) :
    ∀ d ∈ t.fraction, d.isDigit = true := by
  obtain ⟨_, _, _, _, _, _, _, _, -, -, -, -, -, -, -, hfraction, -⟩ := h
  exact hfraction.isDigit

end DateTime

namespace Payload

open DateTime

theorem timestamp_of_gives {u : Text} {t : DateTime} {days : Int} (h : Gives u t days) :
    timestamp (.text u) = .ok (1000 * t.seconds days + t.millis) := by
  obtain ⟨s, rfl⟩ := h.text.exists_eq
  have hread := ofText?_eq_some_iff.mpr h.text
  have hvalid := isValid_iff_isCivil.mpr h.civil
  obtain rfl := (isDaysFrom_epoch_iff h.civil).mp h.days
  simp only [timestamp, hread, hvalid, if_true, instant, seconds]

/-- A text gives a date-time, or it is malformed. -/
theorem gives_or_malformed (u : Text) :
    (∃ t days, Gives u t days) ∨
      (∀ t : DateTime, ¬ (t.HasText u ∧ t.IsCivil)) ∧
        ∃ reason cause, timestamp (.text u) = .error (.malformed reason cause) := by
  rcases u with s | ⟨cs, hcs⟩
  case broken =>
    refine Or.inr ⟨fun t h => ?_, .notDateTime (.broken cs hcs), none, rfl⟩
    obtain ⟨s, hs⟩ := h.1.exists_eq
    cases hs
  cases hread : ofText? s with
  | none =>
    refine Or.inr ⟨?_, .notDateTime s, none, by simp only [timestamp, hread]⟩
    intro t h
    rw [ofText?_eq_some_iff.mpr h.1] at hread
    cases hread
  | some t =>
    by_cases hvalid : t.IsValid
    · have hcivil := isValid_iff_isCivil.mp hvalid
      exact Or.inl ⟨t, _, ofText?_eq_some_iff.mp hread, hcivil,
        (isDaysFrom_epoch_iff hcivil).mpr rfl⟩
    · refine Or.inr ⟨?_, .noSuchDateTime s, some (.invalid "datetime" []),
        by simp only [timestamp, hread, hvalid, if_false]⟩
      intro t' h
      rw [ofText?_eq_some_iff.mpr h.1] at hread
      obtain rfl := Option.some.inj hread
      exact hvalid (isValid_iff_isCivil.mpr h.2)

/-- **A timestamp is the civil instant that its text shows.** Exactly the
texts of the form of a date-time with civil numbers are read, and the rest
are malformed; what is read is the number of milliseconds from the start of
1970 by the count of days, the time of day, the offset and three digits of
the fraction. It is the exact time rounded down, before 1970 too, so two
texts of the same exact time are read as the same number. -/
theorem timestamp_is_civil_instant (u : Text) :
    ((∃ n, timestamp (.text u) = .ok n) ↔ ∃ t : DateTime, t.HasText u ∧ t.IsCivil) ∧
    (∀ n, timestamp (.text u) = .ok n ↔ ∃ t days, Gives u t days ∧
      n = 1000 * (86400 * days + 3600 * t.hour + 60 * t.minute + t.second - t.offset.seconds) +
        Nat.ofDigitChars 10 ((t.fraction ++ ['0', '0', '0']).take 3) 0) ∧
    ((¬ ∃ t : DateTime, t.HasText u ∧ t.IsCivil) ↔
      ∃ reason cause, timestamp (.text u) = .error (.malformed reason cause)) ∧
    (∀ t days, Gives u t days → timestamp (.text u) = .ok ⌊1000 * t.moment days⌋) ∧
    ∀ u' t t' days days', Gives u t days → Gives u' t' days' →
      t.moment days = t'.moment days' → timestamp (.text u) = timestamp (.text u') := by
  have hfloor : ∀ u t days, Gives u t days →
      timestamp (.text u) = .ok ⌊1000 * t.moment days⌋ := by
    intro u t days h
    rw [timestamp_of_gives h, floor_moment h.text.isDigit]
  refine ⟨?_, ?_, ?_, hfloor u, ?_⟩
  · rcases gives_or_malformed u with ⟨t, days, h⟩ | ⟨hnone, reason, cause, herror⟩
    · exact iff_of_true ⟨_, timestamp_of_gives h⟩ ⟨t, h.text, h.civil⟩
    · refine iff_of_false ?_ fun ⟨t, h⟩ => hnone t h
      rintro ⟨n, h⟩
      rw [herror] at h
      cases h
  · intro n
    refine ⟨?_, ?_⟩
    · intro hn
      rcases gives_or_malformed u with ⟨t, days, h⟩ | ⟨-, reason, cause, herror⟩
      · rw [timestamp_of_gives h] at hn
        exact ⟨t, days, h, (Except.ok.inj hn).symm⟩
      · rw [herror] at hn
        cases hn
    · intro hn
      obtain ⟨t, days, h, rfl⟩ := hn
      exact timestamp_of_gives h
  · rcases gives_or_malformed u with ⟨t, days, h⟩ | ⟨hnone, herror⟩
    · refine iff_of_false (fun hnone => hnone ⟨t, h.text, h.civil⟩) ?_
      rintro ⟨reason, cause, herror⟩
      rw [timestamp_of_gives h] at herror
      cases herror
    · exact iff_of_true (fun ⟨t, h⟩ => hnone t h) herror
  · intro u' t t' days days' h h' hmoment
    rw [hfloor u t days h, hfloor u' t' days' h', hmoment]

/-- The last second before 1970 is rounded down as well. -/
example : timestamp (.text "1969-12-31T23:59:59.9999Z") = .ok (-1) := by rfl

end Payload
end VmResource
