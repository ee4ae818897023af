/-
# Instants read back

The text of an instant of the years 1 to 9999 is a date-time of fixed form,
with numbers in range, and stands for that instant.

Key theorems: `DateTime.ofText?_chars`, `Payload.timestamp_text?`,
`Payload.timestampText_eq_ok_iff`.
-/
import Mathlib.Algebra.Order.Ring.Nat
import VmResource.Payload.Scalar
import VmResource.Proofs.Calendar

namespace VmResource

namespace Instant

theorem isDigit_of_mem_padded {width n : Nat} {c : Char} (h : c ∈ padded width n) :
    c.isDigit = true := by
  rcases List.mem_append.mp h with h | h
  · rw [(List.mem_replicate.mp h).2]
    rfl
  · exact Nat.isDigit_of_mem_toDigits (by decide) (by decide) h

theorem length_padded {width n : Nat} (hw : 0 < width) (h : n < 10 ^ width) :
    (padded width n).length = width := by
  rw [padded, List.length_leftpad, Nat.max_eq_left]
  exact (Nat.length_toDigits_le_iff (by decide) hw).mpr h

theorem ofDigitChars_padded (width n : Nat) : Nat.ofDigitChars 10 (padded width n) 0 = n := by
  simp [padded, List.leftpad, Nat.ofDigitChars_append]

end Instant

namespace DateTime

open Instant

/-! ### Reading numbers of fixed width -/

theorem digits?_padded (width : Nat) {n : Nat} (hw : 0 < width) (h : n < 10 ^ width)
    (cs : List Char) : digits? width (padded width n ++ cs) = some (n, cs) := by
  have htake : (padded width n ++ cs).take width = padded width n :=
    List.take_left' (length_padded hw h)
  have hdrop : (padded width n ++ cs).drop width = cs := List.drop_left' (length_padded hw h)
  have hall : (padded width n).all Char.isDigit = true :=
    List.all_eq_true.mpr fun _ => isDigit_of_mem_padded
  rw [digits?, htake, hdrop, if_pos ⟨length_padded hw h, hall⟩, ofDigitChars_padded]

theorem fraction?_padded (width : Nat) {n : Nat} (hw : 0 < width) (h : n < 10 ^ width) {c : Char}
    (hc : c.isDigit = false) (cs : List Char) :
    fraction? ('.' :: (padded width n ++ c :: cs)) = some (padded width n, c :: cs) := by
  have htake : (padded width n ++ c :: cs).takeWhile Char.isDigit = padded width n := by
    rw [List.takeWhile_append_of_pos fun _ => isDigit_of_mem_padded]
    simp [hc]
  have hdrop : (padded width n ++ c :: cs).dropWhile Char.isDigit = c :: cs := by
    rw [List.dropWhile_append_of_pos fun _ => isDigit_of_mem_padded]
    simp [hc]
  have hne : padded width n ≠ [] := fun hnil => by
    have hlen := length_padded hw h
    rw [hnil] at hlen
    exact absurd hlen (Nat.ne_of_lt hw)
  rw [fraction?, htake, hdrop, if_neg hne]

/-! ### Reading an instant -/

/-- The date-time that the text of an instant shows, `n` milliseconds after
the start of year 1. -/
def ofMillis (n : Nat) : DateTime :=
  ⟨Date.ofDayNumber (n / 86400000), n / 3600000 % 24, n / 60000 % 60, n / 1000 % 60,
    padded 3 (n % 1000), .utc⟩

/-- The last millisecond of year 9999. -/
def lastMillis : Nat := 315537897599999

theorem isValid_ofMillis {n : Nat} (h : n ≤ lastMillis) : (ofMillis n).IsValid := by
  have hlast : lastMillis = 315537897599999 := rfl
  refine ⟨Date.isValid_ofDayNumber (by omega), ?_, ?_, ?_, Nat.zero_le _, Nat.zero_le _⟩
  all_goals simp only [ofMillis]
  all_goals omega

/-- The text of an instant is taken apart into the numbers that it shows. -/
theorem ofText?_chars {n : Nat} (h : n ≤ lastMillis) :
    ofText? (String.ofList (chars n)) = some (ofMillis n) := by
  obtain ⟨hdate, -⟩ := isValid_ofMillis h
  obtain ⟨hmonth, hday⟩ := hdate.month_day_le
  obtain ⟨-, hyear, -⟩ := hdate
  simp only [ofMillis] at hyear hmonth hday
  have hchars : chars n =
      padded 4 (Date.ofDayNumber (n / 86400000)).year ++ ('-' ::
      (padded 2 (Date.ofDayNumber (n / 86400000)).month ++ ('-' ::
      (padded 2 (Date.ofDayNumber (n / 86400000)).day ++ ('T' ::
      (padded 2 (n / 3600000 % 24) ++ (':' :: (padded 2 (n / 60000 % 60) ++ (':' ::
      (padded 2 (n / 1000 % 60) ++ ('.' ::
      (padded 3 (n % 1000) ++ ['+', '0', '0', ':', '0', '0'])))))))))))) := by
    simp [chars]
  have hoffset : offset? ['+', '0', '0', ':', '0', '0'] = some .utc := by decide
  have hyears := digits?_padded 4 (by decide)
    (show (Date.ofDayNumber (n / 86400000)).year < 10 ^ 4 by omega)
  have hmonths := digits?_padded 2 (by decide)
    (show (Date.ofDayNumber (n / 86400000)).month < 10 ^ 2 by omega)
  have hdays := digits?_padded 2 (by decide)
    (show (Date.ofDayNumber (n / 86400000)).day < 10 ^ 2 by omega)
  have hhours := digits?_padded 2 (by decide)
    (show n / 3600000 % 24 < 10 ^ 2 by omega)
  have hminutes := digits?_padded 2 (by decide)
    (show n / 60000 % 60 < 10 ^ 2 by omega)
  have hseconds := digits?_padded 2 (by decide)
    (show n / 1000 % 60 < 10 ^ 2 by omega)
  have hfraction := fraction?_padded 3 (by decide)
    (show n % 1000 < 10 ^ 3 by omega) (show '+'.isDigit = false from rfl)
  simp only [ofText?, String.toList_ofList, hchars, hyears, hmonths, hdays, hhours, hminutes,
    hseconds, hfraction, hoffset, after?, ↓reduceIte, Option.bind_eq_bind, Option.bind_some]
  rfl

/-- The date-time that the text of an instant shows stands for the instant. -/
theorem instant_ofMillis (n : Nat) : (ofMillis n).instant = first + n := by
  have hmillis : (ofMillis n).millis = n % 1000 := by
    have hlen : (padded 3 (n % 1000)).length = 3 := length_padded (by decide) (by omega)
    rw [millis, ofMillis, List.take_left' hlen, ofDigitChars_padded]
  have hutc : (ofMillis n).offset.seconds = 0 := rfl
  rw [instant, hmillis, hutc]
  simp only [ofMillis, Date.dayNumber_ofDayNumber, epochDay, first]
  omega

end DateTime

namespace Payload

open DateTime Instant

/-- The text of an instant reads back. -/
theorem timestamp_text? {n : Int} {s : String} (h : Instant.text? n = some s) :
    timestamp (.text s) = .ok n := by
  simp only [Instant.text?] at h
  split at h
  · next hrange =>
    obtain rfl := Option.some.inj h
    have hle : (n - first).toNat ≤ lastMillis := by
      simp only [first, last, lastMillis] at hrange ⊢
      omega
    have hinstant : first + ((n - first).toNat : Int) = n := by omega
    simp only [timestamp, ofText?_chars hle, isValid_ofMillis hle, ↓reduceIte, instant_ofMillis,
      hinstant]
  · cases h

theorem timestampText_eq_ok_iff {n : Int} {s : String} :
    timestampText n = .ok s ↔ Instant.text? n = some s := by
  unfold timestampText
  cases Instant.text? n <;> simp

/-- Exactly the instants of the years 1 to 9999 have a text. -/
theorem exists_timestampText_eq_ok_iff {n : Int} :
    (∃ s, timestampText n = .ok s) ↔ first ≤ n ∧ n ≤ last := by
  simp only [timestampText_eq_ok_iff]
  unfold Instant.text?
  by_cases h : first ≤ n ∧ n ≤ last
  · rw [if_pos h]
    simpa using h
  · rw [if_neg h]
    simpa using h

theorem timestampText_eq_error {n : Int} (h : ¬ (first ≤ n ∧ n ≤ last)) :
    timestampText n = .error .instantOutOfRange := by
  rw [timestampText, Instant.text?, if_neg h]

end Payload
end VmResource
