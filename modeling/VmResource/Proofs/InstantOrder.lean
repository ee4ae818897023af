/-
# The texts of instants are in the order of time

The text of an instant writes seven numbers, from the year down to the
millisecond, each in its own width and with the same character after it. So
all these texts have one form, and texts of this form are ordered as their
numbers are: the first one that differs decides. A later date has the greater
numbers, because every step to the next day raises one of them and lowers
only those that come after it; on one day the numbers of the clock follow the
milliseconds. The text of the earlier instant therefore comes first.

Key definitions: `Date.numbers`, `Instant.numbers`, `Instant.layout`,
`Instant.HasForm`.
Key theorems: `Date.numbers_lt_of_dayNumber_lt`, `Instant.written_lt_written`,
`Instant.text_lt_text`, `Payload.instants_are_written_in_order`.
-/
import Mathlib.Data.List.Lex
import Mathlib.Order.Monotone.Basic
import VmResource.Proofs.DayCount
import VmResource.Proofs.InstantText
import VmResource.Proofs.IntegerText

namespace VmResource

/-- Of two lists of one length the smaller one stays smaller, whatever follows
them. -/
theorem append_lt_append_of_lt {α : Type} [LT α] : ∀ {xs ys : List α} (as bs : List α),
    xs.length = ys.length → xs < ys → xs ++ as < ys ++ bs
  | [], [], _, _, _, h => absurd h List.not_lex_nil
  | x :: xs, y :: ys, as, bs, hlen, h => by
    rcases List.cons_lt_cons_iff.mp h with hlt | ⟨rfl, hrest⟩
    · exact List.cons_lt_cons_iff.mpr (Or.inl hlt)
    · have ih := append_lt_append_of_lt as bs (Nat.succ.inj hlen) hrest
      exact List.cons_lt_cons_iff.mpr (Or.inr ⟨rfl, ih⟩)

/-! ### Dates -/

namespace Date

/-- The numbers of a date, the one that counts most first. -/
def numbers (d : Date) : List Nat := [d.year, d.month, d.day]

/-- The next day is later: a month is only left for a later one, and a year
too. -/
theorem numbers_lt_next (d : Date) : d.numbers < d.next.numbers := by
  unfold next numbers
  split
  · simp [List.cons_lt_cons_iff]
  · split
    · simp [List.cons_lt_cons_iff]
    · simp [List.cons_lt_cons_iff]

/-- Of two dates the one that more days lead to is the later one. -/
theorem numbers_lt_of_dayNumber_lt {d e : Date} (hd : d.IsReal) (he : e.IsReal)
    (h : d.dayNumber < e.dayNumber) : d.numbers < e.numbers := by
  have hmono : StrictMono fun days : Nat => (next^[days] first).numbers := by
    apply strictMono_nat_of_lt_succ
    intro days
    rw [Function.iterate_succ_apply']
    exact numbers_lt_next _
  have hlt := hmono h
  simp only [iterate_next_first hd, iterate_next_first he] at hlt
  exact hlt

end Date

/-! ### Numbers in a text -/

namespace Text

/-- Of two runs of digits of one length the one of the smaller number comes
first. -/
theorem lt_of_ofDigitChars_lt : ∀ {xs ys : List Char}, xs.length = ys.length →
    (∀ c ∈ xs, c.isDigit = true) → (∀ c ∈ ys, c.isDigit = true) →
    Nat.ofDigitChars 10 xs 0 < Nat.ofDigitChars 10 ys 0 → xs < ys
  | [], [], _, _, _, h => absurd h (Nat.lt_irrefl _)
  | x :: xs, y :: ys, hlen, hxs, hys, h => by
    have hx := toNat_of_isDigit (hxs x List.mem_cons_self)
    have hy := toNat_of_isDigit (hys y List.mem_cons_self)
    have hxs' : ∀ c ∈ xs, c.isDigit = true := fun c hc => hxs c (List.mem_cons_of_mem x hc)
    have hys' : ∀ c ∈ ys, c.isDigit = true := fun c hc => hys c (List.mem_cons_of_mem y hc)
    have hlen' : xs.length = ys.length := Nat.succ.inj hlen
    rw [ofDigitChars_cons_eq, ofDigitChars_cons_eq, hlen'] at h
    rcases Nat.lt_trichotomy x.toNat y.toNat with hlt | heq | hgt
    · exact List.cons_lt_cons_iff.mpr (Or.inl hlt)
    · obtain rfl : x = y := Char.toNat_inj.mp heq
      have ih := lt_of_ofDigitChars_lt hlen' hxs' hys' (by omega)
      exact List.cons_lt_cons_iff.mpr (Or.inr ⟨rfl, ih⟩)
    · -- a greater first digit is not made up for by the digits after it
      have hrest : Nat.ofDigitChars 10 ys 0 < 10 ^ ys.length := ofDigitChars_lt hys'
      have hfirst : 10 ^ ys.length * (y.toNat - 48) + 10 ^ ys.length ≤
          10 ^ ys.length * (x.toNat - 48) := by
        rw [← Nat.mul_succ]
        exact Nat.mul_le_mul_left _ (by omega)
      omega

end Text

namespace Instant

theorem padded_lt_padded {width m n : Nat} (hw : 0 < width) (hm : m < 10 ^ width)
    (hn : n < 10 ^ width) (h : m < n) : padded width m < padded width n := by
  apply Text.lt_of_ofDigitChars_lt
  · rw [length_padded hw hm, length_padded hw hn]
  · exact fun _ => isDigit_of_mem_padded
  · exact fun _ => isDigit_of_mem_padded
  · rwa [ofDigitChars_padded, ofDigitChars_padded]

/-! ### The layout of the text -/

/-- The numbers of the time of day. -/
def clock (n : Nat) : List Nat :=
  [n / 3600000 % 24, n / 60000 % 60, n / 1000 % 60, n % 1000]

/-- The numbers that the text of an instant shows, `n` milliseconds after the
start of year 1: those of the date and those of the clock. -/
def numbers (n : Nat) : List Nat := (Date.ofDayNumber (n / 86400000)).numbers ++ clock n

/-- How the text shows its numbers: letters that stand for the digits of each,
and the character after them. -/
def layout : List (List Char × Char) :=
  [(['Y', 'Y', 'Y', 'Y'], '-'), (['M', 'M'], '-'), (['D', 'D'], 'T'), (['H', 'H'], ':'),
    (['M', 'M'], ':'), (['S', 'S'], '.'), (['m', 'm', 'm'], '+')]

/-- The offset after all numbers, less its sign. -/
def zeroOffset : List Char := ['0', '0', ':', '0', '0']

/-- Numbers written in the places of a layout. -/
def written : List (List Char × Char) → List Nat → List Char
  | (letters, c) :: ps, k :: ks => padded letters.length k ++ c :: written ps ks
  | _, _ => zeroOffset

/-- The form that a layout describes. -/
def form (ps : List (List Char × Char)) : List Char :=
  (ps.flatMap fun p => p.1 ++ [p.2]) ++ zeroOffset

/-- Each number has a place, and is not too long for it. -/
def Fits (ps : List (List Char × Char)) (ks : List Nat) : Prop :=
  List.Forall₂ (fun p k => p.1 ≠ [] ∧ k < 10 ^ p.1.length) ps ks

theorem chars_eq_written (n : Nat) : chars n = written layout (numbers n) := by
  simp [chars, written, layout, numbers, clock, Date.numbers, zeroOffset]

theorem fits_numbers {n : Nat} (h : n ≤ DateTime.lastMillis) : Fits layout (numbers n) := by
  obtain ⟨hdate, -⟩ := DateTime.isValid_ofMillis h
  obtain ⟨hmonth, hday⟩ := hdate.month_day_le
  obtain ⟨-, hyear, -⟩ := hdate
  simp only [DateTime.ofMillis] at hyear hmonth hday
  simp only [Fits, layout, numbers, clock, Date.numbers, List.cons_append, List.nil_append,
    List.forall₂_cons, List.Forall₂.nil, and_true, ne_eq, reduceCtorEq, not_false_eq_true,
    true_and, List.length_cons, List.length_nil]
  omega

/-- What is written in a layout is ordered as the numbers are. -/
theorem written_lt_written {ps : List (List Char × Char)} {ks ls : List Nat} (hks : Fits ps ks)
    (hls : Fits ps ls) (h : ks < ls) : written ps ks < written ps ls := by
  induction hks generalizing ls with
  | nil =>
    cases hls
    exact absurd h (List.lt_irrefl [])
  | @cons p k ps ks hk _ ih =>
    cases hls with
    | @cons _ l _ ls hl hls =>
      rcases List.cons_lt_cons_iff.mp h with hlt | ⟨rfl, hrest⟩
      · have hw : 0 < p.1.length := List.length_pos_iff.mpr hk.1
        apply append_lt_append_of_lt
        · rw [length_padded hw hk.2, length_padded hw hl.2]
        · exact padded_lt_padded hw hk.2 hl.2 hlt
      · apply List.append_left_lt
        exact List.cons_lt_cons_iff.mpr (Or.inr ⟨rfl, ih hls hrest⟩)

/-- On one day the numbers of the later time are the greater ones: the larger
unit decides, and if it is the same the next one. -/
theorem clock_lt_clock {m n : Nat} (hday : m / 86400000 = n / 86400000) (h : m < n) :
    clock m < clock n := by
  have hhour : m / 3600000 ≤ n / 3600000 := Nat.div_le_div_right (Nat.le_of_lt h)
  have hminute : m / 60000 ≤ n / 60000 := Nat.div_le_div_right (Nat.le_of_lt h)
  have hsecond : m / 1000 ≤ n / 1000 := Nat.div_le_div_right (Nat.le_of_lt h)
  simp only [clock, List.cons_lt_cons_iff, List.lt_irrefl, and_false, or_false]
  rcases Nat.lt_or_eq_of_le hhour with hlt | hhour
  · exact Or.inl (by omega)
  refine Or.inr ⟨by rw [hhour], ?_⟩
  rcases Nat.lt_or_eq_of_le hminute with hlt | hminute
  · exact Or.inl (by omega)
  refine Or.inr ⟨by rw [hminute], ?_⟩
  rcases Nat.lt_or_eq_of_le hsecond with hlt | hsecond
  · exact Or.inl (by omega)
  exact Or.inr ⟨by rw [hsecond], by omega⟩

/-- The later instant has the greater numbers: those of a later date or, on
one day, those of a later time. -/
theorem numbers_lt_numbers {m n : Nat} (hn : n ≤ DateTime.lastMillis) (h : m < n) :
    numbers m < numbers n := by
  have hlast : DateTime.lastMillis = 315537897599999 := rfl
  have hdays : m / 86400000 ≤ n / 86400000 := Nat.div_le_div_right (Nat.le_of_lt h)
  have hreal : ∀ days < 3652059, (Date.ofDayNumber days).IsReal := fun days hdays =>
    (Date.isValid_iff.mp (Date.isValid_ofDayNumber hdays)).1
  unfold numbers
  rcases Nat.lt_or_eq_of_le hdays with hlt | heq
  · have hdate := Date.numbers_lt_of_dayNumber_lt (hreal (m / 86400000) (by omega))
      (hreal (n / 86400000) (by omega))
      (by rwa [Date.dayNumber_ofDayNumber, Date.dayNumber_ofDayNumber])
    exact append_lt_append_of_lt _ _ (by simp [Date.numbers]) hdate
  · rw [heq]
    exact List.append_left_lt (clock_lt_clock heq h)

/-- The text of the earlier instant comes first. -/
theorem text_lt_text {m n : Int} {s t : String} (hs : text? m = some s) (ht : text? n = some t)
    (h : m < n) : s < t := by
  simp only [text?] at hs ht
  split at hs
  · next hm =>
    split at ht
    · next hn =>
      obtain rfl := Option.some.inj hs
      obtain rfl := Option.some.inj ht
      have hle : (n - first).toNat ≤ DateTime.lastMillis := by
        simp only [first, last, DateTime.lastMillis] at hm hn ⊢
        omega
      have hle' : (m - first).toNat ≤ DateTime.lastMillis := by omega
      rw [String.lt_iff, String.toList_ofList, String.toList_ofList, chars_eq_written,
        chars_eq_written]
      apply written_lt_written (fits_numbers hle') (fits_numbers hle)
      exact numbers_lt_numbers hle (by omega)
    · cases ht
  · cases hs

/-! ### The form of the text -/

/-- In the description of a form every letter stands for a digit, but for the
`T` between date and time. -/
def standsForDigit (l : Char) : Bool := l.isAlpha && l != 'T'

/-- A character at the place of `l`. -/
def Shows (l c : Char) : Prop := if standsForDigit l then c.isDigit = true else c = l

/-- The text has the form that is described: digits where letters stand for
them, and elsewhere the same characters. -/
def HasForm (description s : String) : Prop := List.Forall₂ Shows description.toList s.toList

theorem forall₂_shows_padded {letters : List Char} {k : Nat} (hne : letters ≠ [])
    (hk : k < 10 ^ letters.length) (h : ∀ l ∈ letters, standsForDigit l = true) :
    List.Forall₂ Shows letters (padded letters.length k) := by
  have hlen := length_padded (List.length_pos_iff.mpr hne) hk
  refine List.forall₂_iff_zip.mpr ⟨hlen.symm, fun {l c} hmem => ?_⟩
  obtain ⟨hl, hc⟩ := List.of_mem_zip hmem
  rw [Shows, if_pos (h l hl)]
  exact isDigit_of_mem_padded hc

/-- What is written in a layout has the form of the layout. -/
theorem forall₂_shows_written {ps : List (List Char × Char)} {ks : List Nat} (hks : Fits ps ks)
    (h : ∀ p ∈ ps, (∀ l ∈ p.1, standsForDigit l = true) ∧ standsForDigit p.2 = false) :
    List.Forall₂ Shows (form ps) (written ps ks) := by
  induction hks with
  | nil => simp [form, written, zeroOffset, Shows, standsForDigit]
  | @cons p k ps ks hk _ ih =>
    obtain ⟨⟨hletters, hafter⟩, hrest⟩ := List.forall_mem_cons.mp h
    have hnumber := forall₂_shows_padded hk.1 hk.2 hletters
    have hchar : Shows p.2 p.2 := by simp [Shows, hafter]
    have hform : form (p :: ps) = p.1 ++ p.2 :: form ps := by simp [form]
    rw [hform]
    exact List.rel_append hnumber (.cons hchar (ih hrest))

theorem hasForm_chars {n : Nat} (h : n ≤ DateTime.lastMillis) :
    HasForm "YYYY-MM-DDTHH:MM:SS.mmm+00:00" (String.ofList (chars n)) := by
  have hform : "YYYY-MM-DDTHH:MM:SS.mmm+00:00".toList = form layout := by decide
  rw [HasForm, hform, String.toList_ofList, chars_eq_written]
  exact forall₂_shows_written (fits_numbers h) (by simp [layout, standsForDigit])

end Instant

namespace Payload

open Instant

/-- **Instants are written in order.** Exactly the instants of the years 1 to
9999 are written; each text has the same form of 29 characters and is read as
its instant. So no two instants have one text, and the order of the texts is
the order of the instants. -/
theorem instants_are_written_in_order :
    (∀ n : Int,
      if -62135596800000 ≤ n ∧ n ≤ 253402300799999 then
        ∃ s, timestampText n = .ok s ∧ HasForm "YYYY-MM-DDTHH:MM:SS.mmm+00:00" s ∧
          s.length = 29 ∧ timestamp (.text s) = .ok n
      else timestampText n = .error .instantOutOfRange) ∧
    (∀ m n s, timestampText m = .ok s → timestampText n = .ok s → m = n) ∧
    ∀ m n s t, timestampText m = .ok s → timestampText n = .ok t → (m < n ↔ s < t) := by
  have hinjective : ∀ m n s, timestampText m = .ok s → timestampText n = .ok s → m = n := by
    intro m n s hm hn
    have hread := timestamp_text? (timestampText_eq_ok_iff.mp hm)
    rw [timestamp_text? (timestampText_eq_ok_iff.mp hn)] at hread
    exact (Except.ok.inj hread).symm
  have hmono : ∀ m n s t, timestampText m = .ok s → timestampText n = .ok t → m < n → s < t := by
    intro m n s t hs ht
    exact text_lt_text (timestampText_eq_ok_iff.mp hs) (timestampText_eq_ok_iff.mp ht)
  refine ⟨?_, hinjective, ?_⟩
  · intro n
    split
    · next hrange =>
      have htext : Instant.text? n = some (String.ofList (chars (n - first).toNat)) :=
        if_pos hrange
      have hle : (n - first).toNat ≤ DateTime.lastMillis := by
        simp only [first, DateTime.lastMillis]
        omega
      have hform := hasForm_chars hle
      have hlen : (String.ofList (chars (n - first).toNat)).length = 29 :=
        hform.length_eq.symm
      exact ⟨_, timestampText_eq_ok_iff.mpr htext, hform, hlen, timestamp_text? htext⟩
    · next hrange => exact timestampText_eq_error hrange
  · intro m n s t hs ht
    refine ⟨hmono m n s t hs ht, ?_⟩
    intro hlt
    rcases lt_trichotomy m n with h | rfl | h
    · exact h
    · obtain rfl : s = t := Except.ok.inj (hs.symm.trans ht)
      exact absurd hlt (String.lt_irrefl s)
    · exact absurd hlt (String.lt_asymm (hmono n m t s ht hs h))

/-- The last millisecond before 1970 comes right before the first one of it,
in the order of the texts too. -/
theorem epoch_text_comes_later : ∃ s t, timestampText (-1) = .ok s ∧ timestampText 0 = .ok t ∧
    s < t := by
  obtain ⟨-, -, horder⟩ := instants_are_written_in_order
  have hbefore : timestampText (-1) = .ok "1969-12-31T23:59:59.999+00:00" := by rfl
  have hepoch : timestampText 0 = .ok "1970-01-01T00:00:00.000+00:00" := by rfl
  exact ⟨_, _, hbefore, hepoch, (horder _ _ _ _ hbefore hepoch).mp (by decide)⟩

end Payload
end VmResource
