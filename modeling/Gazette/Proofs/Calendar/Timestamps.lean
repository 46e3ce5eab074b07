import Mathlib.Tactic.IntervalCases
import Mathlib.Tactic.Linarith
import Mathlib.Tactic.Positivity
import Mathlib.Tactic.Ring
import Gazette.Calendar.Instant
import Gazette.Proofs.Calendar.Days

/-! # Timestamps

A text names an instant exactly if it is a spelling of a timestamp: a date, a time of day and an
offset from universal time. -/
namespace Gazette

/-- A number in so many digits, with zeros in front. -/
def numeral : Nat → Nat → List Char
  | 0, _ => []
  | places + 1, n => Nat.digitChar (n / 10 ^ places) :: numeral places (n % 10 ^ places)

/-- Hours and minutes ahead of universal time or behind it, or that time itself. -/
inductive Offset where
  | universal
  | ahead (hours minutes : Nat)
  | behind (hours minutes : Nat)
  deriving DecidableEq, Repr

namespace Offset

def Valid : Offset → Prop
  | .universal => True
  | .ahead hours minutes | .behind hours minutes => hours ≤ 23 ∧ minutes ≤ 59

instance : (o : Offset) → Decidable o.Valid
  | .universal => .isTrue trivial
  | .ahead _ _ | .behind _ _ => inferInstanceAs (Decidable (_ ∧ _))

def seconds : Offset → Int
  | .universal => 0
  | .ahead hours minutes => hours * 3600 + minutes * 60
  | .behind hours minutes => -(hours * 3600 + minutes * 60)

def clock (hours minutes : Nat) : List Char := numeral 2 hours ++ ':' :: numeral 2 minutes

/-- The ways to write an offset. -/
def spellings : Offset → List (List Char)
  | .universal => [['Z'], ['z']]
  | .ahead hours minutes => ['+' :: clock hours minutes]
  | .behind hours minutes => ['-' :: clock hours minutes, '\u2212' :: clock hours minutes]

end Offset

/-- What a timestamp says. Second 60 is a leap second. -/
structure Timestamp where
  date : Date
  hour : Nat := 0
  minute : Nat := 0
  second : Nat := 0
  /-- The digits behind the decimal point. Without any there is no point. -/
  fraction : List Char := []
  offset : Offset := .universal
  deriving DecidableEq, Repr

namespace Timestamp

structure Valid (s : Timestamp) : Prop where
  date : s.date.Valid
  year : 0 ≤ s.date.year ∧ s.date.year ≤ 9999
  time : s.hour ≤ 23 ∧ s.minute ≤ 59 ∧ s.second ≤ 60
  fraction : s.fraction.all Char.isDigit
  offset : s.offset.Valid

instance (s : Timestamp) : Decidable s.Valid :=
  decidable_of_iff ((s.date.Valid ∧ (0 ≤ s.date.year ∧ s.date.year ≤ 9999)) ∧
      (s.hour ≤ 23 ∧ s.minute ≤ 59 ∧ s.second ≤ 60) ∧
      s.fraction.all Char.isDigit ∧ s.offset.Valid)
    ⟨fun ⟨⟨hdate, hyear⟩, htime, hfraction, hoffset⟩ =>
      ⟨hdate, hyear, htime, hfraction, hoffset⟩,
      fun h => ⟨⟨h.date, h.year⟩, h.time, h.fraction, h.offset⟩⟩

def dateText (d : Date) : List Char :=
  numeral 4 d.year.toNat ++ '-' :: (numeral 2 d.month ++ '-' :: numeral 2 d.day)

def timeText (hour minute second : Nat) : List Char :=
  numeral 2 hour ++ ':' :: (numeral 2 minute ++ ':' :: numeral 2 second)

def fractionText (digits : List Char) : List Char := if digits = [] then [] else '.' :: digits

/-- The ways to write a timestamp. -/
def spellings (s : Timestamp) : List (List Char) :=
  ['T', 't', ' '].flatMap fun mark => s.offset.spellings.map fun offset =>
    dateText s.date ++ mark :: (timeText s.hour s.minute s.second ++
      (fractionText s.fraction ++ offset))

/-- The text is that of a timestamp there can be. -/
def WrittenAs (s : Timestamp) (text : String) : Prop := s.Valid ∧ text.toList ∈ s.spellings

/-- The whole nanoseconds of a fraction of a second. -/
def fractionNanos (digits : List Char) : Nat :=
  Nat.ofDigitChars 10 digits 0 * 10 ^ 9 / 10 ^ digits.length

/-- The instant in universal time. A leap second is one more second beyond second 59. -/
def instant (s : Timestamp) : Instant where
  seconds := s.date.dayCount * 86400 + (s.hour * 3600 + s.minute * 60 + min s.second 59 : Nat) -
    s.offset.seconds
  nanos := fractionNanos s.fraction + if s.second = 60 then 10 ^ 9 else 0

/-- The nanoseconds from the start of 1970 in universal time, if no leap second counts. -/
def sinceEpoch (s : Timestamp) : Int :=
  (s.date.dayCount * 86400 + (s.hour * 3600 + s.minute * 60 + s.second) - s.offset.seconds) *
    10 ^ 9 + fractionNanos s.fraction

end Timestamp

namespace Instant

section
variable {places acc n : Nat} {cs rest : List Char}

theorem digit?_eq_some_iff {c : Char} {d : Nat} :
    digit? c = some d ↔ d < 10 ∧ c = Nat.digitChar d := by
  unfold digit?
  constructor
  · intro h
    split at h
    · rename_i hc
      have hlow : 48 ≤ c.toNat := hc.1
      have hhigh : c.toNat ≤ 57 := hc.2
      obtain rfl : c.toNat - 48 = d := Option.some.inj h
      refine ⟨by omega, Char.toNat_inj.1 ?_⟩
      rw [Nat.toNat_digitChar_of_lt_ten (by omega)]
      omega
    · cases h
  · rintro ⟨hd, rfl⟩
    interval_cases d <;> rfl

theorem takeNumber_eq_some_iff : takeNumber places acc cs = some (n, rest) ↔
    ∃ m < 10 ^ places, n = acc * 10 ^ places + m ∧ cs = numeral places m ++ rest := by
  induction places generalizing acc cs with
  | zero => simp [takeNumber, numeral, eq_comm]
  | succ places ih =>
    have hpos : 0 < 10 ^ places := by positivity
    constructor
    · intro h
      cases cs with
      | nil => cases h
      | cons c cs =>
        obtain ⟨d, hd, hrest⟩ := Option.bind_eq_some_iff.1 h
        obtain ⟨hd, rfl⟩ := digit?_eq_some_iff.1 hd
        obtain ⟨m, hm, rfl, rfl⟩ := ih.1 hrest
        have hdiv : (d * 10 ^ places + m) / 10 ^ places = d := by
          rw [Nat.mul_comm, Nat.mul_add_div hpos, Nat.div_eq_of_lt hm, Nat.add_zero]
        have hmod : (d * 10 ^ places + m) % 10 ^ places = m := by
          rw [Nat.mul_comm, Nat.mul_add_mod, Nat.mod_eq_of_lt hm]
        refine ⟨d * 10 ^ places + m, ?_, ?_, ?_⟩
        · rw [Nat.pow_succ]
          nlinarith
        · ring
        · rw [numeral, hdiv, hmod, List.cons_append]
    · rintro ⟨m, hm, rfl, rfl⟩
      have hd : digit? (Nat.digitChar (m / 10 ^ places)) = some (m / 10 ^ places) := by
        rw [Nat.pow_succ] at hm
        exact digit?_eq_some_iff.2 ⟨Nat.div_lt_of_lt_mul hm, rfl⟩
      refine Option.bind_eq_some_iff.2 ⟨m / 10 ^ places, hd, ih.2 ?_⟩
      refine ⟨m % 10 ^ places, Nat.mod_lt _ hpos, ?_, rfl⟩
      have hm := Nat.div_add_mod m (10 ^ places)
      rw [Nat.pow_succ]
      nlinarith

theorem takeMark_eq_some_iff {marks : List Char} :
    takeMark marks cs = some rest ↔ ∃ c ∈ marks, cs = c :: rest := by
  cases cs with
  | nil => simp [takeMark]
  | cons c cs =>
    by_cases h : c ∈ marks
    · simp [takeMark, h]
    · simp only [takeMark, if_neg h, List.cons.injEq, reduceCtorEq, false_iff]
      rintro ⟨d, hd, rfl, -⟩
      exact h hd

theorem number_eq_some_iff : takeNumber places 0 cs = some (n, rest) ↔
    n < 10 ^ places ∧ cs = numeral places n ++ rest := by
  rw [takeNumber_eq_some_iff]
  constructor
  · rintro ⟨m, hm, rfl, rfl⟩
    rw [Nat.zero_mul, Nat.zero_add]
    exact ⟨hm, rfl⟩
  · rintro ⟨hn, rfl⟩
    exact ⟨n, hn, by omega, rfl⟩

theorem takeDate_eq_some_iff {d : Date} : takeDate cs = some (d, rest) ↔
    (d.Valid ∧ 0 ≤ d.year ∧ d.year ≤ 9999) ∧ cs = Timestamp.dateText d ++ rest := by
  simp only [takeDate, Option.bind_eq_bind, Option.bind_eq_some_iff, Prod.exists,
    number_eq_some_iff, takeMark_eq_some_iff, List.mem_singleton, exists_eq_left,
    Option.ite_none_right_eq_some, Option.some.injEq, Prod.mk.injEq]
  constructor
  · rintro ⟨year, _, ⟨hyear, rfl⟩, _, rfl, month, _, ⟨-, rfl⟩, _, rfl, day, _, ⟨-, rfl⟩, hvalid,
      rfl, rfl⟩
    have hyear : (year : Int) ≤ 9999 := by omega
    refine ⟨⟨hvalid, Int.natCast_nonneg year, hyear⟩, ?_⟩
    simp [Timestamp.dateText]
  · rintro ⟨⟨hvalid, hlow, hhigh⟩, rfl⟩
    have hmonth : d.month < 10 ^ 2 := by
      have hle : d.month ≤ 12 := hvalid.2.1
      omega
    have hday : d.day < 10 ^ 2 := by
      have hle : d.day ≤ 31 := hvalid.2.2.2.trans (Date.daysInMonth_le d.year d.month)
      omega
    have hyear : (d.year.toNat : Int) = d.year := Int.toNat_of_nonneg hlow
    refine ⟨d.year.toNat, _, ⟨by omega, ?_⟩, _, rfl, d.month, _, ⟨hmonth, rfl⟩, _, rfl, d.day,
      rest, ⟨hday, rfl⟩, ?_⟩
    · simp [Timestamp.dateText]
    · rw [hyear]
      exact ⟨hvalid, rfl, rfl⟩

theorem takeTime_eq_some_iff {seconds : Nat} {leap : Bool} :
    takeTime cs = some (seconds, leap, rest) ↔ ∃ hour minute second,
      (hour ≤ 23 ∧ minute ≤ 59 ∧ second ≤ 60) ∧
        seconds = hour * 3600 + minute * 60 + min second 59 ∧ leap = decide (second = 60) ∧
          cs = Timestamp.timeText hour minute second ++ rest := by
  simp only [takeTime, Option.bind_eq_bind, Option.bind_eq_some_iff, Prod.exists,
    number_eq_some_iff, takeMark_eq_some_iff, List.mem_singleton, exists_eq_left,
    Option.ite_none_right_eq_some, Option.some.injEq, Prod.mk.injEq]
  constructor
  · rintro ⟨hour, _, ⟨-, rfl⟩, _, rfl, minute, _, ⟨-, rfl⟩, _, rfl, second, _, ⟨-, rfl⟩, hrange,
      rfl, rfl, rfl⟩
    refine ⟨hour, minute, second, hrange, rfl, rfl, ?_⟩
    simp [Timestamp.timeText]
  · rintro ⟨hour, minute, second, hrange, rfl, rfl, rfl⟩
    refine ⟨hour, _, ⟨by omega, ?_⟩, _, rfl, minute, _, ⟨by omega, rfl⟩, _, rfl, second, rest,
      ⟨by omega, rfl⟩, hrange, rfl, rfl, rfl⟩
    simp [Timestamp.timeText]

/-- The hours and minutes at the end of a text, ahead of universal time or behind it. -/
theorem clock_eq_some_iff (offset : Nat → Nat → Offset) {seconds : Int} :
    (do
      let (hours, cs) ← takeNumber 2 0 cs
      let cs ← takeMark [':'] cs
      let (minutes, cs) ← takeNumber 2 0 cs
      if cs = [] ∧ hours ≤ 23 ∧ minutes ≤ 59 then some (offset hours minutes).seconds
      else none) = some seconds ↔
    ∃ hours minutes, (hours ≤ 23 ∧ minutes ≤ 59) ∧ cs = Offset.clock hours minutes ∧
      (offset hours minutes).seconds = seconds := by
  simp only [Option.bind_eq_bind, Option.bind_eq_some_iff, Prod.exists, number_eq_some_iff,
    takeMark_eq_some_iff, List.mem_singleton, exists_eq_left, Option.ite_none_right_eq_some,
    Option.some.injEq]
  constructor
  · rintro ⟨hours, _, ⟨-, rfl⟩, _, rfl, minutes, _, ⟨-, rfl⟩, ⟨rfl, hrange⟩, rfl⟩
    exact ⟨hours, minutes, hrange, by rw [List.append_nil, Offset.clock], rfl⟩
  · rintro ⟨hours, minutes, hrange, rfl, rfl⟩
    refine ⟨hours, _, ⟨by omega, rfl⟩, _, rfl, minutes, [], ⟨by omega, ?_⟩, ⟨rfl, hrange⟩, rfl⟩
    rw [List.append_nil]

theorem offset?_eq_some_iff {seconds : Int} : offset? cs = some seconds ↔
    ∃ o : Offset, o.Valid ∧ cs ∈ o.spellings ∧ seconds = o.seconds := by
  constructor
  · intro h
    unfold offset? at h
    split at h
    · exact ⟨.universal, trivial, List.mem_cons_self, (Option.some.inj h).symm⟩
    · exact ⟨.universal, trivial, List.mem_cons_of_mem _ List.mem_cons_self,
        (Option.some.inj h).symm⟩
    · split_ifs at h with hplus hminus
      · obtain ⟨hours, minutes, hrange, rfl, rfl⟩ := (clock_eq_some_iff .ahead).1 h
        subst hplus
        exact ⟨.ahead hours minutes, hrange, List.mem_cons_self, rfl⟩
      · obtain ⟨hours, minutes, hrange, rfl, rfl⟩ := (clock_eq_some_iff .behind).1 h
        refine ⟨.behind hours minutes, hrange, ?_, rfl⟩
        rcases hminus with rfl | rfl
        · exact List.mem_cons_self
        · exact List.mem_cons_of_mem _ List.mem_cons_self
      · cases h
    · cases h
  · rintro ⟨o, hvalid, hmem, rfl⟩
    cases o with
    | universal =>
      rcases List.mem_pair.1 hmem with rfl | rfl <;> rfl
    | ahead hours minutes =>
      obtain rfl := List.mem_singleton.1 hmem
      exact (clock_eq_some_iff .ahead).2 ⟨hours, minutes, hvalid, rfl, rfl⟩
    | behind hours minutes =>
      rcases List.mem_pair.1 hmem with rfl | rfl
      · exact (clock_eq_some_iff .behind).2 ⟨hours, minutes, hvalid, rfl, rfl⟩
      · exact (clock_eq_some_iff .behind).2 ⟨hours, minutes, hvalid, rfl, rfl⟩

/-! ## Fractions -/

theorem ofDigitChars_lt {ds : List Char} (h : ∀ c ∈ ds, c.isDigit = true) :
    Nat.ofDigitChars 10 ds 0 < 10 ^ ds.length := by
  induction ds with
  | nil => decide
  | cons c ds ih =>
    rw [List.forall_mem_cons] at h
    obtain ⟨hc, hds⟩ := h
    have hdigit : c.toNat - '0'.toNat ≤ 9 := by
      have hle : c.toNat ≤ '0'.toNat + 9 := (Char.isDigit_iff_toNat.1 hc).2
      omega
    rw [Nat.ofDigitChars_cons, Nat.mul_zero, Nat.zero_add, Nat.ofDigitChars_eq_ofDigitChars_zero,
      List.length_cons, Nat.pow_succ]
    calc 10 ^ ds.length * (c.toNat - '0'.toNat) + Nat.ofDigitChars 10 ds 0
        < 10 ^ ds.length * (c.toNat - '0'.toNat) + 10 ^ ds.length :=
          Nat.add_lt_add_left (ih hds) _
      _ = 10 ^ ds.length * (c.toNat - '0'.toNat + 1) := by ring
      _ ≤ 10 ^ ds.length * 10 := Nat.mul_le_mul_left _ (by omega)

/-- To drop the digits behind the ninth is to round down. -/
theorem nanosOf_eq {ds : List Char} (h : ∀ c ∈ ds, c.isDigit = true) :
    nanosOf ds = Timestamp.fractionNanos ds := by
  have hfold : nanosOf ds =
      Nat.ofDigitChars 10 (ds.take 9 ++ List.replicate (9 - ds.length) '0') 0 :=
    Nat.ofDigitChars_eq_foldl.symm
  rw [hfold, Timestamp.fractionNanos, Nat.ofDigitChars_append, Nat.ofDigitChars_replicate_zero]
  rcases Nat.le_total ds.length 9 with hlen | hlen
  · have hpow : 10 ^ 9 = 10 ^ (9 - ds.length) * 10 ^ ds.length := by
      rw [← Nat.pow_add, Nat.sub_add_cancel hlen]
    rw [List.take_of_length_le hlen, hpow, ← Nat.mul_assoc,
      Nat.mul_div_cancel _ (Nat.pow_pos (by decide)), Nat.mul_comm]
  · have hpow : 10 ^ ds.length = 10 ^ (ds.drop 9).length * 10 ^ 9 := by
      rw [← Nat.pow_add, List.length_drop, Nat.sub_add_cancel hlen]
    have hlow : Nat.ofDigitChars 10 (ds.drop 9) 0 < 10 ^ (ds.drop 9).length :=
      ofDigitChars_lt fun c hc => h c (List.mem_of_mem_drop hc)
    have hcut : Nat.ofDigitChars 10 ds 0 = 10 ^ (ds.drop 9).length *
        Nat.ofDigitChars 10 (ds.take 9) 0 + Nat.ofDigitChars 10 (ds.drop 9) 0 := by
      rw [← Nat.ofDigitChars_eq_ofDigitChars_zero, ← Nat.ofDigitChars_append,
        List.take_append_drop]
    rw [Nat.sub_eq_zero_of_le hlen, Nat.pow_zero, Nat.one_mul, hpow,
      Nat.mul_div_mul_right _ _ (by decide), hcut, Nat.mul_add_div (Nat.pow_pos (by decide)),
      Nat.div_eq_of_lt hlow, Nat.add_zero]

theorem takeFraction_eq_some {nanos : Nat} (h : takeFraction cs = some (nanos, rest)) :
    ∃ ds : List Char, (∀ c ∈ ds, c.isDigit = true) ∧ nanos = Timestamp.fractionNanos ds ∧
      cs = Timestamp.fractionText ds ++ rest := by
  unfold takeFraction at h
  split at h
  · rename_i cs
    split at h
    · cases h
    · rename_i hne
      cases h
      have hdigits : ∀ c ∈ cs.takeWhile Char.isDigit, c.isDigit = true :=
        List.all_eq_true.1 List.all_takeWhile
      refine ⟨cs.takeWhile Char.isDigit, hdigits, nanosOf_eq hdigits, ?_⟩
      rw [Timestamp.fractionText, if_neg hne, List.cons_append, List.takeWhile_append_dropWhile]
  · cases h
    exact ⟨[], List.forall_mem_nil _, rfl, rfl⟩

theorem takeFraction_append {ds : List Char} (hds : ∀ c ∈ ds, c.isDigit = true)
    (hrest : ∀ c ∈ rest.head?, c ≠ '.' ∧ c.isDigit = false) :
    takeFraction (Timestamp.fractionText ds ++ rest) =
      some (Timestamp.fractionNanos ds, rest) := by
  by_cases hne : ds = []
  · subst hne
    cases rest with
    | nil => rfl
    | cons c rest =>
      have hc : c ≠ '.' := (hrest c rfl).1
      unfold takeFraction Timestamp.fractionText
      split
      · rename_i heq
        exact absurd (List.cons.inj heq).1 hc
      · rfl
  · have htake : (ds ++ rest).takeWhile Char.isDigit = ds := by
      rw [List.takeWhile_append_of_pos hds]
      cases rest with
      | nil => simp
      | cons c rest => simp [(hrest c rfl).2]
    have hdrop : (ds ++ rest).dropWhile Char.isDigit = rest := by
      rw [List.dropWhile_append_of_pos hds]
      cases rest with
      | nil => rfl
      | cons c rest => simp [(hrest c rfl).2]
    rw [Timestamp.fractionText, if_neg hne, List.cons_append]
    simp only [takeFraction, htake, hdrop]
    rw [nanosOf_eq hds]

theorem offset_head {o : Offset} (h : rest ∈ o.spellings) :
    ∀ c ∈ rest.head?, c ≠ '.' ∧ c.isDigit = false := by
  have hhead : rest.head? ∈ [some 'Z', some 'z', some '+', some '-', some '\u2212'] := by
    cases o with
    | universal => rcases List.mem_pair.1 h with rfl | rfl <;> decide
    | ahead hours minutes =>
      obtain rfl := List.mem_singleton.1 h
      simp
    | behind hours minutes => rcases List.mem_pair.1 h with rfl | rfl <;> simp
  intro c hc
  rw [Option.mem_def.1 hc] at hhead
  simp only [List.mem_cons, Option.some.injEq, List.not_mem_nil, or_false] at hhead
  rcases hhead with rfl | rfl | rfl | rfl | rfl <;> decide

theorem mem_spellings_iff {s : Timestamp} : cs ∈ s.spellings ↔
    ∃ mark ∈ ['T', 't', ' '], ∃ offset ∈ s.offset.spellings,
      cs = Timestamp.dateText s.date ++ mark :: (Timestamp.timeText s.hour s.minute s.second ++
        (Timestamp.fractionText s.fraction ++ offset)) := by
  simp only [Timestamp.spellings, List.mem_flatMap, List.mem_map, eq_comm]

/-- What the parts of a text come to is the instant. -/
theorem instant_eq {s : Timestamp} (h : s.date.Valid) :
    s.instant = ⟨s.date.number * 86400 +
      (s.hour * 3600 + s.minute * 60 + min s.second 59 : Nat) - s.offset.seconds,
      if decide (s.second = 60) then Timestamp.fractionNanos s.fraction + 1000000000
      else Timestamp.fractionNanos s.fraction⟩ := by
  rw [Timestamp.instant, Date.number_eq_dayCount h]
  simp only [decide_eq_true_eq]
  split <;> rfl

theorem ofText?_eq_some_iff {text : String} {t : Instant} : ofText? text = some t ↔
    ∃ s : Timestamp, s.WrittenAs text ∧ s.instant = t := by
  simp only [ofText?, Timestamp.WrittenAs, Option.bind_eq_bind, Option.bind_eq_some_iff,
    Prod.exists, takeDate_eq_some_iff, takeMark_eq_some_iff, takeTime_eq_some_iff,
    offset?_eq_some_iff, Option.some.injEq, mem_spellings_iff]
  constructor
  · rintro ⟨date, _, ⟨⟨hdate, hyear⟩, htext⟩, _, ⟨mark, hmark, rfl⟩, _, leap, _,
      ⟨hour, minute, second, htime, rfl, rfl, rfl⟩, _, _, hfraction, _,
      ⟨offset, hoffset, hspelled, rfl⟩, rfl⟩
    obtain ⟨ds, hds, rfl, rfl⟩ := takeFraction_eq_some hfraction
    let s : Timestamp := ⟨date, hour, minute, second, ds, offset⟩
    have hvalid : s.Valid := ⟨hdate, hyear, htime, List.all_eq_true.2 hds, hoffset⟩
    refine ⟨s, ⟨hvalid, mark, hmark, _, hspelled, htext⟩, ?_⟩
    rw [instant_eq hdate]
  · rintro ⟨s, ⟨hvalid, mark, hmark, offset, hoffset, htext⟩, rfl⟩
    have hfraction := takeFraction_append (List.all_eq_true.1 hvalid.fraction)
      (offset_head hoffset)
    refine ⟨s.date, _, ⟨⟨hvalid.date, hvalid.year⟩, htext⟩, _, ⟨mark, hmark, rfl⟩, _, _, _,
      ⟨s.hour, s.minute, s.second, hvalid.time, rfl, rfl, rfl⟩, _, _, hfraction, _,
      ⟨s.offset, hvalid.offset, hoffset, rfl⟩, ?_⟩
    rw [instant_eq hvalid.date]

end

theorem ofText?_writtenAs {s : Timestamp} {text : String} (h : s.WrittenAs text) :
    ofText? text = some s.instant :=
  ofText?_eq_some_iff.2 ⟨s, h, rfl⟩

theorem ofText?_eq_none_iff {text : String} :
    ofText? text = none ↔ ∀ s : Timestamp, ¬ s.WrittenAs text := by
  constructor
  · intro h s hs
    rw [ofText?_writtenAs hs] at h
    cases h
  · intro h
    rw [Option.eq_none_iff_forall_ne_some]
    intro t ht
    obtain ⟨s, hs, -⟩ := ofText?_eq_some_iff.1 ht
    exact h s hs

theorem fractionNanos_lt {ds : List Char} (h : ∀ c ∈ ds, c.isDigit = true) :
    Timestamp.fractionNanos ds < 10 ^ 9 := by
  have hlt := ofDigitChars_lt h
  rw [Timestamp.fractionNanos]
  exact Nat.div_lt_of_lt_mul (Nat.mul_lt_mul_of_pos_right hlt (by decide))

theorem sinceEpoch_eq {s : Timestamp} (h : s.second ≤ 59) :
    s.sinceEpoch = s.instant.seconds * 10 ^ 9 + s.instant.nanos := by
  have hsecond : s.second ≠ 60 := by omega
  simp only [Timestamp.sinceEpoch, Timestamp.instant, Nat.min_eq_left h, if_neg hsecond]
  push_cast
  ring

/-- Without leap seconds an instant is no more than the nanoseconds that have passed. -/
theorem instant_eq_iff {s s' : Timestamp} (hs : s.Valid) (hs' : s'.Valid) (h : s.second ≤ 59)
    (h' : s'.second ≤ 59) : s.instant = s'.instant ↔ s.sinceEpoch = s'.sinceEpoch := by
  have hnanos : ∀ {u : Timestamp}, u.Valid → u.second ≤ 59 → u.instant.nanos < 10 ^ 9 := by
    intro u hu hsecond
    have hne : u.second ≠ 60 := by omega
    simpa [Timestamp.instant, hne] using fractionNanos_lt (List.all_eq_true.1 hu.fraction)
  have hlt := hnanos hs h
  have hlt' := hnanos hs' h'
  rw [sinceEpoch_eq h, sinceEpoch_eq h']
  generalize s.instant = t at hlt
  generalize s'.instant = t' at hlt'
  obtain ⟨seconds, nanos⟩ := t
  obtain ⟨seconds', nanos'⟩ := t'
  simp only [Instant.mk.injEq] at hlt hlt' ⊢
  omega

end Instant

/-- The publication date of a document is the instant of the timestamp its text writes, and there is
none for any other text. Two texts give the same date exactly if as many nanoseconds have passed. -/
theorem publication_of_timestamp (d : Document) :
    (∀ t, d.publicationInstant? = some t ↔
      ∃ s : Timestamp, s.WrittenAs d.info.publishDate ∧ s.instant = t) ∧
    (d.publicationInstant? = none ↔ ∀ s : Timestamp, ¬ s.WrittenAs d.info.publishDate) ∧
    ∀ (d' : Document) (s s' : Timestamp), s.WrittenAs d.info.publishDate →
      s'.WrittenAs d'.info.publishDate → s.second ≤ 59 → s'.second ≤ 59 →
        (d.publicationInstant? = d'.publicationInstant? ↔ s.sinceEpoch = s'.sinceEpoch) := by
  refine ⟨fun t => Instant.ofText?_eq_some_iff, Instant.ofText?_eq_none_iff, ?_⟩
  intro d' s s' hs hs' h h'
  have hd : d.publicationInstant? = some s.instant := Instant.ofText?_writtenAs hs
  have hd' : d'.publicationInstant? = some s'.instant := Instant.ofText?_writtenAs hs'
  rw [hd, hd', Option.some.injEq, Instant.instant_eq_iff hs.1 hs'.1 h h']

/-- A leap day at an offset is the day after it in universal time, and digits behind the ninth do
not count. -/
theorem publication_of_timestamp_leapDay :
    let d : Document := ⟨"", { publishDate := "2024-02-29T23:30:00.5-01:00" }⟩
    let d' : Document := ⟨"", { publishDate := "2024-03-01t00:30:00.5000000009z" }⟩
    let s : Timestamp := ⟨⟨2024, 2, 29⟩, 23, 30, 0, ['5'], .behind 1 0⟩
    let s' : Timestamp := ⟨⟨2024, 3, 1⟩, 0, 30, 0, "5000000009".toList, .universal⟩
    s.WrittenAs d.info.publishDate ∧ s'.WrittenAs d'.info.publishDate ∧
      d.publicationInstant? = d'.publicationInstant? := by
  intro d d' s s'
  have hs : s.WrittenAs d.info.publishDate := ⟨by decide, by decide⟩
  have hs' : s'.WrittenAs d'.info.publishDate := ⟨by decide, by decide⟩
  refine ⟨hs, hs', ?_⟩
  exact ((publication_of_timestamp d).2.2 d' s s' hs hs' (by decide) (by decide)).2
    (by decide +kernel)

end Gazette
