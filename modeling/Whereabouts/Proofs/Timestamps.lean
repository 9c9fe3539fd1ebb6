import Whereabouts.Instant.Printer
import Whereabouts.Instant.Reader
import Whereabouts.Proofs.Rereading

/-!
# Reading back written instants

Every instant is read back from its text: any year, a leap second, and the
nanoseconds whatever number of digits the fraction has.
-/

namespace Whereabouts

/-!
## Padded numbers

Zeros in front of a number add digits and change nothing else.
-/

namespace Text

theorem isDigit_of_mem_padded {width n : Nat} {c : Char} (h : c ∈ padded width n) :
    c.isDigit = true := by
  rcases List.mem_append.mp h with h | h
  · rw [List.eq_of_mem_replicate h]
    rfl
  · exact isDigit_of_mem_decimal h

theorem decimalFrom?_zeros (count : Nat) (s : List Char) :
    decimalFrom? 0 (List.replicate count '0' ++ s) = decimalFrom? 0 s := by
  induction count with
  | zero => rfl
  | succ count ih =>
      rw [List.replicate_succ, List.cons_append, decimalFrom?]
      exact ih

theorem decimal?_padded (width n : Nat) : decimal? (padded width n) = some n := by
  have hne : padded width n ≠ [] := by
    simp [padded, decimal_ne_nil]
  unfold decimal?
  rw [if_neg (by simpa using hne)]
  unfold padded
  rw [decimalFrom?_zeros, decimalFrom?_decimal]

theorem length_decimal_le {n width : Nat} (hwidth : 0 < width) (h : n < Nat.pow 10 width) :
    (decimal n).length ≤ width := by
  induction width generalizing n with
  | zero => omega
  | succ width ih =>
      unfold decimal
      split
      · simp
      · rename_i hn
        have hpos : 0 < width := by
          rcases Nat.eq_zero_or_pos width with hzero | hpos
          · rw [hzero] at h
            exact absurd h hn
          · exact hpos
        have hpow : Nat.pow 10 (width + 1) = Nat.pow 10 width * 10 := rfl
        have hlt : n / 10 < Nat.pow 10 width := by
          omega
        have hle := ih hpos hlt
        rw [List.length_append, List.length_singleton]
        omega

theorem length_padded {n width : Nat} (hwidth : 0 < width) (h : n < Nat.pow 10 width) :
    (padded width n).length = width := by
  have hle := length_decimal_le hwidth h
  simp only [padded, List.length_append, List.length_replicate]
  omega

theorem isBlank_of_isDigit {c : Char} (h : c.isDigit = true) : isBlank c = false := by
  simp only [Char.isDigit, Bool.and_eq_true, decide_eq_true_eq] at h
  have hlow : 48 ≤ c.toNat := by simpa using UInt32.le_iff_toNat_le.1 h.1
  have hhigh : c.toNat ≤ 57 := by simpa using UInt32.le_iff_toNat_le.1 h.2
  simp only [isBlank, Bool.or_eq_false_iff, Bool.and_eq_false_iff, decide_eq_false_iff_not,
    beq_eq_false_iff_ne]
  omega

end Text

namespace Instant

/-!
## Parts of a time
-/

theorem skipBlanks_cons {c : Char} (h : Text.isBlank c = false) (rest : List Char) :
    skipBlanks (c :: rest) = c :: rest := by
  simp [skipBlanks, Text.dropStart, h]

theorem padded_cons (width n : Nat) :
    exists c digits, Text.padded width n = c :: digits ∧ c.isDigit = true := by
  cases h : Text.padded width n with
  | nil => simp [Text.padded, Text.decimal_ne_nil] at h
  | cons c digits =>
      have hc : c ∈ Text.padded width n := by simp [h]
      exact ⟨c, digits, rfl, Text.isDigit_of_mem_padded hc⟩

theorem skipBlanks_padded (width n : Nat) (rest : List Char) :
    skipBlanks (Text.padded width n ++ rest) = Text.padded width n ++ rest := by
  rcases padded_cons width n with ⟨c, digits, heq, hc⟩
  rw [heq]
  exact skipBlanks_cons (Text.isBlank_of_isDigit hc) _

theorem readDigits_padded {most width n : Nat} {rest : List Char}
    (hmost : (Text.padded width n).length ≤ most)
    (hrest : Text.NoDigit (rest.take (most - (Text.padded width n).length))) :
    readDigits most (Text.padded width n ++ rest) = some (n, rest) := by
  have hdigits : forall c, c ∈ Text.padded width n -> c.isDigit = true :=
    fun _ hc => Text.isDigit_of_mem_padded hc
  unfold readDigits
  rw [List.take_append, List.take_of_length_le hmost, Text.takeWhile_digits hdigits hrest]
  simp [Text.decimal?_padded]

theorem readShort_padded {n : Nat} (h : n < 100) (rest : List Char) :
    readShort (Text.padded 2 n ++ rest) = some (n, rest) := by
  have hlength : (Text.padded 2 n).length = 2 := Text.length_padded (by decide) h
  unfold readShort
  rw [skipBlanks_padded]
  apply readDigits_padded
  · exact Nat.le_of_eq hlength
  · rw [hlength]
    rfl

theorem readMark_self {mark : Char} (h : Text.isBlank mark = false) (rest : List Char) :
    readMark mark (mark :: rest) = some rest := by
  unfold readMark
  rw [skipBlanks_cons h]
  simp

theorem readYear_padded {n : Nat} (h : n < 10000) (rest : List Char) :
    readYear (Text.padded 4 n ++ rest) = some ((n : Int), rest) := by
  have hlength : (Text.padded 4 n).length = 4 := Text.length_padded (by decide) h
  have hread : readDigits 4 (Text.padded 4 n ++ rest) = some (n, rest) := by
    apply readDigits_padded
    · exact Nat.le_of_eq hlength
    · rw [hlength]
      rfl
  rcases padded_cons 4 n with ⟨c, digits, heq, hc⟩
  unfold readYear
  rw [skipBlanks_padded]
  split
  · rename_i hminus
    rw [heq] at hminus
    cases hminus
    cases hc
  · rename_i hplus
    rw [heq] at hplus
    cases hplus
    cases hc
  · rw [hread]
    rfl

theorem readDigits_signed (n : Nat) {rest : List Char} (h : Text.NoDigit rest) :
    readDigits (Text.padded 4 n ++ rest).length (Text.padded 4 n ++ rest) = some (n, rest) := by
  apply readDigits_padded
  · rw [List.length_append]
    omega
  · rw [List.length_append, Nat.add_sub_cancel_left, List.take_length]
    exact h

theorem readYear_yearChars (year : Int) {rest : List Char} (h : Text.NoDigit rest) :
    readYear (yearChars year ++ rest) = some (year, rest) := by
  unfold yearChars
  split
  · rename_i hyear
    simp only [Bool.and_eq_true, decide_eq_true_eq] at hyear
    rw [readYear_padded (by omega)]
    congr 2
    omega
  split
  · rename_i _ hyear
    unfold readYear
    rw [List.cons_append, skipBlanks_cons rfl]
    simp only [readDigits_signed _ h, Option.map_some]
    congr 2
    omega
  · rename_i _ hyear
    unfold readYear
    rw [List.cons_append, skipBlanks_cons rfl]
    simp only [readDigits_signed _ h, Option.map_some]
    congr 2
    omega

theorem readFraction_padded (width : Nat) {n : Nat} (hpos : 0 < width) (hwidth : width ≤ 9)
    (hn : n < Nat.pow 10 width) {rest : List Char} (h : Text.NoDigit rest) :
    readFraction ('.' :: (Text.padded width n ++ rest)) =
      some (n * Nat.pow 10 (9 - width), rest) := by
  have hdigits : forall c, c ∈ Text.padded width n -> c.isDigit = true :=
    fun _ hc => Text.isDigit_of_mem_padded hc
  have hlength := Text.length_padded hpos hn
  have hrest : Text.NoDigit (rest.take (9 - (Text.padded width n).length)) := by
    cases rest with
    | nil => simp [Text.NoDigit]
    | cons c rest =>
        cases 9 - (Text.padded width n).length with
        | zero => rfl
        | succ k => exact h
  have htake : ((Text.padded width n ++ rest).take 9).takeWhile Char.isDigit =
      Text.padded width n := by
    rw [List.take_append, List.take_of_length_le (by omega)]
    exact Text.takeWhile_digits hdigits hrest
  simp only [readFraction, htake, Text.dropWhile_digits hdigits h, hlength,
    Text.decimal?_padded, Option.map_some]

theorem readFraction_fractionChars {nanos : Nat} (h : nanos < 1000000000) :
    readFraction (fractionChars nanos ++ ['Z']) = some (nanos, ['Z']) := by
  have hend : Text.NoDigit ['Z'] := rfl
  unfold fractionChars
  split
  · rename_i hzero
    rw [hzero]
    rfl
  split
  · rw [List.cons_append, readFraction_padded 3 (by decide) (by decide)
      (show nanos / 1000000 < 1000 by omega) hend]
    congr 2
    show nanos / 1000000 * 1000000 = nanos
    omega
  split
  · rw [List.cons_append, readFraction_padded 6 (by decide) (by decide)
      (show nanos / 1000 < 1000000 by omega) hend]
    congr 2
    show nanos / 1000 * 1000 = nanos
    omega
  · rw [List.cons_append, readFraction_padded 9 (by decide) (by decide) h hend]
    congr 2
    exact Nat.mul_one nanos

/-!
## Whole times
-/

theorem ofLocal?_utc (time : Instant) :
    ofLocal? time.year time.month time.day time.hour time.minute time.second time.nanos 0 =
      some time := by
  have htime := time.timed
  simp only [Calendar.isTime, Bool.and_eq_true, decide_eq_true_eq] at htime
  rcases htime with ⟨⟨⟨hhour, hminute⟩, _⟩, _⟩
  have hminutes : ((time.hour : Int) * 60 + time.minute - 0) % 1440 =
      ((time.hour * 60 + time.minute : Nat) : Int) := by omega
  unfold ofLocal?
  rw [if_pos (by rw [time.dated, time.timed]; rfl)]
  simp only [hminutes, Int.toNat_natCast]
  rw [if_neg (by omega), if_neg (by omega)]
  have hh : (time.hour * 60 + time.minute) / 60 = time.hour := by omega
  have hm : (time.hour * 60 + time.minute) % 60 = time.minute := by omega
  simp only [hh, hm]
  unfold ofCivil?
  rw [dif_pos time.dated, dif_pos time.timed]

/-- Every instant is read back from its text. -/
theorem ofText?_text (time : Instant) : ofText? time.text = some time := by
  have hdate := time.dated
  have htime := time.timed
  simp only [Calendar.isDate, Calendar.isTime, Bool.and_eq_true, decide_eq_true_eq]
    at hdate htime
  rcases hdate with ⟨⟨⟨⟨_, _⟩, hmonth⟩, _⟩, hday⟩
  rcases htime with ⟨⟨⟨hhour, hminute⟩, hsecond⟩, hnanos⟩
  have hdays : Calendar.daysIn time.year time.month ≤ 31 := by
    unfold Calendar.daysIn
    repeat' split
    all_goals omega
  have hmark : forall rest, Text.NoDigit ('-' :: rest) := fun _ => rfl
  have hdash : forall rest, readMark '-' ('-' :: rest) = some rest := readMark_self rfl
  have hcolon : forall rest, readMark ':' (':' :: rest) = some rest := readMark_self rfl
  have hend : (skipBlanks []).isEmpty = true := rfl
  unfold ofText? text ofChars? civilChars
  simp only [String.toList_ofList, List.append_assoc, List.cons_append, Option.bind_eq_bind]
  rw [readYear_yearChars time.year (hmark _), Option.bind_some, hdash, Option.bind_some,
    readShort_padded (by omega), Option.bind_some, hdash, Option.bind_some,
    readShort_padded (by omega), Option.bind_some]
  simp only [decide_true, Bool.true_or, if_true, Option.bind_some]
  rw [readShort_padded (by omega), Option.bind_some, hcolon, Option.bind_some,
    readShort_padded (by omega), Option.bind_some, hcolon, Option.bind_some,
    readShort_padded (by omega), Option.bind_some, readFraction_fractionChars hnanos,
    Option.bind_some, show readZone ['Z'] = some (0, []) from rfl, Option.bind_some,
    if_pos hend]
  exact ofLocal?_utc time

end Instant
end Whereabouts
