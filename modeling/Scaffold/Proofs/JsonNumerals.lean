import Mathlib.Data.Nat.Digits.Defs
import Mathlib.Tactic.IntervalCases
import Scaffold.Json.Numeral
import Scaffold.Json.Printer

/-!
# Numerals as they are written

A numeral that is written is read as its parts, up to the first character that does not go on with
it.  A whole number of 64 bits is read as itself; what another number is read as depends on its
shortest decimal alone.
-/

namespace Scaffold
namespace Json

variable {digits rest : List Char}

theorem isDigit_eq (c : Char) : isDigit c = c.isDigit := by
  simp only [isDigit, Char.isDigit, Char.le_def, ge_iff_le]

/-- The text does not start with a digit. -/
def NoDigit (rest : List Char) : Prop := ∀ c ∈ rest.head?, isDigit c = false

/-- A numeral does not go on with the text. -/
def Stops (rest : List Char) : Prop :=
  ∀ c ∈ rest.head?, isDigit c = false ∧ c ≠ '.' ∧ c ≠ 'e' ∧ c ≠ 'E'

theorem Stops.noDigit (hstops : Stops rest) : NoDigit rest := fun c hc => (hstops c hc).1

/-- One digit or more. -/
structure IsNumber (digits : List Char) : Prop where
  ne_nil : digits ≠ []
  all : ∀ c ∈ digits, isDigit c = true

theorem takeWhile_of_noDigit (hrest : NoDigit rest) : rest.takeWhile isDigit = [] := by
  cases rest with
  | nil => rfl
  | cons c rest => simp [hrest c rfl]

theorem dropWhile_of_noDigit (hrest : NoDigit rest) : rest.dropWhile isDigit = rest := by
  cases rest with
  | nil => rfl
  | cons c rest => simp [hrest c rfl]

theorem IsNumber.takeWhile_append (hdigits : IsNumber digits) (hrest : NoDigit rest) :
    (digits ++ rest).takeWhile isDigit = digits := by
  rw [List.takeWhile_append_of_pos hdigits.all, takeWhile_of_noDigit hrest, List.append_nil]

theorem IsNumber.dropWhile_append (hdigits : IsNumber digits) (hrest : NoDigit rest) :
    (digits ++ rest).dropWhile isDigit = rest := by
  rw [List.dropWhile_append_of_pos hdigits.all, dropWhile_of_noDigit hrest]

def fractionChars : Option (List Char) → List Char
  | none => []
  | some digits => '.' :: digits

def exponentChars : Option (Bool × List Char) → List Char
  | none => []
  | some (downward, digits) => 'e' :: (if downward then '-' else '+') :: digits

namespace NumeralText

/-- The parts one behind the other. -/
def chars (t : NumeralText) : List Char :=
  (if t.negative then ['-'] else []) ++
    (t.whole ++ (fractionChars t.fraction ++ exponentChars t.exponent))

structure WellFormed (t : NumeralText) : Prop where
  whole : IsNumber t.whole
  noLeadingZero : ∀ c rest, t.whole ≠ '0' :: c :: rest
  fraction : ∀ digits ∈ t.fraction, IsNumber digits
  exponent : ∀ part ∈ t.exponent, IsNumber part.2

end NumeralText

theorem readWhole_append (hdigits : IsNumber digits)
    (hzero : ∀ c others, digits ≠ '0' :: c :: others) (hrest : NoDigit rest) :
    readWhole (digits ++ rest) = .ok (digits, rest) := by
  rw [readWhole, hdigits.takeWhile_append hrest, hdigits.dropWhile_append hrest]
  split
  · exact absurd rfl hdigits.ne_nil
  · exact absurd rfl (hzero _ _)
  · rfl

theorem readFraction_append {fraction : Option (List Char)}
    (hfraction : ∀ digits ∈ fraction, IsNumber digits) (hrest : NoDigit rest)
    (hpoint : ∀ c ∈ rest.head?, c ≠ '.') :
    readFraction (fractionChars fraction ++ rest) = .ok (fraction, rest) := by
  cases fraction with
  | none =>
      cases rest with
      | nil => rfl
      | cons c rest =>
          have hc := hpoint c rfl
          simp [fractionChars, readFraction, hc]
  | some digits =>
      have hnumber := hfraction digits rfl
      have hempty : digits.isEmpty = false := by simpa using hnumber.ne_nil
      simp only [fractionChars, List.cons_append, readFraction, hnumber.takeWhile_append hrest,
        hnumber.dropWhile_append hrest, hempty]
      rfl

theorem readExponent_append {exponent : Option (Bool × List Char)}
    (hexponent : ∀ part ∈ exponent, IsNumber part.2) (hstops : Stops rest) :
    readExponent (exponentChars exponent ++ rest) = .ok (exponent, rest) := by
  rcases exponent with _ | ⟨downward, digits⟩
  · cases rest with
    | nil => rfl
    | cons c rest =>
        obtain ⟨-, -, hlower, hupper⟩ := hstops c rfl
        simp [exponentChars, readExponent, hlower, hupper]
  · have hnumber := hexponent _ rfl
    have hempty : digits.isEmpty = false := by simpa using hnumber.ne_nil
    have htake := hnumber.takeWhile_append hstops.noDigit
    have hdrop := hnumber.dropWhile_append hstops.noDigit
    cases downward <;>
      simp [exponentChars, readExponent, htake, hdrop, hnumber.ne_nil]

/-- Reads what follows the sign. -/
def readMagnitude (negative : Bool) (cs : List Char) :
    Except (List Char) (Numeral × List Char) := do
  let (whole, rest) ← readWhole cs
  let (fraction, rest) ← readFraction rest
  let (exponent, rest) ← readExponent rest
  match NumeralText.value? ⟨negative, whole, fraction, exponent⟩ with
  | some n => .ok (n, rest)
  | none => .error rest

theorem readNumeral_minus (cs : List Char) : readNumeral ('-' :: cs) = readMagnitude true cs := rfl

theorem readNumeral_plus {first : Char} (hfirst : first ≠ '-') (cs : List Char) :
    readNumeral (first :: cs) = readMagnitude false (first :: cs) := by
  rw [readNumeral]
  · rfl
  · rintro rest ⟨⟩
    exact hfirst rfl

/-- A numeral is read as its parts. -/
theorem readNumeral_append {t : NumeralText} (hwell : t.WellFormed) (hstops : Stops rest) :
    readNumeral (t.chars ++ rest) =
      match t.value? with
      | some n => .ok (n, rest)
      | none => .error rest := by
  obtain ⟨negative, whole, fraction, exponent⟩ := t
  obtain ⟨hnumber, hzero, hplaces, hpower⟩ := hwell
  have hexponent := readExponent_append hpower hstops
  have hend : NoDigit (exponentChars exponent ++ rest) ∧
      ∀ c ∈ (exponentChars exponent ++ rest).head?, c ≠ '.' := by
    rcases exponent with _ | ⟨downward, digits⟩
    · exact ⟨hstops.noDigit, fun c hc => (hstops c hc).2.1⟩
    · constructor <;> rintro c ⟨⟩ <;> decide
  have hfraction := readFraction_append hplaces hend.1 hend.2
  have hback : NoDigit (fractionChars fraction ++ (exponentChars exponent ++ rest)) := by
    cases fraction with
    | none => exact hend.1
    | some digits =>
        rintro c ⟨⟩
        decide
  have hwhole := readWhole_append hnumber hzero hback
  have hmagnitude : readMagnitude negative
      (whole ++ (fractionChars fraction ++ (exponentChars exponent ++ rest))) =
      match NumeralText.value? ⟨negative, whole, fraction, exponent⟩ with
      | some n => .ok (n, rest)
      | none => .error rest := by
    simp only [readMagnitude, hwhole, hfraction, hexponent, bind, Except.bind]
  rw [← hmagnitude]
  simp only [NumeralText.chars, List.append_assoc]
  cases negative with
  | true => exact readNumeral_minus _
  | false =>
      -- No sign is in front of a digit.
      obtain ⟨first, others, rfl⟩ := List.exists_cons_of_ne_nil hnumber.ne_nil
      refine readNumeral_plus ?_ _
      rintro rfl
      exact absurd (hnumber.all '-' (by simp)) (by decide)

theorem stops_nil : Stops [] := by
  rintro c ⟨⟩

/-- What stands behind a numeral does not matter. -/
theorem readNumeral_append_eq_ok_iff {t : NumeralText} (hwell : t.WellFormed)
    (hstops : Stops rest) {n : Numeral} {unread : List Char} :
    readNumeral (t.chars ++ rest) = .ok (n, unread) ↔
      readNumeral t.chars = .ok (n, []) ∧ unread = rest := by
  have halone := readNumeral_append hwell stops_nil
  rw [List.append_nil] at halone
  rw [readNumeral_append hwell hstops, halone]
  cases t.value? with
  | none => simp
  | some m => simp [eq_comm]

theorem isNumber_zero : IsNumber ['0'] := by
  refine ⟨by simp, fun c hc => ?_⟩
  obtain rfl := List.mem_singleton.mp hc
  rfl

theorem isNumber_toDigits (n : Nat) : IsNumber (Nat.toDigits 10 n) := by
  refine ⟨Nat.toDigits_ne_nil, fun c hc => ?_⟩
  rw [isDigit_eq]
  exact Nat.isDigit_of_mem_toDigits (by decide) (by decide) hc

theorem toDigits_ne_zero_cons {n : Nat} (hpos : 0 < n) (rest : List Char) :
    Nat.toDigits 10 n ≠ '0' :: rest := by
  induction n using Nat.strongRecOn generalizing rest with
  | ind n ih =>
      by_cases hsmall : n < 10
      · rw [Nat.toDigits_of_lt_base hsmall]
        rintro hzero
        have hdigit : Nat.digitChar n = '0' := (List.cons.inj hzero).1
        interval_cases n <;> cases hdigit
      · rw [Nat.toDigits_of_base_le (by decide) (by omega)]
        intro hzero
        obtain ⟨first, others, hfront⟩ :=
          List.exists_cons_of_ne_nil (Nat.toDigits_ne_nil (n := n / 10) (b := 10))
        rw [hfront, List.cons_append] at hzero
        obtain rfl := (List.cons.inj hzero).1
        exact ih (n / 10) (by omega) (by omega) others hfront

theorem toDigits_ne_leadingZero (n : Nat) (c : Char) (rest : List Char) :
    Nat.toDigits 10 n ≠ '0' :: c :: rest := by
  rcases Nat.eq_zero_or_pos n with rfl | hpos
  · simp
  · exact toDigits_ne_zero_cons hpos _

/-- A number that fits 64 bits, with or without a sign. -/
def FitsWord (n : Int) : Prop := -(powerOfTwo 63 : Int) ≤ n ∧ n ≤ significandLimit

def wholeParts (n : Int) : NumeralText :=
  ⟨decide (n < 0), Nat.toDigits 10 n.natAbs, none, none⟩

theorem wholeParts_wellFormed (n : Int) : (wholeParts n).WellFormed where
  whole := isNumber_toDigits _
  noLeadingZero := toDigits_ne_leadingZero _
  fraction := by simp [wholeParts]
  exponent := by simp [wholeParts]

theorem numeralText_whole (n : Int) : (numeralText (.whole n)).toList = (wholeParts n).chars := by
  rw [numeralText, Int.toString_eq_repr, Int.repr_eq_if]
  by_cases hsign : 0 ≤ n
  · have habs : n.toNat = n.natAbs := by omega
    simp [wholeParts, NumeralText.chars, fractionChars, exponentChars, hsign, habs,
      not_lt.mpr hsign]
  · have habs : (-n).toNat = n.natAbs := by omega
    simp [wholeParts, NumeralText.chars, fractionChars, exponentChars, hsign, habs,
      not_le.mp hsign]

theorem le_ofDigitChars (digits : List Char) (n : Nat) : n ≤ Nat.ofDigitChars 10 digits n := by
  induction digits generalizing n with
  | nil => simp
  | cons c rest ih =>
      rw [Nat.ofDigitChars_cons]
      exact le_trans (by omega) (ih _)

theorem absorb_of_le {limit n : Nat} (hle : Nat.ofDigitChars 10 digits n ≤ limit) :
    absorb limit n digits = (Nat.ofDigitChars 10 digits n, []) := by
  induction digits generalizing n with
  | nil => simp [absorb]
  | cons c rest ih =>
      have hnext : n * 10 + digitValue c = 10 * n + (c.toNat - '0'.toNat) := by
        simp [digitValue, Nat.mul_comm]
      rw [Nat.ofDigitChars_cons, ← hnext] at hle ⊢
      have hwithin := (le_ofDigitChars rest (n * 10 + digitValue c)).trans hle
      simp only [absorb]
      rw [if_neg (not_lt.mpr hwithin), ih hle]

/-- A whole number that fits is read as itself. -/
theorem readNumeral_whole {n : Int} (hfits : FitsWord n) :
    readNumeral (numeralText (.whole n)).toList = .ok (.whole n, []) := by
  obtain ⟨hlow, hhigh⟩ := hfits
  have hread := readNumeral_append (wholeParts_wellFormed n) stops_nil
  rw [List.append_nil] at hread
  rw [numeralText_whole, hread]
  have hlimits : (powerOfTwo 63 : Int) ≤ significandLimit := by decide
  have hdigits : Nat.ofDigitChars 10 (Nat.toDigits 10 n.natAbs) 0 = n.natAbs :=
    Nat.ofDigitChars_toDigits (by decide) (by decide)
  have habsorb : absorb significandLimit 0 (Nat.toDigits 10 n.natAbs) = (n.natAbs, []) := by
    rw [absorb_of_le (by omega), hdigits]
  simp only [NumeralText.value?, wholeParts, habsorb]
  by_cases hsign : n < 0
  · have hkept : ¬(n.natAbs = 0 ∨ powerOfTwo 63 < n.natAbs) := by omega
    have hvalue : -(n.natAbs : Int) = n := by omega
    simp only [hsign, decide_true, Bool.not_true, Bool.false_eq_true, if_false, hkept, hvalue]
  · have hvalue : (n.natAbs : Int) = n := by omega
    simp [hsign, hvalue]

end Json

namespace Decimal

open Json

/-- The text without a sign is that of a numeral. -/
def IsUnsigned (body : List Char) : Prop :=
  ∃ t : NumeralText, t.WellFormed ∧ t.negative = false ∧ body = t.chars

theorem normalize_digits_ne_zero (fuel : Nat) {d : Decimal} (hd : d.digits ≠ 0) :
    (d.normalize fuel).digits ≠ 0 := by
  induction fuel generalizing d with
  | zero => exact hd
  | succ fuel ih =>
      unfold normalize
      split
      next hzeros => exact ih (by simp; omega)
      next => exact hd

theorem normalize_zero (fuel : Nat) : normalize fuel ⟨0, 0⟩ = ⟨0, 0⟩ := by
  cases fuel <;> simp [normalize]

theorem significand_pos {x : Binary64} (hx : ¬x.isZero = true) : 0 < x.significand := by
  have hcount : 0 < Binary64.fractionCount := powerOfTwo_pos 52
  unfold Binary64.significand
  split
  next hexponent =>
    have hfraction : x.fractionField ≠ 0 := by simpa [Binary64.isZero, hexponent] using hx
    omega
  next => omega

/-- Nothing but zero rounds to zero. -/
theorem onGrid?_digits_ne_zero {x : Binary64} (hx : 0 < x.significand) {tie : Tie} {p : Int}
    {d : Decimal} (hgrid : (Interval.of x).onGrid? tie p = some d) : d.digits ≠ 0 := by
  have hlow : 0 < (Interval.of x).low := by
    simp only [Interval.of]
    split <;> omega
  have hunit : 0 < ((Interval.of x).scales p).2 :=
    Nat.mul_pos (powerOfTwo_pos _) (powerOfTen_pos _)
  have hbound := Nat.mul_pos hlow hunit
  unfold Interval.onGrid? at hgrid
  dsimp only at hgrid
  generalize ((Interval.of x).scales p).1 = grid at hgrid
  generalize ((Interval.of x).scales p).2 = unit at hgrid hbound
  generalize (Interval.of x).middle * unit / grid = below at hgrid
  have hinside : ∀ c, (if (Interval.of x).closed = true then
        decide ((Interval.of x).low * unit ≤ c * grid) &&
          decide (c * grid ≤ (Interval.of x).high * unit)
      else decide ((Interval.of x).low * unit < c * grid) &&
        decide (c * grid < (Interval.of x).high * unit)) = true → c ≠ 0 := by
    rintro c hc rfl
    split at hc <;> simp only [Bool.and_eq_true, decide_eq_true_eq] at hc <;> omega
  split at hgrid
  next hbelow _ =>
    obtain rfl := Option.some.inj hgrid
    dsimp only
    split
    · exact hinside below hbelow
    · exact Nat.succ_ne_zero below
  next hbelow _ =>
    obtain rfl := Option.some.inj hgrid
    exact hinside below hbelow
  next =>
    obtain rfl := Option.some.inj hgrid
    exact Nat.succ_ne_zero below
  next => cases hgrid

/-- A decimal without digits is not shifted. -/
theorem shortest_eq_zero_or (tie : Tie) (x : Binary64) :
    shortest tie x = ⟨0, 0⟩ ∨ (shortest tie x).digits ≠ 0 := by
  unfold shortest
  split
  · exact Or.inl rfl
  · rename_i hzero
    have hpositive := significand_pos hzero
    dsimp only
    rcases hfound : (List.range 20).findSome? fun (n : Nat) =>
        (Interval.of x).onGrid? tie (topExponent x - (n : Int)) with _ | d
    · exact Or.inl (normalize_zero 20)
    · obtain ⟨n, -, hgrid⟩ := List.exists_of_findSome?_eq_some hfound
      exact Or.inr (normalize_digits_ne_zero 20 (onGrid?_digits_ne_zero hpositive hgrid))

theorem isUnsigned_point {whole places : List Char} (hwhole : IsNumber whole)
    (hzero : ∀ c rest, whole ≠ '0' :: c :: rest) (hplaces : IsNumber places) :
    IsUnsigned (whole ++ '.' :: places) := by
  refine ⟨⟨false, whole, some places, none⟩, ⟨hwhole, hzero, ?_, by simp⟩, rfl, ?_⟩
  · rintro digits ⟨⟩
    exact hplaces
  · simp [NumeralText.chars, fractionChars, exponentChars]

/-- The digits with zeros behind them, and a point with one zero. -/
theorem isUnsigned_whole {d : Decimal} (hd : d.digits = 0 → d.exponent = 0) :
    IsUnsigned (Nat.toDigits 10 d.digits ++ List.replicate d.exponent.toNat '0' ++ ['.', '0']) := by
  have hdigits := isNumber_toDigits d.digits
  refine isUnsigned_point ⟨by simp [hdigits.ne_nil], fun c hc => ?_⟩
    (fun c rest hzero => ?_) isNumber_zero
  · rcases List.mem_append.mp hc with hdigit | hfill
    · exact hdigits.all c hdigit
    · rw [List.eq_of_mem_replicate hfill]
      decide
  · rcases Nat.eq_zero_or_pos d.digits with hnone | hpos
    · simp [hnone, hd hnone] at hzero
    · obtain ⟨first, others, hfirst⟩ := List.exists_cons_of_ne_nil hdigits.ne_nil
      rw [hfirst, List.cons_append] at hzero
      obtain rfl := (List.cons.inj hzero).1
      exact toDigits_ne_zero_cons hpos others hfirst

/-- The digits with zeros in front of them, and the point so many places from the end. -/
theorem isUnsigned_split {n places : Nat} (hplaces : 0 < places) :
    let digits := Nat.toDigits 10 n
    let padded := List.replicate (places + 1 - digits.length) '0' ++ digits
    IsUnsigned (padded.take (padded.length - places) ++
      '.' :: padded.drop (padded.length - places)) := by
  intro digits padded
  have hdigits : IsNumber digits := isNumber_toDigits n
  have hlength : padded.length = max (places + 1) digits.length := by
    simp [padded]
    omega
  have hall : ∀ c ∈ padded, isDigit c = true := by
    intro c hc
    rcases List.mem_append.mp hc with hfill | hdigit
    · rw [List.eq_of_mem_replicate hfill]
      decide
    · exact hdigits.all c hdigit
  refine isUnsigned_point ⟨?_, fun c hc => hall c (List.mem_of_mem_take hc)⟩ ?_
    ⟨?_, fun c hc => hall c (List.mem_of_mem_drop hc)⟩
  · apply List.ne_nil_of_length_pos
    rw [List.length_take]
    omega
  · -- A zero in front of the point stands alone.
    intro c rest hzero
    have htwo := congrArg List.length hzero
    rw [List.length_take, List.length_cons, List.length_cons] at htwo
    have hnone : places + 1 - digits.length = 0 := by omega
    have hsame : padded = digits := by simp [padded, hnone]
    rw [hsame] at hzero
    refine toDigits_ne_leadingZero n c (rest ++ digits.drop (digits.length - places)) ?_
    calc digits = digits.take (digits.length - places) ++ digits.drop (digits.length - places) :=
          (List.take_append_drop _ _).symm
      _ = '0' :: c :: rest ++ digits.drop (digits.length - places) := by rw [hzero]
      _ = _ := rfl
  · apply List.ne_nil_of_length_pos
    rw [List.length_drop]
    omega

theorem isUnsigned_positional {d : Decimal} (hd : d.digits = 0 → d.exponent = 0) :
    IsUnsigned (d.positional ".0").toList := by
  unfold positional
  split
  · simpa using isUnsigned_whole hd
  · have hplaces : 0 < (-d.exponent).toNat := by omega
    have hlength : d.digits.repr.length = (Nat.toDigits 10 d.digits).length := by
      rw [← Nat.toList_repr, String.length_toList]
    have hsplit : IsUnsigned _ := isUnsigned_split (n := d.digits) hplaces
    simpa [Nat.toList_repr, hlength] using hsplit

theorem isUnsigned_scientific (d : Decimal) : IsUnsigned d.scientific.toList := by
  have hnumber : ∀ c ∈ Nat.toDigits 10 d.digits, IsNumber [c] := fun c hc =>
    ⟨by simp, by simpa using (isNumber_toDigits d.digits).all c hc⟩
  have hexponent : ∀ part ∈ some (decide (d.leadingExponent < 0),
      Nat.toDigits 10 d.leadingExponent.natAbs), IsNumber part.2 := by
    rintro part ⟨⟩
    exact isNumber_toDigits _
  have hsign : (if 0 ≤ d.leadingExponent then "+" else "-").toList =
      [if d.leadingExponent < 0 then '-' else '+'] := by
    by_cases hle : 0 ≤ d.leadingExponent
    · simp [hle, not_lt.mpr hle]
    · simp [hle, not_le.mp hle]
  unfold scientific
  rcases hdigits : Nat.toDigits 10 d.digits with _ | ⟨first, _ | ⟨second, others⟩⟩
  · exact absurd hdigits Nat.toDigits_ne_nil
  · refine ⟨⟨false, [first], none, some _⟩, ⟨hnumber first (by simp [hdigits]), by simp, by simp,
      hexponent⟩, rfl, ?_⟩
    simp [NumeralText.chars, fractionChars, exponentChars, hdigits, hsign]
  · have hplaces : IsNumber (second :: others) :=
      ⟨by simp, fun c hc => (isNumber_toDigits d.digits).all c (by
        rw [hdigits]
        exact List.mem_cons_of_mem _ hc)⟩
    refine ⟨⟨false, [first], some (second :: others), some _⟩,
      ⟨hnumber first (by simp [hdigits]), by simp, ?_, hexponent⟩, rfl, ?_⟩
    · rintro digits ⟨⟩
      exact hplaces
    · simp [NumeralText.chars, fractionChars, exponentChars, hdigits, hsign]

end Decimal

namespace Json

theorem isUnsigned_realText (x : Binary64) :
    let d := Decimal.shortest .toEven x
    Decimal.IsUnsigned (if -5 ≤ d.leadingExponent ∧ d.leadingExponent ≤ 15 then d.positional ".0"
      else d.scientific).toList := by
  intro d
  split
  · refine Decimal.isUnsigned_positional fun hnone => ?_
    rcases Decimal.shortest_eq_zero_or .toEven x with hshortest | hdigits
    · exact congrArg Decimal.exponent hshortest
    · exact absurd hnone hdigits
  · exact Decimal.isUnsigned_scientific d

/-- Every number is written as a numeral. -/
theorem exists_parts_numeralText (n : Numeral) :
    ∃ t : NumeralText, t.WellFormed ∧ (numeralText n).toList = t.chars := by
  cases n with
  | whole n => exact ⟨wholeParts n, wholeParts_wellFormed n, numeralText_whole n⟩
  | real x =>
      -- The sign stands in front of a text without a sign.
      have hsigned : ∀ body : String, Decimal.IsUnsigned body.toList →
          ∃ t : NumeralText, t.WellFormed ∧
            ((if x.isNegative then "-" else "") ++ body).toList = t.chars := by
        rintro body ⟨t, ⟨hwhole, hzero, hplaces, hpower⟩, hpositive, hbody⟩
        refine ⟨{ t with negative := x.isNegative }, ⟨hwhole, hzero, hplaces, hpower⟩, ?_⟩
        rw [String.toList_append, hbody]
        cases x.isNegative <;> simp [NumeralText.chars, hpositive]
      rw [numeralText, realText]
      dsimp only
      split
      · have hzero : Decimal.IsUnsigned (['0'] ++ '.' :: ['0']) :=
          Decimal.isUnsigned_point isNumber_zero (by simp) isNumber_zero
        exact hsigned "0.0" hzero
      · exact hsigned _ (isUnsigned_realText x)

theorem absorb_le {limit n : Nat} (hle : n ≤ limit) : (absorb limit n digits).1 ≤ limit := by
  induction digits generalizing n with
  | nil => exact hle
  | cons c rest ih =>
      unfold absorb
      dsimp only
      split
      next => exact hle
      next hnext => exact ih (not_lt.mp hnext)

theorem fitsWord_of_value? {t : NumeralText} {n : Int} (hvalue : t.value? = some (.whole n)) :
    FitsWord n := by
  have hlimits : (powerOfTwo 63 : Int) ≤ significandLimit := by decide
  have hhead : (absorb significandLimit 0 t.whole).1 ≤ significandLimit :=
    absorb_le (Nat.zero_le _)
  unfold NumeralText.value? at hvalue
  generalize absorb significandLimit 0 t.whole = absorbed at hvalue hhead
  obtain ⟨head, dropped⟩ := absorbed
  dsimp only at hvalue hhead
  split at hvalue
  · split at hvalue
    · obtain rfl := Numeral.whole.inj (Option.some.inj hvalue)
      exact ⟨by omega, by omega⟩
    · split at hvalue
      · cases hvalue
      · obtain rfl := Numeral.whole.inj (Option.some.inj hvalue)
        exact ⟨by omega, by omega⟩
  · -- Whatever has a fraction or an exponent, or too many digits, is not whole.
    split at hvalue
    · simp [Option.map_eq_some_iff] at hvalue
    · split at hvalue
      · simp [Option.map_eq_some_iff] at hvalue
      · split at hvalue <;> cases hvalue

/-- Whole numbers are read only as far as they fit. -/
theorem fitsWord_of_readNumeral {cs : List Char} {n : Int}
    (hread : readNumeral cs = .ok (.whole n, rest)) : FitsWord n := by
  unfold readNumeral at hread
  simp only [bind, Except.bind] at hread
  split at hread
  · cases hread
  · split at hread
    · cases hread
    · split at hread
      · cases hread
      · split at hread
        next hvalue =>
          obtain ⟨rfl, -⟩ := Prod.mk.inj (Except.ok.inj hread)
          exact fitsWord_of_value? hvalue
        next => cases hread

end Json
end Scaffold
