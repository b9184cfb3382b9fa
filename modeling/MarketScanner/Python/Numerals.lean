import Mathlib.Data.Int.Log
import MarketScanner.Python.Values

/-! Numbers as texts: the `str` of a decimal and what `float` reads back from it, and the `:g` format. -/
namespace MarketScanner.Python

theorem toList_padLeft (width n : ℕ) : (padLeft width n).toList =
    List.replicate (width-(Nat.toDigits 10 n).length) '0' ++ Nat.toDigits 10 n := by
  simp [padLeft, String.toList_append, ← String.length_toList]

theorem length_padLeft {width n : ℕ} (hwidth : 0 < width) (h : n < 10^width) :
    (padLeft width n).toList.length = width := by
  have hdigits := (Nat.length_toDigits_le_iff (by decide : 1 < 10) hwidth).mpr h
  rw [toList_padLeft, List.length_append, List.length_replicate]
  omega

theorem isDigit_of_mem_padLeft {width n : ℕ} {c : Char} (h : c ∈ (padLeft width n).toList) :
    c.isDigit = true := by
  rw [toList_padLeft, List.mem_append] at h
  rcases h with hzero | hdigit
  · rw [List.eq_of_mem_replicate hzero]
    decide
  · exact Nat.isDigit_of_mem_toDigits (by decide) (by decide) hdigit

/-- `str(x)` of a decimal with `scale` digits after the point, `n` being its count of units in the
last place. -/
def decimalText (scale : ℕ) (n : ℤ) : String :=
  (if n < 0 then "-" else "") ++ toString (n.natAbs/10^scale) ++ "." ++
    padLeft scale (n.natAbs % 10^scale)

/-- No decimal reads as the text that stands for a missing value. -/
theorem decimalText_ne_none (scale : ℕ) (n : ℤ) : decimalText scale n ≠ "None" := by
  intro h
  have hdot : '.' ∈ (decimalText scale n).toList := by
    simp [decimalText, String.toList_append]
  rw [h] at hdot
  revert hdot
  decide

/-- The number that digits with a point among them stand for. -/
def unsignedDecimal (cs : List Char) : Option ℚ :=
  match cs.dropWhile Char.isDigit with
  | '.'::fraction =>
    if fraction.all Char.isDigit then
      some ((Nat.ofDigitChars 10 (cs.takeWhile Char.isDigit ++ fraction) 0 : ℚ) / 10^fraction.length)
    else none
  | _ => none

/-- `float(s)`, on the texts of decimals. -/
def floatOfDecimal (s : String) : Option PyFloat :=
  match s.toList with
  | '-'::cs => (unsignedDecimal cs).map fun q => .finite (-q)
  | cs => (unsignedDecimal cs).map .finite

theorem unsignedDecimal_append {whole fraction : List Char} (hwhole : ∀ c ∈ whole, c.isDigit = true)
    (hfraction : ∀ c ∈ fraction, c.isDigit = true) :
    unsignedDecimal (whole ++ '.'::fraction) =
      some ((Nat.ofDigitChars 10 (whole ++ fraction) 0 : ℚ) / 10^fraction.length) := by
  have hall : fraction.all Char.isDigit = true := List.all_eq_true.mpr hfraction
  have hpoint : Char.isDigit '.' = false := by decide
  unfold unsignedDecimal
  rw [List.dropWhile_append_of_pos hwhole, List.takeWhile_append_of_pos hwhole,
    List.dropWhile_cons_of_neg (by simp [hpoint]), List.takeWhile_cons_of_neg (by simp [hpoint])]
  simp [hall]

/-- The digits of a decimal, without sign and point, are those of its count of units. -/
theorem ofDigitChars_decimal {scale : ℕ} (hscale : 0 < scale) (n : ℕ) :
    Nat.ofDigitChars 10 (Nat.toDigits 10 (n/10^scale) ++ (padLeft scale (n % 10^scale)).toList) 0 =
      n := by
  have hlt : n % 10^scale < 10^scale := Nat.mod_lt n (Nat.pow_pos (by decide))
  have hfraction : Nat.ofDigitChars 10 (padLeft scale (n % 10^scale)).toList 0 = n % 10^scale := by
    rw [toList_padLeft, Nat.ofDigitChars_append, Nat.ofDigitChars_replicate_zero, Nat.mul_zero,
      Nat.ofDigitChars_ten_toDigits]
  rw [Nat.ofDigitChars_append, Nat.ofDigitChars_ten_toDigits, Nat.ofDigitChars_eq_ofDigitChars_zero,
    length_padLeft hscale hlt, hfraction]
  exact Nat.div_add_mod n (10^scale)

/-- A text that begins with a digit has no sign. -/
theorem ne_minus_cons {cs rest : List Char} (hne : cs ≠ []) (h : ∀ c ∈ cs, c.isDigit = true)
    (tail : List Char) : cs ++ rest ≠ '-'::tail := by
  cases cs with
  | nil => exact absurd rfl hne
  | cons c cs =>
    intro heq
    have hc := h c List.mem_cons_self
    rw [(List.cons.inj heq).1] at hc
    revert hc
    decide

/-- `float(str(x)) == x`. -/
theorem floatOfDecimal_decimalText {scale : ℕ} (hscale : 0 < scale) (n : ℤ) :
    floatOfDecimal (decimalText scale n) = some (.finite (n/10^scale)) := by
  have hlt : n.natAbs % 10^scale < 10^scale := Nat.mod_lt n.natAbs (Nat.pow_pos (by decide))
  have hwhole : ∀ c ∈ Nat.toDigits 10 (n.natAbs/10^scale), c.isDigit = true := fun c hc =>
    Nat.isDigit_of_mem_toDigits (by decide) (by decide) hc
  have hfraction : ∀ c ∈ (padLeft scale (n.natAbs % 10^scale)).toList, c.isDigit = true :=
    fun c hc => isDigit_of_mem_padLeft hc
  have hread := unsignedDecimal_append hwhole hfraction
  rw [ofDigitChars_decimal hscale, length_padLeft hscale hlt] at hread
  have htext : (decimalText scale n).toList = (if n < 0 then ['-'] else []) ++
      (Nat.toDigits 10 (n.natAbs/10^scale) ++ '.'::(padLeft scale (n.natAbs % 10^scale)).toList) := by
    by_cases hn : n < 0 <;> simp [decimalText, String.toList_append, hn]
  unfold floatOfDecimal
  rw [htext]
  by_cases hn : n < 0
  · have habs : (n.natAbs : ℚ) = -n := by
      rw [← Int.cast_natCast, Int.natCast_natAbs, abs_of_neg hn, Int.cast_neg]
    rw [if_pos hn, List.singleton_append]
    simp only [hread, habs, Option.map_some, neg_div, neg_neg]
  · have habs : (n.natAbs : ℚ) = n := by
      rw [← Int.cast_natCast, Int.natCast_natAbs, abs_of_nonneg (not_lt.mp hn)]
    rw [if_neg hn, List.nil_append]
    split
    · rename_i tail hminus
      exact absurd hminus (ne_minus_cons Nat.toDigits_ne_nil hwhole tail)
    · rw [hread, habs]
      rfl

/-- `f"{x:.{places}f}"`; a number that rounds to zero from below keeps its sign. -/
def formatFixed (places : ℕ) (q : ℚ) : String :=
  let n := (PyFloat.roundHalfEven (|q| * 10^places)).toNat
  (if q < 0 then "-" else "") ++ toString (n/10^places) ++ "." ++ padLeft places (n % 10^places)

/-- The digits after the point, without trailing zeros. -/
def fractionText (places n : ℕ) : String :=
  let digits := ((padLeft places n).toList.reverse.dropWhile (· == '0')).reverse
  if digits = [] then "" else "." ++ String.ofList digits

/-- `f"{x:g}"`: six significant digits, in the scientific form where the exponent asks for it. -/
def formatGeneral (q : ℚ) : String :=
  if q = 0 then "0"
  else
    let magnitude := Int.log 10 |q|
    let rounded := (PyFloat.roundHalfEven (|q| * 10^(5-magnitude))).toNat
    let digits := if rounded = 10^6 then 10^5 else rounded
    let exponent := if rounded = 10^6 then magnitude+1 else magnitude
    (if q < 0 then "-" else "") ++
      if -4 ≤ exponent ∧ exponent < 6 then
        let places := (5-exponent).toNat
        toString (digits/10^places) ++ fractionText places (digits % 10^places)
      else
        toString (digits/10^5) ++ fractionText 5 (digits % 10^5) ++ "e" ++
          (if exponent < 0 then "-" else "+") ++ padLeft 2 exponent.natAbs

example : formatGeneral (100/3) = "33.3333" ∧ formatGeneral (-5/2) = "-2.5" ∧
    formatGeneral (3/100000) = "3e-05" ∧ formatGeneral 9999996 = "1e+07" := by decide +kernel

end MarketScanner.Python
