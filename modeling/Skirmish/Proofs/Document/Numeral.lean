import Skirmish.Document.Json.Literal
import Skirmish.Proofs.Number.Reading

/-!
# Numbers of JSON texts

What is written for a finite number or for an integer of 64 bits is the text of a numeral that stands
for the number (`Numeral.exists_document_eq_text`, `Numeral.exists_integer_eq_text`), and a numeral is
read from its text whatever comes behind it, as long as the number ends there (`Numeral.read_text`).

## Shape of the proof

`Numeral.text` spells a numeral, and reading takes a text apart into the parts that it was spelled
from. Each of the four layouts of a number is such a text: that of a numeral with the sign and the
value of the shortest decimal (`Spells`). Since a decimal is read by its value alone, where a layout
puts digits and exponent makes no difference, and the number comes back.
-/

namespace Skirmish

/-! ## Digits -/

namespace Number

theorem isDigit_of_mem_digits {n : Nat} {c : Char} (h : c ∈ digits n) : c.isDigit = true :=
  Nat.isDigit_of_mem_toDigits (by decide) (by decide) h

theorem digits_ne_nil (n : Nat) : digits n ≠ [] := Nat.toDigits_ne_nil

/-- The digits of a number spell it. -/
theorem ofDigitChars_digits (n : Nat) : Nat.ofDigitChars 10 (digits n) 0 = n :=
  Nat.ofDigitChars_ten_toDigits

/-- A number that is not zero is written without a zero in front. -/
theorem head?_digits {n : Nat} (h : n ≠ 0) : (digits n).head? ≠ some '0' := by
  induction n using Nat.strongRecOn with
  | ind n ih =>
    rcases Nat.lt_or_ge n 10 with hlt | hge
    · rw [digits, Nat.toDigits_of_lt_base hlt]
      clear ih
      revert h
      revert n
      decide
    · have hsplit : digits n = digits (n / 10) ++ [Nat.digitChar (n % 10)] :=
        Nat.toDigits_of_base_le (by decide) hge
      have hquotient := ih (n / 10) (by omega) (by omega)
      rw [hsplit, List.head?_append_of_ne_nil _ (digits_ne_nil _)]
      exact hquotient

end Number

namespace Json

/-- The digits in front of something that is none are taken as a whole. -/
theorem takeDigits_append {ds rest : List Char} (digits : ∀ c ∈ ds, c.isDigit = true)
    (stops : ∀ c ∈ rest.head?, c.isDigit = false) : takeDigits (ds ++ rest) = (ds, rest) := by
  have hrest : rest.takeWhile Char.isDigit = [] ∧ rest.dropWhile Char.isDigit = rest := by
    cases rest with
    | nil => exact ⟨rfl, rfl⟩
    | cons c cs =>
      have hc : ¬c.isDigit = true := Bool.not_eq_true _ ▸ stops c rfl
      exact ⟨List.takeWhile_cons_of_neg hc, List.dropWhile_cons_of_neg hc⟩
  rw [takeDigits, List.takeWhile_append_of_pos digits, List.dropWhile_append_of_pos digits, hrest.1,
    hrest.2, List.append_nil]

/-- Whether a number ends where this text begins. -/
def EndsNumber (rest : List Char) : Prop :=
  ∀ c ∈ rest.head?, c.isDigit = false ∧ c ≠ '.' ∧ c ≠ 'e' ∧ c ≠ 'E'

theorem endsNumber_nil : EndsNumber [] := by
  intro c hc
  cases hc

/-! ## Spelling a numeral -/

namespace Numeral

/-- The point and the digits behind it. -/
def fractionText : Option (List Char) → List Char
  | some ds => '.' :: ds
  | none => []

/-- The letter of the exponent and the exponent with its sign. -/
def exponentText : Option Int → List Char
  | some e => 'e' :: (if e < 0 then '-' else '+') :: Number.digits e.natAbs
  | none => []

/-- The text of a numeral. -/
def text (n : Numeral) : List Char :=
  Number.signed n.negative (n.whole ++ fractionText n.fraction ++ exponentText n.exponent)

/-- Whether the parts of a numeral are such that it can be spelled. -/
structure WellFormed (n : Numeral) : Prop where
  wholeDigits : ∀ c ∈ n.whole, c.isDigit = true
  wholeNonempty : n.whole ≠ []
  /-- There is no zero in front, unless nothing follows it. -/
  noLeadingZero : n.whole.head? = some '0' → n.whole = ['0']
  fractionDigits : ∀ ds ∈ n.fraction, ∀ c ∈ ds, c.isDigit = true
  fractionNonempty : ∀ ds ∈ n.fraction, ds ≠ []

/-- Digits without a leading zero are read in full, up to what stops them. -/
theorem readWhole_append {ds rest : List Char} (digits : ∀ c ∈ ds, c.isDigit = true)
    (nonempty : ds ≠ []) (noLeadingZero : ds.head? = some '0' → ds = ['0'])
    (stops : ∀ c ∈ rest.head?, c.isDigit = false) : readWhole (ds ++ rest) = some (ds, rest) := by
  rw [readWhole, takeDigits_append digits stops]
  match ds with
  | [] => exact absurd rfl nonempty
  | c :: cs =>
    -- A leading zero is read alone, so it must be all there is.
    by_cases hzero : c = '0'
    · subst hzero
      rw [noLeadingZero rfl]
      rfl
    · split
      · rename_i heq
        cases heq
      · rename_i heq
        cases heq
        exact absurd rfl hzero
      · rename_i heq
        cases heq
        exact absurd rfl hzero
      · rename_i heq
        cases heq
        rfl

/-- A fraction, or that there is none, is read back from its text. -/
theorem readFraction_append {fraction : Option (List Char)} {rest : List Char}
    (digits : ∀ ds ∈ fraction, ∀ c ∈ ds, c.isDigit = true) (nonempty : ∀ ds ∈ fraction, ds ≠ [])
    (stops : ∀ c ∈ rest.head?, c.isDigit = false ∧ c ≠ '.') :
    readFraction (fractionText fraction ++ rest) = some (fraction, rest) := by
  cases fraction with
  | none =>
    simp only [fractionText, List.nil_append, readFraction]
    split
    · exact absurd rfl (stops '.' rfl).2
    · rfl
  | some ds =>
    simp only [fractionText, List.cons_append, readFraction]
    rw [takeDigits_append (digits ds rfl) fun c hc => (stops c hc).1]
    split
    · rename_i heq
      cases heq
      exact absurd rfl (nonempty [] rfl)
    · rename_i heq
      cases heq
      rfl

/-- The sign of an exponent is always written, and is read back. -/
theorem readSign_exponent (e : Int) (cs : List Char) :
    readSign ((if e < 0 then '-' else '+') :: cs) = (decide (e < 0), cs) := by
  by_cases h : e < 0
  · rw [if_pos h, decide_eq_true h]
    rfl
  · rw [if_neg h, decide_eq_false h]
    rfl

/-- An exponent, or that there is none, is read back from its text. -/
theorem readExponent_append (exponent : Option Int) {rest : List Char} (ends : EndsNumber rest) :
    readExponent (exponentText exponent ++ rest) = some (exponent, rest) := by
  cases exponent with
  | none =>
    simp only [exponentText, List.nil_append]
    cases rest with
    | nil => rfl
    | cons c cs =>
      obtain ⟨-, -, hlower, hupper⟩ := ends c rfl
      rw [readExponent, if_neg (not_or.mpr ⟨hlower, hupper⟩)]
  | some e =>
    have hdigits : takeDigits (Number.digits e.natAbs ++ rest) = (Number.digits e.natAbs, rest) :=
      takeDigits_append (fun _ => Number.isDigit_of_mem_digits) fun c hc => (ends c hc).1
    simp only [exponentText, List.cons_append, readExponent, true_or, if_true, readSign_exponent,
      hdigits]
    -- The sign and the digits of the absolute value together are the exponent again.
    have hvalue : (if decide (e < 0) = true then -(e.natAbs : Int) else e.natAbs) = e := by
      simp only [decide_eq_true_eq]
      split <;> omega
    obtain ⟨d, ds, hds⟩ := List.exists_cons_of_ne_nil (Number.digits_ne_nil e.natAbs)
    rw [hds]
    simp only []
    rw [← hds, Number.ofDigitChars_digits, hvalue]

/-- What follows the digits before the point is no digit. -/
theorem head?_fractionText (fraction : Option (List Char)) {rest : List Char}
    (stops : ∀ c ∈ rest.head?, c.isDigit = false) :
    ∀ c ∈ (fractionText fraction ++ rest).head?, c.isDigit = false := by
  cases fraction with
  | none => exact stops
  | some ds =>
    intro c hc
    cases hc
    rfl

/-- What follows the fraction is neither a digit nor a point. -/
theorem head?_exponentText (exponent : Option Int) {rest : List Char} (ends : EndsNumber rest) :
    ∀ c ∈ (exponentText exponent ++ rest).head?, c.isDigit = false ∧ c ≠ '.' := by
  cases exponent with
  | none => exact fun c hc => ⟨(ends c hc).1, (ends c hc).2.1⟩
  | some e =>
    intro c hc
    cases hc
    decide

/-- **A numeral is read from its text.** -/
theorem read_text {n : Numeral} (wellFormed : n.WellFormed) {rest : List Char}
    (ends : EndsNumber rest) : read (n.text ++ rest) = some (n, rest) := by
  have hexponent := readExponent_append n.exponent ends
  have hpoint := head?_exponentText n.exponent ends
  have hfraction := readFraction_append wellFormed.fractionDigits wellFormed.fractionNonempty hpoint
  have hdigit := head?_fractionText n.fraction fun c hc => (hpoint c hc).1
  have hwhole := readWhole_append wellFormed.wholeDigits wellFormed.wholeNonempty
    wellFormed.noLeadingZero hdigit
  obtain ⟨negative, whole, fraction, exponent⟩ := n
  rw [text]
  cases negative with
  | true =>
    simp only [Number.signed, if_true, List.cons_append, List.append_assoc, read, hwhole, hfraction,
      hexponent]
  | false =>
    -- The first character is a digit, so it is not taken for a sign.
    have hsign : ∀ cs',
        whole ++ (fractionText fraction ++ (exponentText exponent ++ rest)) ≠ '-' :: cs' := by
      obtain ⟨c, cs, rfl⟩ := List.exists_cons_of_ne_nil wellFormed.wholeNonempty
      rintro cs' heq
      cases heq
      cases wellFormed.wholeDigits '-' List.mem_cons_self
    simp only [Number.signed, Bool.false_eq_true, if_false, List.append_assoc, read, hwhole,
      hfraction, hexponent]

/-! ## The layouts of a decimal -/

/-- Whether a numeral spells a decimal, and spells it as something that is no integer. -/
structure Spells (n : Numeral) (d : Number.Decimal) : Prop where
  wellFormed : n.WellFormed
  noInteger : n.fraction = none → n.exponent ≠ none
  negative : n.negative = d.negative
  value : n.decimal.value = d.value

/-- Digits before the point, and some behind it. -/
theorem wellFormed_fraction {negative : Bool} {whole fraction : List Char} {exponent : Option Int}
    (digits : ∀ c ∈ whole, c.isDigit = true) (nonempty : whole ≠ [])
    (noLeadingZero : whole.head? = some '0' → whole = ['0'])
    (digits' : ∀ c ∈ fraction, c.isDigit = true) (nonempty' : fraction ≠ []) :
    WellFormed ⟨negative, whole, some fraction, exponent⟩ where
  wholeDigits := digits
  wholeNonempty := nonempty
  noLeadingZero := noLeadingZero
  fractionDigits ds hds := by
    cases hds
    exact digits'
  fractionNonempty ds hds := by
    cases hds
    exact nonempty'

/-- A decimal that is zero. -/
theorem spells_zero {d : Number.Decimal} (zero : d.significand = 0) :
    Spells ⟨d.negative, ['0'], some ['0'], none⟩ d where
  wellFormed := wellFormed_fraction (by simp) (by simp) (fun _ => rfl) (by simp) (by simp)
  noInteger h := by cases h
  negative := rfl
  value := by
    rw [Number.Decimal.value_eq_zero_iff.mpr zero, Number.Decimal.value_eq_zero_iff]
    rfl

section Padded

variable {places : Nat} {ds : List Char}

/-- Digits with enough zeros in front that one digit more than the places is there. -/
def padded (places : Nat) (ds : List Char) : List Char :=
  List.replicate (places + 1 - ds.length) '0' ++ ds

/-- How many of these come before the point. -/
def wholeLength (places : Nat) (ds : List Char) : Nat := (padded places ds).length - places

/-- Padding fills up to one digit before the places. -/
theorem length_padded (places : Nat) (ds : List Char) :
    (padded places ds).length = max (places + 1) ds.length := by
  rw [padded, List.length_append, List.length_replicate]
  omega

/-- Padding adds digits only. -/
theorem isDigit_of_mem_padded (digits : ∀ c ∈ ds, c.isDigit = true) :
    ∀ c ∈ padded places ds, c.isDigit = true := by
  intro c hc
  rcases List.mem_append.mp hc with hmem | hmem
  · rw [(List.mem_replicate.mp hmem).2]
    rfl
  · exact digits c hmem

/-- A zero comes before the point only if it is all that does. -/
theorem noLeadingZero_padded (head : ds.head? ≠ some '0') :
    ((padded places ds).take (wholeLength places ds)).head? = some '0' →
      (padded places ds).take (wholeLength places ds) = ['0'] := by
  intro hzero
  have hlength := length_padded places ds
  rcases Nat.lt_or_ge places ds.length with hlong | hshort
  · have hnone : places + 1 - ds.length = 0 := by omega
    have hwhole : wholeLength places ds ≠ 0 := by
      rw [wholeLength]
      omega
    rw [padded, hnone, List.replicate_zero, List.nil_append, List.head?_take, if_neg hwhole] at hzero
    exact absurd hzero head
  · have hone : wholeLength places ds = 1 := by
      rw [wholeLength]
      omega
    obtain ⟨zeros, hzeros⟩ := Nat.exists_eq_add_of_le' (show 1 ≤ places + 1 - ds.length by omega)
    rw [hone, padded, hzeros, List.replicate_succ]
    rfl

end Padded

section Nonzero

variable {d : Number.Decimal} (nonzero : d.significand ≠ 0)

include nonzero

/-- The digits of a decimal, and behind them something that is worth a power of ten. -/
theorem wholeDigits_append (zeros : List Char) (h : ∀ c ∈ zeros, c = '0') :
    (∀ c ∈ Number.digits d.significand ++ zeros, c.isDigit = true) ∧
      (Number.digits d.significand ++ zeros).head? ≠ some '0' := by
  refine ⟨?_, ?_⟩
  · intro c hc
    rcases List.mem_append.mp hc with hmem | hmem
    · exact Number.isDigit_of_mem_digits hmem
    · rw [h c hmem]
      rfl
  · rw [List.head?_append_of_ne_nil _ (Number.digits_ne_nil _)]
    exact Number.head?_digits nonzero

/-- An integer, with a zero behind the point. -/
theorem spells_whole (h : 0 ≤ d.exponent) :
    Spells ⟨d.negative, Number.digits d.significand ++ List.replicate d.exponent.toNat '0',
      some ['0'], none⟩ d := by
  obtain ⟨hdigits, hhead⟩ := wholeDigits_append nonzero (List.replicate d.exponent.toNat '0')
    fun c hc => (List.mem_replicate.mp hc).2
  refine ⟨wellFormed_fraction hdigits ?_ (fun hzero => absurd hzero hhead) (by simp) (by simp), nofun,
    rfl, ?_⟩
  · exact List.append_ne_nil_of_left_ne_nil (Number.digits_ne_nil _) _
  · -- The zeros behind the digits and the one after the point scale the significand.
    obtain ⟨k, hk⟩ := Int.eq_ofNat_of_zero_le h
    have hsignificand : Nat.ofDigitChars 10
        (Number.digits d.significand ++ List.replicate k '0' ++ ['0']) 0 =
          10 * (10 ^ k * d.significand) := by
      rw [Nat.ofDigitChars_append, Nat.ofDigitChars_append, Number.ofDigitChars_digits,
        Nat.ofDigitChars_replicate_zero]
      rfl
    simp only [Number.Decimal.value, decimal, hk, Int.toNat_natCast, Option.getD_some,
      Option.getD_none, hsignificand, List.length_singleton, zpow_natCast]
    push_cast
    rw [zpow_neg_one]
    field_simp

/-- Digits with the point between or in front of them. -/
theorem spells_places (h : d.exponent < 0) :
    ∃ n, Spells n d ∧ Number.signed d.negative
      (Number.withPlaces (Number.digits d.significand) (-d.exponent).toNat) = n.text := by
  have hplaces : d.exponent = -((-d.exponent).toNat : Int) := by omega
  have hpositive : 0 < (-d.exponent).toNat := by omega
  generalize (-d.exponent).toNat = places at hplaces hpositive ⊢
  have hhead := Number.head?_digits nonzero
  have hvalue := Number.ofDigitChars_digits d.significand
  have hdigits : ∀ c ∈ Number.digits d.significand, c.isDigit = true :=
    fun c => Number.isDigit_of_mem_digits
  generalize Number.digits d.significand = ds at hhead hvalue hdigits ⊢
  have hlength := length_padded places ds
  have hpadded : ∀ c ∈ padded places ds, c.isDigit = true := isDigit_of_mem_padded hdigits
  -- The point is placed so that exactly the wanted places follow it.
  have hfraction : ((padded places ds).drop (wholeLength places ds)).length = places := by
    rw [List.length_drop, wholeLength]
    omega
  refine ⟨⟨d.negative, (padded places ds).take (wholeLength places ds),
    some ((padded places ds).drop (wholeLength places ds)), none⟩,
    ⟨wellFormed_fraction ?_ ?_ (noLeadingZero_padded hhead) ?_ ?_, nofun, rfl, ?_⟩, ?_⟩
  · exact fun c hc => hpadded c (List.mem_of_mem_take hc)
  · rw [← List.length_pos_iff, List.length_take, wholeLength]
    omega
  · exact fun c hc => hpadded c (List.mem_of_mem_drop hc)
  · rw [← List.length_pos_iff, hfraction]
    exact hpositive
  · rw [Number.Decimal.value, Number.Decimal.value, hplaces]
    simp only [decimal, Option.getD_some, Option.getD_none, List.take_append_drop, hfraction]
    rw [padded, Nat.ofDigitChars_append, Nat.ofDigitChars_replicate_zero, Nat.mul_zero, hvalue,
      zero_sub]
  · rw [text, fractionText, exponentText, List.append_nil]
    rfl

/-- Digits with the point behind the first one, and an exponent. -/
theorem spells_scientific :
    ∃ n, Spells n d ∧ Number.signed d.negative
      (Number.scientificDigits (Number.digits d.significand) ++
        'e' :: (if d.exponent + (Number.digits d.significand).length - 1 < 0 then '-' else '+') ::
          Number.digits (d.exponent + (Number.digits d.significand).length - 1).natAbs) = n.text := by
  have hvalue := Number.ofDigitChars_digits d.significand
  have hdigits : ∀ c ∈ Number.digits d.significand, c.isDigit = true :=
    fun c => Number.isDigit_of_mem_digits
  have hhead := Number.head?_digits nonzero
  obtain ⟨c, cs, hcs⟩ := List.exists_cons_of_ne_nil (Number.digits_ne_nil d.significand)
  rw [hcs] at hvalue hdigits hhead ⊢
  generalize hleading : d.exponent + (c :: cs).length - 1 = leading
  have hfirst : ∀ c' ∈ [c], c'.isDigit = true := by
    simpa using hdigits c List.mem_cons_self
  have hzero : [c].head? = some '0' → [c] = ['0'] := fun h => absurd h hhead
  -- A single digit is written without a point.
  cases cs with
  | nil =>
    refine ⟨⟨d.negative, [c], none, some leading⟩,
      ⟨⟨hfirst, by simp, hzero, by simp, by simp⟩, fun _ => Option.some_ne_none _, rfl, ?_⟩, ?_⟩
    · simp only [Number.Decimal.value, decimal, Option.getD_some, Option.getD_none, List.append_nil,
        hvalue, ← hleading]
      simp
    · rfl
  | cons c' cs =>
    refine ⟨⟨d.negative, [c], some (c' :: cs), some leading⟩,
      ⟨wellFormed_fraction hfirst (by simp) hzero ?_ (by simp), fun _ => Option.some_ne_none _, rfl,
        ?_⟩, ?_⟩
    · exact fun x hx => hdigits x (List.mem_cons_of_mem _ hx)
    · have hexponent : leading - (c' :: cs).length = d.exponent := by
        rw [List.length_cons] at hleading
        omega
      simp only [Number.Decimal.value, decimal, Option.getD_some, List.singleton_append, hvalue,
        hexponent]
    · simp [text, fractionText, exponentText, Number.scientificDigits]

end Nonzero

/-- What is written for a number spells its shortest decimal. -/
theorem exists_spells_shortest (x : Number.Single) :
    ∃ n, Spells n (Number.shortest x) ∧ Number.document x = n.text := by
  simp only [Number.document]
  by_cases hzero : (Number.shortest x).significand = 0
  · rw [if_pos hzero]
    exact ⟨_, spells_zero hzero, rfl⟩
  · rw [if_neg hzero]
    split
    · split
      · rename_i hexponent
        refine ⟨_, spells_whole hzero hexponent, ?_⟩
        simp only [text, fractionText, exponentText, List.append_nil]
      · rename_i hexponent
        exact spells_places hzero (Int.not_le.mp hexponent)
    · exact spells_scientific hzero

/-! ## What is read -/

/-- A numeral that is no integer stands for the number that its decimal is read as. -/
theorem Spells.document {n : Numeral} {d : Number.Decimal} (spells : Spells n d) {x : Number.Single}
    (reads : d.toSingle? = some x) : n.document = .real x := by
  have hdecimal : n.decimal.toSingle? = some x := by
    rw [← reads]
    exact Number.Decimal.toSingle?_congr spells.negative spells.value
  have hreal : n.document = n.real := by
    rw [Numeral.document]
    split
    · rename_i hfraction hexponent
      exact absurd hexponent (spells.noInteger hfraction)
    · rfl
  rw [hreal, real, hdecimal]

/-- **What is written for a finite number is the text of a numeral that stands for it.** -/
theorem exists_document_eq_text {x : Number.Single} (finite : Number.Single.isFinite x = true) :
    ∃ n : Numeral, n.WellFormed ∧ Number.document x = n.text ∧ n.document = .real x := by
  obtain ⟨n, hspells, htext⟩ := exists_spells_shortest x
  exact ⟨n, hspells.wellFormed, htext, hspells.document (Number.toSingle?_shortest finite)⟩

/-- **What is written for an integer of 64 bits is the text of a numeral that stands for it.** -/
theorem exists_integer_eq_text {i : Int} (low : Int64.minValue.toInt ≤ i) (high : i < UInt64.size) :
    ∃ n : Numeral, n.WellFormed ∧ Number.integer i = n.text ∧ n.document = .integer i := by
  refine ⟨⟨decide (i < 0), Number.digits i.natAbs, none, none⟩, ⟨?_, ?_, ?_, nofun, nofun⟩, ?_, ?_⟩
  · exact fun c => Number.isDigit_of_mem_digits
  · exact Number.digits_ne_nil _
  · intro hzero
    by_cases h : i.natAbs = 0
    · simp only [h]
      rfl
    · exact absurd hzero (Number.head?_digits h)
  · simp only [Number.integer, text, fractionText, exponentText, List.append_nil]
  · simp only [document, Number.ofDigitChars_digits, decide_eq_true_eq]
    -- The bounds are those of the two types that the reader tries.
    by_cases hnegative : i < 0
    · rw [if_pos hnegative, if_pos (by omega)]
      congr 1
      omega
    · rw [if_neg hnegative, if_pos (by omega)]
      congr 1
      omega

/-- The text of a numeral begins with a sign or with a digit, and so with nothing else. -/
theorem exists_text_eq_cons {n : Numeral} (wellFormed : n.WellFormed) :
    ∃ c cs, n.text = c :: cs ∧ ∀ c' : Char, c' ≠ '-' → c'.isDigit = false → c ≠ c' := by
  obtain ⟨c, cs, hwhole⟩ := List.exists_cons_of_ne_nil wellFormed.wholeNonempty
  rw [text]
  cases n.negative with
  | true => exact ⟨_, _, rfl, fun c' hsign _ => hsign.symm⟩
  | false =>
    refine ⟨c, _, by rw [hwhole]; rfl, ?_⟩
    rintro c' - hdigit rfl
    have hmem : c ∈ n.whole := by
      rw [hwhole]
      exact List.mem_cons_self
    exact Bool.false_ne_true (hdigit.symm.trans (wellFormed.wholeDigits c hmem))

end Numeral

end Json

end Skirmish
