import Mathlib.Data.Option.Basic
import WorkflowGuard.Proofs.Json.WrittenText

/-!
# Written numbers read back

A number that stands between delimiters is read exactly as it is read alone, so what a numeral
means can be settled on the numeral itself: `readNumber?` is the reader on a whole text. The
whole numbers of 64 bits are shown to survive, digit by digit; whether a double does is a
property of the shortest digits and of the rounding of the reader, and is left as a hypothesis
on the double, `Number.ReadsBack`.
-/

namespace WorkflowGuard.Json

/-- The number that the whole of the bytes spells. -/
def readNumber? (bytes : Bytes) : Option Number :=
  match readNumeral? bytes with
  | some (numeral, []) => numeral.value?
  | _ => none

/-- Reading the written form of the number gives the number. -/
def Number.ReadsBack (number : Number) : Prop :=
  readNumber? (Text.utf8 number.render) = some number

/-- The digits of an exponent part, whose mark and sign have been read. -/
def exponentDigits? (negative : Bool) (bytes : Bytes) :
    Option (Option (Bool × List Nat) × Bytes) :=
  if (readDigits bytes).1.isEmpty then none
  else some (some (negative, (readDigits bytes).1), (readDigits bytes).2)

/-- The parts of a numeral after its sign, and what follows it. -/
def unsignedNumeral? (negative : Bool) (bytes : Bytes) : Option (Numeral × Bytes) := do
  let (whole, rest) := readDigits bytes
  guard (!whole.isEmpty && (whole.head? != some 0 || whole.length == 1))
  let (fraction, rest) ← readFraction? rest
  let (exponent, rest) ← readExponent? rest
  return (⟨negative, whole, fraction, exponent⟩, rest)

/-- Nothing follows, or a comma or a closing bracket does. -/
def Delimited (rest : Bytes) : Prop :=
  rest = [] ∨ ∃ octet tail, rest = octet :: tail ∧ (octet = 0x2C ∨ octet = 0x5D ∨ octet = 0x7D)

namespace Delimited

theorem nil : Delimited [] :=
  .inl rfl

theorem comma (tail : Bytes) : Delimited (0x2C :: tail) :=
  .inr ⟨_, _, rfl, .inl rfl⟩

theorem bracket (tail : Bytes) : Delimited (0x5D :: tail) :=
  .inr ⟨_, _, rfl, .inr (.inl rfl)⟩

theorem brace (tail : Bytes) : Delimited (0x7D :: tail) :=
  .inr ⟨_, _, rfl, .inr (.inr rfl)⟩

variable {rest : Bytes}

/-- An octet that is no delimiter stands in front only if it stood there before. -/
theorem starts_of_append (delimited : Delimited rest) {octet : UInt8} {bytes tail : Bytes}
    (other : octet ≠ 0x2C ∧ octet ≠ 0x5D ∧ octet ≠ 0x7D) (starts : bytes ++ rest = octet :: tail) :
    ∃ front, bytes = octet :: front := by
  cases bytes with
  | cons first front => exact ⟨front, by rw [(List.cons.inj starts).1]⟩
  | nil =>
      rcases delimited with rfl | ⟨delimiter, later, rfl, isDelimiter⟩
      · cases starts
      · rcases (List.cons.inj starts).1 with rfl
        grind

/-- What cannot continue a numeral does not change which digits are read. -/
theorem readDigits_append (delimited : Delimited rest) (bytes : Bytes) :
    readDigits (bytes ++ rest) = ((readDigits bytes).1, (readDigits bytes).2 ++ rest) := by
  induction bytes with
  | nil =>
      rcases delimited with rfl | ⟨octet, tail, rfl, rfl | rfl | rfl⟩ <;> rfl
  | cons octet tail ih =>
      simp only [readDigits, Prod.mk.injEq] at ih ⊢
      by_cases digit : isDigit octet
      · simpa [digit] using ih
      · simp [digit]

theorem readFraction?_append (delimited : Delimited rest) (bytes : Bytes) :
    readFraction? (bytes ++ rest) =
      (readFraction? bytes).map fun (digits, tail) => (digits, tail ++ rest) := by
  by_cases point : ∃ tail, bytes = 0x2E :: tail
  · rcases point with ⟨tail, rfl⟩
    rw [List.cons_append, readFraction?.eq_1, readFraction?.eq_1, delimited.readDigits_append tail]
    by_cases empty : (readDigits tail).1.isEmpty <;> simp [empty]
  · rw [readFraction?.eq_2 _ fun tail starts =>
        point (delimited.starts_of_append (by decide) starts),
      readFraction?.eq_2 _ fun tail starts => point ⟨tail, starts⟩]
    rfl

theorem exponentDigits?_append (delimited : Delimited rest) (negative : Bool) (bytes : Bytes) :
    exponentDigits? negative (bytes ++ rest) =
      (exponentDigits? negative bytes).map fun (exponent, tail) => (exponent, tail ++ rest) := by
  rw [exponentDigits?, exponentDigits?, delimited.readDigits_append bytes]
  by_cases empty : (readDigits bytes).1.isEmpty <;> simp [empty]

theorem readExponent?_append (delimited : Delimited rest) (bytes : Bytes) :
    readExponent? (bytes ++ rest) =
      (readExponent? bytes).map fun (exponent, tail) => (exponent, tail ++ rest) := by
  match bytes with
  | [] => rcases delimited with rfl | ⟨octet, tail, rfl, rfl | rfl | rfl⟩ <;> rfl
  | mark :: tail =>
      by_cases marks : mark = 0x65 ∨ mark = 0x45
      · by_cases minus : ∃ digits, tail = 0x2D :: digits
        · rcases minus with ⟨digits, rfl⟩
          rw [List.cons_append, List.cons_append, readExponent?.eq_1, readExponent?.eq_1,
            if_pos marks, if_pos marks]
          exact delimited.exponentDigits?_append true digits
        by_cases plus : ∃ digits, tail = 0x2B :: digits
        · rcases plus with ⟨digits, rfl⟩
          rw [List.cons_append, List.cons_append, readExponent?.eq_2, readExponent?.eq_2,
            if_pos marks, if_pos marks]
          exact delimited.exponentDigits?_append false digits
        rw [List.cons_append, readExponent?.eq_3 mark tail
            (fun digits starts => minus ⟨digits, starts⟩)
            (fun digits starts => plus ⟨digits, starts⟩),
          readExponent?.eq_3 mark (tail ++ rest)
            (fun digits starts => minus (delimited.starts_of_append (by decide) starts))
            (fun digits starts => plus (delimited.starts_of_append (by decide) starts)),
          if_pos marks, if_pos marks]
        exact delimited.exponentDigits?_append false tail
      · have noMark (later : Bytes) :
            readExponent? (mark :: later) = some (none, mark :: later) := by
          unfold readExponent?
          simp only [if_neg marks]
        rw [List.cons_append, noMark, noMark]
        rfl

theorem unsignedNumeral?_append (delimited : Delimited rest) (negative : Bool) (bytes : Bytes) :
    unsignedNumeral? negative (bytes ++ rest) =
      (unsignedNumeral? negative bytes).map fun (numeral, tail) => (numeral, tail ++ rest) := by
  rw [unsignedNumeral?, unsignedNumeral?, delimited.readDigits_append bytes]
  dsimp only
  obtain _ | ⟨⟨⟩⟩ : Option Unit := guard (!(readDigits bytes).1.isEmpty &&
      ((readDigits bytes).1.head? != some 0 || (readDigits bytes).1.length == 1))
  · rfl
  rw [delimited.readFraction?_append]
  rcases readFraction? (readDigits bytes).2 with _ | ⟨fraction, afterFraction⟩
  · rfl
  simp only [Option.map_some, Option.bind_eq_bind, Option.bind_some]
  rw [delimited.readExponent?_append]
  rcases readExponent? afterFraction with _ | ⟨exponent, afterExponent⟩ <;> rfl

/-- A numeral is read alike whether the text ends behind it or is delimited there. -/
theorem readNumeral?_append (delimited : Delimited rest) (bytes : Bytes) :
    readNumeral? (bytes ++ rest) =
      (readNumeral? bytes).map fun (numeral, tail) => (numeral, tail ++ rest) := by
  by_cases minus : ∃ tail, bytes = 0x2D :: tail
  · rcases minus with ⟨tail, rfl⟩
    rw [List.cons_append, readNumeral?.eq_1, readNumeral?.eq_1]
    exact delimited.unsignedNumeral?_append true tail
  · rw [readNumeral?.eq_2 _ fun tail starts =>
        minus (delimited.starts_of_append (by decide) starts),
      readNumeral?.eq_2 _ fun tail starts => minus ⟨tail, starts⟩]
    exact delimited.unsignedNumeral?_append false bytes

end Delimited

/-- The octet can stand in front of a number. -/
def startsNumber (octet : UInt8) : Bool :=
  octet == 0x2D || isDigit octet

theorem readNumber?_starts {bytes : Bytes} {number : Number}
    (reads : readNumber? bytes = some number) :
    ∃ octet tail, bytes = octet :: tail ∧ startsNumber octet = true := by
  have noDigits {negative : Bool} {later : Bytes} (empty : (readDigits later).1 = []) :
      unsignedNumeral? negative later = none := by
    rcases isRead : readDigits later with ⟨digits, rest⟩
    rw [isRead] at empty
    cases empty
    rw [unsignedNumeral?, isRead]
    rfl
  cases bytes with
  | nil => cases reads
  | cons octet tail =>
      refine ⟨octet, tail, rfl, ?_⟩
      cases starts : startsNumber octet with
      | true => rfl
      | false =>
          simp only [startsNumber, Bool.or_eq_false_iff, beq_eq_false_iff_ne] at starts
          have unread : readNumeral? (octet :: tail) = none := by
            rw [readNumeral?.eq_2 _ fun rest minus => starts.1 (List.cons.inj minus).1]
            exact noDigits (by simp [readDigits, starts.2])
          simp [readNumber?, unread] at reads

/-- The digits that the written form of a natural number is read as. -/
def decimalDigits (number : Nat) : List Nat :=
  (Nat.toDigits 10 number).map fun digit => digit.toNat - 0x30

theorem readDigits_octets {digits : List Char} (areDigits : ∀ digit ∈ digits, digit.isDigit) :
    readDigits (octets digits) = (digits.map fun digit => digit.toNat - 0x30, []) := by
  induction digits with
  | nil => rfl
  | cons digit rest ih =>
      have range := Char.isDigit_iff_toNat.mp (areDigits digit List.mem_cons_self)
      change 0x30 ≤ digit.toNat ∧ digit.toNat ≤ 0x39 at range
      have code : (UInt8.ofNat digit.toNat).toNat = digit.toNat :=
        UInt8.toNat_ofNat_of_lt' (show digit.toNat < 0x100 by omega)
      have isDigit : isDigit (UInt8.ofNat digit.toNat) = true := by
        simp only [Json.isDigit, Bool.and_eq_true, decide_eq_true_eq, UInt8.le_iff_toNat_le, code]
        exact range
      have later := ih fun digit mem => areDigits digit (List.mem_cons_of_mem _ mem)
      simp only [readDigits, Prod.mk.injEq] at later
      rw [octets_cons, utf8EncodeChar_ascii (by omega)]
      simp [readDigits, isDigit, code, later]

theorem decimalDigits_eq (number : Nat) :
    decimalDigits number =
      if number < 10 then [number] else decimalDigits (number / 10) ++ [number % 10] := by
  have digit {value : Nat} (small : value < 10) : (Nat.digitChar value).toNat - 0x30 = value := by
    rw [Nat.toNat_digitChar_of_lt_ten small]
    omega
  simp only [decimalDigits]
  rw [Nat.toDigits_eq_if (by decide)]
  split
  next small => simp [digit small]
  next => simp [digit (Nat.mod_lt number (by decide))]

theorem absorb_append {significand value : Nat} {front : List Nat}
    (fits : Numeral.absorb significand front = (value, 0)) (back : List Nat) :
    Numeral.absorb significand (front ++ back) = Numeral.absorb value back := by
  induction front generalizing significand with
  | nil =>
      cases fits
      rfl
  | cons digit rest ih =>
      rw [Numeral.absorb] at fits
      rw [List.cons_append, Numeral.absorb]
      split at fits
      next small =>
          rw [if_pos small]
          exact ih fits
      next => cases fits

/-- The digits of a small number are absorbed without a rest, and give the number. -/
theorem absorb_decimalDigits {number : Nat} (small : number < Numeral.significandBound) :
    Numeral.absorb 0 (decimalDigits number) = (number, 0) := by
  induction number using Nat.strongRecOn with
  | ind number ih =>
      rw [decimalDigits_eq]
      split
      next digit => simp [Numeral.absorb, small]
      next large =>
          rw [absorb_append (ih (number / 10) (by omega) (by omega)), Numeral.absorb,
            show number / 10 * 10 + number % 10 = number by omega, if_pos small]
          rfl

theorem head?_decimalDigits {number : Nat} (positive : 0 < number) :
    ∃ digit, (decimalDigits number).head? = some digit ∧ digit ≠ 0 := by
  induction number using Nat.strongRecOn with
  | ind number ih =>
      rw [decimalDigits_eq]
      split
      next => exact ⟨number, rfl, by omega⟩
      next =>
          rcases ih (number / 10) (by omega) (by omega) with ⟨digit, isHead, notZero⟩
          exact ⟨digit, by rw [List.head?_append, isHead, Option.some_or], notZero⟩

theorem readDigits_natural (number : Nat) :
    readDigits (octets (Nat.toDigits 10 number)) = (decimalDigits number, []) :=
  readDigits_octets fun _ mem => Nat.isDigit_of_mem_toDigits (by decide) (by decide) mem

theorem unsignedNumeral?_natural (negative : Bool) (number : Nat) :
    unsignedNumeral? negative (octets (Nat.toDigits 10 number)) =
      some (⟨negative, decimalDigits number, [], none⟩, []) := by
  have wellFormed : (!(decimalDigits number).isEmpty &&
      ((decimalDigits number).head? != some 0 || (decimalDigits number).length == 1)) = true := by
    rcases Nat.eq_zero_or_pos number with rfl | positive
    · rfl
    · rcases head?_decimalDigits positive with ⟨digit, isHead, notZero⟩
      rcases List.head?_eq_some_iff.mp isHead with ⟨rest, isCons⟩
      simp [isCons, notZero]
  rw [unsignedNumeral?, readDigits_natural]
  dsimp only
  rw [guard, if_pos wellFormed]
  rfl

theorem readNumeral?_natural (number : Nat) :
    readNumeral? (octets (Nat.toDigits 10 number)) =
      some (⟨false, decimalDigits number, [], none⟩, []) := by
  have noMinus (rest : Bytes) (starts : octets (Nat.toDigits 10 number) = 0x2D :: rest) :
      False := by
    have digits := readDigits_natural number
    rw [starts] at digits
    have empty : decimalDigits number = [] := (congrArg Prod.fst digits).symm
    exact Nat.toDigits_ne_nil (List.map_eq_nil_iff.mp empty)
  rw [readNumeral?.eq_2 _ noMinus]
  exact unsignedNumeral?_natural false number

/-- A whole number of 64 bits, signed or not; any other number is a double. -/
def Number.Representable : Number → Prop
  | whole value => -(Nat.pow 2 63 : Nat) ≤ value ∧ value < (Nat.pow 2 64 : Nat)
  | real _ => True

/-- Whole numbers that can be represented are read back from their digits. -/
theorem Number.readsBack_whole {value : Int} (representable : (whole value).Representable) :
    (whole value).ReadsBack := by
  rcases representable with ⟨low, high⟩
  rw [ReadsBack, utf8_eq_octets, render]
  cases value with
  | ofNat number =>
      have bound : number < Numeral.significandBound := Int.ofNat_lt.mp high
      have written : (toString (Int.ofNat number)).toList = Nat.toDigits 10 number := by
        change (toString number).toList = _
        rw [Nat.toString_eq_ofList_toDigits, String.toList_ofList]
      rw [written, readNumber?, readNumeral?_natural]
      simp [Numeral.value?, absorb_decimalDigits bound]
  | negSucc number =>
      have bound : number + 1 ≤ Nat.pow 2 63 := by omega
      have fits : number + 1 < Numeral.significandBound :=
        Nat.lt_of_le_of_lt bound (by decide)
      have written : (toString (Int.negSucc number)).toList =
          '-' :: Nat.toDigits 10 (number + 1) := by
        change ("-" ++ toString (number + 1)).toList = _
        rw [Nat.toString_eq_ofList_toDigits]
        simp
      have read : readNumeral? (octets ('-' :: Nat.toDigits 10 (number + 1))) =
          some (⟨true, decimalDigits (number + 1), [], none⟩, []) :=
        unsignedNumeral?_natural true (number + 1)
      rw [written, readNumber?, read]
      have notBelow : ¬Nat.pow 2 63 < number + 1 := Nat.not_lt.mpr bound
      have value : Numeral.value? ⟨true, decimalDigits (number + 1), [], none⟩ =
          some (whole (-((number + 1 : Nat) : Int))) := by
        simp [Numeral.value?, absorb_decimalDigits fits, notBelow]
      exact value

end WorkflowGuard.Json
