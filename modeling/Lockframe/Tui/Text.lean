import Mathlib.Data.List.DropRight
import Mathlib.Data.Nat.Digits

/-! # The standard library's text primitives

What `lockframe_tui::commands::parse` calls on its input, with the semantics of
the Rust standard library: `char::is_whitespace` is the Unicode `White_Space`
property, `str::trim` drops it at both ends, `str::split_whitespace` keeps the
non-empty runs between it, and `from_str` of an unsigned integer takes an
optional `+` and decimal digits with overflow checks. The decimal text that
`Display` prints for an integer is read back by `from_str`. -/

namespace Lockframe

namespace Commands

/-- `char::is_whitespace`: the characters with the Unicode `White_Space` property. -/
def isWhitespace (c : Char) : Bool :=
  let code := c.toNat
  (9 ≤ code && code ≤ 13) || code = 32 || code = 0x85 || code = 0xA0 || code = 0x1680 ||
    (0x2000 ≤ code && code ≤ 0x200A) || code = 0x2028 || code = 0x2029 || code = 0x202F ||
    code = 0x205F || code = 0x3000

theorem isDigit_iff {c : Char} : c.isDigit = true ↔ 48 ≤ c.toNat ∧ c.toNat ≤ 57 := by
  simp only [Char.isDigit, Bool.and_eq_true, decide_eq_true_eq, UInt32.le_def, BitVec.le_def]
  exact Iff.rfl

theorem isWhitespace_of_isDigit {c : Char} (digit : c.isDigit = true) :
    isWhitespace c = false := by
  rw [isDigit_iff] at digit
  simp [isWhitespace]
  omega

/-- `str::trim`. -/
def trim (chars : List Char) : List Char :=
  (chars.dropWhile isWhitespace).rdropWhile isWhitespace

/-- Text with no whitespace at either end. -/
def Trimmed (chars : List Char) : Prop :=
  (∀ c ∈ chars.head?, isWhitespace c = false) ∧
    ∀ c ∈ chars.getLast?, isWhitespace c = false

instance : DecidablePred Trimmed := fun _ => inferInstanceAs (Decidable (_ ∧ _))

theorem trim_eq_self {chars : List Char} (trimmed : Trimmed chars) : trim chars = chars := by
  have leading : chars.dropWhile isWhitespace = chars := by
    cases chars with
    | nil => rfl
    | cons c rest => exact List.dropWhile_cons_of_neg (by simp [trimmed.1 c rfl])
  rw [trim, leading, List.rdropWhile_eq_self_iff]
  intro nonempty
  simp [trimmed.2 _ (List.getLast?_eq_getLast _ nonempty)]

theorem rdropWhile_append_of_all {p : α → Bool} (chars pad : List α) (all : ∀ c ∈ pad, p c) :
    (chars ++ pad).rdropWhile p = chars.rdropWhile p := by
  have reversed : ∀ c ∈ pad.reverse, p c := by simpa using all
  simp [List.rdropWhile, List.reverse_append, List.dropWhile_append_of_pos reversed]

/-- `trim` removes whitespace added at either end. -/
theorem trim_pad (pad chars pad' : List Char) (blank : ∀ c ∈ pad, isWhitespace c = true)
    (blank' : ∀ c ∈ pad', isWhitespace c = true) :
    trim (pad ++ chars ++ pad') = trim chars := by
  rw [trim, List.append_assoc, List.dropWhile_append_of_pos blank, List.dropWhile_append]
  split
  · next empty =>
    rw [List.dropWhile_eq_nil_iff.mpr blank', trim, List.isEmpty_iff.mp empty]
  · rw [rdropWhile_append_of_all _ _ blank', trim]

/-- `str::split_whitespace`. -/
def splitWhitespace (chars : List Char) : List (List Char) :=
  (chars.splitOnP isWhitespace).filter fun word => !word.isEmpty

/-- A word: non-empty text without whitespace. -/
def Word (chars : List Char) : Prop :=
  chars ≠ [] ∧ ∀ c ∈ chars, isWhitespace c = false

theorem splitWhitespace_two_words {first second : List Char} (firstWord : Word first)
    (secondWord : Word second) :
    splitWhitespace (first ++ ' ' :: second) = [first, second] := by
  rw [splitWhitespace, List.splitOnP_first _ _ (by simpa using firstWord.2) ' ' rfl,
    List.splitOnP_eq_single _ _ (by simpa using secondWord.2)]
  simp [firstWord.1, secondWord.1]

/-! ## Unsigned integers -/

/-- `char::to_digit(10)` of a decimal digit. -/
def digitValue (c : Char) : Nat := c.toNat - 48

/-- One step of reading decimal digits from the left. -/
def decimalStep (value : Nat) (c : Char) : Nat := value * 10 + digitValue c

/-- The digit loop of `from_str_radix` in base ten, with the overflow checks of
`checked_mul` and `checked_add` in a `bits`-bit integer. -/
def accumulate (bits : Nat) : List Char → Fin (2 ^ bits) → Option (Fin (2 ^ bits))
  | [], value => some value
  | c :: rest, value =>
      if c.isDigit then
        if value.val * 10 < 2 ^ bits then
          if next : value.val * 10 + digitValue c < 2 ^ bits then
            accumulate bits rest ⟨value.val * 10 + digitValue c, next⟩
          else none
        else none
      else none

/-- `from_str` of an unsigned `bits`-bit integer: an optional leading `+`, then
decimal digits. A sign alone, an empty string, any other character and an
overflow are errors. -/
def fromStr (bits : Nat) (chars : List Char) : Option (Fin (2 ^ bits)) :=
  match chars with
  | [] => none
  | ['+'] | ['-'] => none
  | '+' :: digits => accumulate bits digits ⟨0, Nat.two_pow_pos bits⟩
  | digits => accumulate bits digits ⟨0, Nat.two_pow_pos bits⟩

theorem le_foldl_decimalStep (value : Nat) (digits : List Char) :
    value ≤ digits.foldl decimalStep value := by
  induction digits generalizing value with
  | nil => exact le_rfl
  | cons c rest induction =>
    exact (Nat.le_mul_of_pos_right value (by omega)).trans
      ((Nat.le_add_right _ _).trans (induction _))

/-- The digit loop accepts exactly the all-digit texts whose value fits. -/
theorem accumulate_eq_some_iff {bits : Nat} (digits : List Char) (value result : Fin (2 ^ bits)) :
    accumulate bits digits value = some result ↔
      (∀ c ∈ digits, c.isDigit = true) ∧ digits.foldl decimalStep value.val = result.val := by
  induction digits generalizing value with
  | nil => simp [accumulate, Fin.ext_iff]
  | cons c rest induction =>
    have bound := le_foldl_decimalStep (value.val * 10 + digitValue c) rest
    have fits := result.isLt
    by_cases digit : c.isDigit = true
    · simp only [accumulate, digit, if_true, List.mem_cons, forall_eq_or_imp, true_and,
        List.foldl_cons, decimalStep]
      split_ifs with timesTen next
      · exact induction _
      all_goals simp only [false_iff, not_and]; omega
    · simp [accumulate, digit]

/-- `from_str` accepts exactly an optional `+` followed by one or more decimal
digits whose value fits in `bits` bits. -/
theorem fromStr_eq_some_iff {bits : Nat} (chars : List Char) (result : Fin (2 ^ bits)) :
    fromStr bits chars = some result ↔
      ∃ digits, (chars = digits ∨ chars = '+' :: digits) ∧ digits ≠ [] ∧
        (∀ c ∈ digits, c.isDigit = true) ∧ digits.foldl decimalStep 0 = result.val := by
  have plus : '+'.isDigit = false := by decide
  unfold fromStr
  split
  · simp
  · simp [@eq_comm _ ['+'], plus]
  · simp [@eq_comm _ ['-'], show '-'.isDigit = false by decide]
  · next _ digits signOnly =>
    rw [accumulate_eq_some_iff]
    constructor
    · rintro ⟨allDigits, value⟩
      exact ⟨digits, .inr rfl, signOnly, allDigits, value⟩
    · rintro ⟨digits', equal | equal, -, allDigits, value⟩
      · simp [← equal, plus] at allDigits
      · cases equal
        exact ⟨allDigits, value⟩
  · next _ notEmpty _ _ notSigned =>
    rw [accumulate_eq_some_iff]
    constructor
    · rintro ⟨allDigits, value⟩
      exact ⟨chars, .inl rfl, notEmpty, allDigits, value⟩
    · rintro ⟨digits, rfl | rfl, -, allDigits, value⟩
      · exact ⟨allDigits, value⟩
      · exact (notSigned _ rfl).elim

/-- A text `from_str` reads as `n`: an optional `+`, then one or more decimal
digits of value `n`. -/
def DecimalText (chars : List Char) (n : Nat) : Prop :=
  ∃ digits, (chars = digits ∨ chars = '+' :: digits) ∧ digits ≠ [] ∧
    (∀ c ∈ digits, c.isDigit = true) ∧ digits.foldl decimalStep 0 = n

theorem fromStr_eq_none_iff {bits : Nat} (chars : List Char) :
    fromStr bits chars = none ↔ ∀ n < 2 ^ bits, ¬DecimalText chars n := by
  rw [Option.eq_none_iff_forall_not_mem]
  exact ⟨fun rejected n fits decimal =>
      rejected ⟨n, fits⟩ ((fromStr_eq_some_iff chars ⟨n, fits⟩).mpr decimal),
    fun undecimal result accepted =>
      undecimal result.val result.isLt ((fromStr_eq_some_iff chars result).mp accepted)⟩

/-- The decimal digits `Nat.repr` prints, which is what `Display` prints for
Rust's unsigned integers. -/
theorem digitChar_spec {d : Nat} (small : d < 10) :
    (Nat.digitChar d).isDigit = true ∧ digitValue (Nat.digitChar d) = d := by
  have everyDigit : ∀ d < 10,
      (Nat.digitChar d).isDigit = true ∧ digitValue (Nat.digitChar d) = d := by
    decide
  exact everyDigit d small

theorem toDigitsCore_spec (fuel n : Nat) (ds : List Char) (enough : n < fuel) :
    ∃ digits, Nat.toDigitsCore 10 fuel n ds = digits ++ ds ∧ digits ≠ [] ∧
      (∀ c ∈ digits, c.isDigit = true) ∧ digits.foldl decimalStep 0 = n := by
  induction fuel generalizing n ds with
  | zero => omega
  | succ fuel induction =>
    have last := digitChar_spec (Nat.mod_lt n (by omega : 10 > 0))
    simp only [Nat.toDigitsCore]
    split
    · next small =>
      refine ⟨[Nat.digitChar (n % 10)], rfl, by simp, by simpa using last.1, ?_⟩
      simp only [List.foldl, decimalStep, last.2]
      omega
    · next large =>
      obtain ⟨digits, printed, nonempty, allDigits, value⟩ :=
        induction (n / 10) (Nat.digitChar (n % 10) :: ds) (by omega)
      refine ⟨digits ++ [Nat.digitChar (n % 10)], by simpa using printed, by simp, ?_, ?_⟩
      · simpa [or_imp, forall_and] using ⟨allDigits, last.1⟩
      · simp only [List.foldl_append, List.foldl, value, decimalStep, last.2]
        omega

theorem fromStr_toDigits {bits n : Nat} (fits : n < 2 ^ bits) :
    fromStr bits (Nat.toDigits 10 n) = some ⟨n, fits⟩ := by
  obtain ⟨digits, printed, nonempty, allDigits, value⟩ :=
    toDigitsCore_spec (n + 1) n [] (by omega)
  rw [List.append_nil] at printed
  exact (fromStr_eq_some_iff _ _).mpr ⟨digits, .inl printed, nonempty, allDigits, value⟩

theorem toDigits_word (n : Nat) : Word (Nat.toDigits 10 n) := by
  obtain ⟨digits, printed, nonempty, allDigits, -⟩ := toDigitsCore_spec (n + 1) n [] (by omega)
  rw [List.append_nil] at printed
  rw [Nat.toDigits, printed]
  exact ⟨nonempty, fun c member => isWhitespace_of_isDigit (allDigits c member)⟩

end Commands

end Lockframe
