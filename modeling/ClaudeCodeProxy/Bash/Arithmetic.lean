import Mathlib.Data.List.DropRight
import Mathlib.Data.Nat.Basic

-- Bash's 64-bit arithmetic on shell variables that hold a string of digits, and what a
-- command leaves to the shell that called it.

namespace Bash

-- A word that `^[0-9]+$` matches.
structure Numeral where
  text : String
  nonempty : text ≠ ""
  isDigit : ∀ c ∈ text.toList, c.isDigit = true
deriving DecidableEq

namespace Numeral

-- `[[ "$word" =~ ^[0-9]+$ ]]`.
def ofString? (word : String) : Option Numeral :=
  if h : word ≠ "" ∧ word.toList.all Char.isDigit = true then
    some ⟨word, h.1, List.all_eq_true.mp h.2⟩
  else none

theorem text_injective {first second : Numeral} (h : first.text = second.text) :
    first = second := by
  cases first
  cases second
  cases h
  rfl

theorem ofString?_text (word : Numeral) : ofString? word.text = some word := by
  rw [ofString?, dif_pos ⟨word.nonempty, List.all_eq_true.mpr word.isDigit⟩]

theorem ofString?_eq_some {word : String} {numeral : Numeral}
    (h : ofString? word = some numeral) : numeral.text = word := by
  unfold ofString? at h
  split at h
  · cases h
    rfl
  · cases h

-- The decimal that a program prints.
def ofNat (n : Nat) : Numeral where
  text := n.repr
  nonempty := Nat.repr_ne_empty
  isDigit c hc := by
    rw [Nat.toList_repr] at hc
    exact Nat.isDigit_of_mem_toDigits (by omega) (by omega) hc

end Numeral

inductive ArithmeticError where
  | valueTooGreatForBase
deriving DecidableEq, Repr

def digitValue (c : Char) : Nat := c.toNat - '0'.toNat

-- The digits in order, every step in 64 bits and without a check for overflow.
def readDigits (base : Nat) : List Char → BitVec 64 → Except ArithmeticError (BitVec 64)
  | [], value => .ok value
  | c :: rest, value =>
      if base ≤ digitValue c then .error .valueTooGreatForBase
      else readDigits base rest (value * BitVec.ofNat 64 base + BitVec.ofNat 64 (digitValue c))

-- A constant that begins with 0 is read in base 8.
def constant (word : Numeral) : Except ArithmeticError (BitVec 64) :=
  match word.text.toList with
  | '0' :: rest => readDigits 8 rest 0
  | digits => readDigits 10 digits 0

-- `left < right`, `left > right`, `left <= right` and `left + right` on two variables.
def less (left right : Numeral) : Except ArithmeticError Bool := do
  let l ← constant left
  let r ← constant right
  return l.slt r

def greater (left right : Numeral) : Except ArithmeticError Bool := do
  let l ← constant left
  let r ← constant right
  return r.slt l

def lessOrEqual (left right : Numeral) : Except ArithmeticError Bool := do
  let l ← constant left
  let r ← constant right
  return l.sle r

def sum (left right : Numeral) : Except ArithmeticError (BitVec 64) := do
  let l ← constant left
  let r ← constant right
  return l + r

-- `if (( … ))`: an error has been printed and the command has failed like a false one.
def holds : Except ArithmeticError Bool → Bool
  | .ok value => value
  | .error _ => false

-- `${name:-word}`: a name that is unset, or set to nothing, gives the word.
def valueOr (name : Option String) (word : String) : String :=
  match name with
  | none | some "" => word
  | some value => value

-- The exit status of a command and what it printed.
structure Output where
  status : Nat
  stdout : String
deriving DecidableEq, Repr

-- `printf '%s\n' "$word"`.
def printLine (word : String) : Output := ⟨0, word ++ "\n"⟩

-- `"$(command)"` takes the newlines off the end.
def Output.substituted (output : Output) : String :=
  String.ofList (output.stdout.toList.rdropWhile (· = '\n'))

theorem substituted_printLine (word : Numeral) : (printLine word.text).substituted = word.text := by
  have hlast : word.text.toList.rdropWhile (· = '\n') = word.text.toList := by
    rw [List.rdropWhile_eq_self_iff]
    intro hne hnewline
    have hdigit := word.isDigit _ (List.getLast_mem hne)
    rw [of_decide_eq_true hnewline] at hdigit
    cases hdigit
  simp only [Output.substituted, printLine, String.toList_append]
  rw [show ("\n" : String).toList = ['\n'] from rfl, List.rdropWhile_concat_pos _ _ _ (by simp),
    hlast, String.ofList_toList]

-- What a variable gets of a command's output, in which there may also be zero bytes.
def captured (stdout : String) : String :=
  String.ofList ((stdout.toList.filter (· ≠ '\x00')).rdropWhile (· = '\n'))

theorem captured_captured (stdout : String) :
    captured (captured stdout ++ "\n") = captured stdout := by
  have hnul : ∀ c ∈ (captured stdout).toList, c ≠ '\x00' := by
    intro c hc
    rw [captured, String.toList_ofList] at hc
    exact of_decide_eq_true (List.mem_filter.mp ((List.rdropWhile_prefix _ _).subset hc)).2
  have hfilter : (captured stdout ++ "\n").toList.filter (· ≠ '\x00') =
      (captured stdout).toList ++ ['\n'] := by
    rw [String.toList_append, List.filter_append,
      List.filter_eq_self.mpr fun c hc => decide_eq_true (hnul c hc)]
    rfl
  rw [captured, hfilter, List.rdropWhile_concat_pos _ _ _ (by simp), captured,
    String.toList_ofList, List.rdropWhile_idempotent]

theorem captured_printLine (word : Numeral) : captured (word.text ++ "\n") = word.text := by
  have hfilter : (word.text ++ "\n").toList.filter (· ≠ '\x00') = (word.text ++ "\n").toList := by
    rw [List.filter_eq_self]
    intro c hc
    rw [String.toList_append, List.mem_append] at hc
    rcases hc with hc | hc
    · have hdigit := word.isDigit c hc
      rw [decide_eq_true_eq]
      rintro rfl
      cases hdigit
    · cases List.mem_singleton.mp hc
      rfl
  rw [captured, hfilter]
  exact substituted_printLine word

section Constants

-- The value is that of the digits, whatever their number, less a multiple of 2^64.
theorem readDigits_ofNat (base : Nat) (digits : List Char) (n : Nat)
    (h : ∀ c ∈ digits, digitValue c < base) :
    readDigits base digits (BitVec.ofNat 64 n) =
      .ok (BitVec.ofNat 64 (Nat.ofDigitChars base digits n)) := by
  induction digits generalizing n with
  | nil => simp [readDigits]
  | cons c rest ih =>
      have hc : ¬base ≤ digitValue c := Nat.not_le.mpr (h c (by simp))
      have hstep : BitVec.ofNat 64 n * BitVec.ofNat 64 base + BitVec.ofNat 64 (digitValue c) =
          BitVec.ofNat 64 (base * n + digitValue c) := by
        rw [← BitVec.ofNat_mul, ← BitVec.ofNat_add, Nat.mul_comm]
      rw [readDigits, if_neg hc, hstep, ih _ fun d hd => h d (by simp [hd]),
        Nat.ofDigitChars_cons]
      rfl

theorem readDigits_error {base : Nat} {digits : List Char} (value : BitVec 64)
    (h : ∃ c ∈ digits, base ≤ digitValue c) :
    readDigits base digits value = .error .valueTooGreatForBase := by
  induction digits generalizing value with
  | nil =>
      obtain ⟨c, hc, -⟩ := h
      cases hc
  | cons c rest ih =>
      rw [readDigits]
      split
      · rfl
      · next hsmall =>
          obtain ⟨d, hd, hlarge⟩ := h
          cases hd with
          | head => exact absurd hlarge hsmall
          | tail _ hd => exact ih _ ⟨d, hd, hlarge⟩

theorem digitValue_lt_ten {c : Char} (h : c.isDigit = true) : digitValue c < 10 := by
  simp only [Char.isDigit, Bool.and_eq_true, decide_eq_true_eq] at h
  have hle : c.toNat ≤ 57 := h.2
  rw [digitValue, show '0'.toNat = 48 from rfl]
  omega

-- A digit string that begins with 0, so that it is octal, and has a digit no octal one has.
def MalformedOctal (word : String) : Prop :=
  word.toList.head? = some '0' ∧ (∀ c ∈ word.toList, c.isDigit = true) ∧
    ∃ c ∈ word.toList, 8 ≤ digitValue c

instance (word : String) : Decidable (MalformedOctal word) :=
  decidable_of_iff (word.toList.head? = some '0' ∧ word.toList.all Char.isDigit = true ∧
    word.toList.any (fun c => decide (8 ≤ digitValue c)) = true) (by
      rw [MalformedOctal, List.all_eq_true, List.any_eq_true]
      simp only [decide_eq_true_eq])

theorem constant_error {word : Numeral} (h : MalformedOctal word.text) :
    constant word = .error .valueTooGreatForBase := by
  obtain ⟨hhead, -, c, hc, hlarge⟩ := h
  rw [constant]
  split
  · next rest hrest =>
      rw [hrest] at hc
      cases hc with
      | head => cases hlarge
      | tail _ hc => exact readDigits_error 0 ⟨c, hc, hlarge⟩
  · next hnozero =>
      cases hlist : word.text.toList with
      | nil =>
          rw [hlist] at hhead
          cases hhead
      | cons first rest =>
          rw [hlist, List.head?_cons, Option.some.injEq] at hhead
          exact absurd (hhead ▸ hlist) (hnozero rest)

theorem constant_ok {word : Numeral} (h : ¬MalformedOctal word.text) :
    ∃ value, constant word = .ok value := by
  rw [constant]
  split
  · next rest hrest =>
      refine ⟨_, readDigits_ofNat 8 rest 0 fun c hc => ?_⟩
      by_contra hlarge
      refine h ⟨by rw [hrest]; rfl, word.isDigit, c, by rw [hrest]; exact .tail _ hc, ?_⟩
      omega
  · exact ⟨_, readDigits_ofNat 10 _ 0 fun c hc => digitValue_lt_ten (word.isDigit c hc)⟩

theorem head?_toDigits {n : Nat} (h : 0 < n) : (Nat.toDigits 10 n).head? ≠ some '0' := by
  induction n using Nat.strong_induction_on with
  | _ n ih =>
      by_cases hsmall : n < 10
      · rw [Nat.toDigits_of_lt_base hsmall]
        intro hzero
        have hchar : n.digitChar = '0' := Option.some.inj hzero
        have hvalue := Nat.toNat_digitChar_sub_48_of_lt_ten hsmall
        rw [hchar] at hvalue
        exact absurd hvalue (by rw [show '0'.toNat - 48 = 0 from rfl]; omega)
      · rw [Nat.toDigits_of_base_le (by omega) (by omega),
          List.head?_append_of_ne_nil _ Nat.toDigits_ne_nil]
        exact ih (n / 10) (by omega) (by omega)

-- What a program prints has no leading zero and is read back as the number.
theorem constant_ofNat (n : Nat) : constant (.ofNat n) = .ok (BitVec.ofNat 64 n) := by
  rw [constant, Numeral.ofNat]
  simp only [Nat.toList_repr]
  split
  · next rest hrest =>
      have hzero : n = 0 := by
        by_contra hne
        exact head?_toDigits (Nat.pos_of_ne_zero hne) (by rw [hrest]; rfl)
      subst hzero
      cases hrest
      rfl
  · rw [show (0 : BitVec 64) = BitVec.ofNat 64 0 from rfl, readDigits_ofNat 10 _ 0 fun c hc =>
        digitValue_lt_ten (Nat.isDigit_of_mem_toDigits (by omega) (by omega) hc),
      Nat.ofDigitChars_ten_toDigits]

end Constants

end Bash
