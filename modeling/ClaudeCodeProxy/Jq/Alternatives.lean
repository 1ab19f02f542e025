import ClaudeCodeProxy.Bash.Arithmetic
import ClaudeCodeProxy.Python.Value
import Mathlib.Algebra.Group.Nat.Defs

-- What `jq -r '.first // .second // empty'` prints of the JSON documents that it reads, and
-- what the shell keeps of that.

namespace Jq

open Python (Value)

-- How jq writes a value that is not a string. Integers are exact as far as doubles are, and no
-- JSON text but a string's begins with a letter other than those of its three names.
structure Printer where
  write : Value → String
  write_integer : ∀ n : Nat, n < 2 ^ 53 → write (.Integer n) = n.repr
  write_head : ∀ value, (∀ s, value ≠ .Str s) → (write value).toList.head? ≠ some 'v'

-- A printer that leaves out what containers hold.
def outline : Value → String
  | .None => "null"
  | .Boolean b => if b then "true" else "false"
  | .Integer (.ofNat n) => n.repr
  | .Integer (.negSucc n) => "-" ++ (n + 1).repr
  | .Float _ => "0.5"
  | .Str _ => ""
  | .Sequence _ => "[]"
  | .Mapping _ | .Dictionary _ => "\x7b\x7d"

theorem head?_repr_ne (n : Nat) : n.repr.toList.head? ≠ some 'v' := by
  intro h
  have hdigit := Bash.Numeral.isDigit (.ofNat n) 'v' (List.mem_of_mem_head? h)
  cases hdigit

def outlinePrinter : Printer where
  write := outline
  write_integer _ _ := rfl
  write_head value hvalue := by
    cases value with
    | None => decide
    | Boolean b => cases b <;> decide
    | Integer n =>
        cases n with
        | ofNat n => exact head?_repr_ne n
        | negSucc n =>
            rw [outline, String.toList_append]
            exact fun h => absurd (Option.some.inj h) (by decide)
    | Float x => exact (by decide : "0.5".toList.head? ≠ some 'v')
    | Str s => exact absurd rfl (hvalue s)
    | Sequence items => exact (by decide : "[]".toList.head? ≠ some 'v')
    | Mapping entries | Dictionary entries => exact (by decide : "\x7b\x7d".toList.head? ≠ some 'v')

-- `.name`. What has no fields gives null or an error, and `//` passes over both.
def field (name : String) : Value → Value
  | .Mapping entries => (Value.lookup entries name).getD .None
  | _ => .None

def nullOrFalse : Value → Bool
  | .None | .Boolean false => true
  | _ => false

-- `.first // .second // … // empty`
def alternatives (names : List String) (document : Value) : Option Value :=
  names.findSome? fun name =>
    if nullOrFalse (field name document) then none else some (field name document)

variable (printer : Printer)

def raw : Value → String
  | .Str s => s
  | value => printer.write value

def output (names : List String) (documents : List Value) : String :=
  String.join ((documents.filterMap (alternatives names)).map fun value =>
    raw printer value ++ "\n")

@[simp] theorem raw_str (s : String) : raw printer (.Str s) = s := rfl

@[simp] theorem raw_integer (n : Int) : raw printer (.Integer n) = printer.write (.Integer n) := rfl

@[simp] theorem output_nil (names : List String) : output printer names [] = "" := rfl

theorem output_of_alternatives {names : List String} {document v : Value}
    (h : alternatives names document = some v) :
    output printer names [document] = raw printer v ++ "\n" := by
  simp [output, h, String.join]

end Jq
