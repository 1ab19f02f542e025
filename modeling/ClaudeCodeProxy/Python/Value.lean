import Mathlib.Data.List.Forall2
import Mathlib.Data.List.Infix
import Mathlib.Data.Rat.Defs

-- The values a Python program reads from JSON, and the operations on them with the
-- exceptions they raise.

namespace Python

inductive FloatValue
  | Finite (value : Rat)
  | Infinity
  | NegativeInfinity
  | NaN
  deriving DecidableEq

-- What may be a key of a dictionary.
inductive Key
  | None
  | Boolean (b : Bool)
  | Integer (n : Int)
  | Float (x : FloatValue)
  | Str (s : String)
  deriving DecidableEq

-- The keys of an object are strings; the first entry of a key is the one that counts. A
-- dictionary with other keys is in no JSON: it is made of pairs, to be sent on, and no operation
-- that reads a value meets it.
inductive Value
  | None
  | Boolean (b : Bool)
  | Integer (n : Int)
  | Float (x : FloatValue)
  | Str (s : String)
  | Sequence (items : List Value)
  | Mapping (entries : List (String × Value))
  | Dictionary (entries : List (Key × Value))

-- The exceptions of the operations below, by the names of their classes.
inductive Exception
  | AssertionError
  | AttributeError
  | KeyError
  | OverflowError
  | TypeError
  | ValueError
  deriving DecidableEq

def Exception.name : Exception → String
  | .AssertionError => "AssertionError"
  | .AttributeError => "AttributeError"
  | .KeyError => "KeyError"
  | .OverflowError => "OverflowError"
  | .TypeError => "TypeError"
  | .ValueError => "ValueError"

theorem bind_eq_ok {result : Except ε α} {rest : α → Except ε β} {value : β} :
    (result >>= rest) = .ok value ↔ ∃ a, result = .ok a ∧ rest a = .ok value := by
  cases result <;> simp [bind, Except.bind]

theorem ok_bind (value : α) (rest : α → Except ε β) : (.ok value >>= rest) = rest value := rfl

theorem map_eq_ok {result : Except ε α} {f : α → β} {value : β} :
    (f <$> result) = .ok value ↔ ∃ a, result = .ok a ∧ f a = value := by
  cases result <;> simp [Functor.map, Except.map]

@[simp] theorem pure_eq_ok {first second : α} :
    (pure first : Except ε α) = .ok second ↔ first = second := by
  simp [pure, Except.pure]

@[simp] theorem throw_eq_ok {error : ε} {value : α} :
    (throw error : Except ε α) = .ok value ↔ False := by
  simp [throw, throwThe, MonadExceptOf.throw]

theorem mapM_eq_ok {f : α → Except ε β} {values : List α} {results : List β} :
    values.mapM f = .ok results ↔
      List.Forall₂ (fun value result => f value = .ok result) values results := by
  induction values generalizing results with
  | nil =>
      rw [List.mapM_nil, pure_eq_ok, List.forall₂_nil_left_iff]
      exact eq_comm
  | cons value values ih =>
      rw [List.mapM_cons, bind_eq_ok, List.forall₂_cons_left_iff]
      constructor
      · rintro ⟨result, hresult, h⟩
        obtain ⟨rest, hrest, hcons⟩ := bind_eq_ok.mp h
        exact ⟨result, rest, hresult, ih.mp hrest, (pure_eq_ok.mp hcons).symm⟩
      · rintro ⟨result, rest, hresult, hrest, rfl⟩
        exact ⟨result, hresult, bind_eq_ok.mpr ⟨rest, ih.mpr hrest, rfl⟩⟩

theorem mapM_ok_of_forall {f : α → Except ε β} {values : List α}
    (h : ∀ value ∈ values, ∃ result, f value = .ok result) :
    ∃ results, values.mapM f = .ok results := by
  induction values with
  | nil => exact ⟨[], rfl⟩
  | cons value values ih =>
      obtain ⟨result, hresult⟩ := h value (.head _)
      obtain ⟨results, hresults⟩ := ih fun other hm => h other (.tail _ hm)
      exact ⟨result :: results, by rw [List.mapM_cons, hresult, hresults]; rfl⟩

theorem mem_of_mapM_ok {f : α → Except ε β} {values : List α} {results : List β}
    (h : values.mapM f = .ok results) (result : β) :
    result ∈ results ↔ ∃ value ∈ values, f value = .ok result := by
  rw [mapM_eq_ok] at h
  induction h with
  | nil => simp
  | cons hhead _ ih =>
      rw [List.mem_cons, ih, List.exists_mem_cons_iff, hhead, Except.ok.injEq, eq_comm]

theorem filterAuxM_of_ok {f : α → Except ε Bool} {p : α → Bool} {values : List α}
    (h : ∀ value ∈ values, f value = .ok (p value)) (kept : List α) :
    values.filterAuxM f kept = .ok ((values.filter p).reverse ++ kept) := by
  induction values generalizing kept with
  | nil => rfl
  | cons value values ih =>
      rw [List.filterAuxM, h value (.head _), ok_bind, ih fun other hm => h other (.tail _ hm)]
      cases hp : p value <;> simp [hp]

theorem filterM_of_ok {f : α → Except ε Bool} {p : α → Bool} {values : List α}
    (h : ∀ value ∈ values, f value = .ok (p value)) :
    values.filterM f = .ok (values.filter p) := by
  rw [List.filterM, filterAuxM_of_ok h, ok_bind]
  simp [pure, Except.pure]

theorem filterAuxM_of_error {f : α → Except ε Bool} {error : ε} {values : List α}
    (h : ∀ value ∈ values, f value = .ok false ∨ f value = .error error)
    (hm : ∃ value ∈ values, f value = .error error) (kept : List α) :
    values.filterAuxM f kept = .error error := by
  induction values generalizing kept with
  | nil =>
      obtain ⟨value, hvalue, -⟩ := hm
      cases hvalue
  | cons value values ih =>
      rw [List.filterAuxM]
      rcases h value (.head _) with hfalse | herror
      · rw [hfalse, ok_bind]
        apply ih fun other hother => h other (.tail _ hother)
        obtain ⟨other, hother, hraises⟩ := hm
        rcases List.mem_cons.mp hother with rfl | hother
        · rw [hfalse] at hraises
          cases hraises
        · exact ⟨other, hother, hraises⟩
      · rw [herror]
        rfl

theorem filterM_of_error {f : α → Except ε Bool} {error : ε} {values : List α}
    (h : ∀ value ∈ values, f value = .ok false ∨ f value = .error error)
    (hm : ∃ value ∈ values, f value = .error error) : values.filterM f = .error error := by
  rw [List.filterM, filterAuxM_of_error h hm]
  rfl

def Key.ofValue? : Value → Option Key
  | .None => some .None
  | .Boolean b => some (.Boolean b)
  | .Integer n => some (.Integer n)
  | .Float x => some (.Float x)
  | .Str s => some (.Str s)
  | _ => none

def Key.text? : Key → Option String
  | .Str s => some s
  | _ => none

def Key.number? : Key → Option Rat
  | .Boolean b => some (if b then 1 else 0)
  | .Integer n => some n
  | .Float (.Finite value) => some value
  | _ => none

-- A dictionary has one entry for `1`, `1.0` and `True`.
def Key.same (key other : Key) : Bool :=
  decide (key = other) || (key.number?.isSome && decide (key.number? = other.number?))

def Key.jsonCompliant : Key → Bool
  | .Float (.Finite _) => true
  | .Float _ => false
  | _ => true

-- What of the language is not spelled out here: the text `str` gives to a value that
-- is not a string, and the number `int` reads in a text.
structure Interpreter where
  repr : Value → String
  readInt : String → Option Int

namespace Value

mutual

def beq : Value → Value → Bool
  | None, None => true
  | Boolean a, Boolean b => a == b
  | Integer m, Integer n => m == n
  | Float x, Float y => decide (x = y)
  | Str s, Str t => s == t
  | Sequence items, Sequence others => beqItems items others
  | Mapping entries, Mapping others => beqEntries entries others
  | Dictionary entries, Dictionary others => beqKeyed entries others
  | _, _ => false
termination_by structural value => value

def beqItems : List Value → List Value → Bool
  | [], [] => true
  | item :: items, other :: others => item.beq other && beqItems items others
  | _, _ => false
termination_by structural value => value

def beqEntries : List (String × Value) → List (String × Value) → Bool
  | [], [] => true
  | (key, value) :: entries, (key', value') :: others =>
      key == key' && value.beq value' && beqEntries entries others
  | _, _ => false
termination_by structural value => value

def beqKeyed : List (Key × Value) → List (Key × Value) → Bool
  | [], [] => true
  | (key, value) :: entries, (key', value') :: others =>
      decide (key = key') && value.beq value' && beqKeyed entries others
  | _, _ => false
termination_by structural value => value

end

mutual

theorem beq_iff : ∀ value other : Value, value.beq other = true ↔ value = other
  | None, other => by cases other <;> simp [beq]
  | Boolean b, other => by cases other <;> simp [beq]
  | Integer n, other => by cases other <;> simp [beq]
  | Float x, other => by cases other <;> simp [beq]
  | Str s, other => by cases other <;> simp [beq]
  | Sequence items, other => by
      cases other with
      | Sequence others => simp [beq, beqItems_iff items others]
      | _ => simp [beq]
  | Mapping entries, other => by
      cases other with
      | Mapping others => simp [beq, beqEntries_iff entries others]
      | _ => simp [beq]
  | Dictionary entries, other => by
      cases other with
      | Dictionary others => simp [beq, beqKeyed_iff entries others]
      | _ => simp [beq]

theorem beqItems_iff : ∀ items others : List Value, beqItems items others = true ↔ items = others
  | [], others => by cases others <;> simp [beqItems]
  | item :: items, others => by
      cases others with
      | nil => simp [beqItems]
      | cons other others => simp [beqItems, beq_iff item other, beqItems_iff items others]

theorem beqEntries_iff : ∀ entries others : List (String × Value),
    beqEntries entries others = true ↔ entries = others
  | [], others => by cases others <;> simp [beqEntries]
  | (key, value) :: entries, others => by
      cases others with
      | nil => simp [beqEntries]
      | cons other others =>
          obtain ⟨key', value'⟩ := other
          simp [beqEntries, beq_iff value value', beqEntries_iff entries others]

theorem beqKeyed_iff : ∀ entries others : List (Key × Value),
    beqKeyed entries others = true ↔ entries = others
  | [], others => by cases others <;> simp [beqKeyed]
  | (key, value) :: entries, others => by
      cases others with
      | nil => simp [beqKeyed]
      | cons other others =>
          obtain ⟨key', value'⟩ := other
          simp [beqKeyed, beq_iff value value', beqKeyed_iff entries others]

end

instance : DecidableEq Value := fun value other => decidable_of_iff _ (beq_iff value other)

def truthy : Value → Bool
  | None => false
  | Boolean b => b
  | Integer n => n != 0
  | Float x => decide (x ≠ .Finite 0)
  | Str s => s != ""
  | Sequence items => !items.isEmpty
  | Mapping entries => !entries.isEmpty
  | Dictionary entries => !entries.isEmpty

-- `value or other`
def orElse (value other : Value) : Value :=
  if value.truthy then value else other

def isNone : Value → Bool
  | None => true
  | _ => false

-- `value == text`, for a text that is a constant of the program
def isStr (value : Value) (text : String) : Bool :=
  match value with
  | Str s => s == text
  | _ => false

def isMapping : Value → Bool
  | Mapping _ => true
  | _ => false

-- The value of a key, if the dictionary has it.
def lookup (entries : List (String × Value)) (key : String) : Option Value :=
  List.lookup key entries

-- The entries of a dictionary whose keys are texts.
def textEntries (entries : List (Key × Value)) : List (String × Value) :=
  entries.filterMap fun entry => entry.1.text?.map fun key => (key, entry.2)

-- `value.get(key, default)`
def get (value : Value) (key : String) (default : Value := None) : Except Exception Value :=
  match value with
  | Mapping entries => .ok ((lookup entries key).getD default)
  | _ => .error .AttributeError

-- `value[key]`
def item (value : Value) (key : String) : Except Exception Value :=
  match value with
  | Mapping entries =>
      match lookup entries key with
      | some found => .ok found
      | none => .error .KeyError
  | _ => .error .TypeError

-- `key in value`: a key of a dictionary, an item of a list, a part of a text
def contains (value : Value) (key : String) : Except Exception Bool :=
  match value with
  | Mapping entries => .ok (lookup entries key).isSome
  | Sequence items => .ok (items.any fun item => item.isStr key)
  | Str s => .ok (decide (key.toList <:+: s.toList))
  | _ => .error .TypeError

-- The items `for item in value` goes through.
def iterate : Value → Except Exception (List Value)
  | Sequence items => .ok items
  | Mapping entries => .ok (entries.map fun entry => Str entry.1)
  | Str s => .ok (s.toList.map fun c => Str (String.ofList [c]))
  | _ => .error .TypeError

-- A value that may stand in a set or be a key of a dictionary.
def hashable : Value → Bool
  | Sequence _ | Mapping _ | Dictionary _ => false
  | _ => true

-- `value in texts`, for a set of constants of the program
def memStrs (value : Value) (texts : List String) : Except Exception Bool :=
  if value.hashable then .ok (texts.any fun text => value.isStr text) else .error .TypeError

-- `str(value)`
def toStr (python : Interpreter) : Value → String
  | Str s => s
  | value => python.repr value

-- `int(value)`; a fraction is cut toward zero
def toInt (python : Interpreter) : Value → Except Exception Int
  | Boolean b => .ok (if b then 1 else 0)
  | Integer n => .ok n
  | Float (.Finite value) => .ok (value.num.tdiv value.den)
  | Float .NaN => .error .ValueError
  | Float _ => .error .OverflowError
  | Str s =>
      match python.readInt s with
      | some n => .ok n
      | none => .error .ValueError
  | _ => .error .TypeError

-- `int(value or 0)`
def toCount (python : Interpreter) (value : Value) : Except Exception Int :=
  (value.orElse (Integer 0)).toInt python

@[simp] theorem toCount_integer (python : Interpreter) (n : Int) :
    (Integer n).toCount python = .ok n := by
  by_cases h : n = 0 <;> simp [toCount, orElse, truthy, toInt, h]

@[simp] theorem get_mapping (entries : List (String × Value)) (key : String) (default : Value) :
    (Mapping entries).get key default = .ok ((lookup entries key).getD default) := rfl

@[simp] theorem contains_mapping (entries : List (String × Value)) (key : String) :
    (Mapping entries).contains key = .ok (lookup entries key).isSome := rfl

theorem item_mapping (entries : List (String × Value)) (key : String) (found : Value)
    (h : lookup entries key = some found) : (Mapping entries).item key = .ok found := by
  simp [item, h]

mutual

-- `json.dumps(value, allow_nan=False)` accepts the value.
def jsonCompliant : Value → Bool
  | Float (.Finite _) => true
  | Float _ => false
  | Sequence items => itemsCompliant items
  | Mapping entries => entriesCompliant entries
  | Dictionary entries => keyedCompliant entries
  | _ => true

def itemsCompliant : List Value → Bool
  | [] => true
  | item :: items => item.jsonCompliant && itemsCompliant items

def entriesCompliant : List (String × Value) → Bool
  | [] => true
  | (_, value) :: entries => value.jsonCompliant && entriesCompliant entries

def keyedCompliant : List (Key × Value) → Bool
  | [] => true
  | (key, value) :: entries =>
      key.jsonCompliant && value.jsonCompliant && keyedCompliant entries

end

end Value

end Python
