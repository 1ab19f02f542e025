import Mathlib.Data.List.Basic

-- The URL-safe base64 of Python's `base64` module.

namespace Base64

def PAD : Char := '='

-- The character that stands for six bits.
def symbol (six : Nat) : Char :=
  if six < 26 then Char.ofNat (65 + six)
  else if six < 52 then Char.ofNat (97 + (six - 26))
  else if six < 62 then Char.ofNat (48 + (six - 52))
  else if six = 62 then '-'
  else '_'

-- The six bits of a character. The URL-safe characters are translated to the
-- standard ones before decoding, so both spellings are read.
def sextet (c : Char) : Option Nat :=
  if 65 ≤ c.toNat ∧ c.toNat ≤ 90 then some (c.toNat - 65)
  else if 97 ≤ c.toNat ∧ c.toNat ≤ 122 then some (c.toNat - 97 + 26)
  else if 48 ≤ c.toNat ∧ c.toNat ≤ 57 then some (c.toNat - 48 + 52)
  else if c = '+' ∨ c = '-' then some 62
  else if c = '/' ∨ c = '_' then some 63
  else none

def encode : List UInt8 → List Char
  | [] => []
  | [a] => [symbol (a.toNat / 4), symbol (a.toNat % 4 * 16), PAD, PAD]
  | [a, b] =>
      [symbol (a.toNat / 4), symbol (a.toNat % 4 * 16 + b.toNat / 16),
        symbol (b.toNat % 16 * 4), PAD]
  | a :: b :: c :: rest =>
      symbol (a.toNat / 4) :: symbol (a.toNat % 4 * 16 + b.toNat / 16) ::
        symbol (b.toNat % 16 * 4 + c.toNat / 64) :: symbol (c.toNat % 64) :: encode rest

-- Where the decoder stands in a group of four characters: how many it has read, the
-- bits of the last one that belong to the next byte, and how many pads it has seen.
inductive Quad
  | Zero
  | One (left : Nat)
  | Two (left pads : Nat)
  | Three (left : Nat)
  deriving DecidableEq

-- The byte that six more bits complete, if any, and the place they lead to.
def Quad.feed : Quad → Nat → List UInt8 × Quad
  | .Zero, six => ([], .One six)
  | .One left, six => ([UInt8.ofNat (left * 4 + six / 16)], .Two (six % 16) 0)
  | .Two left _, six => ([UInt8.ofNat (left * 16 + six / 4)], .Three (six % 4))
  | .Three left, six => ([UInt8.ofNat (left * 64 + six)], .Zero)

-- The place a pad leads to. The pad that completes a group ends the text.
def Quad.pad : Quad → Option Quad
  | .Zero => some .Zero
  | .One left => some (.One left)
  | .Two left pads => if pads = 0 then some (.Two left 1) else none
  | .Three _ => none

-- Characters outside the alphabet are skipped, and so are pads that are not expected.
-- At the end no group may be open.
def decodeFrom (quad : Quad) : List Char → Option (List UInt8)
  | [] => if quad = .Zero then some [] else none
  | c :: rest =>
      if c = PAD then
        match quad.pad with
        | none => some []
        | some next => decodeFrom next rest
      else
        match sextet c with
        | none => decodeFrom quad rest
        | some six => (decodeFrom (quad.feed six).2 rest).map ((quad.feed six).1 ++ ·)

def decode (text : List Char) : Option (List UInt8) := decodeFrom .Zero text

theorem symbol_spec : ∀ six < 64,
    sextet (symbol six) = some six ∧ symbol six ≠ PAD ∧ (symbol six).toNat < 128 := by
  decide

theorem sextet_symbol (six : Nat) (h : six < 64) : sextet (symbol six) = some six :=
  (symbol_spec six h).1

theorem symbol_ne_pad (six : Nat) (h : six < 64) : symbol six ≠ PAD :=
  (symbol_spec six h).2.1

theorem symbol_ascii (six : Nat) (h : six < 64) : (symbol six).toNat < 128 :=
  (symbol_spec six h).2.2

theorem decodeFrom_symbol (quad : Quad) (six : Nat) (h : six < 64) (rest : List Char) :
    decodeFrom quad (symbol six :: rest) =
      (decodeFrom (quad.feed six).2 rest).map ((quad.feed six).1 ++ ·) := by
  rw [decodeFrom, if_neg (symbol_ne_pad six h), sextet_symbol six h]

-- The bits of a byte, put together again from the symbols they went into.
theorem ofNat_eq (byte : UInt8) (bits : Nat) (h : bits = byte.toNat) : UInt8.ofNat bits = byte := by
  rw [h, UInt8.ofNat_toNat]

theorem decode_encode (bytes : List UInt8) : decode (encode bytes) = some bytes := by
  unfold decode
  induction bytes using encode.induct with
  | case1 => rfl
  | case2 a =>
      have ha := a.toNat_lt
      have hpads : ∀ left, decodeFrom (.Two left 0) [PAD, PAD] = some [] := fun _ => rfl
      simp only [encode]
      rw [decodeFrom_symbol _ _ (by omega), decodeFrom_symbol _ _ (by omega)]
      simp only [Quad.feed, hpads, Option.map_some, List.append_nil, List.nil_append]
      rw [ofNat_eq a _ (by omega)]
  | case3 a b =>
      have ha := a.toNat_lt
      have hb := b.toNat_lt
      have hpad : ∀ left, decodeFrom (.Three left) [PAD] = some [] := fun _ => rfl
      simp only [encode]
      rw [decodeFrom_symbol _ _ (by omega), decodeFrom_symbol _ _ (by omega),
        decodeFrom_symbol _ _ (by omega)]
      simp only [Quad.feed, hpad, Option.map_some, List.nil_append, List.cons_append]
      rw [ofNat_eq a _ (by omega), ofNat_eq b _ (by omega)]
  | case4 a b c rest ih =>
      have ha := a.toNat_lt
      have hb := b.toNat_lt
      have hc := c.toNat_lt
      simp only [encode]
      rw [decodeFrom_symbol _ _ (by omega), decodeFrom_symbol _ _ (by omega),
        decodeFrom_symbol _ _ (by omega), decodeFrom_symbol _ _ (by omega)]
      simp only [Quad.feed, ih, Option.map_some, List.nil_append, List.cons_append]
      rw [ofNat_eq a _ (by omega), ofNat_eq b _ (by omega), ofNat_eq c _ (by omega)]

theorem encode_ascii (bytes : List UInt8) : ∀ c ∈ encode bytes, c.toNat < 128 := by
  have hpad : PAD.toNat < 128 := by decide
  induction bytes using encode.induct with
  | case1 => simp [encode]
  | case2 a =>
      have ha := a.toNat_lt
      simp only [encode, List.forall_mem_cons]
      exact ⟨symbol_ascii _ (by omega), symbol_ascii _ (by omega), hpad, hpad, by simp⟩
  | case3 a b =>
      have ha := a.toNat_lt
      have hb := b.toNat_lt
      simp only [encode, List.forall_mem_cons]
      exact ⟨symbol_ascii _ (by omega), symbol_ascii _ (by omega), symbol_ascii _ (by omega), hpad,
        by simp⟩
  | case4 a b c rest ih =>
      have ha := a.toNat_lt
      have hb := b.toNat_lt
      have hc := c.toNat_lt
      simp only [encode, List.forall_mem_cons]
      exact ⟨symbol_ascii _ (by omega), symbol_ascii _ (by omega), symbol_ascii _ (by omega),
        symbol_ascii _ (by omega), ih⟩

end Base64
