import ClaudeCodeProxy.Bash.Arithmetic
import Mathlib.Algebra.Group.Nat.Defs

-- `scripts/api_key_helper.sh`: how long the helper keeps the key that it was issued.

namespace Scripts.ApiKeyHelper

open Bash

def minCacheTtlSeconds : Numeral := ⟨"300", by decide, List.all_eq_true.mp rfl⟩
def maxCacheTtlSeconds : Numeral := ⟨"900", by decide, List.all_eq_true.mp rfl⟩

-- The two comparisons; each reads the word that the one before it left.
def clampTtl (ttlValue : Numeral) : Numeral :=
  let ttlValue :=
    if holds (less ttlValue minCacheTtlSeconds) then minCacheTtlSeconds else ttlValue
  if holds (greater ttlValue maxCacheTtlSeconds) then maxCacheTtlSeconds else ttlValue

def requestedTtl (environment : Option String) : Numeral :=
  (Numeral.ofString? (valueOr environment minCacheTtlSeconds.text)).getD minCacheTtlSeconds

-- The argument is CLAUDE_CODE_PROXY_CACHE_TTL_SECONDS as the environment has it.
def normalizeCacheTtl (environment : Option String) : Output :=
  printLine (clampTtl (requestedTtl environment)).text

structure CachedKey where
  virtualKey : String
  expiresAtEpoch : BitVec 64
deriving DecidableEq

-- The entry that the cache file is replaced with; an arithmetic error drops the call before it.
def storeCachedKey (virtualKey : String) (nowEpoch ttlSeconds : Numeral) :
    Except ArithmeticError CachedKey := do
  let expiresAtEpoch ← sum nowEpoch ttlSeconds
  return { virtualKey := virtualKey, expiresAtEpoch := expiresAtEpoch }

theorem constant_min : constant minCacheTtlSeconds = .ok (BitVec.ofNat 64 300) := by decide

theorem constant_max : constant maxCacheTtlSeconds = .ok (BitVec.ofNat 64 900) := by decide

-- The word is compared by the value it has on 64 bits, so a long one may stay as it is.
theorem constant_clampTtl {ttlValue : Numeral} (h : ¬MalformedOctal ttlValue.text) :
    ∃ seconds : Nat, 300 ≤ seconds ∧ seconds ≤ 900 ∧
      constant (clampTtl ttlValue) = .ok (BitVec.ofNat 64 seconds) := by
  obtain ⟨value, hvalue⟩ := constant_ok h
  by_cases hlow : value.toInt < 300
  · have hless : holds (less ttlValue minCacheTtlSeconds) = true := by
      simp only [less, hvalue, constant_min, holds]
      exact BitVec.slt_iff_toInt_lt.mpr hlow
    refine ⟨300, le_refl _, by omega, ?_⟩
    rw [clampTtl, if_pos hless, if_neg (by decide), constant_min]
  · have hless : ¬holds (less ttlValue minCacheTtlSeconds) = true := by
      simp only [less, hvalue, constant_min, holds]
      exact fun hslt => hlow (BitVec.slt_iff_toInt_lt.mp hslt)
    by_cases hhigh : 900 < value.toInt
    · have hgreater : holds (greater ttlValue maxCacheTtlSeconds) = true := by
        simp only [greater, hvalue, constant_max, holds]
        exact BitVec.slt_iff_toInt_lt.mpr hhigh
      refine ⟨900, by omega, le_refl _, ?_⟩
      rw [clampTtl, if_neg hless, if_pos hgreater, constant_max]
    · have hgreater : ¬holds (greater ttlValue maxCacheTtlSeconds) = true := by
        simp only [greater, hvalue, constant_max, holds]
        exact fun hslt => hhigh (BitVec.slt_iff_toInt_lt.mp hslt)
      have hnat : value.toInt = value.toNat := by
        rw [BitVec.toInt_eq_toNat_cond] at hlow ⊢
        split at hlow
        · next hsmall => rw [if_pos hsmall]
        · have := value.isLt
          omega
      refine ⟨value.toNat, by omega, by omega, ?_⟩
      rw [clampTtl, if_neg hless, if_neg hgreater, hvalue, BitVec.ofNat_toNat,
        BitVec.setWidth_eq]

-- No comparison can read the word, and the failed comparisons leave it alone.
theorem clampTtl_of_malformed {ttlValue : Numeral} (h : MalformedOctal ttlValue.text) :
    clampTtl ttlValue = ttlValue := by
  have herror := constant_error h
  have hless : ¬holds (less ttlValue minCacheTtlSeconds) = true := by
    simp only [less, herror, holds]
    decide
  have hgreater : ¬holds (greater ttlValue maxCacheTtlSeconds) = true := by
    simp only [greater, herror, holds]
    decide
  rw [clampTtl, if_neg hless, if_neg hgreater]

theorem malformedOctal_requestedTtl (environment : Option String) :
    MalformedOctal (requestedTtl environment).text ↔
      ∃ word, environment = some word ∧ MalformedOctal word := by
  have hmin : ¬MalformedOctal minCacheTtlSeconds.text := by decide
  constructor
  · intro h
    unfold requestedTtl valueOr at h
    split at h
    · rw [Numeral.ofString?_text] at h
      exact absurd h hmin
    · rw [Numeral.ofString?_text] at h
      exact absurd h hmin
    · next word _ =>
        cases hword : Numeral.ofString? word with
        | none =>
            rw [hword] at h
            exact absurd h hmin
        | some numeral =>
            rw [hword, Option.getD_some, Numeral.ofString?_eq_some hword] at h
            exact ⟨word, rfl, h⟩
  · rintro ⟨word, rfl, h⟩
    have hne : word ≠ "" := by
      rintro rfl
      cases h.1
    have hsame : Numeral.ofString? word = some ⟨word, hne, h.2.1⟩ :=
      dif_pos ⟨hne, List.all_eq_true.mpr h.2.1⟩
    rw [requestedTtl, valueOr, hsame]
    · exact h
    · exact fun hempty => hne hempty

-- `now + seconds` on 64 bits for a lifetime in range; so long as that does not wrap it lies where
-- the integers say.
structure KeptInRange (now : Nat) (cached : CachedKey) : Prop where
  lifetime : ∃ seconds : Nat, 300 ≤ seconds ∧ seconds ≤ 900 ∧
    cached.expiresAtEpoch = BitVec.ofNat 64 (now + seconds)
  bounds : now + 900 < 2 ^ 63 →
    now + 300 ≤ cached.expiresAtEpoch.toInt ∧ cached.expiresAtEpoch.toInt ≤ now + 900

theorem KeptInRange.of_lifetime {now seconds : Nat} {cached : CachedKey} (hlow : 300 ≤ seconds)
    (hhigh : seconds ≤ 900) (h : cached.expiresAtEpoch = BitVec.ofNat 64 (now + seconds)) :
    KeptInRange now cached := by
  refine ⟨⟨seconds, hlow, hhigh, h⟩, fun hclock => ?_⟩
  have hint : cached.expiresAtEpoch.toInt = (now + seconds : Nat) := by
    rw [h, BitVec.toInt_ofNat', Int.bmod_eq_of_le (by omega) (by omega)]
  rw [hint]
  omega

theorem cacheLifetime_iff (environment : Option String) (virtualKey : String) (now : Nat) :
    (∃ ttl cached, (normalizeCacheTtl environment).status = 0 ∧
        (normalizeCacheTtl environment).substituted = ttl.text ∧
        storeCachedKey virtualKey (.ofNat now) ttl = .ok cached ∧ KeptInRange now cached) ↔
      ¬∃ word, environment = some word ∧ MalformedOctal word := by
  rw [← malformedOctal_requestedTtl]
  have hprinted : (normalizeCacheTtl environment).substituted =
      (clampTtl (requestedTtl environment)).text := substituted_printLine _
  constructor
  · rintro ⟨ttl, cached, -, httl, hstored, -⟩ hmalformed
    have hsame : ttl = requestedTtl environment := by
      rw [hprinted, clampTtl_of_malformed hmalformed] at httl
      exact Numeral.text_injective httl.symm
    have herror : storeCachedKey virtualKey (.ofNat now) ttl = .error .valueTooGreatForBase := by
      simp only [storeCachedKey, sum, constant_ofNat, hsame, constant_error hmalformed]
      rfl
    rw [herror] at hstored
    cases hstored
  · intro h
    obtain ⟨seconds, hlow, hhigh, hseconds⟩ := constant_clampTtl h
    refine ⟨clampTtl (requestedTtl environment),
      ⟨virtualKey, BitVec.ofNat 64 (now + seconds)⟩, rfl, hprinted, ?_,
      .of_lifetime hlow hhigh rfl⟩
    simp only [storeCachedKey, sum, constant_ofNat, hseconds]
    rw [BitVec.ofNat_add]
    rfl

-- `0900` is printed as it came, and the sum with it is an error.
theorem storeCachedKey_after_0900 :
    ¬∃ ttl cached, (normalizeCacheTtl (some "0900")).status = 0 ∧
      (normalizeCacheTtl (some "0900")).substituted = ttl.text ∧
      storeCachedKey "vk_issued" (.ofNat 1774742400) ttl = .ok cached ∧
      KeptInRange 1774742400 cached := by
  rintro ⟨ttl, cached, -, httl, hstored, -⟩
  have hprinted : (normalizeCacheTtl (some "0900")).substituted =
      (clampTtl (requestedTtl (some "0900"))).text := substituted_printLine _
  have hsame : ttl = ⟨"0900", by decide, List.all_eq_true.mp rfl⟩ := by
    apply Numeral.text_injective
    rw [← httl, hprinted]
    decide
  subst hsame
  have herror : storeCachedKey "vk_issued" (.ofNat 1774742400)
      ⟨"0900", by decide, List.all_eq_true.mp rfl⟩ = .error .valueTooGreatForBase := by decide
  rw [herror] at hstored
  cases hstored

-- A word whose value on 64 bits is in range stays, however long it is.
example : (clampTtl (requestedTtl (some "18446744073709551916"))).text =
    "18446744073709551916" := by decide

end Scripts.ApiKeyHelper
