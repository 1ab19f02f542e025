import ClaudeCodeProxy.Text.Strings

namespace ClaudeCodeProxy

def VIRTUAL_KEY_PREFIX : String := "vk_"

def VISIBLE_KEY_PREFIX_LENGTH : Nat := 12

-- `token` is what `secrets.token_urlsafe` answers.
def generateVirtualKey (token : String) : String := VIRTUAL_KEY_PREFIX ++ token

def getVirtualKeyPrefix (virtualKey : String) : String :=
  Text.firstChars virtualKey VISIBLE_KEY_PREFIX_LENGTH

-- What a plaintext key must look like for the proxy to read it back from a header.
structure WellFormedKey (virtualKey : String) : Prop where
  beginning : Text.startsWith virtualKey VIRTUAL_KEY_PREFIX = true
  stripped : Text.strip virtualKey = virtualKey

-- The characters of URL-safe base64.
def isUrlSafe (c : Char) : Bool :=
  ('a' ≤ c && c ≤ 'z') || ('A' ≤ c && c ≤ 'Z') || ('0' ≤ c && c ≤ '9') || c == '-' || c == '_'

theorem not_isSpace_of_isUrlSafe (c : Char) (h : isUrlSafe c = true) : Text.isSpace c = false := by
  have hrange : ∀ lo hi : Char, lo ≤ c → c ≤ hi → lo.toNat ≤ c.toNat ∧ c.toNat ≤ hi.toNat :=
    fun lo hi hlo hhi => ⟨hlo, hhi⟩
  simp only [isUrlSafe, Bool.or_eq_true, Bool.and_eq_true, decide_eq_true_eq, beq_iff_eq] at h
  rcases h with (((⟨hlo, hhi⟩ | ⟨hlo, hhi⟩) | ⟨hlo, hhi⟩) | rfl) | rfl
  · have := hrange 'a' 'z' hlo hhi
    simp only [Char.reduceToNat] at this
    simp [Text.isSpace]
    omega
  · have := hrange 'A' 'Z' hlo hhi
    simp only [Char.reduceToNat] at this
    simp [Text.isSpace]
    omega
  · have := hrange '0' '9' hlo hhi
    simp only [Char.reduceToNat] at this
    simp [Text.isSpace]
    omega
  · rfl
  · rfl

-- The default generator yields keys of that form.
theorem generateVirtualKey_wellFormed (token : String)
    (h : ∀ c ∈ token.toList, isUrlSafe c = true) : WellFormedKey (generateVirtualKey token) := by
  have hchars : (generateVirtualKey token).toList = 'v' :: 'k' :: '_' :: token.toList := by
    simp [generateVirtualKey, VIRTUAL_KEY_PREFIX, String.toList_append]
  refine ⟨?_, ?_⟩
  · simp [Text.startsWith, hchars, VIRTUAL_KEY_PREFIX]
  · apply Text.strip_of_no_space
    intro c hc
    rw [hchars] at hc
    simp only [List.mem_cons] at hc
    rcases hc with rfl | rfl | rfl | hc
    · rfl
    · rfl
    · rfl
    · exact not_isSpace_of_isUrlSafe c (h c hc)

end ClaudeCodeProxy
