import ClaudeCodeProxy.Services.Requests

-- A small deployment on which the general results are tried out.

namespace ClaudeCodeProxy

-- The encryption service of the test suite.
def fakeEncryptionService : EncryptionService where
  encrypt plaintext := .ok (ENCRYPTION_PREFIX ++ plaintext)
  decrypt ciphertext := .ok (Text.removePrefix ciphertext ENCRYPTION_PREFIX)

theorem fakeEncryptionService_roundTrip : fakeEncryptionService.RoundTrip := by
  intro plaintext ciphertext h
  cases h
  simp [fakeEncryptionService, Text.removePrefix_append]

-- The SHA-256 digests of three sample keys.
def sampleHash : String → String
  | "vk_first" => "207ceae4c80d7c968c9465057507045edb3f2245283b0eadb16f8e85cf38e322"
  | "vk_second" => "5fc7d2b1b463a6c439f315060d8ab6d016efd627c0d16baabbda9c2d8effc831"
  | "vk_third" => "12cb2999a54cc1b2b5b0abf3933a41d794c56f16dfd20356d7172bc6b1c0a839"
  | virtualKey => virtualKey

def sampleDeployment : Deployment where
  hashVirtualKey := sampleHash
  encryption := fakeEncryptionService
  cacheTtl := minutes 15

-- Nothing is stored yet; the clock stands at the first of January 2026.
def World.initial : World where
  users := .empty
  mappings := .empty
  ledger := .empty
  cache := .empty
  clock := 1767225600 * MICROSECONDS_PER_SECOND

def sampleProvision (isActive : Bool) : Request := .Provision {
  username := "alice"
  userId := "user-1"
  email := "alice@example.com"
  displayName := "Alice"
  isActive := isActive }

def sampleFirst : Draw := ⟨"vk_first", "key-1"⟩
def sampleSecond : Draw := ⟨"vk_second", "key-2"⟩
def sampleThird : Draw := ⟨"vk_third", "key-3"⟩

-- The user is provisioned and gets a first key.
def sampleIssued : World := runActions sampleDeployment .initial [
  .Invoke (sampleProvision true) sampleFirst,
  .Invoke (.GetOrCreateKey "user-1" "request-1") sampleFirst]

def sampleRecord : VirtualKeyRecord where
  id := "key-1"
  userId := "user-1"
  keyHash := sampleHash "vk_first"
  encryptedKeyBlob := "enc::vk_first"
  keyPrefix := "vk_first"
  status := .Active
  createdAt := World.initial.clock

def sampleUser : UserRecord where
  id := "user-1"
  email := "alice@example.com"
  displayName := "Alice"
  createdAt := World.initial.clock
  updatedAt := World.initial.clock

example : sampleIssued.users.get "user-1" = some sampleUser := by decide

example : sampleIssued.ledger.get "key-1" = some sampleRecord := by decide

end ClaudeCodeProxy
