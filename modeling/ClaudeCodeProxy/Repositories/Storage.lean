import Mathlib
import ClaudeCodeProxy.Lists.Latest
import ClaudeCodeProxy.Models.Errors
import ClaudeCodeProxy.Repositories.VirtualKey
import ClaudeCodeProxy.Store.Relation

-- The repositories over PostgreSQL and DynamoDB: rows and items, and what is read back.

namespace ClaudeCodeProxy

open Python

-- A row of `users`; the column is NOT NULL, but the code is ready for a NULL.
structure UserRow where
  id : String
  email : String
  displayName : String
  department : Option String
  costCenter : Option String
  groups : Option (List String)
  proxyAccessEnabled : Bool
  isActive : Bool
  createdAt : Int
  updatedAt : Int
  deriving DecidableEq

abbrev UserTable : Type := Store.Table UserRow.id

namespace PsycopgUserStore

def getUser (table : UserTable) (userId : String) : Option UserRecord :=
  match table.get userId with
  | none => none
  | some row => some {
      id := row.id
      email := row.email
      displayName := row.displayName
      department := row.department
      costCenter := row.costCenter
      groups := row.groups.getD []
      proxyAccessEnabled := row.proxyAccessEnabled
      isActive := row.isActive
      createdAt := row.createdAt
      updatedAt := row.updatedAt }

-- The columns of `identity_user_mappings` are the fields of the record.
def getIdentityMapping (table : IdentityMappings) (username : String) : Option IdentityMapping :=
  table.get username

end PsycopgUserStore

namespace PostgresUserRepository

def getUserIdForUsername (table : IdentityMappings) (username : String) : Option String :=
  match PsycopgUserStore.getIdentityMapping table username with
  | none => none
  | some mapping => some mapping.userId

def getUser (table : UserTable) (userId : String) : Option UserRecord :=
  PsycopgUserStore.getUser table userId

end PostgresUserRepository

-- A row of `virtual_keys`: the blob as bytes, the status as its text.
structure VirtualKeyRow where
  id : String
  keyHash : String
  encryptedKeyBlob : ByteArray
  keyPrefix : String
  userId : String
  status : String
  createdAt : Int
  expiresAt : Option Int
  revokedAt : Option Int
  lastUsedAt : Option Int
  deriving DecidableEq

-- `id UUID PRIMARY KEY`, `key_hash VARCHAR(64) NOT NULL UNIQUE`
abbrev VirtualKeyTable : Type := Store.Relation VirtualKeyRow.id VirtualKeyRow.keyHash

-- What `ORDER BY created_at DESC` promises; rows of one moment come in any order.
structure ListsByCreatedAt (listing : List VirtualKeyRow → List VirtualKeyRow) : Prop where
  perm : ∀ rows, (listing rows).Perm rows
  sorted : ∀ rows, (listing rows).Pairwise fun first second => second.createdAt ≤ first.createdAt

namespace PsycopgVirtualKeyStore

def decodeUtf8 (bytes : ByteArray) : Except Failure String :=
  match String.fromUTF8? bytes with
  | none => .error (.Raised "UnicodeDecodeError")
  | some text => .ok text

def rowToRecord (row : VirtualKeyRow) : Except Failure VirtualKeyRecord := do
  let encryptedKeyBlob ← decodeUtf8 row.encryptedKeyBlob
  let status ← raising (VirtualKeyStatus.ofValue row.status)
  return {
    id := row.id
    userId := row.userId
    keyHash := row.keyHash
    encryptedKeyBlob := encryptedKeyBlob
    keyPrefix := row.keyPrefix
    status := status
    createdAt := row.createdAt
    expiresAt := row.expiresAt
    revokedAt := row.revokedAt
    lastUsedAt := row.lastUsedAt }

-- The row that the parameters of the INSERT make.
def recordToRow (record : VirtualKeyRecord) : VirtualKeyRow where
  id := record.id
  keyHash := record.keyHash
  encryptedKeyBlob := record.encryptedKeyBlob.toUTF8
  keyPrefix := record.keyPrefix
  userId := record.userId
  status := record.status.value
  createdAt := record.createdAt
  expiresAt := record.expiresAt
  revokedAt := record.revokedAt
  lastUsedAt := record.lastUsedAt

def getVirtualKeyByHash (table : VirtualKeyTable) (keyHash : String) :
    Except Failure (Option VirtualKeyRecord) :=
  match table.rows.find? fun row => row.keyHash = keyHash with
  | none => .ok none
  | some row => (rowToRecord row).map some

def listVirtualKeysForUser (listing : List VirtualKeyRow → List VirtualKeyRow)
    (table : VirtualKeyTable) (userId : String) : Except Failure (List VirtualKeyRecord) :=
  (listing (table.rows.filter fun row => row.userId = userId)).mapM rowToRecord

-- A plain INSERT: a row that violates a constraint raises.
def saveVirtualKey (table : VirtualKeyTable) (record : VirtualKeyRecord) :
    Except Failure VirtualKeyTable :=
  match table.insert (recordToRow record) with
  | none => .error (.Raised "UniqueViolation")
  | some after => .ok after

end PsycopgVirtualKeyStore

namespace PostgresVirtualKeyRepository

def getKeyByHash (table : VirtualKeyTable) (keyHash : String) :
    Except Failure (Option VirtualKeyRecord) :=
  PsycopgVirtualKeyStore.getVirtualKeyByHash table keyHash

def getActiveKeyForUser (listing : List VirtualKeyRow → List VirtualKeyRow)
    (table : VirtualKeyTable) (userId : String) : Except Failure (Option VirtualKeyRecord) := do
  let records ← PsycopgVirtualKeyStore.listVirtualKeysForUser listing table userId
  let activeKeys := records.filter fun record => record.status = .Active
  return @List.argmax _ _ Int.instLinearOrder.toPreorder _ VirtualKeyRecord.createdAt activeKeys

def saveKey (table : VirtualKeyTable) (record : VirtualKeyRecord) :
    Except Failure VirtualKeyTable :=
  PsycopgVirtualKeyStore.saveVirtualKey table record

end PostgresVirtualKeyRepository

-- The payload of `put_item`.
structure CacheItem where
  userId : String
  virtualKeyId : String
  encryptedKeyRef : String
  keyPrefix : String
  status : String
  ttl : Int
  deriving DecidableEq

abbrev CacheItems : Type := Store.Table CacheItem.userId

namespace DynamoDbVirtualKeyCache

def getActiveKey (items : CacheItems) (userId : String) (now : Int) :
    Except Failure (Option VirtualKeyCacheEntry) :=
  match items.get userId with
  | none => .ok none
  | some item =>
      if item.ttl ≤ epochSeconds now then
        .ok none
      else do
        let status ← raising (VirtualKeyStatus.ofValue item.status)
        if status ≠ .Active then
          return none
        return some {
          userId := item.userId
          virtualKeyId := item.virtualKeyId
          encryptedKeyRef := item.encryptedKeyRef
          keyPrefix := item.keyPrefix
          status := status
          ttl := item.ttl }

def entryToItem (entry : VirtualKeyCacheEntry) : CacheItem where
  userId := entry.userId
  virtualKeyId := entry.virtualKeyId
  encryptedKeyRef := entry.encryptedKeyRef
  keyPrefix := entry.keyPrefix
  status := entry.status.value
  ttl := entry.ttl

def putActiveKey (items : CacheItems) (entry : VirtualKeyCacheEntry) : CacheItems :=
  items.save (entryToItem entry)

def invalidateUser (items : CacheItems) (userId : String) : CacheItems :=
  items.erase userId

end DynamoDbVirtualKeyCache

end ClaudeCodeProxy
