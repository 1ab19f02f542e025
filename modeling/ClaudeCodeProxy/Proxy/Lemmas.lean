import ClaudeCodeProxy.Services.Requests

namespace ClaudeCodeProxy

open Effects

namespace ProxyAuthService

-- The header of a client that presents `virtualKey`: the proxy reads the key
-- without the spaces around it.
theorem extractVirtualKey_bearer (virtualKey requestId : String) :
    extractVirtualKey (some ("Bearer " ++ virtualKey)) requestId =
      if Text.strip virtualKey ≠ "" ∧
          Text.startsWith (Text.strip virtualKey) VIRTUAL_KEY_PREFIX = true then
        .ok (Text.strip virtualKey)
      else .error (authenticationError requestId AUTH_REASON_MALFORMED_BEARER) := by
  have hheader : Text.strip ("Bearer " ++ virtualKey) ≠ "" := by
    intro h
    have hspace := (Text.strip_eq_empty_iff _).mp h 'B' (by simp [String.toList_append])
    exact absurd hspace (by decide)
  have hparts : Text.partition ' ' ("Bearer " ++ virtualKey) = ("Bearer", " ", virtualKey) :=
    Text.partition_append ' ' "Bearer" virtualKey (by decide)
  simp only [extractVirtualKey, if_neg hheader, hparts]
  by_cases hempty : Text.strip virtualKey = ""
  · simp [hempty]
  · by_cases hprefix : Text.startsWith (Text.strip virtualKey) VIRTUAL_KEY_PREFIX = true
    · simp [hempty, hprefix]
    · simp [hempty, hprefix]

end ProxyAuthService

variable (deployment : Deployment) (world : World)

theorem authenticate_rejects (virtualKey requestId : String)
    (hdead : ∀ record,
      world.ledger.getKeyByHash (deployment.hashVirtualKey (Text.strip virtualKey)) = some record →
        record.status ≠ .Active) :
    ∃ reason, authenticate deployment world (some ("Bearer " ++ virtualKey)) requestId =
      .error (.ServiceError (ProxyAuthService.authenticationError requestId reason)) := by
  simp only [authenticate, ProxyAuthService.authenticate,
    ProxyAuthService.extractVirtualKey_bearer]
  by_cases hread : Text.strip virtualKey ≠ "" ∧
      Text.startsWith (Text.strip virtualKey) VIRTUAL_KEY_PREFIX = true
  · simp only [if_pos hread, call_bind, Program.run_call, handle, Deployment.proxyAuthService]
    cases hget : world.ledger.getKeyByHash
        (deployment.hashVirtualKey (Text.strip virtualKey)) with
    | none => exact ⟨_, rfl⟩
    | some record =>
        have hinactive : record.status ≠ .Active := hdead record hget
        simp only [ne_eq, hinactive, not_false_eq_true, ite_true, Program.run_raise]
        exact ⟨_, rfl⟩
  · simp only [if_neg hread, Program.run_raise]
    exact ⟨_, rfl⟩

theorem authenticate_accepts (virtualKey requestId : String) (record : VirtualKeyRecord)
    (user : UserRecord) (hkey : WellFormedKey virtualKey)
    (hget : world.ledger.getKeyByHash (deployment.hashVirtualKey virtualKey) = some record)
    (hactive : record.status = .Active) (huser : world.users.get record.userId = some user) :
    authenticate deployment world (some ("Bearer " ++ virtualKey)) requestId =
      .ok (restoreTrustedRequestContext requestId user record.id record.keyHash
        record.keyPrefix) := by
  have hstrip : Text.strip virtualKey = virtualKey := hkey.stripped
  have hnonempty : virtualKey ≠ "" := by
    rintro rfl
    exact absurd hkey.beginning (by decide)
  simp only [authenticate, ProxyAuthService.authenticate,
    ProxyAuthService.extractVirtualKey_bearer, hstrip]
  rw [if_pos ⟨hnonempty, hkey.beginning⟩]
  simp only [call_bind, Program.run_call, handle, Deployment.proxyAuthService, hget, hactive,
    ne_eq, not_true_eq_false, ite_false, huser, Program.pure_eq, Program.run_return]

-- The record of the key that a header presents.
def presentedRecord (authorization : Option String) : Option VirtualKeyRecord :=
  match ProxyAuthService.extractVirtualKey authorization "" with
  | .error _ => none
  | .ok virtualKey => world.ledger.getKeyByHash (deployment.hashVirtualKey virtualKey)

-- The owner of that key, in the user table.
def presentedUser (authorization : Option String) : Option UserRecord :=
  (presentedRecord deployment world authorization).bind fun record =>
    world.users.get record.userId

-- The header presents an active key of the user.
def AcceptedUser (authorization : Option String) (user : UserRecord) : Prop :=
  ∃ record, presentedRecord deployment world authorization = some record ∧
    record.status = .Active ∧ world.users.get record.userId = some user

-- The id of the request goes into the errors only.
theorem extractVirtualKey_ok (authorization : Option String) (requestId other : String)
    (virtualKey : String)
    (h : ProxyAuthService.extractVirtualKey authorization requestId = .ok virtualKey) :
    ProxyAuthService.extractVirtualKey authorization other = .ok virtualKey := by
  cases authorization with
  | none => cases h
  | some header =>
      simp only [ProxyAuthService.extractVirtualKey] at h ⊢
      split_ifs at h ⊢
      exact h

-- A header is accepted exactly when its key is active and has an owner.
theorem authenticate_ok_iff (authorization : Option String) (requestId : String)
    (context : AuthenticatedRequestContext) :
    authenticate deployment world authorization requestId = .ok context ↔
      ∃ record user, presentedRecord deployment world authorization = some record ∧
        record.status = .Active ∧ world.users.get record.userId = some user ∧
        context = restoreTrustedRequestContext requestId user record.id record.keyHash
          record.keyPrefix := by
  simp only [authenticate, ProxyAuthService.authenticate, presentedRecord]
  cases hkey : ProxyAuthService.extractVirtualKey authorization requestId with
  | error error =>
      have hnone : ∃ other, ProxyAuthService.extractVirtualKey authorization "" = .error other := by
        cases hother : ProxyAuthService.extractVirtualKey authorization "" with
        | error other => exact ⟨other, rfl⟩
        | ok virtualKey =>
            rw [extractVirtualKey_ok authorization "" requestId virtualKey hother] at hkey
            cases hkey
      obtain ⟨other, hother⟩ := hnone
      simp [hother]
  | ok virtualKey =>
      rw [extractVirtualKey_ok authorization requestId "" virtualKey hkey]
      simp only [call_bind, Program.run_call, handle, Deployment.proxyAuthService]
      cases hrecord : world.ledger.getKeyByHash (deployment.hashVirtualKey virtualKey) with
      | none => simp
      | some record =>
          by_cases hactive : record.status = .Active
          · cases huser : world.users.get record.userId with
            | none => simp [hactive, huser, Program.run_call, handle]
            | some user => simp [hactive, huser, Program.run_call, handle, eq_comm]
          · simp [hactive]

end ClaudeCodeProxy
