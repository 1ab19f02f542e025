import ClaudeCodeProxy.Effects.Trace
import ClaudeCodeProxy.Proxy.Lemmas
import ClaudeCodeProxy.Services.Samples
import Mathlib.Data.Set.Insert

-- Which headers the proxy lets in, over any ledger and any user table.

namespace ClaudeCodeProxy

open Effects

-- The header is `Bearer`, one space and a rest that, without the white space around it, is the key.
def Presents (header : Option String) (virtualKey : String) : Prop :=
  ∃ rest, header = some ("Bearer " ++ rest) ∧ Text.strip rest = virtualKey ∧
    Text.startsWith virtualKey VIRTUAL_KEY_PREFIX = true

-- No header, or one of white space only.
def Blank (header : Option String) : Prop :=
  ∀ text, header = some text → ∀ c ∈ text.toList, Text.isSpace c = true

section Grammar

open ProxyAuthService

variable {header : Option String} (requestId : String)

theorem extractVirtualKey_of_presents {virtualKey : String} (h : Presents header virtualKey) :
    extractVirtualKey header requestId = .ok virtualKey := by
  obtain ⟨rest, rfl, rfl, hprefix⟩ := h
  have hnonempty : Text.strip rest ≠ "" := by
    intro hempty
    rw [hempty] at hprefix
    exact absurd hprefix (by decide)
  rw [extractVirtualKey_bearer, if_pos ⟨hnonempty, hprefix⟩]

theorem extractVirtualKey_of_blank (h : Blank header) :
    extractVirtualKey header requestId =
      .error (authenticationError requestId AUTH_REASON_MISSING_BEARER) := by
  cases header with
  | none => rfl
  | some text =>
      have hempty : Text.strip text = "" := (Text.strip_eq_empty_iff text).mpr (h text rfl)
      rw [extractVirtualKey, if_pos hempty]

-- Where the split of the header passes every test, the header is one that presents a key.
theorem extractVirtualKey_of_malformed (hblank : ¬Blank header)
    (h : ∀ virtualKey, ¬Presents header virtualKey) :
    extractVirtualKey header requestId =
      .error (authenticationError requestId AUTH_REASON_MALFORMED_BEARER) := by
  cases header with
  | none => exact absurd (fun _ hnone => by cases hnone) hblank
  | some text =>
      have hnonempty : Text.strip text ≠ "" := by
        intro hempty
        refine hblank fun other hother => ?_
        cases hother
        exact (Text.strip_eq_empty_iff text).mp hempty
      rw [extractVirtualKey, if_neg hnonempty]
      rcases hparts : Text.partition ' ' text with ⟨scheme, separator, token⟩
      dsimp only
      split
      · rfl
      · next hpassed =>
          simp only [not_or, ne_eq, not_not] at hpassed
          obtain ⟨rfl, rfl, -⟩ := hpassed
          have htext : text = "Bearer " ++ token := Text.partition_eq hparts
          have hprefix : ¬Text.startsWith (Text.strip token) VIRTUAL_KEY_PREFIX = true := fun hp =>
            h (Text.strip token) ⟨token, congrArg some htext, rfl, hp⟩
          rw [if_neg hprefix]

end Grammar

section Decisions

variable (service : ProxyAuthService) (ledger : Set VirtualKeyRecord)
  (users : String → Option UserRecord) (header : Option String) (requestId : String)

-- The record of the ledger for the key that the header presents.
structure Presented (record : VirtualKeyRecord) : Prop where
  recorded : record ∈ ledger
  hashed : ∃ virtualKey, Presents header virtualKey ∧
    record.keyHash = service.hashVirtualKey virtualKey

-- The conditions in the order in which they are looked at, each with those before it met.
inductive Rejected : String → Prop
  | Missing (hblank : Blank header) : Rejected AUTH_REASON_MISSING_BEARER
  | Malformed (hblank : ¬Blank header) (hpresents : ∀ virtualKey, ¬Presents header virtualKey) :
      Rejected AUTH_REASON_MALFORMED_BEARER
  | Unknown {virtualKey : String} (hpresents : Presents header virtualKey)
      (hnone : ∀ record ∈ ledger, record.keyHash ≠ service.hashVirtualKey virtualKey) :
      Rejected AUTH_REASON_UNKNOWN_KEY
  | Inactive {record : VirtualKeyRecord} (hrecord : Presented service ledger header record)
      (hstatus : record.status ≠ .Active) : Rejected AUTH_REASON_INACTIVE_KEY
  | Orphaned {record : VirtualKeyRecord} (hrecord : Presented service ledger header record)
      (hstatus : record.status = .Active) (huser : users record.userId = none) :
      Rejected AUTH_REASON_ORPHANED_KEY

structure Admitted (record : VirtualKeyRecord) (user : UserRecord) : Prop where
  presented : Presented service ledger header record
  active : record.status = .Active
  user : users record.userId = some user

theorem admitted_or_rejected :
    (∃ record user, Admitted service ledger users header record user) ∨
      ∃ reason, Rejected service ledger users header reason := by
  by_cases hblank : Blank header
  · exact .inr ⟨_, .Missing hblank⟩
  by_cases hpresents : ∃ virtualKey, Presents header virtualKey
  · obtain ⟨virtualKey, hpresents⟩ := hpresents
    by_cases hrecord : ∃ record ∈ ledger, record.keyHash = service.hashVirtualKey virtualKey
    · obtain ⟨record, hm, hhash⟩ := hrecord
      have hpresented : Presented service ledger header record := ⟨hm, virtualKey, hpresents, hhash⟩
      by_cases hactive : record.status = .Active
      · cases huser : users record.userId with
        | none => exact .inr ⟨_, .Orphaned hpresented hactive huser⟩
        | some user => exact .inl ⟨record, user, hpresented, hactive, huser⟩
      · exact .inr ⟨_, .Inactive hpresented hactive⟩
    · exact .inr ⟨_, .Unknown hpresents fun record hm hhash => hrecord ⟨record, hm, hhash⟩⟩
  · exact .inr ⟨_, .Malformed hblank fun virtualKey h => hpresents ⟨virtualKey, h⟩⟩

variable {service ledger users header} {reply : (op : Call) → op.Reply}

-- The lookup by hash finds the record with that hash if there is one.
def FindsByHash (ledger : Set VirtualKeyRecord) (reply : (op : Call) → op.Reply) : Prop :=
  ∀ keyHash record, reply (.GetKeyByHash keyHash) = some record ↔
    record ∈ ledger ∧ record.keyHash = keyHash

theorem FindsByHash.eq_none {keyHash : String} (hfinds : FindsByHash ledger reply)
    (h : ∀ record ∈ ledger, record.keyHash ≠ keyHash) : reply (.GetKeyByHash keyHash) = none := by
  cases hfound : reply (.GetKeyByHash keyHash) with
  | none => rfl
  | some record =>
      obtain ⟨hm, hhash⟩ := (hfinds keyHash record).mp hfound
      exact absurd hhash (h record hm)

theorem FindsByHash.eq_some {record : VirtualKeyRecord} (hfinds : FindsByHash ledger reply)
    (h : Presented service ledger header record) :
    ∃ virtualKey, Presents header virtualKey ∧
      reply (.GetKeyByHash (service.hashVirtualKey virtualKey)) = some record := by
  obtain ⟨hm, virtualKey, hpresents, hhash⟩ := h
  exact ⟨virtualKey, hpresents, (hfinds _ record).mpr ⟨hm, hhash⟩⟩

-- Who is looked up in the user table owns the presented key, and that key is active.
def LooksUpOwner (service : ProxyAuthService) (ledger : Set VirtualKeyRecord)
    (header : Option String) (log : List (Answer collaborators)) : Prop :=
  ∀ userId found, (⟨.GetUser userId, found⟩ : Answer collaborators) ∈ log →
    ∃ record, Presented service ledger header record ∧ record.status = .Active ∧
      record.userId = userId

theorem looksUpOwner_of_lookup (keyHash : String) (found : Option VirtualKeyRecord) :
    LooksUpOwner service ledger header [⟨.GetKeyByHash keyHash, found⟩] := by
  intro userId user hm
  rcases List.mem_singleton.mp hm with h
  cases h

theorem looksUpOwner_of_active {record : VirtualKeyRecord}
    (h : Presented service ledger header record) (hactive : record.status = .Active)
    (keyHash : String) (found : Option VirtualKeyRecord) (user : Option UserRecord) :
    LooksUpOwner service ledger header
      [⟨.GetKeyByHash keyHash, found⟩, ⟨.GetUser record.userId, user⟩] := by
  intro userId other hm
  rcases List.mem_cons.mp hm with hm | hm
  · cases hm
  · cases List.mem_singleton.mp hm
    exact ⟨record, h, hactive, rfl⟩

theorem run_of_admitted {record : VirtualKeyRecord} {user : UserRecord}
    (hfinds : FindsByHash ledger reply) (husers : ∀ userId, reply (.GetUser userId) = users userId)
    (h : Admitted service ledger users header record user) :
    ∃ log, (service.authenticate header requestId).record reply =
        (log, .ok (restoreTrustedRequestContext requestId user record.id record.keyHash
          record.keyPrefix)) ∧
      LooksUpOwner service ledger header log := by
  obtain ⟨virtualKey, hpresents, hfound⟩ := hfinds.eq_some h.presented
  refine ⟨_, ?_, looksUpOwner_of_active h.presented h.active
    (service.hashVirtualKey virtualKey) (some record) (some user)⟩
  simp only [ProxyAuthService.authenticate, extractVirtualKey_of_presents requestId hpresents,
    call_bind, Program.record, hfound, h.active, ne_eq, not_true_eq_false, if_false, husers, h.user,
    Program.pure_eq]

theorem run_of_rejected {reason : String} (hfinds : FindsByHash ledger reply)
    (husers : ∀ userId, reply (.GetUser userId) = users userId)
    (h : Rejected service ledger users header reason) :
    ∃ log, (service.authenticate header requestId).record reply =
        (log, .error (.ServiceError (ProxyAuthService.authenticationError requestId reason))) ∧
      LooksUpOwner service ledger header log := by
  cases h with
  | Missing hblank =>
      refine ⟨[], ?_, fun _ _ hm => by cases hm⟩
      simp only [ProxyAuthService.authenticate, extractVirtualKey_of_blank requestId hblank,
        Program.record]
  | Malformed hblank hpresents =>
      refine ⟨[], ?_, fun _ _ hm => by cases hm⟩
      simp only [ProxyAuthService.authenticate,
        extractVirtualKey_of_malformed requestId hblank hpresents, Program.record]
  | @Unknown virtualKey hpresents hnone =>
      refine ⟨_, ?_, looksUpOwner_of_lookup (service.hashVirtualKey virtualKey) none⟩
      simp only [ProxyAuthService.authenticate, extractVirtualKey_of_presents requestId hpresents,
        call_bind, Program.record, hfinds.eq_none hnone]
  | @Inactive record hrecord hstatus =>
      obtain ⟨virtualKey, hpresents, hfound⟩ := hfinds.eq_some hrecord
      refine ⟨_, ?_, looksUpOwner_of_lookup (service.hashVirtualKey virtualKey) (some record)⟩
      simp only [ProxyAuthService.authenticate, extractVirtualKey_of_presents requestId hpresents,
        call_bind, Program.record, hfound, hstatus, ne_eq, not_false_eq_true, if_true]
  | @Orphaned record hrecord hactive huser =>
      obtain ⟨virtualKey, hpresents, hfound⟩ := hfinds.eq_some hrecord
      refine ⟨_, ?_, looksUpOwner_of_active hrecord hactive (service.hashVirtualKey virtualKey)
        (some record) none⟩
      simp only [ProxyAuthService.authenticate, extractVirtualKey_of_presents requestId hpresents,
        call_bind, Program.record, hfound, hactive, ne_eq, not_true_eq_false, if_false, husers,
        huser]

variable (service header) in
-- Every presentation of a key is admitted or rejected, and this is how the call then ends.
theorem authenticate_run (hfinds : FindsByHash ledger reply)
    (husers : ∀ userId, reply (.GetUser userId) = users userId) :
    (∃ record user log, Admitted service ledger users header record user ∧
      (service.authenticate header requestId).record reply =
        (log, .ok (restoreTrustedRequestContext requestId user record.id record.keyHash
          record.keyPrefix)) ∧
      LooksUpOwner service ledger header log) ∨
    ∃ reason log, Rejected service ledger users header reason ∧
      (service.authenticate header requestId).record reply =
        (log, .error (.ServiceError (ProxyAuthService.authenticationError requestId reason))) ∧
      LooksUpOwner service ledger header log := by
  rcases admitted_or_rejected service ledger users header with
    ⟨record, user, hadmitted⟩ | ⟨reason, hrejected⟩
  · obtain ⟨log, hrun, hlog⟩ := run_of_admitted requestId hfinds husers hadmitted
    exact .inl ⟨record, user, log, hadmitted, hrun, hlog⟩
  · obtain ⟨log, hrun, hlog⟩ := run_of_rejected requestId hfinds husers hrejected
    exact .inr ⟨reason, log, hrejected, hrun, hlog⟩

end Decisions

theorem authenticate_grammar (service : ProxyAuthService) (ledger : Set VirtualKeyRecord)
    (users : String → Option UserRecord) (reply : (op : Call) → op.Reply)
    (hfinds : FindsByHash ledger reply)
    (husers : ∀ userId, reply (.GetUser userId) = users userId)
    (header : Option String) (requestId : String) :
    (∀ context, ((service.authenticate header requestId).record reply).2 = .ok context ↔
      ∃ record user, Admitted service ledger users header record user ∧
        context = {
          request := {
            requestId := requestId
            user := some {
              userId := user.id
              email := some user.email
              groups := user.groups
              department := user.department } }
          userRecord := user
          virtualKeyId := record.id
          keyHash := record.keyHash
          keyPrefix := record.keyPrefix }) ∧
    (∀ error, ((service.authenticate header requestId).record reply).2 = .error error ↔
      ∃ reason, Rejected service ledger users header reason ∧
        error = .ServiceError {
          code := .AuthenticationFailed
          message := "Authentication failed."
          statusCode := 401
          requestId := requestId
          details := some [("reason", .Str reason)] }) ∧
    LooksUpOwner service ledger header
      ((service.authenticate header requestId).record reply).1 := by
  have hends := authenticate_run service header requestId hfinds husers
  refine ⟨fun context => ⟨fun hcontext => ?_, ?_⟩, fun error => ⟨fun herror => ?_, ?_⟩, ?_⟩
  · rcases hends with ⟨record, user, log, hadmitted, hrun, -⟩ | ⟨reason, log, -, hrun, -⟩
    · rw [hrun] at hcontext
      cases hcontext
      exact ⟨record, user, hadmitted, rfl⟩
    · rw [hrun] at hcontext
      cases hcontext
  · rintro ⟨record, user, hadmitted, rfl⟩
    obtain ⟨log, hrun, -⟩ := run_of_admitted requestId hfinds husers hadmitted
    rw [hrun]
    rfl
  · rcases hends with ⟨record, user, log, -, hrun, -⟩ | ⟨reason, log, hrejected, hrun, -⟩
    · rw [hrun] at herror
      cases herror
    · rw [hrun] at herror
      cases herror
      exact ⟨reason, hrejected, rfl⟩
  · rintro ⟨reason, hrejected, rfl⟩
    obtain ⟨log, hrun, -⟩ := run_of_rejected requestId hfinds husers hrejected
    rw [hrun]
    rfl
  · rcases hends with ⟨_, _, log, -, hrun, hlog⟩ | ⟨_, log, -, hrun, hlog⟩
    · rw [hrun]
      exact hlog
    · rw [hrun]
      exact hlog

-- A ledger with one key and a table with its owner.
def sampleReply : (op : Call) → op.Reply
  | .GetKeyByHash keyHash => if sampleRecord.keyHash = keyHash then some sampleRecord else none
  | .GetUser userId => if userId = sampleUser.id then some sampleUser else none
  | .Clock | .UtcNow => World.initial.clock
  | .GenerateKey | .GenerateKeyId | .Uuid4 | .Encrypt _ | .Decrypt _ => ""
  | .GetActiveKeyForUser _ | .GetKey _ => none
  | .GetActiveKey _ _ => none
  | .ProvisionUser _ _ | .SaveKey _ | .PutActiveKey _ | .InvalidateUser _
  | .InvalidateTokenServiceCache _ | .InvalidateProxyAuthCache _ => ()

theorem sampleReply_finds : FindsByHash {sampleRecord} sampleReply := by
  intro keyHash record
  rw [Set.mem_singleton_iff]
  change (if sampleRecord.keyHash = keyHash then some sampleRecord else none) = some record ↔ _
  split
  · next hhash =>
      constructor
      · intro h
        cases h
        exact ⟨rfl, hhash⟩
      · rintro ⟨rfl, -⟩
        rfl
  · next hhash =>
      constructor
      · intro h
        cases h
      · rintro ⟨rfl, h⟩
        exact absurd h hhash

theorem authenticate_grammar_sample :
    ((ProxyAuthService.authenticate ⟨sampleHash⟩ (some "Bearer \tvk_first ") "request-2").record
      sampleReply).2 = .ok (restoreTrustedRequestContext "request-2" sampleUser "key-1"
        (sampleHash "vk_first") "vk_first") :=
  ((authenticate_grammar ⟨sampleHash⟩ {sampleRecord}
      (fun userId => if userId = sampleUser.id then some sampleUser else none) sampleReply
      sampleReply_finds (fun _ => rfl) (some "Bearer \tvk_first ") "request-2").1 _).mpr
    ⟨sampleRecord, sampleUser,
      ⟨⟨rfl, "vk_first", ⟨"\tvk_first ", by decide, by decide, by decide⟩, rfl⟩, rfl, rfl⟩, rfl⟩

end ClaudeCodeProxy
