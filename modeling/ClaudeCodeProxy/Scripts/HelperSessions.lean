import ClaudeCodeProxy.Scripts.CacheFiles
import ClaudeCodeProxy.Store.Expiring

-- Helpers that run one after the other are visits to caches that keep a key until its deadline, one
-- cache for each cache file.

namespace Scripts.ApiKeyHelper

open Bash Effects Python Store.Expiring

section Sessions

-- The machine, the lines that the run has set out to print, and whether it has asked the Token
-- Service.
structure Session where
  host : Host
  lines : List String := []
  asked : Bool := false

def Session.after (session : Session) (host : Host) : HelperCall → Session
  | .Print line => { session with host := host, lines := session.lines ++ [line] }
  | .Post _ _ _ => { session with host := host, asked := true }
  | _ => { session with host := host }

-- A run without success may still have come to its line, if `printf` is what failed.
structure Observed where
  succeeded : Bool
  lines : List String
  asked : Bool
deriving DecidableEq

-- A run of the helper and the time at which it begins.
structure Turn where
  now : Nat
  invocation : Invocation

end Sessions

section Visits

variable (printer : Jq.Printer)

def secondsOf (ttlSeconds : Numeral) : Option Nat :=
  (constant ttlSeconds).toOption.map BitVec.toNat

-- How long the key is kept; none if the shell cannot read the lifetime.
@[irreducible] def lifetimeOf (environment : Environment) : Option Nat :=
  secondsOf (clampTtl (requestedTtl environment.cacheTtlSeconds))

def Invocation.stores (invocation : Invocation) : Bool :=
  invocation.makeDirectory.isOk && invocation.makeTemp.isOk && invocation.writeJson.isOk &&
    invocation.move.isOk

-- No directory stands at the cache path.
def Invocation.replaces (invocation : Invocation) : Bool :=
  match invocation.move with
  | .ok .Path => true
  | _ => false

def configured (environment : Environment) : Bool :=
  valueOr environment.proxyTokenServiceUrl (valueOr environment.tokenServiceUrl "") ≠ "" &&
    valueOr environment.awsRegion (valueOr environment.awsDefaultRegion "") ≠ ""

def Invocation.ready (invocation : Invocation) : Bool :=
  invocation.commands "aws" && invocation.commands "curl" && invocation.commands "jq" &&
    (cachePathOf invocation.environment).isOk && invocation.date.isOk &&
    configured invocation.environment

def checkedToken (token : String) : Option String :=
  if token = "" ∨ !startsWithVk token then none else some token

def Invocation.answer (invocation : Invocation) : Option String :=
  match invocation.response with
  | .error _ => none
  | .ok response => checkedToken (tokenOf printer response)

def Invocation.keeping (invocation : Invocation) : Keeping :=
  match lifetimeOf invocation.environment with
  | none => .Drops
  | some lifetime =>
      if !invocation.stores then .Fails
      else if invocation.replaces then .Keeps lifetime
      else .Drops

def Turn.visit (turn : Turn) : Visit String where
  now := turn.now
  ready := turn.invocation.ready
  canAsk := turn.invocation.credentials.isOk
  answer := turn.invocation.answer printer
  keeping := turn.invocation.keeping

-- The cache file of the run.
def Turn.file (turn : Turn) : String :=
  turn.invocation.locate ((cachePathOf turn.invocation.environment).toOption.getD "")

-- A run with a key succeeds if it can print it.
def Turn.observed (turn : Turn) (outcome : Outcome String) : Observed where
  succeeded := outcome.value.isSome && turn.invocation.print.isOk
  lines := outcome.value.toList.map (· ++ "\n")
  asked := outcome.asked

def entryOf (kept : Kept String) : CachedKey := ⟨kept.value, BitVec.ofNat 64 kept.deadline⟩

-- A file with an entry, or none.
def Holds (host : Host) (file : String) : Option (Kept String) → Prop
  | none => host.files file = none
  | some kept => startsWithVk kept.value = true ∧ captured (kept.value ++ "\n") = kept.value ∧
      kept.deadline < 2 ^ 53 ∧ ∃ inode, host.files file = some inode ∧
        host.contents inode = [(entryOf kept).document]

structure Represents (host : Host) (caches : String → Option (Kept String)) : Prop where
  holds : ∀ file, Holds host file (caches file)
  linked : ∀ file inode, host.files file = some inode → inode < host.inodes

-- The cache files are as they were.
structure SameFiles (host after : Host) : Prop where
  files : after.files = host.files
  inodes : host.inodes ≤ after.inodes
  contents : ∀ inode, inode < host.inodes → after.contents inode = host.contents inode

end Visits

section Storing

variable {printer : Jq.Printer} {invocation : Invocation} {session : Session}

theorem SameFiles.refl (host : Host) : SameFiles host host :=
  ⟨rfl, le_refl _, fun _ _ => rfl⟩

theorem Represents.of_same {host after : Host} {caches : String → Option (Kept String)}
    (h : Represents host caches) (hsame : SameFiles host after) : Represents after caches := by
  refine ⟨fun file => ?_, fun file inode hfile => ?_⟩
  · have hholds := h.holds file
    cases hcache : caches file with
    | none =>
        rw [hcache] at hholds
        exact (congrFun hsame.files file).trans hholds
    | some kept =>
        rw [hcache] at hholds
        obtain ⟨hkey, hplain, hdeadline, inode, hfile, hcontents⟩ := hholds
        exact ⟨hkey, hplain, hdeadline, inode, (congrFun hsame.files file).trans hfile,
          (hsame.contents inode (h.linked file inode hfile)).trans hcontents⟩
  · rw [hsame.files] at hfile
    exact (h.linked file inode hfile).trans_le hsame.inodes

end Storing

section Runs

variable {printer : Jq.Printer} {invocation : Invocation} {session : Session}
  {caches : String → Option (Kept String)} {path file : String} {now : Nat}

variable {url region : String}

-- The end of a run against the visit that it is.
def Agrees (turn : Turn) (ended : Except Failed Unit × Session)
    (caches : String → Option (Kept String)) (file : String)
    (expected : Outcome String × Option (Kept String)) : Prop :=
  (⟨ended.1.isOk, ended.2.lines, ended.2.asked⟩ : Observed) = turn.observed expected.1 ∧
    Represents ended.2.host (Function.update caches file expected.2)

end Runs

section Transcripts

-- A key that is fetched, found a minute later, and over after the five minutes.
def sampleTurns : List Turn := [⟨1774742400, sampleInvocation 1 "vk_first"⟩,
  ⟨1774742460, sampleInvocation 2 "vk_second"⟩, ⟨1774742700, sampleInvocation 3 "vk_third"⟩]

variable {printer : Jq.Printer}

end Transcripts

end Scripts.ApiKeyHelper
