import ClaudeCodeProxy.Effects.Interleaving
import ClaudeCodeProxy.Jq.Alternatives
import ClaudeCodeProxy.Scripts.ApiKeyHelper

-- `scripts/api_key_helper.sh`: a run of the helper, from its checks to the key that it prints, and
-- the machine on which such runs take their turns.

namespace Scripts.ApiKeyHelper

open Bash Effects Python

-- The status of a command that has failed.
abbrev Failed : Type := {status : Nat // status ≠ 0}

inductive HelperCall
  | CommandExists (name : String)
  | Date
  | IsFile (path : String)
  | ReadJson (path : String)
  | ExportCredentials (profile : Option String)
  | Post (url region timeout : String)
  | MakeDirectory (path : String)
  | MakeTemp (directory : String)
  | WriteJson (temp : Nat) (document : Value)
  | Move (temp : Nat) (path : String)
  | Print (line : String)

-- A file and a response are given as the JSON documents that jq reads in them; jq's own failures
-- are discarded where it reads. A temporary file is known by its inode.
abbrev helper : Signature where
  Op := HelperCall
  Reply
    | .CommandExists _ | .IsFile _ => Bool
    | .Date => Except Failed Nat
    | .ReadJson _ => List Value
    | .ExportCredentials _ => Except Failed Unit
    | .Post _ _ _ => Except Failed (List Value)
    | .MakeDirectory _ => Except Failed Unit
    | .MakeTemp _ => Except Failed Nat
    | .WriteJson _ _ => Except Failed Unit
    | .Move _ _ => Except Failed Unit
    | .Print _ => Except Failed Unit

abbrev Helper (α : Type) : Type := Program helper Failed α

def call (command : HelperCall) : Helper (helper.Reply command) :=
  .Call command .Return

def exit (status : Failed) : Helper α := .Raise status

def one : Failed := ⟨1, by decide⟩

-- `set -e`: a command that fails ends the run with its status.
def orExit : Except Failed α → Helper α
  | .ok value => .Return value
  | .error status => exit status

-- The variables that the script reads.
structure Environment where
  proxyTokenServiceUrl : Option String := none
  tokenServiceUrl : Option String := none
  awsRegion : Option String := none
  awsDefaultRegion : Option String := none
  awsProfile : Option String := none
  cachePath : Option String := none
  home : Option String := none
  cacheTtlSeconds : Option String := none
  requestTimeoutSeconds : Option String := none

-- `[[ "$word" == vk_* ]]`
def startsWithVk (word : String) : Bool := "vk_".toList.isPrefixOf word.toList

def trimSlashes (path : List Char) : List Char := path.rdropWhile (· = '/')

def dirname (path : String) : String :=
  match trimSlashes path.toList with
  | [] => if path = "" then "." else "/"
  | name =>
      match name.rdropWhile (· ≠ '/') with
      | [] => "."
      | front =>
          match trimSlashes front with
          | [] => "/"
          | directory => String.ofList directory

def requireCommand (name : String) : Helper Unit := do
  let found : Bool ← call (.CommandExists name)
  if found then return () else exit one

variable (printer : Jq.Printer)

-- What a jq filter that takes the first of `names` leaves in a variable.
def readField (names : List String) (documents : List Value) : String :=
  captured (Jq.output printer names documents)

-- What `load_cached_key` prints, if it succeeds, with the two fields in its variables. A comparison
-- that is an error has not shown the key to be over.
def cachedKey (virtualKey expiresAtEpoch : String) (nowEpoch : Nat) : Option String :=
  if virtualKey = "" ∨ expiresAtEpoch = "" then none
  else if !startsWithVk virtualKey then none
  else
    match Numeral.ofString? expiresAtEpoch with
    | none => none
    | some expires =>
        if holds (lessOrEqual expires (.ofNat nowEpoch)) then none else some (virtualKey ++ "\n")

-- The file is opened once for each of the fields.
def loadCachedKey (cachePath : String) (nowEpoch : Nat) : Helper (Option String) := do
  let present : Bool ← call (.IsFile cachePath)
  if !present then return none
  else
    let first ← call (.ReadJson cachePath)
    let second ← call (.ReadJson cachePath)
    return cachedKey (readField printer ["virtual_key"] first)
      (readField printer ["expires_at_epoch"] second) nowEpoch

def tokenOf (response : List Value) : String :=
  readField printer ["virtual_key", "token"] response

def printToken (token : String) : Helper String :=
  if token = "" ∨ !startsWithVk token then exit one
  else return token ++ "\n"

def fetchVirtualKey (tokenServiceUrl awsRegion timeoutSeconds : String) : Helper String := do
  let answer : Except Failed (List Value) ←
    call (.Post tokenServiceUrl awsRegion timeoutSeconds)
  match answer with
  | .error _ => exit one
  | .ok response => printToken (tokenOf printer response)

def loadAwsCredentials (awsProfile : Option String) : Helper Unit := do
  let exported : Except Failed Unit ← call (.ExportCredentials (awsProfile.filter (· ≠ "")))
  match exported with
  | .error _ => exit one
  | .ok () => return ()

-- What `jq -n` writes of an entry.
def CachedKey.document (cached : CachedKey) : Value := .Mapping [
  ("virtual_key", .Str cached.virtualKey),
  ("expires_at_epoch", .Integer cached.expiresAtEpoch.toInt)]

def replaceCacheFile (cachePath : String) (cached : CachedKey) : Helper Unit := do
  let cacheDir := dirname cachePath
  orExit (← call (.MakeDirectory cacheDir))
  let tempFile ← orExit (← call (.MakeTemp cacheDir))
  orExit (← call (.WriteJson tempFile cached.document))
  orExit (← call (.Move tempFile cachePath))

-- An arithmetic error in a function takes the shell back to the script, after the call.
def storeKey (cachePath virtualKey : String) (nowEpoch : Nat) (ttlSeconds : Numeral) :
    Helper Unit :=
  match storeCachedKey virtualKey (.ofNat nowEpoch) ttlSeconds with
  | .error _ => return ()
  | .ok cached => replaceCacheFile cachePath cached

-- `set -u`: without HOME the default path is an error.
def cachePathOf (environment : Environment) : Except Failed String :=
  match environment.cachePath with
  | none | some "" =>
      match environment.home with
      | none => .error one
      | some home => .ok (home ++ "/.claude-code-proxy/cache.json")
  | some path => .ok path

-- It fails where the line cannot be written.
def printKey (key : String) : Helper Unit := do
  orExit (← call (.Print (key ++ "\n")))

-- The end of the script, with what `fetch_virtual_key` has printed.
def keepAndPrint (environment : Environment) (cachePath : String) (nowEpoch : Nat)
    (stdout : String) : Helper Unit := do
  let virtualKey := captured stdout
  storeKey cachePath virtualKey nowEpoch (clampTtl (requestedTtl environment.cacheTtlSeconds))
  printKey virtualKey

def refreshKey (environment : Environment) (tokenServiceUrl awsRegion cachePath : String)
    (nowEpoch : Nat) : Helper Unit := do
  loadAwsCredentials environment.awsProfile
  let stdout ← fetchVirtualKey printer tokenServiceUrl awsRegion
    (valueOr environment.requestTimeoutSeconds "2")
  keepAndPrint environment cachePath nowEpoch stdout

def obtainKey (environment : Environment) (tokenServiceUrl awsRegion cachePath : String)
    (nowEpoch : Nat) : Helper Unit := do
  match ← loadCachedKey printer cachePath nowEpoch with
  | some stdout => printKey (captured stdout)
  | none => refreshKey printer environment tokenServiceUrl awsRegion cachePath nowEpoch

-- The lifetime is what `normalize_cache_ttl` prints of it: `substituted_printLine`.
def apiKeyHelper (environment : Environment) : Helper Unit := do
  requireCommand "aws"
  requireCommand "curl"
  requireCommand "jq"
  let tokenServiceUrl :=
    valueOr environment.proxyTokenServiceUrl (valueOr environment.tokenServiceUrl "")
  let awsRegion := valueOr environment.awsRegion (valueOr environment.awsDefaultRegion "")
  let cachePath ← orExit (cachePathOf environment)
  let nowEpoch ← orExit (← call .Date)
  if tokenServiceUrl = "" ∨ awsRegion = "" then exit one
  else obtainKey printer environment tokenServiceUrl awsRegion cachePath nowEpoch

section Host

-- `files` has the inode of every cache file by the file's one name, whatever the paths that lead to
-- it; a temporary file has no such name. `owners` and `responses` are kept for the reader only: the
-- process whose temporary file an inode is, and what the Token Service has answered and when.
structure Host where
  clock : Nat
  files : String → Option Nat
  contents : Nat → List Value
  inodes : Nat
  owners : Nat → Option Nat
  responses : List (Nat × List Value)

namespace Host

def documents (host : Host) (file : String) : List Value :=
  match host.files file with
  | none => []
  | some inode => host.contents inode

def answered (host : Host) : Except Failed (List Value) → Host
  | .error _ => host
  | .ok response => { host with responses := (host.clock, response) :: host.responses }

-- `mktemp` makes an empty file under a name that no file has.
def makeTemp (host : Host) (process : Nat) : Host := { host with
  inodes := host.inodes + 1
  contents := Function.update host.contents host.inodes []
  owners := Function.update host.owners host.inodes (some process) }

def write (host : Host) (inode : Nat) (documents : List Value) : Host :=
  { host with contents := Function.update host.contents inode documents }

-- `mv` within a directory is one rename.
def rename (host : Host) (inode : Nat) (file : String) : Host := { host with
  files := Function.update host.files file (some inode)
  owners := Function.update host.owners inode none }

end Host

-- Where `mv` puts the file: at the path, or in the directory that stands there.
inductive Destination
  | Path
  | Directory
deriving DecidableEq

-- A run of the helper: its process, its environment, the file that a path leads to from where it
-- runs, and how each command that it starts will end. A write that fails leaves something in the
-- file.
structure Invocation where
  process : Nat
  environment : Environment
  locate : String → String := id
  commands : String → Bool := fun _ => true
  date : Except Failed Unit := .ok ()
  credentials : Except Failed Unit := .ok ()
  response : Except Failed (List Value)
  makeDirectory : Except Failed Unit := .ok ()
  makeTemp : Except Failed Unit := .ok ()
  writeJson : Except (Failed × List Value) Unit := .ok ()
  move : Except Failed Destination := .ok .Path
  print : Except Failed Unit := .ok ()

def Invocation.handler (invocation : Invocation) : Handler helper Failed Host
  | .CommandExists name, host => (.ok (invocation.commands name), host)
  | .Date, host => (.ok (invocation.date.map fun _ => host.clock), host)
  | .IsFile path, host => (.ok (host.files (invocation.locate path)).isSome, host)
  | .ReadJson path, host => (.ok (host.documents (invocation.locate path)), host)
  | .ExportCredentials _, host => (.ok invocation.credentials, host)
  | .Post _ _ _, host => (.ok invocation.response, host.answered invocation.response)
  | .MakeDirectory _, host => (.ok invocation.makeDirectory, host)
  | .MakeTemp _, host =>
      match invocation.makeTemp with
      | .error status => (.ok (.error status), host)
      | .ok _ => (.ok (.ok host.inodes), host.makeTemp invocation.process)
  | .WriteJson temp document, host =>
      match invocation.writeJson with
      | .error (status, left) => (.ok (.error status), host.write temp left)
      | .ok _ => (.ok (.ok ()), host.write temp [document])
  | .Move temp path, host =>
      match invocation.move with
      | .error status => (.ok (.error status), host)
      | .ok .Path => (.ok (.ok ()), host.rename temp (invocation.locate path))
      | .ok .Directory => (.ok (.ok ()), host)
  | .Print _, host => (.ok invocation.print, host)

-- The helpers of a machine, each a process that may be stopped for good between two of its
-- commands; time passes between them.
def helpers : System helper Failed Unit Invocation Host Nat where
  start invocation := apiKeyHelper printer invocation.environment
  handler := Invocation.handler
  environment seconds host := { host with clock := host.clock + seconds }

-- A machine on which no helper has run.
def cleanHost (clock : Nat) : Host where
  clock := clock
  files _ := none
  contents _ := []
  inodes := 0
  owners _ := none
  responses := []

def sampleInvocation (process : Nat) (key : String) : Invocation where
  process := process
  environment := {
    proxyTokenServiceUrl := some "https://token.example/key"
    awsRegion := some "ap-northeast-2"
    home := some "/home/dev" }
  response := .ok [.Mapping [("virtual_key", .Str key)]]

end Host

end Scripts.ApiKeyHelper
