import ClaudeCodeProxy.Effects.Ownership
import ClaudeCodeProxy.Scripts.HelperRuns

-- The cache files of a machine on which helpers run: what each process keeps of them, and what it
-- reads in them.

namespace Scripts.ApiKeyHelper

open Bash Effects Python

section Logs

-- A line that a run has set out to print.
def printedLine : Answer helper → Option String
  | ⟨.Print line, _⟩ => some line
  | _ => none

def readingOf : Answer helper → Option (List Value)
  | ⟨.ReadJson _, documents⟩ => some documents
  | _ => none

def dateOf : Answer helper → Option Nat
  | ⟨.Date, .ok now⟩ => some now
  | _ => none

def movedTo : Answer helper → Option String
  | ⟨.Move _ path, .ok _⟩ => some path
  | _ => none

end Logs

variable (printer : Jq.Printer)

-- A key that the Token Service has handed out at `time`.
structure HandedOut (host : Host) (key : String) (time : Nat) : Prop where
  isKey : startsWithVk key = true
  answered : ∃ response, (time, response) ∈ host.responses ∧ tokenOf printer response = key

-- An entry with the key and the expiry of one run: the key was handed out after the run had read
-- the clock that its expiry is counted from.
structure Entry (host : Host) (cached : CachedKey) : Prop where
  kept : ∃ now seconds time, 300 ≤ seconds ∧ seconds ≤ 900 ∧ now ≤ time ∧ now ≤ host.clock ∧
    cached.expiresAtEpoch = BitVec.ofNat 64 (now + seconds) ∧
    HandedOut printer host cached.virtualKey time

-- Every cache file holds one whole entry.
def WholeFiles (host : Host) : Prop :=
  ∀ file inode, host.files file = some inode →
    ∃ cached, host.contents inode = [cached.document] ∧ Entry printer host cached

-- What a run has printed is a key that was handed out, and less than 900 seconds before the run
-- read the clock unless the file had changed between its two readings.
def Sound (log : List (Answer helper)) (host : Host) : Prop :=
  ∀ line ∈ log.filterMap printedLine, ∃ key time, line = key ++ "\n" ∧
    HandedOut printer host key time ∧
    ((log.filterMap readingOf).Pairwise (· = ·) →
      ∀ now ∈ log.filterMap dateOf, now < time + 900)

-- The last thing that a run has done is to print a line, the only one; `answer` says how that went.
def PrintedLast (log : List (Answer helper)) (answer : Except Failed Unit) : Prop :=
  ∃ line rest, log = ⟨.Print line, answer⟩ :: rest ∧ rest.filterMap printedLine = []

-- A run that has failed was on its last command, or has printed nothing and moved no file.
def Ends (log : List (Answer helper)) : Except Failed Unit → Prop
  | .ok () => PrintedLast log (.ok ())
  | .error status => PrintedLast log (.error status) ∨
      log.filterMap printedLine = [] ∧ log.filterMap movedTo = []

-- Time is far from where jq's numbers or the shell's would give out.
def clockLimit : Nat := 2 ^ 53 - 900

structure HostInv (host : Host) : Prop where
  whole : WholeFiles printer host
  published : ∀ file inode, host.files file = some inode →
    host.owners inode = none ∧ inode < host.inodes
  owned : ∀ inode who, host.owners inode = some who → inode < host.inodes
  clock : host.clock < clockLimit

-- What the other processes leave as it is.
structure Others (who : Nat) (before after : Host) : Prop where
  clock : before.clock ≤ after.clock
  responses : ∀ answer ∈ before.responses, answer ∈ after.responses
  owned : ∀ inode, before.owners inode = some who →
    after.owners inode = some who ∧ after.contents inode = before.contents inode

variable {printer}

theorem HandedOut.mono {before after : Host} {key : String} {time : Nat}
    (h : HandedOut printer before key time)
    (hresponses : ∀ answer ∈ before.responses, answer ∈ after.responses) :
    HandedOut printer after key time := by
  obtain ⟨response, hm, htoken⟩ := h.answered
  exact ⟨h.isKey, response, hresponses _ hm, htoken⟩

theorem Entry.mono {before after : Host} {cached : CachedKey} (h : Entry printer before cached)
    (hclock : before.clock ≤ after.clock)
    (hresponses : ∀ answer ∈ before.responses, answer ∈ after.responses) :
    Entry printer after cached := by
  obtain ⟨now, seconds, time, hlow, hhigh, htime, hnow, hexpires, hkey⟩ := h.kept
  exact ⟨now, seconds, time, hlow, hhigh, htime, hnow.trans hclock, hexpires,
    hkey.mono hresponses⟩

variable (printer)

def contract : Ownership helper Invocation Host Nat where
  owner := Invocation.process
  inv := HostInv printer
  rely := Others
  check _ log host := Sound printer log host
  refl _ _ := ⟨le_refl _, fun _ hm => hm, fun _ h => ⟨h, rfl⟩⟩
  trans who first second third h h' := ⟨h.clock.trans h'.clock,
    fun answer hm => h'.responses answer (h.responses answer hm), fun inode howner => by
      obtain ⟨hsecond, hcontents⟩ := h.owned inode howner
      obtain ⟨hthird, hcontents'⟩ := h'.owned inode hsecond
      exact ⟨hthird, hcontents'.trans hcontents⟩⟩

variable {printer}

section Steps

variable {host : Host}

-- A host whose files and owners are as before.
theorem HostInv.of_same {after : Host} (h : HostInv printer host)
    (hfiles : after.files = host.files) (hcontents : after.contents = host.contents)
    (hinodes : after.inodes = host.inodes) (howners : after.owners = host.owners)
    (hclock : host.clock ≤ after.clock) (hlimit : after.clock < clockLimit)
    (hresponses : ∀ answer ∈ host.responses, answer ∈ after.responses) :
    HostInv printer after := by
  refine ⟨?_, ?_, ?_, hlimit⟩
  · intro file inode hfile
    rw [hfiles] at hfile
    obtain ⟨cached, hdocument, hentry⟩ := h.whole file inode hfile
    exact ⟨cached, by rw [hcontents, hdocument], hentry.mono hclock hresponses⟩
  · intro file inode hfile
    rw [hfiles] at hfile
    rw [howners, hinodes]
    exact h.published file inode hfile
  · intro inode who howner
    rw [howners] at howner
    rw [hinodes]
    exact h.owned inode who howner

theorem mem_answered (host : Host) (response : Except Failed (List Value)) :
    ∀ answer ∈ host.responses, answer ∈ (host.answered response).responses := by
  intro answer hm
  cases response with
  | error _ => exact hm
  | ok _ => exact .tail _ hm

theorem guarantee_answered (h : HostInv printer host) (invocation : Invocation) :
    (contract printer).Guarantee invocation host (host.answered invocation.response) := by
  have hmem := mem_answered host invocation.response
  cases hresponse : invocation.response with
  | error _ => exact Ownership.guarantee_refl h
  | ok response =>
      rw [hresponse] at hmem
      exact ⟨h.of_same rfl rfl rfl rfl (le_refl _) h.clock hmem,
        fun _ _ => ⟨le_refl _, hmem, fun _ howner => ⟨howner, rfl⟩⟩⟩

theorem guarantee_makeTemp (h : HostInv printer host) (invocation : Invocation) :
    (contract printer).Guarantee invocation host (host.makeTemp invocation.process) := by
  have hne : ∀ {inode}, inode < host.inodes → inode ≠ host.inodes := fun hlt => Nat.ne_of_lt hlt
  refine ⟨⟨?_, ?_, ?_, h.clock⟩, ?_⟩
  · intro file inode hfile
    obtain ⟨cached, hdocument, hentry⟩ := h.whole file inode hfile
    refine ⟨cached, ?_, hentry.mono (le_refl _) fun _ hm => hm⟩
    rw [← hdocument]
    exact Function.update_of_ne (hne (h.published file inode hfile).2) _ _
  · intro file inode hfile
    obtain ⟨howner, hlt⟩ := h.published file inode hfile
    exact ⟨(Function.update_of_ne (hne hlt) _ _).trans howner, Nat.lt_succ_of_lt hlt⟩
  · intro inode who howner
    by_cases hinode : inode = host.inodes
    · rw [hinode]
      exact Nat.lt_succ_self _
    · have hbefore : host.owners inode = some who :=
        (Function.update_of_ne hinode _ _).symm.trans howner
      exact Nat.lt_succ_of_lt (h.owned inode who hbefore)
  · intro other _
    refine ⟨le_refl _, fun _ hm => hm, fun inode howner => ?_⟩
    have hinode := hne (h.owned inode other howner)
    exact ⟨(Function.update_of_ne hinode _ _).trans howner, Function.update_of_ne hinode _ _⟩

-- A process that writes its own temporary file.
theorem guarantee_write (h : HostInv printer host) {invocation : Invocation} {temp : Nat}
    (howned : host.owners temp = some invocation.process) (documents : List Value) :
    (contract printer).Guarantee invocation host (host.write temp documents) := by
  refine ⟨⟨?_, h.published, h.owned, h.clock⟩, ?_⟩
  · intro file inode hfile
    obtain ⟨cached, hdocument, hentry⟩ := h.whole file inode hfile
    have hinode : inode ≠ temp := by
      rintro rfl
      rw [(h.published file inode hfile).1] at howned
      cases howned
    refine ⟨cached, ?_, hentry.mono (le_refl _) fun _ hm => hm⟩
    exact (Function.update_of_ne hinode _ _).trans hdocument
  · intro other hother
    refine ⟨le_refl _, fun _ hm => hm, fun inode howner => ⟨howner, ?_⟩⟩
    have hinode : inode ≠ temp := by
      rintro rfl
      rw [howned] at howner
      exact hother (Option.some.inj howner).symm
    exact Function.update_of_ne hinode _ _

theorem files_rename {temp inode : Nat} {file other : String}
    (h : (host.rename temp file).files other = some inode) :
    inode = temp ∨ host.files other = some inode := by
  simp only [Host.rename, Function.update_apply] at h
  split at h
  · exact .inl (Option.some.inj h).symm
  · exact .inr h

-- A process that publishes its own temporary file, which it has written in full.
theorem guarantee_rename (h : HostInv printer host) {invocation : Invocation} {temp : Nat}
    (howned : host.owners temp = some invocation.process) {cached : CachedKey}
    (hwritten : host.contents temp = [cached.document]) (hentry : Entry printer host cached)
    (file : String) :
    (contract printer).Guarantee invocation host (host.rename temp file) := by
  refine ⟨⟨?_, ?_, ?_, h.clock⟩, ?_⟩
  · intro other inode hfile
    rcases files_rename hfile with rfl | hbefore
    · exact ⟨cached, hwritten, hentry.mono (le_refl _) fun _ hm => hm⟩
    · obtain ⟨old, hdocument, hold⟩ := h.whole other inode hbefore
      exact ⟨old, hdocument, hold.mono (le_refl _) fun _ hm => hm⟩
  · intro other inode hfile
    rcases files_rename hfile with rfl | hbefore
    · exact ⟨Function.update_self _ _ _, h.owned inode _ howned⟩
    · obtain ⟨howner, hlt⟩ := h.published other inode hbefore
      have hinode : inode ≠ temp := by
        rintro rfl
        rw [howner] at howned
        cases howned
      exact ⟨(Function.update_of_ne hinode _ _).trans howner, hlt⟩
  · intro inode who howner
    by_cases hinode : inode = temp
    · rw [hinode] at howner ⊢
      exact h.owned temp _ howned
    · exact h.owned inode who ((Function.update_of_ne hinode _ _).symm.trans howner)
  · intro other hother
    refine ⟨le_refl _, fun _ hm => hm, fun inode howner => ⟨?_, rfl⟩⟩
    have hinode : inode ≠ temp := by
      rintro rfl
      rw [howned] at howner
      exact hother (Option.some.inj howner).symm
    exact (Function.update_of_ne hinode _ _).trans howner

end Steps

section Readings

variable {host : Host} {documents : List Value}

theorem holds_lessOrEqual {a b : Nat} (ha : a < 2 ^ 63) (hb : b < 2 ^ 63) :
    holds (lessOrEqual (.ofNat a) (.ofNat b)) = decide (a ≤ b) := by
  have hint : ∀ {n : Nat}, n < 2 ^ 63 → (BitVec.ofNat 64 n).toInt = n := by
    intro n hn
    rw [BitVec.toInt_ofNat', Int.bmod_eq_of_le (by omega) (by omega)]
  simp only [lessOrEqual, constant_ofNat, holds]
  rw [Bool.eq_iff_iff, decide_eq_true_eq]
  show (BitVec.ofNat 64 a).sle (BitVec.ofNat 64 b) = true ↔ a ≤ b
  rw [BitVec.sle_iff_toInt_le, hint ha, hint hb, Int.ofNat_le]

theorem storeCachedKey_error (key : String) (now : Nat) {ttlSeconds : Numeral}
    {error : ArithmeticError} (h : constant ttlSeconds = .error error) :
    storeCachedKey key (.ofNat now) ttlSeconds = .error error := by
  simp only [storeCachedKey, sum, constant_ofNat, h]
  rfl

theorem storeCachedKey_ok (key : String) (now : Nat) {ttlSeconds : Numeral} {seconds : Nat}
    (h : constant ttlSeconds = .ok (BitVec.ofNat 64 seconds)) :
    storeCachedKey key (.ofNat now) ttlSeconds = .ok ⟨key, BitVec.ofNat 64 (now + seconds)⟩ := by
  simp only [storeCachedKey, sum, constant_ofNat, h]
  rw [BitVec.ofNat_add]
  rfl

theorem captured_handedOut {key : String} {time : Nat} (h : HandedOut printer host key time) :
    captured (key ++ "\n") = key := by
  obtain ⟨response, -, rfl⟩ := h.answered
  exact captured_captured _

-- What a reading of a cache file gives: nothing without the file, and else one entry.
def Stored (printer : Jq.Printer) (host : Host) (documents : List Value) : Prop :=
  documents = [] ∨ ∃ cached, documents = [cached.document] ∧ Entry printer host cached

theorem HostInv.stored (h : HostInv printer host) (file : String) :
    Stored printer host (host.documents file) := by
  unfold Host.documents
  split
  · exact .inl rfl
  · next inode hfile => exact .inr (h.whole file inode hfile)

theorem document_injective {first second : CachedKey}
    (h : first.document = second.document) : first = second := by
  obtain ⟨key, expires⟩ := first
  obtain ⟨key', expires'⟩ := second
  simp only [CachedKey.document, Value.Mapping.injEq, List.cons.injEq, Prod.mk.injEq,
    Value.Str.injEq, Value.Integer.injEq, true_and, and_true] at h
  rw [h.1, BitVec.eq_of_toInt_eq h.2]

theorem readField_virtualKey {cached : CachedKey}
    (hplain : captured (cached.virtualKey ++ "\n") = cached.virtualKey) :
    readField printer ["virtual_key"] [cached.document] = cached.virtualKey := by
  rw [readField, Jq.output_of_alternatives printer (v := .Str cached.virtualKey) rfl]
  exact hplain

theorem Stored.virtualKey (h : Stored printer host documents)
    (hkey : readField printer ["virtual_key"] documents ≠ "") :
    ∃ cached, documents = [cached.document] ∧ Entry printer host cached ∧
      readField printer ["virtual_key"] documents = cached.virtualKey := by
  rcases h with rfl | ⟨cached, rfl, hentry⟩
  · exact absurd rfl hkey
  · refine ⟨cached, rfl, hentry, ?_⟩
    obtain ⟨_, _, _, -, -, -, -, -, hhanded⟩ := hentry.kept
    exact readField_virtualKey (captured_handedOut hhanded)

theorem readField_expires {cached : CachedKey} {deadline : Nat}
    (hexpires : cached.expiresAtEpoch = BitVec.ofNat 64 deadline) (hlimit : deadline < 2 ^ 53) :
    readField printer ["expires_at_epoch"] [cached.document] = deadline.repr := by
  have hint : cached.expiresAtEpoch.toInt = (deadline : Nat) := by
    rw [hexpires, BitVec.toInt_ofNat', Int.bmod_eq_of_le (by omega) (by omega)]
  rw [readField, Jq.output_of_alternatives printer (v := .Integer cached.expiresAtEpoch.toInt) rfl,
    hint, Jq.raw_integer, printer.write_integer _ hlimit]
  exact captured_printLine (.ofNat deadline)

-- An expiry that the comparison has let pass belongs to a key handed out not long before.
theorem Stored.unexpired (h : Stored printer host documents) (hclock : host.clock < clockLimit)
    {expires : Numeral} {now : Nat} (hnow : now < clockLimit)
    (hread : Numeral.ofString? (readField printer ["expires_at_epoch"] documents) = some expires)
    (hless : ¬holds (lessOrEqual expires (.ofNat now)) = true) :
    ∃ (cached : CachedKey) (time : Nat), documents = [cached.document] ∧
      HandedOut printer host cached.virtualKey time ∧ now < time + 900 := by
  rcases h with rfl | ⟨cached, rfl, hentry⟩
  · cases hread
  · obtain ⟨start, seconds, time, -, hhigh, htime, hstart, hexpires, hhanded⟩ := hentry.kept
    unfold clockLimit at hclock hnow
    rw [readField_expires hexpires (by omega)] at hread
    have hsame : expires = .ofNat (start + seconds) :=
      Option.some.inj (hread.symm.trans (Numeral.ofString?_text (.ofNat (start + seconds))))
    rw [hsame, holds_lessOrEqual (by omega) (by omega), decide_eq_true_eq] at hless
    exact ⟨cached, time, rfl, hhanded, by omega⟩

end Readings

end Scripts.ApiKeyHelper
