import ClaudeCodeProxy.Scripts.CacheFiles

-- Helpers that run side by side on one machine, on caches that they may share.

namespace Scripts.ApiKeyHelper

open Bash Effects Python

-- A run that has printed nothing yet.
structure Quiet (log : List (Answer helper)) (dates : List Nat) (readings : List (List Value)) :
    Prop where
  printed : log.filterMap printedLine = []
  dates : log.filterMap dateOf = dates
  readings : log.filterMap readingOf = readings

-- A run that has not replaced its cache file either.
structure Untouched (log : List (Answer helper)) (dates : List Nat)
    (readings : List (List Value)) : Prop extends Quiet log dates readings where
  moved : log.filterMap movedTo = []

variable {printer : Jq.Printer} {invocation : Invocation} {log : List (Answer helper)}
  {host : Host} {dates : List Nat} {readings : List (List Value)} {rest : Helper Unit} {now : Nat}

abbrev SafeFrom (printer : Jq.Printer) (invocation : Invocation) (log : List (Answer helper))
    (program : Helper Unit) (host : Host) : Prop :=
  (contract printer).Safe invocation.handler invocation (fun log result _ => Ends log result) log
    program host

theorem Quiet.sound (h : Quiet log dates readings) : Sound printer log host := by
  intro line hm
  rw [h.printed] at hm
  cases hm

theorem Quiet.cons (h : Quiet log dates readings) {answer : Answer helper}
    (hprinted : printedLine answer = none) (hdate : dateOf answer = none)
    (hreading : readingOf answer = none) : Quiet (answer :: log) dates readings :=
  ⟨(List.filterMap_cons_none hprinted).trans h.printed,
    (List.filterMap_cons_none hdate).trans h.dates,
    (List.filterMap_cons_none hreading).trans h.readings⟩

theorem Untouched.cons (h : Untouched log dates readings) {answer : Answer helper}
    (hprinted : printedLine answer = none) (hdate : dateOf answer = none)
    (hreading : readingOf answer = none) (hmoved : movedTo answer = none) :
    Untouched (answer :: log) dates readings :=
  ⟨h.toQuiet.cons hprinted hdate hreading, (List.filterMap_cons_none hmoved).trans h.moved⟩

theorem Untouched.exit (h : Untouched log dates readings) (status : Failed) :
    SafeFrom printer invocation log (exit status) host :=
  .raise fun _ _ _ => ⟨h.sound, .inr ⟨h.printed, h.moved⟩⟩

theorem safe_requireCommand (name : String) (hlog : Untouched log [] [])
    (hrest : ∀ log now, Untouched log [] [] → SafeFrom printer invocation log rest now) :
    SafeFrom printer invocation log (requireCommand name >>= fun _ => rest) host := by
  refine .read (fun _ => invocation.commands name) (fun _ => rfl) fun now _ _ => ?_
  refine ⟨hlog.sound, ?_⟩
  cases invocation.commands name with
  | false => exact (hlog.cons rfl rfl rfl rfl).exit one
  | true => exact hrest _ _ (hlog.cons rfl rfl rfl rfl)

theorem Quiet.sound_printed {key : String} {time : Nat} (hlog : Quiet log [now] readings)
    (hkey : HandedOut printer host key time)
    (hfresh : readings.Pairwise (· = ·) → now < time + 900) (answer : Except Failed Unit) :
    Sound printer (⟨.Print (key ++ "\n"), answer⟩ :: log) host := by
  intro line hm
  have hline : line = key ++ "\n" := by
    have hprinted : (⟨.Print (key ++ "\n"), answer⟩ :: log : List (Answer helper)).filterMap
        printedLine = [key ++ "\n"] := congrArg ((key ++ "\n") :: ·) hlog.printed
    rw [hprinted] at hm
    exact List.mem_singleton.mp hm
  refine ⟨key, time, hline, hkey, fun hsame date hdate => ?_⟩
  have hsame' : readings.Pairwise (· = ·) := hlog.readings ▸ hsame
  have hdate' : date ∈ [now] := hlog.dates ▸ hdate
  rw [List.mem_singleton.mp hdate']
  exact hfresh hsame'

theorem safe_printKey {key : String} {time : Nat} (hlog : Quiet log [now] readings)
    (hkey : HandedOut printer host key time)
    (hfresh : readings.Pairwise (· = ·) → now < time + 900) :
    SafeFrom printer invocation log (printKey key) host := by
  refine .read (fun _ => invocation.print) (fun _ => rfl) fun first hfirst _ =>
    ⟨hlog.sound, ?_⟩
  have hkey' : ∀ later : Host, Others invocation.process first later →
      HandedOut printer later key time :=
    fun _ hlater => (hkey.mono hfirst.responses).mono hlater.responses
  cases invocation.print with
  | error status =>
      exact .raise fun later hlater _ => ⟨hlog.sound_printed (hkey' later hlater) hfresh _,
        .inl ⟨_, log, rfl, hlog.printed⟩⟩
  | ok _ =>
      exact .return fun later hlater _ => ⟨hlog.sound_printed (hkey' later hlater) hfresh _,
        _, log, rfl, hlog.printed⟩

-- What the rest of a run needs once its cache file has been seen to.
def Continues (printer : Jq.Printer) (invocation : Invocation) (rest : Helper Unit) (host : Host)
    (dates : List Nat) (readings : List (List Value)) : Prop :=
  ∀ log later, Quiet log dates readings →
    (∀ answer ∈ host.responses, answer ∈ later.responses) →
    SafeFrom printer invocation log rest later

theorem Continues.mono {later : Host} (h : Continues printer invocation rest host dates readings)
    (hresponses : ∀ answer ∈ host.responses, answer ∈ later.responses) :
    Continues printer invocation rest later dates readings :=
  fun log next hlog hnext => h log next hlog fun answer hm => hnext answer (hresponses answer hm)

theorem safe_move (path : String) {temp : Nat} {cached : CachedKey}
    (hlog : Untouched log dates readings) (howned : host.owners temp = some invocation.process)
    (hwritten : host.contents temp = [cached.document]) (hentry : Entry printer host cached)
    (hrest : Continues printer invocation rest host dates readings) :
    SafeFrom printer invocation log
      ((call (.Move temp path) >>= fun moved : Except Failed Unit => orExit moved) >>=
        fun _ => rest) host := by
  refine .step fun now hr hi => ?_
  obtain ⟨howned, hcontents⟩ := hr.owned temp howned
  refine ⟨hlog.sound, ?_⟩
  simp only [Invocation.handler]
  cases hmove : invocation.move with
  | error status => exact ⟨Ownership.guarantee_refl hi, (hlog.cons rfl rfl rfl rfl).exit status⟩
  | ok destination =>
      have hnext : ∀ later : Host, later.responses = now.responses →
          SafeFrom printer invocation (⟨.Move temp path, .ok ()⟩ :: log) rest later := by
        intro later hsame
        refine hrest _ _ (hlog.toQuiet.cons rfl rfl rfl) fun answer hm => ?_
        rw [hsame]
        exact hr.responses answer hm
      cases destination with
      | Path => exact ⟨guarantee_rename hi howned (hcontents.trans hwritten)
          (hentry.mono hr.clock hr.responses) (invocation.locate path), hnext _ rfl⟩
      | Directory => exact ⟨Ownership.guarantee_refl hi, hnext _ rfl⟩

theorem safe_write (path : String) {temp : Nat} {cached : CachedKey}
    (hlog : Untouched log dates readings) (howned : host.owners temp = some invocation.process)
    (hentry : Entry printer host cached)
    (hrest : Continues printer invocation rest host dates readings) :
    SafeFrom printer invocation log
      ((call (.WriteJson temp cached.document) >>= fun written : Except Failed Unit => do
        orExit written
        orExit (← call (.Move temp path))) >>= fun _ => rest) host := by
  refine .step fun now hr hi => ?_
  obtain ⟨howned, -⟩ := hr.owned temp howned
  refine ⟨hlog.sound, ?_⟩
  simp only [Invocation.handler]
  cases hwrite : invocation.writeJson with
  | error failure =>
      obtain ⟨status, left⟩ := failure
      exact ⟨guarantee_write hi howned left, (hlog.cons rfl rfl rfl rfl).exit status⟩
  | ok done =>
      refine ⟨guarantee_write hi howned [cached.document], ?_⟩
      exact safe_move path (hlog.cons rfl rfl rfl rfl) howned (Function.update_self _ _ _)
        (hentry.mono hr.clock hr.responses) (hrest.mono hr.responses)

-- The temporary file is the run's own from `mktemp` to `mv`.
theorem safe_replaceCacheFile (path : String) {cached : CachedKey}
    (hlog : Untouched log dates readings) (hentry : Entry printer host cached)
    (hrest : Continues printer invocation rest host dates readings) :
    SafeFrom printer invocation log (replaceCacheFile path cached >>= fun _ => rest) host := by
  refine .read (fun _ => invocation.makeDirectory) (fun _ => rfl) fun first hfirst _ => ?_
  refine ⟨hlog.sound, ?_⟩
  cases hdirectory : invocation.makeDirectory with
  | error status => exact (hlog.cons rfl rfl rfl rfl).exit status
  | ok done =>
      have hlog' : Untouched (⟨.MakeDirectory (dirname path), .ok done⟩ :: log) dates readings :=
        hlog.cons rfl rfl rfl rfl
      refine .step fun now hr hi => ?_
      refine ⟨hlog'.sound, ?_⟩
      simp only [Invocation.handler]
      cases htemp : invocation.makeTemp with
      | error status =>
          exact ⟨Ownership.guarantee_refl hi, (hlog'.cons rfl rfl rfl rfl).exit status⟩
      | ok _ =>
          refine ⟨guarantee_makeTemp hi invocation, ?_⟩
          have hresponses : ∀ answer ∈ host.responses, answer ∈ now.responses :=
            fun answer hm => hr.responses answer (hfirst.responses answer hm)
          exact safe_write path (hlog'.cons rfl rfl rfl rfl) (Function.update_self _ _ _)
            (hentry.mono (hfirst.clock.trans hr.clock) hresponses) (hrest.mono hresponses)

theorem entry_of_stored {virtualKey : String} {ttlSeconds : Numeral} {cached : CachedKey}
    {start time : Nat} (hstored : storeCachedKey virtualKey (.ofNat start) ttlSeconds = .ok cached)
    {environment : Option String} (httl : ttlSeconds = clampTtl (requestedTtl environment))
    (hstart : start ≤ time) (htime : start ≤ host.clock)
    (hkey : HandedOut printer host virtualKey time) : Entry printer host cached := by
  by_cases hmalformed : MalformedOctal (requestedTtl environment).text
  · have herror := constant_error hmalformed
    rw [httl, clampTtl_of_malformed hmalformed, storeCachedKey_error _ _ herror] at hstored
    cases hstored
  · obtain ⟨seconds, hlow, hhigh, hseconds⟩ := constant_clampTtl hmalformed
    rw [httl, storeCachedKey_ok _ _ hseconds] at hstored
    cases hstored
    exact ⟨start, seconds, time, hlow, hhigh, hstart, htime, rfl, hkey⟩

theorem safe_storeKey (path : String) {virtualKey : String} {environment : Option String}
    {start time : Nat} (hlog : Untouched log dates readings) (hstart : start ≤ time)
    (htime : start ≤ host.clock) (hkey : HandedOut printer host virtualKey time)
    (hrest : Continues printer invocation rest host dates readings) :
    SafeFrom printer invocation log
      (storeKey path virtualKey start (clampTtl (requestedTtl environment)) >>= fun _ => rest)
      host := by
  unfold storeKey
  cases hstored : storeCachedKey virtualKey (.ofNat start)
      (clampTtl (requestedTtl environment)) with
  | error _ => exact hrest log host hlog.toQuiet fun _ hm => hm
  | ok cached =>
      exact safe_replaceCacheFile path hlog (entry_of_stored hstored rfl hstart htime hkey) hrest

theorem printToken_cases (token : String) :
    printToken token = exit one ∨
      startsWithVk token = true ∧ printToken token = .Return (token ++ "\n") := by
  unfold printToken
  split
  · exact .inl rfl
  · next hgood =>
      rw [not_or] at hgood
      exact .inr ⟨by simpa using hgood.2, rfl⟩

-- What follows the Token Service's answer.
theorem safe_answered {response : List Value} {environment : Environment} {time : Nat}
    (path : String) (hlog : Untouched log [now] readings) (hnow : now ≤ time)
    (hclock : now ≤ host.clock) (hanswered : (time, response) ∈ host.responses) :
    SafeFrom printer invocation log
      (printToken (tokenOf printer response) >>= keepAndPrint environment path now) host := by
  rcases printToken_cases (tokenOf printer response) with hexit | ⟨hkey, htoken⟩
  · rw [hexit]
    exact hlog.exit one
  · have hhanded : HandedOut printer host (tokenOf printer response) time :=
      ⟨hkey, response, hanswered, rfl⟩
    rw [htoken, Program.return_bind, keepAndPrint, captured_handedOut hhanded]
    refine safe_storeKey path hlog hnow hclock hhanded fun log later hlater hresponses => ?_
    exact safe_printKey hlater (hhanded.mono hresponses) fun _ => by omega

theorem safe_refreshKey (environment : Environment) (tokenServiceUrl awsRegion path : String)
    (hlog : Untouched log [now] readings) (hclock : now ≤ host.clock) :
    SafeFrom printer invocation log
      (refreshKey printer environment tokenServiceUrl awsRegion path now) host := by
  refine .read (fun _ => invocation.credentials) (fun _ => rfl) fun first hfirst _ => ?_
  refine ⟨hlog.sound, ?_⟩
  cases hcredentials : invocation.credentials with
  | error status => exact (hlog.cons rfl rfl rfl rfl).exit one
  | ok done =>
      refine .call (fun _ => invocation.response) (fun host => host.answered invocation.response)
        (fun _ => rfl) fun asked hasked hi => ?_
      refine ⟨(hlog.cons rfl rfl rfl rfl).sound, guarantee_answered hi invocation, ?_⟩
      cases hresponse : invocation.response with
      | error status => exact ((hlog.cons rfl rfl rfl rfl).cons rfl rfl rfl rfl).exit one
      | ok response =>
          have htime : now ≤ asked.clock := hclock.trans (hfirst.clock.trans hasked.clock)
          exact safe_answered path ((hlog.cons rfl rfl rfl rfl).cons rfl rfl rfl rfl) htime htime
            (.head _)

theorem cachedKey_some {virtualKey expiresAtEpoch stdout : String}
    (h : cachedKey virtualKey expiresAtEpoch now = some stdout) :
    stdout = virtualKey ++ "\n" ∧ virtualKey ≠ "" ∧
      ∃ expires, Numeral.ofString? expiresAtEpoch = some expires ∧
        ¬holds (lessOrEqual expires (.ofNat now)) = true := by
  unfold cachedKey at h
  split at h
  · cases h
  · next hempty =>
      split at h
      · cases h
      · split at h
        · cases h
        · next expires hexpires =>
            split at h
            · cases h
            · next hless =>
                cases h
                exact ⟨rfl, fun heq => hempty (.inl heq), expires, hexpires, hless⟩

-- The two readings may be of two versions of the file; each version is one whole entry.
theorem sound_of_readings {first second : List Value} {middle : Host} {stdout : String}
    (hfirst : Stored printer middle first) (hsecond : Stored printer host second)
    (hresponses : ∀ answer ∈ middle.responses, answer ∈ host.responses)
    (hclock : host.clock < clockLimit) (hnow : now < clockLimit)
    (hload : cachedKey (readField printer ["virtual_key"] first)
      (readField printer ["expires_at_epoch"] second) now = some stdout) :
    ∃ key time, stdout = key ++ "\n" ∧ HandedOut printer host key time ∧
      (first = second → now < time + 900) := by
  obtain ⟨hstdout, hkey, expires, hread, hless⟩ := cachedKey_some hload
  obtain ⟨cached, hdocument, hentry, hsame⟩ := hfirst.virtualKey hkey
  obtain ⟨cached', time', hdocument', hhanded', hfresh⟩ :=
    hsecond.unexpired hclock hnow hread hless
  obtain ⟨_, _, time, -, -, -, -, -, hhanded⟩ := hentry.kept
  rw [hsame] at hstdout
  by_cases heq : first = second
  · have hcached : cached' = cached := by
      apply document_injective
      rw [hdocument, hdocument'] at heq
      exact (List.head_eq_of_cons_eq heq).symm
    exact ⟨cached.virtualKey, time', hstdout, hcached ▸ hhanded', fun _ => hfresh⟩
  · exact ⟨cached.virtualKey, time, hstdout, hhanded.mono hresponses, fun hsame => absurd hsame heq⟩

theorem safe_loadCachedKey (path : String) {rest : Option String → Helper Unit}
    (hlog : Untouched log [now] []) (hnow : now < clockLimit) (hclock : now ≤ host.clock)
    (hnone : ∀ log host readings, Untouched log [now] readings → now ≤ host.clock →
      SafeFrom printer invocation log (rest none) host)
    (hsome : ∀ log host readings key time, Quiet log [now] readings →
      HandedOut printer host key time → (readings.Pairwise (· = ·) → now < time + 900) →
      SafeFrom printer invocation log (rest (some (key ++ "\n"))) host) :
    SafeFrom printer invocation log (loadCachedKey printer path now >>= rest) host := by
  let file := invocation.locate path
  refine .read (fun host => (host.files file).isSome) (fun _ => rfl) fun host₁ hr₁ _ => ?_
  refine ⟨hlog.sound, ?_⟩
  have hclock₁ := hclock.trans hr₁.clock
  cases hpresent : (host₁.files file).isSome with
  | false => exact hnone _ host₁ [] (hlog.cons rfl rfl rfl rfl) hclock₁
  | true =>
      have hlog₁ : Untouched (⟨.IsFile path, true⟩ :: log) [now] [] := hlog.cons rfl rfl rfl rfl
      refine .read (fun host => host.documents file) (fun _ => rfl) fun host₂ hr₂ hi₂ => ?_
      have hlog₂ : Untouched (⟨.ReadJson path, host₂.documents file⟩ :: ⟨.IsFile path, true⟩ :: log)
          [now] [host₂.documents file] :=
        ⟨⟨hlog₁.printed, hlog₁.dates, congrArg (_ :: ·) hlog₁.readings⟩, hlog₁.moved⟩
      refine ⟨hlog₁.sound, .read (fun host => host.documents file) (fun _ => rfl)
        fun host₃ hr₃ hi₃ => ⟨hlog₂.sound, ?_⟩⟩
      have hlog₃ : Untouched (⟨.ReadJson path, host₃.documents file⟩ ::
          ⟨.ReadJson path, host₂.documents file⟩ :: ⟨.IsFile path, true⟩ :: log)
          [now] [host₃.documents file, host₂.documents file] :=
        ⟨⟨hlog₂.printed, hlog₂.dates, congrArg (_ :: ·) hlog₂.readings⟩, hlog₂.moved⟩
      have hclock₃ := hclock₁.trans (hr₂.clock.trans hr₃.clock)
      change SafeFrom printer invocation _ (rest (cachedKey
        (readField printer ["virtual_key"] (host₂.documents file))
        (readField printer ["expires_at_epoch"] (host₃.documents file)) now)) host₃
      cases hload : cachedKey (readField printer ["virtual_key"] (host₂.documents file))
          (readField printer ["expires_at_epoch"] (host₃.documents file)) now with
      | none => exact hnone _ _ _ hlog₃ hclock₃
      | some stdout =>
          obtain ⟨key, time, rfl, hkey, hfresh⟩ := sound_of_readings (hi₂.stored file)
            (hi₃.stored file) hr₃.responses hi₃.clock hnow hload
          refine hsome _ _ _ key time hlog₃.toQuiet hkey fun hsame => hfresh ?_
          exact (List.rel_of_pairwise_cons hsame (.head _)).symm

theorem safe_obtainKey (environment : Environment) (tokenServiceUrl awsRegion path : String)
    (hlog : Untouched log [now] []) (hnow : now < clockLimit) (hclock : now ≤ host.clock) :
    SafeFrom printer invocation log
      (obtainKey printer environment tokenServiceUrl awsRegion path now) host := by
  refine safe_loadCachedKey path hlog hnow hclock ?_ ?_
  · intro log host readings hlog hclock
    exact safe_refreshKey environment tokenServiceUrl awsRegion path hlog hclock
  · intro log host readings key time hlog hkey hfresh
    change SafeFrom printer invocation log (printKey (captured (key ++ "\n"))) host
    rw [captured_handedOut hkey]
    exact safe_printKey hlog hkey hfresh

theorem safe_apiKeyHelper (environment : Environment) (host : Host) :
    SafeFrom printer invocation [] (apiKeyHelper printer environment) host := by
  have hstart : Untouched [] [] [] := ⟨⟨rfl, rfl, rfl⟩, rfl⟩
  refine safe_requireCommand "aws" hstart fun _ _ h => ?_
  refine safe_requireCommand "curl" h fun _ _ h => ?_
  refine safe_requireCommand "jq" h fun log host hlog => ?_
  cases hpath : cachePathOf environment with
  | error status => exact hlog.exit status
  | ok path =>
      refine .read (fun host => invocation.date.map fun _ => host.clock) (fun _ => rfl)
        fun later _ hi => ⟨hlog.sound, ?_⟩
      cases hdate : invocation.date with
      | error status => exact (hlog.cons rfl rfl rfl rfl).exit status
      | ok done =>
          have hlog' : Untouched (⟨.Date, .ok later.clock⟩ :: log) [later.clock] [] :=
            ⟨⟨hlog.printed, congrArg (_ :: ·) hlog.dates, hlog.readings⟩, hlog.moved⟩
          change SafeFrom printer invocation _ (if _ then exit one else
            obtainKey printer environment _ _ path later.clock) later
          split
          · exact hlog'.exit one
          · exact safe_obtainKey environment _ _ path hlog' hi.clock (le_refl _)

section Runs

-- Processes have numbers of their own.
def Scheduled (pool : Pool helper Failed Unit Invocation Host) : Event Invocation Nat → Prop
  | .Spawn invocation => ∀ thread ∈ pool.threads, thread.request.process ≠ invocation.process
  | .Step _ => True
  | .Environment seconds => pool.shared.clock + seconds < clockLimit

-- Every helper keeps the contract, whatever the others do between its commands.
theorem helpers_poolSafe (printer : Jq.Printer) (clock : Nat) (hclock : clock < clockLimit)
    (events : List (Event Invocation Nat))
    (hscheduled : Admissible (helpers printer).step Scheduled ⟨cleanHost clock, []⟩ events) :
    (contract printer).PoolSafe (helpers printer) (fun _ log result _ => Ends log result)
      ((helpers printer).exec ⟨cleanHost clock, []⟩ events) := by
  have hinv : HostInv printer (cleanHost clock) := by
    refine ⟨?_, ?_, ?_, hclock⟩
    · intro path inode hfile
      cases hfile
    · intro path inode hfile
      cases hfile
    · intro inode who howner
      cases howner
  refine Ownership.exec_poolSafe hinv rfl (fun pool invocation hok => hok) ?_ ?_ events hscheduled
  · intro pool invocation _ _
    exact safe_apiKeyHelper invocation.environment pool.shared
  · intro pool seconds hok hi
    have hlater : pool.shared.clock ≤ pool.shared.clock + seconds := Nat.le_add_right _ _
    exact ⟨hi.of_same rfl rfl rfl rfl hlater hok fun _ hm => hm,
      fun _ => ⟨hlater, fun _ hm => hm, fun _ howner => ⟨howner, rfl⟩⟩⟩

theorem helpers_sound (printer : Jq.Printer) (clock : Nat) (hclock : clock < clockLimit)
    (events : List (Event Invocation Nat))
    (hscheduled : Admissible (helpers printer).step Scheduled ⟨cleanHost clock, []⟩ events) :
    WholeFiles printer ((helpers printer).exec ⟨cleanHost clock, []⟩ events).shared ∧
    ∀ thread ∈ ((helpers printer).exec ⟨cleanHost clock, []⟩ events).threads,
      Sound printer thread.log ((helpers printer).exec ⟨cleanHost clock, []⟩ events).shared ∧
      (thread.program = .Return () → Ends thread.log (.ok ())) ∧
      ∀ status, thread.program = .Raise status → Ends thread.log (.error status) := by
  have hsafe := helpers_poolSafe printer clock hclock events hscheduled
  exact ⟨hsafe.inv.whole, fun thread hm => ⟨hsafe.check hm, fun hp => hsafe.post_ok hm hp,
    fun status hp => hsafe.post_error hm hp⟩⟩

instance (pool : Pool helper Failed Unit Invocation Host) (event : Event Invocation Nat) :
    Decidable (Scheduled pool event) :=
  match event with
  | .Spawn invocation =>
      inferInstanceAs (Decidable (∀ thread ∈ pool.threads,
        thread.request.process ≠ invocation.process))
  | .Step _ => isTrue trivial
  | .Environment seconds => inferInstanceAs (Decidable (pool.shared.clock + seconds < clockLimit))

-- Two helpers fetch and replace the same file, and a third one comes a minute later.
def sampleSchedule : List (Event Invocation Nat) :=
  [.Spawn (sampleInvocation 1 "vk_first"), .Spawn (sampleInvocation 2 "vk_second")] ++
  (List.replicate 12 [.Step 0, .Step 1]).flatten ++
  [.Environment 60, .Spawn (sampleInvocation 3 "vk_third")] ++ List.replicate 8 (.Step 2)

theorem helpers_sound_sample :
    WholeFiles Jq.outlinePrinter ((helpers Jq.outlinePrinter).exec ⟨cleanHost 1774742400, []⟩
      sampleSchedule).shared :=
  (helpers_sound Jq.outlinePrinter 1774742400 (by decide) sampleSchedule (by decide)).1

end Runs

end Scripts.ApiKeyHelper
