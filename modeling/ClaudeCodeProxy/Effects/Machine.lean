import ClaudeCodeProxy.Effects.History

-- Machines that answer one input after the other.

namespace Effects

variable {σ τ ω ι ο : Type}

-- The answer to an input, and the state after it.
abbrev Machine (σ ι ο : Type) : Type := σ → ι → ο × σ

namespace Machine

def final (machine : Machine σ ι ο) (start : σ) (inputs : List ι) : σ :=
  exec (fun state input => (machine state input).2) start inputs

-- The inputs of a run with their answers.
def transcript (machine : Machine σ ι ο) : σ → List ι → List (ι × ο)
  | _, [] => []
  | state, input :: inputs =>
      (input, (machine state input).1) :: transcript machine (machine state input).2 inputs

variable (machine : Machine σ ι ο) (start : σ)

@[simp] theorem final_nil : machine.final start [] = start := rfl

@[simp] theorem final_cons (input : ι) (inputs : List ι) :
    machine.final start (input :: inputs) = machine.final (machine start input).2 inputs := rfl

@[simp] theorem final_append (first second : List ι) :
    machine.final start (first ++ second) = machine.final (machine.final start first) second :=
  exec_append _ _ _ _

@[simp] theorem transcript_nil : machine.transcript start [] = [] := rfl

@[simp] theorem transcript_cons (input : ι) (inputs : List ι) :
    machine.transcript start (input :: inputs) =
      (input, (machine start input).1) :: machine.transcript (machine start input).2 inputs := rfl

@[simp] theorem transcript_append (first second : List ι) :
    machine.transcript start (first ++ second) =
      machine.transcript start first ++ machine.transcript (machine.final start first) second := by
  induction first generalizing start with
  | nil => rfl
  | cons input first ih => simp [ih]

@[simp] theorem map_fst_transcript (inputs : List ι) :
    (machine.transcript start inputs).map Prod.fst = inputs := by
  induction inputs generalizing start with
  | nil => rfl
  | cons input inputs ih => simp [ih]

@[simp] theorem length_transcript (inputs : List ι) :
    (machine.transcript start inputs).length = inputs.length := by
  induction inputs generalizing start with
  | nil => rfl
  | cons input inputs ih => simp [ih]

-- The entry of a transcript is the answer given in the state after those before it.
theorem transcript_split {inputs : List ι} {past rest : List (ι × ο)} {entry : ι × ο}
    (h : machine.transcript start inputs = past ++ entry :: rest) :
    inputs = past.map Prod.fst ++ entry.1 :: rest.map Prod.fst ∧
      past = machine.transcript start (past.map Prod.fst) ∧
      entry.2 = (machine (machine.final start (past.map Prod.fst)) entry.1).1 ∧
      rest = machine.transcript
        (machine (machine.final start (past.map Prod.fst)) entry.1).2 (rest.map Prod.fst) := by
  have hinputs : inputs = past.map Prod.fst ++ entry.1 :: rest.map Prod.fst := by
    have hmap := congrArg (List.map Prod.fst) h
    simpa using hmap
  rw [hinputs, transcript_append, transcript_cons] at h
  have hlength : (machine.transcript start (past.map Prod.fst)).length = past.length := by
    rw [length_transcript, List.length_map]
  obtain ⟨hpast, hrest⟩ := List.append_inj h hlength
  obtain ⟨hentry, hrest⟩ := List.cons.inj hrest
  exact ⟨hinputs, hpast.symm, (congrArg Prod.snd hentry).symm, hrest.symm⟩

-- Two machines whose related states answer alike, and stay related, answer a whole
-- run alike. The relation may speak of the inputs that led to the states.
theorem transcript_eq_of_related (first : Machine σ ι ο) (second : Machine τ ι ο)
    (rel : List ι → σ → τ → Prop) {start : σ} {start' : τ} (inputs : List ι)
    (hstart : rel [] start start')
    (hstep : ∀ past input, past ++ [input] <+: inputs → ∀ state state', rel past state state' →
      (first state input).1 = (second state' input).1 ∧
        rel (past ++ [input]) (first state input).2 (second state' input).2) :
    first.transcript start inputs = second.transcript start' inputs ∧
      rel inputs (first.final start inputs) (second.final start' inputs) := by
  induction inputs using List.reverseRecOn with
  | nil => exact ⟨rfl, hstart⟩
  | append_singleton past input ih =>
      obtain ⟨hsame, hrel⟩ := ih fun earlier event hpast =>
        hstep earlier event (hpast.trans (List.prefix_append _ _))
      obtain ⟨hanswer, hnext⟩ := hstep past input (List.prefix_refl _) _ _ hrel
      refine ⟨?_, ?_⟩
      · rw [transcript_append, transcript_append, hsame]
        simp [hanswer]
      · simpa using hnext

-- Inputs that leave every state alone can be purged from a run.
theorem final_purge (keeps : ι → Bool)
    (hquiet : ∀ state input, keeps input = false → (machine state input).2 = state)
    (inputs : List ι) :
    machine.final start inputs = machine.final start (inputs.filter keeps) := by
  induction inputs generalizing start with
  | nil => rfl
  | cons input inputs ih =>
      by_cases hkeeps : keeps input = true
      · rw [List.filter_cons_of_pos hkeeps, final_cons, final_cons, ih]
      · have hstate := hquiet start input (by simpa using hkeeps)
        rw [List.filter_cons_of_neg hkeeps, final_cons, hstate, ih]

-- Where an answer is a function of a view of the state that the other inputs do not
-- change, the answers are those of a run without the other inputs.
theorem transcript_filter (view : σ → ω) (keeps : ι → Bool)
    (hothers : ∀ state input, keeps input = false → view (machine state input).2 = view state)
    (hown : ∀ state state' input, keeps input = true → view state = view state' →
      (machine state input).1 = (machine state' input).1 ∧
        view (machine state input).2 = view (machine state' input).2)
    (start' : σ) (hview : view start = view start') (inputs : List ι) :
    (machine.transcript start inputs).filter (fun entry => keeps entry.1) =
      machine.transcript start' (inputs.filter keeps) := by
  induction inputs generalizing start start' with
  | nil => rfl
  | cons input inputs ih =>
      by_cases hkeeps : keeps input = true
      · obtain ⟨hanswer, hnext⟩ := hown start start' input hkeeps hview
        rw [List.filter_cons_of_pos hkeeps, transcript_cons, transcript_cons,
          List.filter_cons_of_pos (by exact hkeeps), hanswer, ih _ _ hnext]
      · have hnext := hothers start input (by simpa using hkeeps)
        rw [List.filter_cons_of_neg hkeeps, transcript_cons,
          List.filter_cons_of_neg (by exact hkeeps), ih _ _ (hnext.trans hview)]

end Machine

end Effects
