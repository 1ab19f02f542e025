import ClaudeCodeProxy.Services.Steps

namespace ClaudeCodeProxy

open Effects Lifecycle

-- The condition on the draw of an action, where the action can use one.
def Action.Draws (p : Draw → Prop) : Action → Prop
  | .Invoke (.GetOrCreateKey _ _) draw => p draw
  | .Invoke (.Rotate _) draw => p draw
  | _ => True

instance (p : Draw → Prop) [DecidablePred p] : DecidablePred (Action.Draws p)
  | .Invoke (.GetOrCreateKey _ _) draw => inferInstanceAs (Decidable (p draw))
  | .Invoke (.Rotate _) draw => inferInstanceAs (Decidable (p draw))
  | .Invoke (.Revoke _) _ | .Invoke (.Disable _) _ | .Invoke (.InvalidateUserCache _) _
  | .Invoke (.Provision _) _ | .Advance _ => isTrue trivial

def Draw.FreshId (world : World) (draw : Draw) : Prop := world.ledger.get draw.keyId = none

instance (world : World) : DecidablePred (Draw.FreshId world) := fun draw =>
  inferInstanceAs (Decidable (world.ledger.get draw.keyId = none))

-- The generators answer an id and a key that the ledger has not seen.
structure Draw.Fresh (deployment : Deployment) (world : World) (draw : Draw) : Prop where
  keyId : draw.FreshId world
  virtualKey : ∀ record ∈ world.ledger.rows,
    record.keyHash ≠ deployment.hashVirtualKey draw.virtualKey

instance (deployment : Deployment) (world : World) : DecidablePred (Draw.Fresh deployment world) :=
  fun draw => decidable_of_iff (draw.FreshId world ∧ ∀ record ∈ world.ledger.rows,
    record.keyHash ≠ deployment.hashVirtualKey draw.virtualKey)
    ⟨fun h => ⟨h.1, h.2⟩, fun h => ⟨h.keyId, h.virtualKey⟩⟩

def FreshIds (world : World) (action : Action) : Prop := action.Draws (Draw.FreshId world)

def FreshDraws (deployment : Deployment) (world : World) (action : Action) : Prop :=
  action.Draws (Draw.Fresh deployment world)

instance (world : World) : DecidablePred (FreshIds world) := fun action =>
  inferInstanceAs (Decidable (action.Draws _))

instance (deployment : Deployment) (world : World) : DecidablePred (FreshDraws deployment world) :=
  fun action => inferInstanceAs (Decidable (action.Draws _))

theorem Action.Draws.mono {p q : Draw → Prop} (himp : ∀ draw, p draw → q draw) {action : Action}
    (h : action.Draws p) : action.Draws q := by
  cases action with
  | Advance microseconds => trivial
  | Invoke request draw =>
      cases request with
      | GetOrCreateKey userId requestId => exact himp draw h
      | Rotate keyId => exact himp draw h
      | Revoke | Disable | InvalidateUserCache | Provision => trivial

theorem FreshDraws.freshIds {deployment : Deployment} {world : World} {action : Action}
    (h : FreshDraws deployment world action) : FreshIds world action :=
  Action.Draws.mono (fun _ hdraw => hdraw.keyId) h

section Registry

variable (deployment : Deployment) (world : World)

theorem World.retire_registry (record copy : VirtualKeyRecord)
    (hget : world.ledger.get record.id = some record) (hretires : record.Retires copy) :
    Step world.ledger.registry (world.retire copy).ledger.registry := by
  apply Ledger.registry_retire world.ledger record copy _ hretires
  rw [hretires.id, hget]

theorem World.replace_registry (draw : Draw) (record : VirtualKeyRecord) (blob : String)
    (hget : world.ledger.get record.id = some record) (hfresh : draw.FreshId world) :
    Evolves world.ledger.registry (world.replace deployment draw record blob).ledger.registry := by
  have hretire := world.retire_registry record _ hget record.retires_disabled
  have hne : draw.keyId ≠ record.id := by
    intro h
    rw [Draw.FreshId, h, hget] at hfresh
    cases hfresh
  have hfresh' : (world.ledger.save record.disabled).get draw.keyId = none := by
    rw [Store.Table.get_save_of_ne world.ledger record.disabled _ hne]
    exact hfresh
  have hbirth := Ledger.registry_birth (world.ledger.save record.disabled)
    (issuedRecord deployment draw record.userId blob world.clock) rfl hfresh'
  exact .tail (.single hretire) hbirth

-- Serving a request is a run of the registry: births and retirements only.
theorem act_evolves (action : Action) (hfresh : FreshIds world action) :
    Evolves world.ledger.registry (act deployment world action).ledger.registry := by
  have hacted := act_acted deployment world action
  generalize act deployment world action = after at hacted ⊢
  cases hacted with
  | Advanced microseconds => exact .refl
  | Invoked request draw after hserved =>
      cases hserved with
      | Nothing | Filled | Dropped | Provisioned => exact .refl
      | Issued userId requestId blob heligible hnone hencrypt =>
          exact .single (world.ledger.registry_birth
            (issuedRecord deployment draw userId blob world.clock) rfl hfresh)
      | Retired request record copy hget hretired =>
          exact .single (world.retire_registry record copy hget hretired.retires)
      | Replaced record blob hget hencrypt =>
          exact world.replace_registry deployment draw record blob hget hfresh

theorem run_evolves (actions : List Action)
    (hfresh : Admissible (act deployment) FreshIds world actions) :
    Evolves world.ledger.registry (runActions deployment world actions).ledger.registry := by
  apply exec_invariant (fun _ state => Evolves world.ledger.registry state.ledger.registry)
    .refl _ actions hfresh
  intro past state action hevolves hdraw
  exact hevolves.trans (act_evolves deployment state action hdraw)

end Registry

section Hashes

variable (deployment : Deployment) (world : World)

namespace Ledger

theorem DistinctHashes.save {ledger : Ledger} (hd : ledger.DistinctHashes)
    (record : VirtualKeyRecord)
    (hnew : ∀ other ∈ ledger.rows, other.id ≠ record.id → other.keyHash ≠ record.keyHash) :
    DistinctHashes (ledger.save record) := by
  intro first hfirst second hsecond hhash
  rcases (Store.Table.mem_save _ _ _).mp hfirst with rfl | ⟨hf, hfid⟩
  · rcases (Store.Table.mem_save _ _ _).mp hsecond with rfl | ⟨hs, hsid⟩
    · rfl
    · exact absurd hhash.symm (hnew second hs hsid)
  · rcases (Store.Table.mem_save _ _ _).mp hsecond with rfl | ⟨hs, hsid⟩
    · exact absurd hhash (hnew first hf hfid)
    · exact hd first hf second hs hhash

theorem DistinctHashes.retire {ledger : Ledger} (hd : ledger.DistinctHashes)
    (record copy : VirtualKeyRecord) (hget : ledger.get record.id = some record)
    (hretires : record.Retires copy) : DistinctHashes (ledger.save copy) := by
  apply hd.save
  intro other hm hid hhash
  have hsame : other = record :=
    hd other hm record (ledger.mem_of_get _ _ hget) (hhash.trans hretires.keyHash)
  rw [hsame, hretires.id] at hid
  exact hid rfl

end Ledger

theorem act_distinctHashes (action : Action) (hd : world.ledger.DistinctHashes)
    (hfresh : FreshDraws deployment world action) :
    (act deployment world action).ledger.DistinctHashes := by
  have hacted := act_acted deployment world action
  generalize act deployment world action = after at hacted ⊢
  cases hacted with
  | Advanced microseconds => exact hd
  | Invoked request draw after hserved =>
      cases hserved with
      | Nothing | Filled | Dropped | Provisioned => exact hd
      | Issued userId requestId blob heligible hnone hencrypt =>
          exact hd.save (issuedRecord deployment draw userId blob world.clock)
            fun other hm _ => hfresh.virtualKey other hm
      | Retired request record copy hget hretired =>
          exact hd.retire record copy hget hretired.retires
      | Replaced record blob hget hencrypt =>
          have hretired := hd.retire record _ hget record.retires_disabled
          refine hretired.save (issuedRecord deployment draw record.userId blob world.clock) ?_
          intro other hm _
          rcases (Store.Table.mem_save _ _ _).mp hm with rfl | ⟨hold, _⟩
          · exact hfresh.virtualKey record (world.ledger.mem_of_get _ _ hget)
          · exact hfresh.virtualKey other hold

theorem run_distinctHashes (actions : List Action) (hd : world.ledger.DistinctHashes)
    (hfresh : Admissible (act deployment) (FreshDraws deployment) world actions) :
    (runActions deployment world actions).ledger.DistinctHashes := by
  apply exec_invariant (fun _ state => state.ledger.DistinctHashes) hd _ actions hfresh
  intro past state action hdistinct hdraw
  exact act_distinctHashes deployment state action hdistinct hdraw

end Hashes

end ClaudeCodeProxy
