import ClaudeCodeProxy.Services.Freshness
import ClaudeCodeProxy.Services.Samples

namespace ClaudeCodeProxy

open Effects

namespace Ledger

def AtMostOneActive (ledger : Ledger) : Prop :=
  ∀ first ∈ ledger.rows, ∀ second ∈ ledger.rows, first.userId = second.userId →
    first.status = .Active → second.status = .Active → first = second

instance (ledger : Ledger) : Decidable ledger.AtMostOneActive :=
  inferInstanceAs (Decidable (∀ first ∈ ledger.rows, ∀ second ∈ ledger.rows,
    first.userId = second.userId → first.status = .Active → second.status = .Active →
      first = second))

-- The user has no active record beside the one under `id`.
def SoleActive (ledger : Ledger) (userId id : String) : Prop :=
  ∀ other ∈ ledger.rows, other.userId = userId → other.status = .Active → other.id = id

instance (ledger : Ledger) (userId id : String) : Decidable (ledger.SoleActive userId id) :=
  inferInstanceAs (Decidable (∀ other ∈ ledger.rows, other.userId = userId →
    other.status = .Active → other.id = id))

theorem AtMostOneActive.save_dead {ledger : Ledger} (h : ledger.AtMostOneActive)
    (record : VirtualKeyRecord) (hdead : record.status ≠ .Active) :
    AtMostOneActive (ledger.save record) := by
  intro first hfirst second hsecond huser hf hs
  rcases (Store.Table.mem_save _ _ _).mp hfirst with rfl | ⟨hfm, _⟩
  · exact absurd hf hdead
  · rcases (Store.Table.mem_save _ _ _).mp hsecond with rfl | ⟨hsm, _⟩
    · exact absurd hs hdead
    · exact h first hfm second hsm huser hf hs

theorem AtMostOneActive.save_sole {ledger : Ledger} (h : ledger.AtMostOneActive)
    (record : VirtualKeyRecord) (hsole : ledger.SoleActive record.userId record.id) :
    AtMostOneActive (ledger.save record) := by
  intro first hfirst second hsecond huser hf hs
  rcases (Store.Table.mem_save _ _ _).mp hfirst with rfl | ⟨hfm, hfid⟩
  · rcases (Store.Table.mem_save _ _ _).mp hsecond with rfl | ⟨hsm, hsid⟩
    · rfl
    · exact absurd (hsole second hsm huser.symm hs) hsid
  · rcases (Store.Table.mem_save _ _ _).mp hsecond with rfl | ⟨hsm, _⟩
    · exact absurd (hsole first hfm huser hf) hfid
    · exact h first hfm second hsm huser hf hs

-- The key that is retired leaves its user without an active record if it was the only one.
theorem SoleActive.retire {ledger : Ledger} {userId id : String}
    (h : ledger.SoleActive userId id) (copy : VirtualKeyRecord) (hid : copy.id = id)
    (hdead : copy.status ≠ .Active) (other : String) :
    SoleActive (ledger.save copy) userId other := by
  intro record hm huser hactive
  rcases (Store.Table.mem_save _ _ _).mp hm with rfl | ⟨hold, hne⟩
  · exact absurd hactive hdead
  · rw [hid] at hne
    exact absurd (h record hold huser hactive) hne

end Ledger

-- A rotate that finds its key finds it to be the only active one of its user, if any is.
def RotatesSole (world : World) : Action → Prop
  | .Invoke (.Rotate keyId) _ => ∀ record ∈ world.ledger.rows, record.id = keyId →
      world.ledger.SoleActive record.userId keyId
  | _ => True

instance (world : World) : DecidablePred (RotatesSole world)
  | .Invoke (.Rotate keyId) _ => inferInstanceAs (Decidable (∀ record ∈ world.ledger.rows,
      record.id = keyId → world.ledger.SoleActive record.userId keyId))
  | .Invoke (.GetOrCreateKey _ _) _ | .Invoke (.Revoke _) _ | .Invoke (.Disable _) _
  | .Invoke (.InvalidateUserCache _) _ | .Invoke (.Provision _) _ | .Advance _ => isTrue trivial

theorem act_atMostOneActive (deployment : Deployment) (world : World) (action : Action)
    (h : world.ledger.AtMostOneActive) (hsole : RotatesSole world action) :
    (act deployment world action).ledger.AtMostOneActive := by
  have hacted := act_acted deployment world action
  generalize act deployment world action = after at hacted ⊢
  cases hacted with
  | Advanced microseconds => exact h
  | Invoked request draw after hserved =>
      cases hserved with
      | Nothing | Filled | Dropped | Provisioned => exact h
      | Issued userId requestId blob heligible hnone hencrypt =>
          apply h.save_sole (issuedRecord deployment draw userId blob world.clock)
          intro other hm huser hactive
          have hinactive := (world.ledger.getActiveKeyForUser_none_iff userId).mp hnone
          exact absurd hactive (hinactive other hm huser)
      | Retired request record copy hget hretired =>
          exact h.save_dead copy hretired.retires.dead
      | Replaced record blob hget hencrypt =>
          have hdead : record.disabled.status ≠ .Active := record.retires_disabled.dead
          have hretired := h.save_dead record.disabled hdead
          have hnone := (hsole record (world.ledger.mem_of_get _ _ hget) rfl).retire
            record.disabled rfl hdead draw.keyId
          exact hretired.save_sole
            (issuedRecord deployment draw record.userId blob world.clock) hnone

-- With rotations of sole active keys only, at most one key of each user is ever live.
theorem at_most_one_active_key (deployment : Deployment) (start : World) (actions : List Action)
    (hone : start.ledger.AtMostOneActive)
    (hsole : Admissible (act deployment) RotatesSole start actions) :
    (runActions deployment start actions).ledger.AtMostOneActive := by
  apply exec_invariant (fun _ state => state.ledger.AtMostOneActive) hone _ actions hsole
  intro past state action h hrotates
  exact act_atMostOneActive deployment state action h hrotates

theorem at_most_one_active_key_sample :
    (runActions sampleDeployment sampleIssued [.Invoke (.Rotate "key-1") sampleSecond,
      .Invoke (.Revoke "key-2") sampleThird,
      .Invoke (.GetOrCreateKey "user-1" "request-2") sampleThird]).ledger.AtMostOneActive :=
  at_most_one_active_key sampleDeployment sampleIssued _ (by decide) (by decide)

-- A key that is rotated twice gets two replacements, and both are live.
theorem rotated_twice_two_active_keys :
    ¬ ∀ (deployment : Deployment) (start : World) (actions : List Action),
      start.ledger.AtMostOneActive →
      Admissible (act deployment) (FreshDraws deployment) start actions →
      (runActions deployment start actions).ledger.AtMostOneActive := by
  intro h
  have htwo := h sampleDeployment sampleIssued [.Invoke (.Rotate "key-1") sampleSecond,
    .Invoke (.Rotate "key-1") sampleThird] (by decide) (by decide)
  exact absurd htwo (by decide)

end ClaudeCodeProxy
