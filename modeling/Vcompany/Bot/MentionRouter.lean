import Vcompany.Foundation.Correspondence
import Vcompany.Foundation.Text
import Vcompany.Foundation.Transition

/-! # The mention router

The router knows the agents by their handles, the channel of a handle and, in reverse, the
handle of a channel. An entry is written without a look at what it replaces, so the two
directions part when a handle moves to another channel or a channel to another handle
(`registry_consistent_iff`).
-/

namespace Vcompany.Bot

open Foundation

variable {α : Type}

structure MentionRouter (α : Type) where
  agentHandles : Dict Text α
  handleChannels : Dict Text Text
  channelHandles : Dict Text Text

namespace MentionRouter

def empty : MentionRouter α := ⟨Dict.empty, Dict.empty, Dict.empty⟩

variable (router : MentionRouter α)

/-- What `register_agent` and `register_agent_handle` both do. -/
def enter (handle : Text) (agent : α) (channelId : Option Text) : MentionRouter α :=
  match channelId with
  | none => { router with agentHandles := router.agentHandles.set handle agent }
  | some channel => {
      agentHandles := router.agentHandles.set handle agent
      handleChannels := router.handleChannels.set handle channel
      channelHandles := router.channelHandles.set channel handle }

/-- `register_agent`. -/
def registerAgent (handle : Text) (agent : α) (channelId : Option Text) : MentionRouter α :=
  router.enter handle agent channelId

/-- `register_agent_handle`. -/
def registerAgentHandle (handleName : Text) (agentHandle : α) (channelId : Option Text) :
    MentionRouter α :=
  router.enter handleName agentHandle channelId

/-- `unregister_agent`. No kind of agent has the attribute `_channel_id` that would be
cleared at its end. -/
def unregisterAgent (handle : Text) : MentionRouter α where
  agentHandles := router.agentHandles.pop handle
  handleChannels := router.handleChannels.pop handle
  channelHandles :=
    match router.handleChannels.get? handle with
    | none => router.channelHandles
    -- an empty id counts as none
    | some channel =>
        if channel = [] then router.channelHandles else router.channelHandles.pop channel

/-- A call that changes the registry. -/
inductive RegistryCall (α : Type) where
  | registerAgent (handle : Text) (agent : α) (channelId : Option Text)
  | registerAgentHandle (handleName : Text) (agentHandle : α) (channelId : Option Text)
  | unregisterAgent (handle : Text)

def call (router : MentionRouter α) : RegistryCall α → MentionRouter α
  | .registerAgent handle agent channelId => router.registerAgent handle agent channelId
  | .registerAgentHandle handleName agentHandle channelId =>
      router.registerAgentHandle handleName agentHandle channelId
  | .unregisterAgent handle => router.unregisterAgent handle

/-! ## Consistency -/

/-- The channel of a registered handle leads back to it, and every channel leads to a
registered handle. -/
structure Consistent : Prop where
  inverse : ∀ handle ∈ router.agentHandles.keys, ∀ channel,
    router.handleChannels.get? handle = some channel ↔
      router.channelHandles.get? channel = some handle
  registered : ∀ channel handle, router.channelHandles.get? channel = some handle →
    handle ∈ router.agentHandles.keys

/-- Only registered handles have a channel. -/
def Owned : Prop :=
  ∀ handle channel, router.handleChannels.get? handle = some channel →
    handle ∈ router.agentHandles.keys

/-- The call takes nothing from another entry: a handle keeps the channel it has, a channel
the handle it has, and the channel of a handle that goes is not the empty id. -/
def Compatible : RegistryCall α → Prop
  | .registerAgent handle _ channelId | .registerAgentHandle handle _ channelId =>
      ∀ channel, channelId = some channel →
        Dict.Unclaimed router.handleChannels router.channelHandles handle channel
  | .unregisterAgent handle => router.handleChannels.get? handle ≠ some []

variable {router}

theorem consistent_iff (owned : router.Owned) :
    router.Consistent ↔ Dict.Inverse router.handleChannels router.channelHandles := by
  constructor
  · intro consistent handle channel
    refine ⟨fun found => ?_, fun found => ?_⟩
    · exact (consistent.inverse handle (owned handle channel found) channel).mp found
    · have member := consistent.registered channel handle found
      exact (consistent.inverse handle member channel).mpr found
  · intro inverse
    refine ⟨fun handle _ channel => inverse handle channel, fun channel handle found => ?_⟩
    exact owned handle channel ((inverse handle channel).mpr found)

theorem owned_enter (owned : router.Owned) (handle : Text) (agent : α)
    (channelId : Option Text) : (router.enter handle agent channelId).Owned := by
  intro other channel found
  cases channelId with
  | none => exact Dict.mem_keys_set.mpr (.inr (owned other channel found))
  | some given =>
      apply Dict.mem_keys_set.mpr
      rcases Dict.get?_set_eq_some_iff.mp found with ⟨own, _⟩ | ⟨_, before⟩
      · exact .inl own
      · exact .inr (owned other channel before)

theorem owned_unregisterAgent (owned : router.Owned) (handle : Text) :
    (router.unregisterAgent handle).Owned := by
  intro other channel found
  apply Dict.mem_keys_pop.mpr
  by_cases own : other = handle
  · subst own
    have gone := (Dict.get?_pop_self router.handleChannels other).symm.trans found
    cases gone
  · have before : router.handleChannels.get? other = some channel :=
      (Dict.get?_pop_of_ne _ own).symm.trans found
    exact ⟨own, owned other channel before⟩

theorem owned_call (owned : router.Owned) (made : RegistryCall α) : (router.call made).Owned := by
  cases made with
  | registerAgent handle agent channelId => exact owned_enter owned handle agent channelId
  | registerAgentHandle handle agent channelId => exact owned_enter owned handle agent channelId
  | unregisterAgent handle => exact owned_unregisterAgent owned handle

theorem consistent_enter_iff (owned : router.Owned) (consistent : router.Consistent)
    {handle : Text} {agent : α} {channelId : Option Text} :
    (router.enter handle agent channelId).Consistent ↔ ∀ channel, channelId = some channel →
      Dict.Unclaimed router.handleChannels router.channelHandles handle channel := by
  have inverse := (consistent_iff owned).mp consistent
  rw [consistent_iff (owned_enter owned handle agent channelId)]
  cases channelId with
  | none => exact iff_of_true inverse nofun
  | some channel =>
      apply (Dict.inverse_set_iff inverse).trans
      exact ⟨fun unclaimed _ same => Option.some.inj same ▸ unclaimed,
        fun unclaimed => unclaimed channel rfl⟩

theorem consistent_unregisterAgent_iff (owned : router.Owned) (consistent : router.Consistent)
    {handle : Text} :
    (router.unregisterAgent handle).Consistent ↔ router.handleChannels.get? handle ≠ some [] := by
  have inverse := (consistent_iff owned).mp consistent
  rw [consistent_iff (owned_unregisterAgent owned handle)]
  unfold unregisterAgent
  rcases found : router.handleChannels.get? handle with _ | channel
  · exact iff_of_true ((Dict.inverse_pop_left_iff inverse).mpr found) nofun
  · dsimp only
    by_cases blank : channel = []
    · rw [if_pos blank, Dict.inverse_pop_left_iff inverse, found, blank]
      exact iff_of_false nofun fun other => other rfl
    · rw [if_neg blank]
      exact iff_of_true (inverse.pop found) fun same => blank (Option.some.inj same)

theorem consistent_call_iff (owned : router.Owned) (consistent : router.Consistent)
    (made : RegistryCall α) : (router.call made).Consistent ↔ router.Compatible made := by
  cases made with
  | registerAgent => exact consistent_enter_iff owned consistent
  | registerAgentHandle => exact consistent_enter_iff owned consistent
  | unregisterAgent => exact consistent_unregisterAgent_iff owned consistent

theorem owned_empty : (empty : MentionRouter α).Owned := nofun

theorem consistent_empty : (empty : MentionRouter α).Consistent := ⟨nofun, nofun⟩

/-- **The registry.** The two directions agree throughout a sequence of calls, exactly if no
call of it takes a channel or a handle from another entry, or leaves the empty id. -/
theorem registry_consistent_iff (calls : List (RegistryCall α)) :
    Throughout call Consistent empty calls ↔ EachMeets call Compatible empty calls :=
  @throughout_iff_within _ _ call Owned Consistent Compatible
    (fun _ made owned => owned_call owned made)
    (fun _ made owned consistent => consistent_call_iff owned consistent made)
    empty owned_empty consistent_empty calls

def movedHandle : List (RegistryCall Unit) :=
  [.registerAgentHandle "agent-dev" () (some "100"),
    .registerAgentHandle "agent-dev" () (some "200")]

/-- A handle that moves to another channel is still found under the one it had. -/
theorem moved_handle_not_consistent : ¬ Throughout call Consistent empty movedHandle := by
  intro throughout
  have consistent := throughout.last
  have back := consistent.inverse "agent-dev" (by decide) "100"
  exact absurd (back.mpr (by decide)) (by decide)

end MentionRouter

end Vcompany.Bot
