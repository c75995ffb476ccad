import Vcompany.Bot.MessageRouting

/-! # Mentions of agents

Outside the channels of agents, the mention router delivers a message to each handle that its
text has behind an `@`. It does not look at what follows, so a handle is also delivered what is
addressed to a longer one that starts with it (`mentions_exact_iff`).
-/

namespace Vcompany.Bot

open Foundation Daemon

/-- The handles that `on_message` delivers a message to. -/
def MentionRouter.addressees (router : MentionRouter Registrant) (message : Message) :
    List Text :=
  if message.author.isBot && !message.author.isSelf then []
  else if router.agentHandles.keys = [] then []
  else
    let sourceHandle := router.channelHandles.get? message.channel.id
    match if message.author.isSelf then none else sourceHandle with
    | some handle => [handle]
    | none =>
        router.agentHandles.keys.filter fun handle =>
          decide (some handle ≠ sourceHandle ∧ '@' :: handle <:+: message.content)

/-- The listener delivers the message to each of these handles. -/
theorem mentionRouterOnMessage_eq (bot : BotState) (message : Message) :
    bot.mentionRouterOnMessage message =
      match bot.daemon.runtimeApi.bind RuntimeApi.mentionRouter with
      | none => []
      | some router =>
          (router.addressees message).flatMap (bot.deliverToAgent message router) := by
  unfold BotState.mentionRouterOnMessage MentionRouter.addressees
  rcases bot.daemon.runtimeApi.bind RuntimeApi.mentionRouter with _ | router
  · rfl
  · dsimp only
    split
    · rfl
    · split
      · rfl
      · rcases (if message.author.isSelf then none
          else router.channelHandles.get? message.channel.id) with _ | handle
        · rfl
        · exact (List.flatMap_singleton _ _).symm

/-- The text has the handle behind an `@`, as a whole name: no character of a handle follows. -/
def Named (isHandleChar : Char → Bool) (handle content : Text) : Prop :=
  ∃ before after, content = before ++ '@' :: handle ++ after ∧
    ∀ c ∈ after.head?, isHandleChar c = false

/-- The characters of a handle, as in the prefix of an agent's own messages. -/
def handleChar (c : Char) : Bool := c.isAlphanum || c = '_' || c = '-'

/-- The message is delivered to the handles that it names, and to no other. -/
def MentionsExact (isHandleChar : Char → Bool) (router : MentionRouter Registrant)
    (message : Message) : Prop :=
  ∀ handle ∈ router.agentHandles.keys,
    handle ∈ router.addressees message ↔ Named isHandleChar handle message.content

/-- No handle is followed by a character of a handle wherever the text has it; and another bot
names none. -/
def Unambiguous (isHandleChar : Char → Bool) (router : MentionRouter Registrant)
    (message : Message) : Prop :=
  ∀ handle ∈ router.agentHandles.keys,
    if message.author.isBot && !message.author.isSelf then
      ¬ Named isHandleChar handle message.content
    else
      '@' :: handle <:+: message.content → Named isHandleChar handle message.content

variable {isHandleChar : Char → Bool} {router : MentionRouter Registrant} {message : Message}
  {handle : Text}

/-- A name stands in the text. -/
theorem Named.isInfix {content : Text} (named : Named isHandleChar handle content) :
    '@' :: handle <:+: content := by
  obtain ⟨before, after, rfl, -⟩ := named
  exact ⟨before, after, rfl⟩

/-- Outside the channels of agents, a message of a human or of the bot itself is delivered to
every handle that stands in it behind an `@`. -/
theorem mem_addressees_iff (outside : router.channelHandles.get? message.channel.id = none)
    (heard : (message.author.isBot && !message.author.isSelf) = false)
    (registered : handle ∈ router.agentHandles.keys) :
    handle ∈ router.addressees message ↔ '@' :: handle <:+: message.content := by
  unfold MentionRouter.addressees
  rw [heard, if_neg Bool.false_ne_true, if_neg (List.ne_nil_of_mem registered), outside]
  dsimp only
  rw [ite_self]
  dsimp only
  rw [List.mem_filter, and_iff_right registered, decide_eq_true_iff]
  exact and_iff_right nofun

theorem addressees_of_otherBot (other : (message.author.isBot && !message.author.isSelf) = true) :
    router.addressees message = [] := if_pos other

/-- **When mentions address the agents they name.** Outside the channels of agents, exactly when
no handle in the text goes on with a further character of a handle. -/
theorem mentions_exact_iff (isHandleChar : Char → Bool) (router : MentionRouter Registrant)
    (message : Message) (outside : router.channelHandles.get? message.channel.id = none) :
    MentionsExact isHandleChar router message ↔ Unambiguous isHandleChar router message := by
  refine forall₂_congr fun handle registered => ?_
  cases heard : message.author.isBot && !message.author.isSelf with
  | true =>
      rw [addressees_of_otherBot heard, if_pos rfl]
      exact ⟨fun exact named => List.not_mem_nil (exact.mpr named),
        fun unnamed => iff_of_false List.not_mem_nil unnamed⟩
  | false =>
      rw [mem_addressees_iff outside heard registered, if_neg Bool.false_ne_true]
      exact ⟨Iff.mp, fun whole => ⟨whole, Named.isInfix⟩⟩

private def twoAgents : MentionRouter Registrant where
  agentHandles := ⟨[("agent-dev", .handle "dev" 0), ("agent-dev2", .handle "dev2" 1)], by decide⟩
  handleChannels := Dict.empty
  channelHandles := Dict.empty

private def posted (content : Text) : Message where
  id := "7"
  author := { isBot := false, isSelf := false, displayName := "Ada", roles := none }
  channel := { id := "3", name := some "general" }
  content := content

theorem one_agent_named : MentionsExact handleChar twoAgents (posted "@agent-dev: ready?") := by
  refine (mentions_exact_iff handleChar twoAgents _ rfl).mpr fun handle registered => ?_
  rw [if_neg (by decide)]
  intro within
  obtain rfl | rfl : handle = "agent-dev".toList ∨ handle = "agent-dev2".toList := by
    simpa [twoAgents, Dict.keys] using registered
  · exact ⟨[], ": ready?".toList, rfl, by rintro c ⟨⟩; rfl⟩
  · exact absurd within (by decide)

/-- A message to one agent is delivered to another whose handle is shorter. -/
theorem shorter_handle_addressed :
    ¬ ∀ (router : MentionRouter Registrant) (message : Message),
      router.channelHandles.get? message.channel.id = none →
        MentionsExact handleChar router message := by
  intro always
  have exact := always twoAgents (posted "@agent-dev2: ready?") rfl "agent-dev" (by decide)
  obtain ⟨before, after, same, ends⟩ := exact.mp (by decide)
  cases before with
  | nil =>
      obtain rfl := @List.append_cancel_left _ "@agent-dev".toList _ _ same
      exact absurd (ends '2' rfl) (by decide)
  | cons c before =>
      have tail : "agent-dev2: ready?".toList = before ++ '@' :: "agent-dev".toList ++ after :=
        (List.cons.inj same).2
      have member : '@' ∈ before ++ '@' :: "agent-dev".toList ++ after :=
        List.mem_append_left _ (List.mem_append_right _ List.mem_cons_self)
      rw [← tail] at member
      exact absurd member (by decide)

end Vcompany.Bot
