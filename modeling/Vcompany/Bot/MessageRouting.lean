import Vcompany.Bot.PlanReviewCog
import Vcompany.Daemon.RuntimeApi
import Vcompany.Foundation.Search

/-! # Messages to agents

Every cog of the bot sees every message and decides by itself whether to pass it on. A message
in an agent's own channel goes to the agent through the mention router, which knows the channel;
and once more through a cog that goes by the name of the channel, if the name leads it to the
same agent (`delivered_once_iff`). The channel of a hired agent has such a name.
-/

namespace Vcompany.Bot

open Foundation Transport Daemon

structure Author where
  /-- `message.author.bot`. -/
  isBot : Bool
  /-- `message.author.id == bot.user.id`. -/
  isSelf : Bool
  displayName : Text
  /-- The names of the roles, if the author is a `discord.Member`. -/
  roles : Option (List Text)

/-- A channel, or a thread. Some kinds of channels have no name. -/
structure Channel where
  id : Text
  name : Option Text
  isThread : Bool := false

/-- An attachment, with the path that it is saved at, if it can be. -/
structure Attachment where
  filename : Text
  saved : Option Text

structure Message where
  id : Text
  author : Author
  channel : Channel
  content : Text
  attachments : List Attachment := []

/-- The bot with its daemon. What happens outside of them is given: whether the directory of the
attachments can be made, whether the `send` of an agent goes through, and whether the review that
a message asks for comes to the execute command. -/
structure BotState where
  daemon : DaemonState
  attachmentDir : Bool
  sends : Registrant → Bool
  reviewExecutes : Message → Bool
  casing : Text.Casing

/-- A message that an agent's `send` was called with and went through. -/
structure Delivery where
  recipient : Registrant
  message : InboundMessage

/-- `name.removeprefix(start)`, if it starts so. -/
def afterPrefix (start name : Text) : Option Text :=
  if start <+: name then some (name.drop start.length) else none

theorem afterPrefix_eq_some_iff {start name rest : Text} :
    afterPrefix start name = some rest ↔ name = start ++ rest := by
  unfold afterPrefix
  constructor
  · intro found
    split at found
    · next starts =>
        obtain ⟨rest', rfl⟩ := starts
        rw [List.drop_left] at found
        rw [Option.some.inj found]
    · cases found
  · rintro rfl
    rw [if_pos (List.prefix_append _ _), List.drop_left]

def Attachment.reference (attachment : Attachment) : Text :=
  match attachment.saved with
  | some dest => "[attached file: ".toList ++ dest ++ "]".toList
  | none => "[failed to download: ".toList ++ attachment.filename ++ "]".toList

def atPM : Text := "@PM".toList

def ownerRole : Text := "vco-owner".toList

def standupPrefix : Text := "standup-".toList

namespace BotState

variable (bot : BotState) (message : Message)

/-- `agent.send(inbound)`. -/
def send (recipient : Registrant) (inbound : InboundMessage) : List Delivery :=
  if bot.sends recipient then [⟨recipient, inbound⟩] else []

/-- `CompanyRoot._find_handle`. -/
def findHandle (agentId : Text) : Option Registrant :=
  match bot.daemon.company.root with
  | none => none
  | some root =>
      match root.agents.get? agentId, bot.daemon.handles.get? agentId with
      | some _, some number => some (.handle agentId number)
      | _, _ => none

/-- `RuntimeAPI.relay_channel_message`, if there is a runtime API. -/
def relay (agentId content : Text) : List Delivery :=
  match bot.daemon.runtimeApi, bot.findHandle agentId with
  | some _, some handle => bot.send handle (relayChannelMessage content)
  | _, _ => []

/-- `_build_content_with_attachments`. -/
def contentWithAttachments : Text :=
  match message.attachments with
  | [] => message.content
  | attachments =>
      let references := ("\n".toList).intercalate (attachments.map Attachment.reference)
      if message.content = [] then references else message.content ++ "\n".toList ++ references

/-- `_deliver_to_agent`, which logs an exception and goes on. -/
def deliverToAgent (router : MentionRouter Registrant) (handle : Text) : List Delivery :=
  match router.agentHandles.get? handle with
  | none => []
  | some agent =>
      if message.attachments ≠ [] ∧ bot.attachmentDir = false then []
      else bot.send agent {
        sender := message.author.displayName
        channel := message.channel.name.getD "unknown".toList
        content := contentWithAttachments message
        messageId := some message.id }

/-- `MentionRouterCog.on_message`. -/
def mentionRouterOnMessage : List Delivery :=
  match bot.daemon.runtimeApi.bind RuntimeApi.mentionRouter with
  | none => []
  | some router =>
      if message.author.isBot && !message.author.isSelf then []
      else if router.agentHandles.keys = [] then []
      else
        let sourceHandle := router.channelHandles.get? message.channel.id
        match if message.author.isSelf then none else sourceHandle with
        | some handle => bot.deliverToAgent message router handle
        | none =>
            (router.agentHandles.keys.filter fun handle =>
              decide (some handle ≠ sourceHandle ∧ '@' :: handle <:+: message.content)).flatMap
                (bot.deliverToAgent message router)

/-- `ChannelRelayCog.on_message`. -/
def channelRelayOnMessage : List Delivery :=
  match message.channel.name with
  | none => []
  | some name =>
      if message.author.isBot then []
      else
        let content := Text.strip message.content
        if content = [] then []
        else match afterPrefix taskPrefix name with
          | some taskId => bot.relay taskId content
          | none =>
              match afterPrefix agentPrefix name with
              | none => []
              | some agentId =>
                  if atPM <:+: content then []
                  else if message.author.roles.all (ownerRole ∈ ·) then bot.relay agentId content
                  else []

/-- The `on_message` of the commands, for threads of a standup. -/
def commandsOnMessage : List Delivery :=
  if message.author.isBot || !message.channel.isThread then []
  else match message.channel.name.bind (afterPrefix standupPrefix) with
    | none => []
    | some agentId => bot.relay agentId message.content

/-- The text asks for the review of a plan. -/
def asksForReview (content : Text) : Prop :=
  let contentLower := Text.lower bot.casing content
  "plan".toList <:+: contentLower ∧ ("complete".toList <:+: contentLower ∨
    "ready".toList <:+: contentLower ∨ "review".toList <:+: contentLower)

instance (content : Text) : Decidable (bot.asksForReview content) :=
  inferInstanceAs (Decidable (_ ∧ _))

def executeCommand : Text := "/gsd:execute-phase 1".toList

/-- `PlanReviewCog.on_message`. -/
def planReviewOnMessage : List Delivery :=
  match message.channel.name.bind (afterPrefix agentPrefix) with
  | none => []
  | some agentId =>
      if message.author.isSelf then
        match bot.findHandle agentId with
        | none => []
        | some handle => (onMessage bot.casing true message.content).flatMap (bot.send handle)
      else if ¬ atPM <:+: message.content then []
      else if bot.asksForReview message.content ∧ bot.reviewExecutes message = true then
        bot.relay agentId executeCommand
      else []

/-- The listeners of all cogs. Those that are left out send no agent anything: the alerts and the
health cog do not listen to messages, the question handler listens to the bot's own ones, the
workflow master talks to its own conversation, and the workflow orchestrator posts to channels. -/
def dispatchMessage : List Delivery :=
  bot.commandsOnMessage message ++ bot.planReviewOnMessage message ++
    bot.mentionRouterOnMessage message ++ bot.channelRelayOnMessage message

/-! ## Exactly once -/

/-- The agent is sent the content. -/
def Carries (inbound : InboundMessage) : Prop := Text.strip message.content <:+: inbound.content

instance (inbound : InboundMessage) : Decidable (Carries message inbound) :=
  inferInstanceAs (Decidable (_ <:+: _))

/-- The recipient is sent the content. -/
def Reaches (recipient : Registrant) (delivery : Delivery) : Prop :=
  delivery.recipient = recipient ∧ Carries message delivery.message

instance (recipient : Registrant) (delivery : Delivery) :
    Decidable (Reaches message recipient delivery) :=
  inferInstanceAs (Decidable (_ ∧ _))

/-- How often the recipient is sent the content. -/
def delivered (recipient : Registrant) : ℕ :=
  (bot.dispatchMessage message).countP (Reaches message recipient ·)

/-- The agent that the channel is registered for. -/
def channelAgent (channelId : Text) : Option Registrant := do
  let api ← bot.daemon.runtimeApi
  let router ← api.mentionRouter
  let handle ← router.channelHandles.get? channelId
  router.agentHandles.get? handle

/-- The agent is hired, with the handle of the number, and the channel is its own. -/
structure Belongs (agentId : Text) (number : ℕ) (channelId : Text) : Prop where
  hired : bot.findHandle agentId = some (.handle agentId number)
  registered : bot.channelAgent channelId = some (.handle agentId number)

/-- The channel is a thread of the agent's standup. -/
def Threads (agentId : Text) : Prop :=
  message.channel.isThread = true ∧ message.channel.name = some (standupPrefix ++ agentId)

/-- The name of the channel leads the relay to the agent. -/
def Relays (agentId : Text) : Prop :=
  ¬ Text.Blank message.content ∧ (message.channel.name = some (taskPrefix ++ agentId) ∨
    message.channel.name = some (agentPrefix ++ agentId) ∧
      ¬ atPM <:+: Text.strip message.content ∧ message.author.roles.all (ownerRole ∈ ·) = true)

/-- Another cog passes the message on to the agent. -/
def Echoes (agentId : Text) : Prop := Threads message agentId ∨ Relays message agentId

instance (agentId : Text) : Decidable (Threads message agentId) :=
  inferInstanceAs (Decidable (_ ∧ _))

instance (agentId : Text) : Decidable (Relays message agentId) :=
  inferInstanceAs (Decidable (_ ∧ _))

instance (agentId : Text) : Decidable (Echoes message agentId) :=
  inferInstanceAs (Decidable (_ ∨ _))

/-- The router can build the text: the attachments have a place. -/
def Routes : Prop := message.attachments ≠ [] → bot.attachmentDir = true

instance : Decidable (bot.Routes message) := inferInstanceAs (Decidable (_ → _))

variable {bot message} {agentId : Text} {number : ℕ}

theorem Belongs.router {channelId : Text} (belongs : bot.Belongs agentId number channelId) :
    ∃ api router name, bot.daemon.runtimeApi = some api ∧ api.mentionRouter = some router ∧
      router.channelHandles.get? channelId = some name ∧
        router.agentHandles.get? name = some (.handle agentId number) := by
  obtain ⟨api, running, rest⟩ := Option.bind_eq_some_iff.mp belongs.registered
  obtain ⟨router, wired, rest⟩ := Option.bind_eq_some_iff.mp rest
  obtain ⟨name, owns, registered⟩ := Option.bind_eq_some_iff.mp rest
  exact ⟨api, router, name, running, wired, owns, registered⟩

theorem findHandle_eq_some {root : Supervisor.CompanyRoot} {handle : Supervisor.AgentHandle}
    (up : bot.daemon.company.root = some root) (stored : root.agents.get? agentId = some handle)
    (numbered : bot.daemon.handles.get? agentId = some number) :
    bot.findHandle agentId = some (.handle agentId number) := by
  unfold findHandle
  rw [up]
  dsimp only
  rw [stored, numbered]

/-- The channel that a hire has created belongs to the agent. -/
theorem belongs_of_hire {installation : Supervisor.Installation} {api : RuntimeApi}
    {root : Supervisor.CompanyRoot} {hiring : Hiring} {channelId hired : Text}
    {next : DaemonState} (running : bot.daemon.runtimeApi = some api)
    (present : api.mentionRouter.isSome = true) (up : bot.daemon.company.root = some root)
    (created : hiring.channel = .ok (some channelId))
    (returned : bot.daemon.hire installation hiring = (.ok hired, next)) :
    BotState.Belongs { bot with daemon := next } hiring.agentId bot.daemon.created channelId := by
  unfold DaemonState.hire at returned
  rw [running, created] at returned
  dsimp only at returned
  split at returned
  · cases returned
  next handle left engaged =>
  obtain ⟨rfl, _, handles, after, peer, up', agents⟩ :=
    DaemonState.engage_ok (by exact up) engaged
  split at returned
  · cases returned
  cases returned
  obtain ⟨router, wired⟩ := Option.isSome_iff_exists.mp present
  constructor
  · have stored := (congrArg (·.get? hiring.agentId) agents).trans (Dict.get?_set_self _ _ _)
    have numbered := (congrArg (·.get? hiring.agentId) handles).trans (Dict.get?_set_self _ _ _)
    exact findHandle_eq_some up' stored numbered
  · unfold channelAgent RuntimeApi.adjustRouter
    dsimp only
    rw [wired]
    refine Option.bind_eq_some_iff.mpr ⟨_, rfl, Option.bind_eq_some_iff.mpr ⟨_, rfl, ?_⟩⟩
    exact Option.bind_eq_some_iff.mpr ⟨_, Dict.get?_set_self _ _ _, Dict.get?_set_self _ _ _⟩

/-- How often one `send` counts. -/
theorem countP_send (recipient other : Registrant) (inbound : InboundMessage) :
    (bot.send other inbound).countP (Reaches message recipient ·) =
      if bot.sends other = true ∧ other = recipient ∧ Carries message inbound then 1 else 0 := by
  unfold send
  by_cases goes : bot.sends other = true
  · rw [if_pos goes, List.countP_singleton]
    exact if_congr (decide_eq_true_iff.trans (and_iff_right goes).symm) rfl rfl
  · rw [if_neg goes, if_neg fun both => goes both.1]
    rfl

theorem findHandle_eq (agentId : Text) :
    bot.findHandle agentId = none ∨
      ∃ number, bot.findHandle agentId = some (.handle agentId number) := by
  unfold findHandle
  split
  · exact .inl rfl
  · split
    · exact .inr ⟨_, rfl⟩
    · exact .inl rfl

/-- A relayed text counts for the agent it is relayed to, if it is the content. -/
theorem countP_relay (belongs : bot.Belongs agentId number message.channel.id)
    (other content : Text) :
    (bot.relay other content).countP (Reaches message (.handle agentId number) ·) =
      if bot.sends (.handle agentId number) = true ∧ other = agentId ∧
        Carries message (relayChannelMessage content) then 1 else 0 := by
  obtain ⟨api, _, _, running, _⟩ := belongs.router
  unfold relay
  rw [running]
  by_cases own : other = agentId
  · subst own
    rw [belongs.hired]
    dsimp only
    rw [countP_send]
    exact if_congr (and_congr_right fun _ => and_congr_left fun _ => iff_of_true rfl rfl) rfl rfl
  · rw [if_neg fun all => own all.2.1]
    rcases findHandle_eq other with none | ⟨number', found⟩
    · rw [none]
      rfl
    · rw [found]
      dsimp only
      rw [countP_send, if_neg]
      rintro ⟨_, same, _⟩
      cases same
      exact own rfl

theorem carries_strip : Carries message (relayChannelMessage (Text.strip message.content)) :=
  List.infix_refl _

theorem carries_content : Carries message (relayChannelMessage message.content) :=
  Text.strip_isInfix message.content

theorem carries_contentWithAttachments (inbound : InboundMessage)
    (built : inbound.content = contentWithAttachments message) : Carries message inbound := by
  unfold Carries
  rw [built]
  unfold contentWithAttachments
  split
  · exact Text.strip_isInfix message.content
  · dsimp only
    split
    · next empty =>
        rw [empty]
        exact List.nil_infix
    · refine (Text.strip_isInfix message.content).trans ?_
      rw [List.append_assoc]
      exact (List.prefix_append _ _).isInfix

/-- A text that mentions the project manager is not the execute command. -/
theorem not_carries_executeCommand (mentions : atPM <:+: message.content) :
    ¬ Carries message (relayChannelMessage executeCommand) := by
  intro carried
  have member : '@' ∈ Text.strip message.content := by
    have within : '@' ∈ message.content := mentions.subset (by decide)
    obtain ⟨before, after, same, blank, blank'⟩ := Text.exists_strip message.content
    rw [same, List.mem_append, List.mem_append] at within
    rcases within with (early | own) | late
    · cases blank _ early
    · exact own
    · cases blank' _ late
  have within : '@' ∈ executeCommand := carried.subset member
  exact absurd within (by decide)

theorem named_iff {name start rest : Text} (named : message.channel.name = some name)
    (found : afterPrefix start name = some rest) (agentId : Text) :
    message.channel.name = some (start ++ agentId) ↔ rest = agentId := by
  rw [named, afterPrefix_eq_some_iff.mp found, Option.some_inj, List.append_cancel_left_eq]

theorem not_named {name start : Text} (named : message.channel.name = some name)
    (missing : afterPrefix start name = none) (agentId : Text) :
    message.channel.name ≠ some (start ++ agentId) := by
  rw [named]
  intro same
  cases (afterPrefix_eq_some_iff.mpr (Option.some.inj same)).symm.trans missing

theorem strip_of_blank {text : Text} (blank : Text.Blank text) : Text.strip text = [] := by
  unfold Text.strip
  rw [List.dropWhile_eq_nil_iff.mpr blank]
  rfl

section

variable (belongs : bot.Belongs agentId number message.channel.id)

include belongs

theorem countP_mentionRouterOnMessage (bySelf : message.author.isSelf = false)
    (byBot : message.author.isBot = false) :
    (bot.mentionRouterOnMessage message).countP (Reaches message (.handle agentId number) ·) =
      if bot.sends (.handle agentId number) = true ∧ bot.Routes message then 1 else 0 := by
  obtain ⟨api, router, name, running, wired, owns, registered⟩ := belongs.router
  have known : router.agentHandles.keys ≠ [] :=
    List.ne_nil_of_mem (Dict.mem_keys_of_get? registered)
  unfold mentionRouterOnMessage
  rw [running, Option.bind_some, wired, byBot, bySelf]
  dsimp only
  rw [owns]
  rw [if_neg nofun, if_neg known, if_neg nofun]
  dsimp only
  unfold deliverToAgent
  rw [registered]
  dsimp only
  split
  · next fails =>
      rw [if_neg]
      · rfl
      · exact fun all => absurd ((all.2 fails.1).symm.trans fails.2) nofun
  · next builds =>
      have routes : bot.Routes message := fun some =>
        Bool.eq_true_of_not_eq_false fun missing => builds ⟨some, missing⟩
      rw [countP_send]
      refine if_congr (and_congr_right fun _ => ?_) rfl rfl
      exact iff_of_true ⟨rfl, carries_contentWithAttachments _ rfl⟩ routes

theorem countP_commandsOnMessage (byBot : message.author.isBot = false) :
    (bot.commandsOnMessage message).countP (Reaches message (.handle agentId number) ·) =
      if bot.sends (.handle agentId number) = true ∧ Threads message agentId then 1 else 0 := by
  unfold commandsOnMessage
  rw [byBot, Bool.false_or]
  split
  · next channel =>
      rw [if_neg fun all => by simp [all.2.1] at channel]
      rfl
  · next thread =>
      have thread : message.channel.isThread = true := by simpa using thread
      split
      · next other =>
          rw [if_neg]
          · rfl
          · rintro ⟨_, _, named⟩
            rw [named] at other
            cases (afterPrefix_eq_some_iff.mpr rfl).symm.trans other
      · next found =>
          obtain ⟨name, named, found⟩ := Option.bind_eq_some_iff.mp found
          obtain rfl := afterPrefix_eq_some_iff.mp found
          rw [countP_relay belongs]
          refine if_congr (and_congr_right fun _ => ?_) rfl rfl
          rw [and_iff_left carries_content, Threads, named, and_iff_right thread, Option.some_inj,
            List.append_cancel_left_eq]

theorem countP_channelRelayOnMessage (byBot : message.author.isBot = false) :
    (bot.channelRelayOnMessage message).countP (Reaches message (.handle agentId number) ·) =
      if bot.sends (.handle agentId number) = true ∧ Relays message agentId then 1 else 0 := by
  have nothing (silent : ¬ Relays message agentId) : ([] : List Delivery).countP
      (Reaches message (.handle agentId number) ·) =
        if bot.sends (.handle agentId number) = true ∧ Relays message agentId then 1 else 0 :=
    (if_neg fun all => silent all.2).symm
  unfold channelRelayOnMessage
  rw [byBot]
  split
  · next nameless =>
      apply nothing
      rintro ⟨_, named | ⟨named, _⟩⟩ <;> cases nameless.symm.trans named
  next name named =>
  rw [if_neg nofun]
  dsimp only
  split
  · next empty =>
      apply nothing
      intro relays
      apply relays.1
      rw [← Text.blank_strip, empty]
      exact nofun
  next solid =>
  have solid : ¬ Text.Blank message.content := fun blank => solid (strip_of_blank blank)
  split
  · next taskId found =>
      rw [countP_relay belongs]
      refine if_congr (and_congr_right fun _ => ?_) rfl rfl
      rw [and_iff_left carries_strip, Relays, and_iff_right solid, named_iff named found]
      refine (or_iff_left ?_).symm
      rintro ⟨same, _⟩
      rw [named, afterPrefix_eq_some_iff.mp found] at same
      cases same
  next other =>
  split
  · next other' =>
      apply nothing
      rintro ⟨_, same | ⟨same, _⟩⟩
      · exact not_named named other agentId same
      · exact not_named named other' agentId same
  next relayed found =>
  have relays : Relays message agentId ↔ relayed = agentId ∧
      ¬ atPM <:+: Text.strip message.content ∧
        message.author.roles.all (ownerRole ∈ ·) = true := by
    rw [Relays, and_iff_right solid, or_iff_right (not_named named other agentId),
      named_iff named found]
  split
  · next mentions => exact nothing fun all => (relays.mp all).2.1 mentions
  next silent =>
  split
  · next owner =>
      rw [countP_relay belongs]
      refine if_congr (and_congr_right fun _ => ?_) rfl rfl
      rw [and_iff_left carries_strip, relays]
      exact (and_iff_left ⟨silent, owner⟩).symm
  · next guest => exact nothing fun all => guest (relays.mp all).2.2

theorem countP_planReviewOnMessage (bySelf : message.author.isSelf = false) :
    (bot.planReviewOnMessage message).countP (Reaches message (.handle agentId number) ·) = 0 := by
  unfold planReviewOnMessage
  rw [bySelf]
  split
  · rfl
  · rw [if_neg nofun]
    split
    · rfl
    · next mentions =>
        split
        · rw [countP_relay belongs]
          exact if_neg fun all => not_carries_executeCommand (not_not.mp mentions) all.2.2
        · rfl

end

/-- A name that is a standup's is no task's and no agent's. -/
theorem Threads.not_relays (threads : Threads message agentId) : ¬ Relays message agentId := by
  rintro ⟨_, named | ⟨named, _⟩⟩ <;> cases threads.2.symm.trans named

/-- **Exactly once.** The content of a human's message in the channel of a hired agent is sent to
the agent exactly once, exactly if the agent's `send` goes through and either the mention router
can build the text or another cog goes by the name of the channel, and not both. -/
theorem delivered_once_iff (bot : BotState) (message : Message) {agentId : Text} {number : ℕ}
    (byBot : message.author.isBot = false) (bySelf : message.author.isSelf = false)
    (belongs : bot.Belongs agentId number message.channel.id) :
    bot.delivered message (.handle agentId number) = 1 ↔
      bot.sends (.handle agentId number) = true ∧
        (bot.Routes message ↔ ¬ Echoes message agentId) := by
  unfold delivered dispatchMessage
  rw [List.countP_append, List.countP_append, List.countP_append,
    countP_commandsOnMessage belongs byBot, countP_planReviewOnMessage belongs bySelf,
    countP_mentionRouterOnMessage belongs bySelf byBot,
    countP_channelRelayOnMessage belongs byBot]
  unfold Echoes
  have apart := @Threads.not_relays message agentId
  by_cases sends : bot.sends (.handle agentId number) = true <;>
    by_cases routes : bot.Routes message <;> by_cases threads : Threads message agentId <;>
      by_cases relays : Relays message agentId <;> simp_all

/-! ## Two channels -/

/-- The bot, once the Strategist and an agent have been hired. -/
def hiredBot : BotState where
  daemon := DaemonState.hiredRun.foldl (DaemonState.perform Supervisor.bareInstallation)
    (.unstarted (.fresh ["srv"]))
  attachmentDir := true
  sends := fun _ => true
  reviewExecutes := fun _ => false
  casing := .plain

/-- The owner posts in a channel. -/
def greeting (channel : Channel) : Message where
  id := "1"
  author := {
    isBot := false, isSelf := false, displayName := "owner", roles := some [ownerRole] }
  channel := channel
  content := "hello"

def strategistChannel : Channel where
  id := "10"
  name := some strategistId

def taskChannel : Channel where
  id := "20"
  name := some "task-a".toList

theorem greeting_delivered : hiredBot.delivered (greeting strategistChannel)
    (.handle strategistId 1) = 1 :=
  (delivered_once_iff hiredBot (greeting strategistChannel) rfl rfl
    ⟨by decide +kernel, by decide +kernel⟩).mpr
      ⟨rfl, iff_of_true (fun _ => rfl) (by decide +kernel)⟩

/-- A message in the channel of a hired agent is sent to it twice. -/
theorem greeting_delivered_twice : hiredBot.Belongs "a" 2 (greeting taskChannel).channel.id ∧
    hiredBot.delivered (greeting taskChannel) (.handle "a" 2) = 2 :=
  ⟨⟨by decide +kernel, by decide +kernel⟩, by decide +kernel⟩

end BotState

end Vcompany.Bot
