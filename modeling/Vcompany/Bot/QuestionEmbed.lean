import Vcompany.Daemon.Ask

/-! # Question embeds

The Discord adapter posts the embed of a question and polls for the reply to it. The question
handler reads the bot's own messages back and takes those for questions whose embed has the
title and the footer of one. The adapter sets no footer, so the handler takes none of the
questions that the daemon posts (`handleAsk_never_round_trips`).
-/

namespace Vcompany.Bot

open Foundation Daemon

/-- The parts of an embed that the bot sets or reads. An embed has a footer object in any
case, whose text is set or not. -/
structure Embed where
  title : Option Text := none
  description : Option Text := none
  color : Option ℕ := none
  fields : List EmbedField := []
  footer : Option (Option Text) := some none
  deriving DecidableEq

structure DiscordMessage where
  authorId : ℕ
  embeds : List Embed
  deriving DecidableEq

/-! ## The adapter -/

/-- A message that a poll finds behind the question: what it refers to, and its content. -/
structure HistoryMessage where
  reference : Option (Option ℕ)
  content : Text

/-- A text channel: what sending an embed gives, and what each poll of the history finds, if
Discord answers it. -/
structure TextChannel where
  send : Embed → Except PyExc ℕ
  history : ℕ → Option (List HistoryMessage)

/-- The posted embeds, with their channels. -/
abbrev Posted := List (Text × Embed)

/-- The embed of a payload. -/
def embedOf (payload : PostEmbedPayload) : Embed :=
  { title := some payload.title
    description := some payload.description
    color := payload.color
    fields := payload.fields }

/-- `DiscordCommunicationPort.post_embed`, where `resolveChannel` finds the text channels. -/
def postEmbed (resolveChannel : Text → Option TextChannel) (payload : PostEmbedPayload)
    (posted : Posted) : Except PyExc (Option ℕ) × Posted :=
  match resolveChannel payload.channelId with
  | none => (.ok none, posted)
  | some channel =>
      match channel.send (embedOf payload) with
      | .error raised => (.error raised, posted)
      | .ok messageId => (.ok (some messageId), posted ++ [(payload.channelId, embedOf payload)])

/-- The reply to a message among those of a poll. -/
def replyIn (messageId : ℕ) (messages : List HistoryMessage) : Option Text :=
  (messages.find? fun message => message.reference = some (some messageId)).map
    HistoryMessage.content

/-- The polls that are left, of which `pollsDone` are done; a failing one finds nothing. -/
def pollFrom (history : ℕ → Option (List HistoryMessage)) (messageId pollsDone : ℕ) :
    ℕ → Option Text
  | 0 => none
  | left + 1 =>
      ((history pollsDone).bind (replyIn messageId)).or
        (pollFrom history messageId (pollsDone + 1) left)

/-- `DiscordCommunicationPort.poll_reply`. -/
def pollReply (resolveChannel : Text → Option TextChannel) (payload : PollReplyPayload)
    (posted : Posted) : Except PyExc (Option Text) × Posted :=
  match resolveChannel payload.channelId with
  | none => (.ok none, posted)
  | some channel => (.ok (pollFrom channel.history payload.messageId 0 payload.maxPolls), posted)

/-- The communication port of the bot. -/
def discordPort (resolveChannel : Text → Option TextChannel) : CommunicationPort Posted where
  postEmbed := postEmbed resolveChannel
  pollReply := pollReply resolveChannel

/-! ## Reading a question back -/

def titlePrefix : Text := "Question from ".toList

def footerPrefix : Text := "Request: ".toList

/-- The agent and the request that one embed names. -/
def questionOf (embed : Embed) : Option (Text × Text) :=
  match embed.title, embed.footer with
  | some title, some (some footerText) =>
      if title ≠ [] ∧ titlePrefix <+: title ∧ footerText ≠ [] ∧ footerPrefix <+: footerText then
        some (title.drop titlePrefix.length, footerText.drop footerPrefix.length)
      else none
  | _, _ => none

/-- `is_question_embed`. -/
def isQuestionEmbed (message : DiscordMessage) : Option (Text × Text) :=
  message.embeds.findSome? questionOf

/-- What the PM evaluates: the agent, the request, the text and the options of a question. -/
structure QuestionEvaluation where
  agentId : Text
  requestId : Text
  questionText : Text
  options : List (Text × Text)
  deriving DecidableEq

/-- `QuestionHandlerCog.on_message`, up to the PM's evaluation, if there is one. -/
def QuestionHandlerCog.onMessage (botUserId : ℕ) (hasPm : Bool) (message : DiscordMessage) :
    Option QuestionEvaluation :=
  if message.authorId ≠ botUserId then none
  else
    match isQuestionEmbed message with
    | none => none
    | some (agentId, requestId) =>
        let embed := message.embeds.headD {}
        let questionText := embed.description.getD []
        let options := embed.fields.map fun field => (field.name, field.value)
        if hasPm ∧ questionText ≠ [] then some { agentId, requestId, questionText, options }
        else none

/-! ## What the daemon posts -/

/-- The bot's message with an embed. -/
def botMessage (botUserId : ℕ) (embed : Embed) : DiscordMessage :=
  { authorId := botUserId, embeds := [embed] }

/-- The text appears in what the embed shows. -/
def Embed.Shows (embed : Embed) (text : Text) : Prop :=
  text <:+: embed.title.getD [] ∨ text <:+: embed.description.getD [] ∨
    ∃ field ∈ embed.fields, text <:+: field.name ∨ text <:+: field.value

/-- An embed comes back as what was asked: its agent is recognized, and each question's text
is shown. -/
def ComesBack (py : PyRuntime) (agentId : PyValue) (questions : List PyValue) (embed : Embed) :
    Prop :=
  (∃ requestId, isQuestionEmbed (botMessage 0 embed) = some (py.format agentId, requestId)) ∧
    ∀ question ∈ questions, ∀ text, question.get "question" (.str []) = .ok text →
      embed.Shows (py.format text)

/-- The parameters of a request with a list of questions. -/
def askParameters (agentId timeoutMode : PyValue) (questions : List PyValue) : PyValue :=
  .dict [(.str "agent_id".toList, agentId), (.str "questions".toList, .list questions),
    (.str "timeout_mode".toList, timeoutMode)]

/-- What a request posts comes back as what was asked. -/
def RoundTrips (py : PyRuntime) (resolveChannel : Text → Option TextChannel)
    (channelIds : Dict Text Text) (agentId timeoutMode : PyValue) (questions : List PyValue) :
    Prop :=
  ∃ channelId embed,
    (handleAsk py (some (discordPort resolveChannel)) channelIds
      (askParameters agentId timeoutMode questions) []).2 = [(channelId, embed)] ∧
    ComesBack py agentId questions embed

section

variable {py : PyRuntime} {resolveChannel : Text → Option TextChannel}

/-- The embed of a payload is not taken for a question, since it has no footer text. -/
theorem isQuestionEmbed_embedOf (botUserId : ℕ) (payload : PostEmbedPayload) :
    isQuestionEmbed (botMessage botUserId (embedOf payload)) = none := rfl

/-- What the adapter posts is the embed of the payload, if anything. -/
theorem postEmbed_posted (payload : PostEmbedPayload) (posted : Posted) :
    (postEmbed resolveChannel payload posted).2 = posted ∨
      (postEmbed resolveChannel payload posted).2 =
        posted ++ [(payload.channelId, embedOf payload)] := by
  unfold postEmbed
  split
  · exact .inl rfl
  · split
    · exact .inl rfl
    · exact .inr rfl

theorem pollReply_posted (payload : PollReplyPayload) (posted : Posted) :
    (pollReply resolveChannel payload posted).2 = posted := by
  unfold pollReply
  split <;> rfl

/-- A question posts what the adapter posts for its payload; waiting posts nothing. -/
theorem postQuestion_posted {channelId : Text} {agentId question options : PyValue}
    {payload : PostEmbedPayload} (gotten : question.get "options" (.list []) = .ok options)
    (built : questionPayload py channelId agentId question options = .ok payload)
    (timeoutMode : PyValue) (posted : Posted) :
    (postQuestion py (discordPort resolveChannel) channelId agentId question timeoutMode
      posted).2 = (postEmbed resolveChannel payload posted).2 := by
  unfold postQuestion
  rw [gotten]
  dsimp only
  rw [built]
  dsimp only [discordPort]
  split
  · next failed => rw [failed]
  · next refused => rw [refused]
  · next messageId after sent =>
      have waited := @pollReply_posted resolveChannel { channelId, messageId } after
      rw [sent]
      split <;> next polled => rw [polled] at waited; exact waited

/-- The embeds that a request adds are those of payloads. -/
theorem handleAsk_posted (channelIds : Dict Text Text) (params : PyValue) (posted : Posted) :
    (handleAsk py (some (discordPort resolveChannel)) channelIds params posted).2 = posted ∨
      ∃ payload : PostEmbedPayload,
        (handleAsk py (some (discordPort resolveChannel)) channelIds params posted).2 =
          posted ++ [(payload.channelId, embedOf payload)] := by
  unfold handleAsk
  rcases read : askParams params with raised | ⟨agentId, questions, timeoutMode⟩
  · exact .inl rfl
  dsimp only
  split
  · exact .inl rfl
  rcases found : askChannel py channelIds agentId with _ | channelId
  · exact .inl rfl
  rcases first : firstItem questions with raised | question
  · exact .inl rfl
  dsimp only
  rcases gotten : question.get "options" (.list []) with raised | options
  · exact .inl (by simp only [postQuestion, gotten])
  rcases built : questionPayload py channelId agentId question options with raised | payload
  · exact .inl (by simp only [postQuestion, gotten, built])
  rw [postQuestion_posted gotten built]
  exact (postEmbed_posted payload posted).imp_right fun added => ⟨payload, added⟩

/-- What a request posts by itself is the embed of a payload. -/
theorem embedOf_of_posted {channelIds : Dict Text Text} {params : PyValue} {channelId : Text}
    {embed : Embed} (only : (handleAsk py (some (discordPort resolveChannel)) channelIds params
      []).2 = [(channelId, embed)]) : ∃ payload, embed = embedOf payload := by
  rcases @handleAsk_posted py resolveChannel channelIds params [] with none | ⟨payload, one⟩
  · rw [none] at only
    cases only
  · rw [one, List.nil_append] at only
    exact ⟨payload, (congrArg Prod.snd (List.singleton_inj.mp only)).symm⟩

theorem not_comesBack (agentId : PyValue) (questions : List PyValue)
    (payload : PostEmbedPayload) : ¬ ComesBack py agentId questions (embedOf payload) := by
  rintro ⟨⟨requestId, recognized⟩, _⟩
  rw [isQuestionEmbed_embedOf] at recognized
  cases recognized

/-- The question handler does nothing with an embed that the daemon posted for a question. -/
theorem onMessage_posted (channelIds : Dict Text Text) (params : PyValue) (botUserId : ℕ)
    (hasPm : Bool) : ∀ post ∈ (handleAsk py (some (discordPort resolveChannel)) channelIds params
      []).2, QuestionHandlerCog.onMessage botUserId hasPm (botMessage botUserId post.2) = none := by
  intro post sent
  rcases @handleAsk_posted py resolveChannel channelIds params [] with none | ⟨payload, one⟩
  · rw [none] at sent
    cases sent
  · rw [one, List.nil_append, List.mem_singleton] at sent
    rw [sent, QuestionHandlerCog.onMessage, isQuestionEmbed_embedOf]
    exact ite_self none

/-- The other questions of a list change neither what is posted nor the reply. -/
theorem handleAsk_first (channelIds : Dict Text Text) (agentId timeoutMode question : PyValue)
    (others : List PyValue) (posted : Posted) :
    handleAsk py (some (discordPort resolveChannel)) channelIds
        (askParameters agentId timeoutMode (question :: others)) posted =
      handleAsk py (some (discordPort resolveChannel)) channelIds
        (askParameters agentId timeoutMode [question]) posted := rfl

end

/-- **Questions do not come back.** Whatever an agent asks, what the daemon posts for it is not
recognized as a question of the agent. -/
theorem handleAsk_never_round_trips (py : PyRuntime)
    (resolveChannel : Text → Option TextChannel) (channelIds : Dict Text Text)
    (agentId timeoutMode : PyValue) (questions : List PyValue) :
    ¬ RoundTrips py resolveChannel channelIds agentId timeoutMode questions := by
  rintro ⟨channelId, embed, only, back⟩
  obtain ⟨payload, rfl⟩ := embedOf_of_posted only
  exact not_comesBack agentId questions payload back

/-- A runtime that formats no value but strings. -/
def plainRuntime : PyRuntime where
  casing := .plain
  safeLoad _ := .error .yamlError
  loads _ := .error .jsonDecodeError
  dumps _ := []
  repr _ := []

/-- A channel that takes every embed and sees no reply. -/
def silentChannel : TextChannel where
  send _ := .ok 1
  history _ := some []

def plainQuestion (text : Text) : PyValue := .dict [(.str "question".toList, .str text)]

def agentChannels : Dict Text Text := Dict.empty.set "agent-a".toList "7".toList

/-- The first of two questions is posted; it is not recognized, and the second is not shown. -/
theorem two_questions_lost :
    (handleAsk plainRuntime (some (discordPort fun _ => some silentChannel)) agentChannels
        (askParameters (.str "a".toList) (.str "continue".toList)
          [plainQuestion "x".toList, plainQuestion "y".toList]) []).2 =
      [("7".toList, embedOf { channelId := "7".toList, title := "Question from a".toList
                              description := "x\n\n".toList, color := some 0x3498DB })] ∧
      ¬ RoundTrips plainRuntime (fun _ => some silentChannel) agentChannels (.str "a".toList)
        (.str "continue".toList) [plainQuestion "x".toList, plainQuestion "y".toList] := by
  refine ⟨by decide +kernel, ?_⟩
  rintro ⟨channelId, embed, only, back⟩
  obtain ⟨payload, rfl⟩ := embedOf_of_posted only
  exact not_comesBack _ _ payload back

end Vcompany.Bot
