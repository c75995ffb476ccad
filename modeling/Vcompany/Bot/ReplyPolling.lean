import Vcompany.Bot.QuestionEmbed

/-! # Polling for the reply to a question

Each poll asks Discord for the oldest messages behind the question, at most twenty of them. A
reply is found by the first poll at which the channel has one exactly if that poll is answered
and the earliest reply is among those (`answers_found_iff`): behind twenty other messages no
poll sees it.
-/

namespace Vcompany.Bot

open Foundation Daemon

structure TextChannelMessage extends HistoryMessage where
  id : ℕ

/-- The messages of a channel at the time of each poll, oldest first, and whether Discord answers
the poll. -/
structure ChannelTraffic where
  messages : ℕ → List TextChannelMessage
  answers : ℕ → Bool

/-- `channel.history(after, limit)`. -/
def channelHistory (after limit : ℕ) (messages : List TextChannelMessage) :
    List TextChannelMessage :=
  (messages.filter fun message => after < message.id).take limit

/-- The message is a reply to the question. -/
def TextChannelMessage.RepliesTo (messageId : ℕ) (message : TextChannelMessage) : Prop :=
  messageId < message.id ∧ message.reference = some (some messageId)

instance (messageId : ℕ) : DecidablePred (TextChannelMessage.RepliesTo messageId) :=
  fun _ => inferInstanceAs (Decidable (_ ∧ _))

namespace ChannelTraffic

variable (traffic : ChannelTraffic) (messageId : ℕ)

/-- What a poll for the question is given. -/
def window (poll : ℕ) : List TextChannelMessage :=
  channelHistory messageId 20 (traffic.messages poll)

/-- The channel, as polls for the question find it. -/
def channel (send : Embed → Except PyExc ℕ) : TextChannel where
  send := send
  history poll :=
    if traffic.answers poll then
      some ((traffic.window messageId poll).map TextChannelMessage.toHistoryMessage)
    else none

/-- The earliest reply that the channel has at a poll. -/
def earliestReply (poll : ℕ) : Option TextChannelMessage :=
  (traffic.messages poll).find? (TextChannelMessage.RepliesTo messageId ·)

/-- The first poll at which the channel has a reply, and the earliest one it has then. -/
def FirstAnswered (poll : ℕ) (reply : TextChannelMessage) : Prop :=
  traffic.earliestReply messageId poll = some reply ∧
    ∀ earlier < poll, traffic.earliestReply messageId earlier = none

/-- What a poll makes of its window. -/
def polled (poll : ℕ) : Option Text :=
  if traffic.answers poll then
    replyIn messageId ((traffic.window messageId poll).map TextChannelMessage.toHistoryMessage)
  else none

variable {traffic messageId} {send : Embed → Except PyExc ℕ} {poll : ℕ}

theorem channel_history (poll : ℕ) :
    ((traffic.channel messageId send).history poll).bind (replyIn messageId) =
      traffic.polled messageId poll := by
  unfold channel polled
  dsimp only
  split <;> rfl

/-- A reply in a window is the content of the first message of the window that replies. -/
theorem replyIn_window :
    replyIn messageId ((traffic.window messageId poll).map TextChannelMessage.toHistoryMessage) =
      ((traffic.window messageId poll).find? (TextChannelMessage.RepliesTo messageId ·)).map
        (·.content) := by
  have later : ∀ message ∈ traffic.window messageId poll, messageId < message.id :=
    fun message member =>
      of_decide_eq_true (List.mem_filter.mp (List.mem_of_mem_take member)).2
  unfold replyIn
  generalize traffic.window messageId poll = messages at later
  induction messages with
  | nil => rfl
  | cons message messages ih =>
      obtain ⟨first, others⟩ := List.forall_mem_cons.mp later
      rw [List.map_cons, List.find?_cons, List.find?_cons]
      by_cases replies : message.reference = some (some messageId)
      · rw [decide_eq_true replies, decide_eq_true (p := message.RepliesTo messageId)
          ⟨first, replies⟩]
        rfl
      · rw [decide_eq_false replies,
          decide_eq_false fun both : message.RepliesTo messageId => replies both.2]
        exact ih others

/-- The messages behind the question have the channel's earliest reply. -/
theorem find?_behind :
    ((traffic.messages poll).filter fun message => messageId < message.id).find?
        (TextChannelMessage.RepliesTo messageId ·) = traffic.earliestReply messageId poll := by
  unfold earliestReply
  rw [List.find?_filter]
  congr 1
  funext message
  by_cases replies : message.RepliesTo messageId
  · rw [decide_eq_true replies]
    exact decide_eq_true ⟨decide_eq_true replies.1, rfl⟩
  · rw [decide_eq_false replies]
    exact decide_eq_false fun both => Bool.false_ne_true both.2

/-- A reply in the window is the earliest one of the channel. -/
theorem earliestReply_of_find? {reply : TextChannelMessage}
    (found : (traffic.window messageId poll).find? (TextChannelMessage.RepliesTo messageId ·) =
      some reply) : traffic.earliestReply messageId poll = some reply := by
  rw [← find?_behind, ← List.take_append_drop 20 (List.filter _ _), List.find?_append]
  change Option.or ((traffic.window messageId poll).find? _) _ = _
  rw [found]
  rfl

theorem polled_eq_none (unanswered : traffic.earliestReply messageId poll = none) :
    traffic.polled messageId poll = none := by
  unfold polled
  split
  · rw [replyIn_window, Option.map_eq_none_iff]
    by_contra found
    obtain ⟨reply, found⟩ := Option.ne_none_iff_exists'.mp found
    rw [earliestReply_of_find? found] at unanswered
    cases unanswered
  · rfl

/-- A poll finds the reply that the channel has exactly if it is answered and the reply is in its
window. -/
theorem polled_iff {reply : TextChannelMessage}
    (earliest : traffic.earliestReply messageId poll = some reply) :
    traffic.polled messageId poll = some reply.content ↔
      traffic.answers poll = true ∧ reply ∈ traffic.window messageId poll := by
  unfold polled
  by_cases answered : traffic.answers poll = true
  · rw [if_pos answered, and_iff_right answered, replyIn_window]
    constructor
    · intro found
      obtain ⟨other, first, -⟩ := Option.map_eq_some_iff.mp found
      have same := (earliestReply_of_find? first).symm.trans earliest
      rw [← Option.some.inj same]
      exact List.mem_of_find?_eq_some first
    · intro member
      have replies : reply.RepliesTo messageId := by simpa using List.find?_some earliest
      have some : ((traffic.window messageId poll).find?
          (TextChannelMessage.RepliesTo messageId ·)).isSome = true :=
        List.find?_isSome.mpr ⟨reply, member, decide_eq_true replies⟩
      obtain ⟨other, first⟩ := Option.isSome_iff_exists.mp some
      rw [first, Option.some.inj ((earliestReply_of_find? first).symm.trans earliest)]
      rfl
  · rw [if_neg answered]
    exact iff_of_false nofun fun both => answered both.1

end ChannelTraffic

/-! ## The whole wait -/

/-- The polls that find nothing are as if they were not made. -/
theorem pollFrom_of_silent {history : ℕ → Option (List HistoryMessage)} {messageId start poll : ℕ}
    (silent : ∀ earlier < poll, (history (start + earlier)).bind (replyIn messageId) = none)
    (left : ℕ) :
    pollFrom history messageId start (poll + left) =
      pollFrom history messageId (start + poll) left := by
  induction poll generalizing start with
  | zero => rw [Nat.zero_add, Nat.add_zero]
  | succ poll ih =>
      have first := silent 0 (Nat.succ_pos poll)
      rw [Nat.add_zero] at first
      rw [Nat.add_right_comm, pollFrom, first, Option.none_or, ih fun earlier before => ?_,
        Nat.add_right_comm, Nat.add_assoc]
      have later := silent (earlier + 1) (Nat.succ_lt_succ before)
      rwa [Nat.add_comm earlier, ← Nat.add_assoc] at later

variable (resolve : Text → Option ChannelTraffic) (send : Text → Embed → Except PyExc ℕ)
  (payload : PollReplyPayload) (posted : Posted)

/-- `poll_reply` over the channels that the bot can resolve. -/
def pollReplyOver : Except PyExc (Option Text) × Posted :=
  pollReply (fun channelId => (resolve channelId).map fun traffic =>
    traffic.channel payload.messageId (send channelId)) payload posted

/-- The earliest reply is returned, by the first poll at which the channel has one. -/
def FindsAnswers : Prop :=
  ∀ traffic, resolve payload.channelId = some traffic → ∀ poll < payload.maxPolls, ∀ reply,
    traffic.FirstAnswered payload.messageId poll reply →
      pollReplyOver resolve send { payload with maxPolls := poll + 1 } posted =
          (.ok (some reply.content), posted) ∧
        pollReplyOver resolve send payload posted = (.ok (some reply.content), posted)

/-- The first poll at which the channel has a reply is answered, and the earliest one is among
the twenty messages that the poll is given. -/
def AnswersInWindow : Prop :=
  ∀ traffic, resolve payload.channelId = some traffic → ∀ poll < payload.maxPolls, ∀ reply,
    traffic.FirstAnswered payload.messageId poll reply →
      traffic.answers poll = true ∧ reply ∈ traffic.window payload.messageId poll

variable {resolve send payload posted}

theorem pollReplyOver_eq {traffic : ChannelTraffic}
    (resolved : resolve payload.channelId = some traffic) :
    pollReplyOver resolve send payload posted =
      (.ok (pollFrom (traffic.channel payload.messageId (send payload.channelId)).history
        payload.messageId 0 payload.maxPolls), posted) := by
  unfold pollReplyOver pollReply
  dsimp only
  rw [resolved]
  rfl

/-- Up to the first poll at which the channel has a reply, and beyond. -/
theorem pollFrom_firstAnswered {traffic : ChannelTraffic} {messageId poll left : ℕ}
    {reply : TextChannelMessage} {channelSend : Embed → Except PyExc ℕ}
    (first : traffic.FirstAnswered messageId poll reply) :
    pollFrom (traffic.channel messageId channelSend).history messageId 0 (poll + (left + 1)) =
      (traffic.polled messageId poll).or
        (pollFrom (traffic.channel messageId channelSend).history messageId (poll + 1) left) := by
  rw [pollFrom_of_silent fun earlier before => ?_, Nat.zero_add, pollFrom,
    ChannelTraffic.channel_history]
  rw [ChannelTraffic.channel_history, Nat.zero_add]
  exact ChannelTraffic.polled_eq_none (first.2 earlier before)

/-- **When replies are found.** The earliest reply is returned by the first poll at which the
channel has one, exactly if that poll is answered and the reply is among the first twenty
messages behind the question. -/
theorem answers_found_iff (resolve : Text → Option ChannelTraffic)
    (send : Text → Embed → Except PyExc ℕ) (payload : PollReplyPayload) (posted : Posted) :
    FindsAnswers resolve send payload posted ↔ AnswersInWindow resolve payload := by
  unfold FindsAnswers AnswersInWindow
  refine forall₂_congr fun traffic resolved => forall₂_congr fun poll before =>
    forall₂_congr fun reply first => ?_
  have short : pollReplyOver resolve send { payload with maxPolls := poll + 1 } posted =
      (.ok (traffic.polled payload.messageId poll), posted) := by
    rw [pollReplyOver_eq (by exact resolved)]
    dsimp only
    rw [pollFrom_firstAnswered first, pollFrom, Option.or_none]
  rw [short, ← ChannelTraffic.polled_iff first.1]
  constructor
  · rintro ⟨found, -⟩
    exact Except.ok.inj (Prod.mk.inj found).1
  · intro found
    refine ⟨by rw [found], ?_⟩
    obtain ⟨left, total⟩ := Nat.exists_eq_add_of_lt before
    rw [pollReplyOver_eq resolved, total, Nat.add_assoc, pollFrom_firstAnswered first, found]
    rfl

/-- Twenty other messages behind the question, and then a reply. -/
def busyChannel : ChannelTraffic where
  messages _ :=
    (List.range 20).map (fun number => ⟨⟨none, "later"⟩, number + 2⟩) ++
      [⟨⟨some (some 1), "yes"⟩, 22⟩]
  answers _ := true

/-- The reply is not found. -/
theorem reply_out_of_window :
    ¬ ∀ (resolve : Text → Option ChannelTraffic) (send : Text → Embed → Except PyExc ℕ)
      (payload : PollReplyPayload) (posted : Posted),
      FindsAnswers resolve send payload posted := by
  intro always
  have found := always (fun _ => some busyChannel) (fun _ _ => .ok 1)
    { channelId := "5", messageId := 1 } [] busyChannel rfl 0 (by decide)
    ⟨⟨some (some 1), "yes"⟩, 22⟩ ⟨rfl, nofun⟩
  exact absurd (Except.ok.inj (Prod.mk.inj found.1).1) (by decide)

end Vcompany.Bot
