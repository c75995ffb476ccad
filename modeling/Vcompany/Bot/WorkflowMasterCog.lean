import Vcompany.Foundation.PyValue

/-! # The channel of the workflow master

The cog relays a message to the daemon and posts the response in pieces of as many characters
as a Discord message may have. The heading stands before the first piece and is not counted in
it, so the pieces make up the response (`postChunks_whole`), but the first message fits only if
the response leaves room for the heading (`sendToChannel_delivers_iff`).
-/

namespace Vcompany.Bot.WorkflowMasterCog

open Foundation

/-- `_DISCORD_MAX_CHARS`. -/
def discordMaxChars : ℕ := 2000

/-- What stands before the first piece of a response. -/
def heading : Text := "[workflow-master] "

def statusMessage : Text := "[workflow-master] working on it..."

def noOutputMessage : Text := "[workflow-master] done (no text output)"

/-- What the cog talks to. -/
structure Port where
  /-- `channel.send`. -/
  send : Text → Except PyExc Unit
  /-- `runtime_api.relay_workflow_master_message`. -/
  relay : Text → Except PyExc Text

/-- The messages that were sent, the last of which may have raised, and what the call gave. -/
structure Posting (α : Type) where
  sent : List Text
  result : Except PyExc α

namespace Posting

variable {α β : Type}

/-- A message is sent before the others. -/
def behind (message : Text) (posting : Posting α) : Posting α :=
  ⟨message :: posting.sent, posting.result⟩

def map (f : α → β) (posting : Posting α) : Posting β := ⟨posting.sent, posting.result.map f⟩

end Posting

/-- The loop over the remaining text, if it comes to its end in so many rounds. -/
def postChunks (send : Text → Except PyExc Unit) (response : Text) :
    ℕ → Text → Option (Posting Unit)
  | _, [] => some ⟨[], .ok ()⟩
  | 0, _ :: _ => none
  | rounds + 1, remaining =>
      let chunk := remaining.take discordMaxChars
      let message := (if remaining = response then heading else []) ++ chunk
      match send message with
      | .error raised => some ⟨[message], .error raised⟩
      | .ok () =>
          (postChunks send response rounds (remaining.drop chunk.length)).map
            (.behind message)

/-- `_send_to_channel`. What the deletion of the status message raises is passed over. -/
def sendToChannel (port : Port) (content : Text) (rounds : ℕ) : Option (Posting Text) :=
  match port.send statusMessage with
  | .error raised => some ⟨[statusMessage], .error raised⟩
  | .ok () =>
      match port.relay content with
      | .error raised => some ⟨[statusMessage], .error raised⟩
      | .ok response =>
          if response = [] then
            some ⟨[statusMessage, noOutputMessage], (port.send noOutputMessage).map fun _ => []⟩
          else
            (postChunks port.send response rounds response).map fun posting =>
              (posting.map fun _ => response).behind statusMessage

/-- The call comes to its end, the messages behind the status message are not longer than
Discord allows, and they make up the response behind the heading. -/
def Delivers (port : Port) (content response : Text) : Prop :=
  ∃ rounds messages result,
    sendToChannel port content rounds = some ⟨statusMessage :: messages, result⟩ ∧
      (∀ message ∈ messages, message.length ≤ discordMaxChars) ∧
      messages.flatten = heading ++ response

variable {port : Port} {send : Text → Except PyExc Unit} {content response remaining : Text}

theorem postChunks_nil (rounds : ℕ) : postChunks send response rounds [] = some ⟨[], .ok ()⟩ := by
  cases rounds <;> rfl

theorem postChunks_succ (rounds : ℕ) (inhabited : remaining ≠ []) :
    postChunks send response (rounds + 1) remaining =
      let message :=
        (if remaining = response then heading else []) ++ remaining.take discordMaxChars
      match send message with
      | .error raised => some ⟨[message], .error raised⟩
      | .ok () =>
          (postChunks send response rounds (remaining.drop discordMaxChars)).map
            (.behind message) := by
  obtain ⟨c, rest, rfl⟩ := List.exists_cons_of_ne_nil inhabited
  have behind : (c :: rest).drop ((c :: rest).take discordMaxChars).length =
      (c :: rest).drop discordMaxChars := by
    rw [List.length_take, List.drop_eq_drop_iff]
    omega
  rw [postChunks, behind]
  exact inhabited

/-- In a channel that takes every message, what remains is sent piece by piece and whole. -/
theorem postChunks_rest (takes : ∀ message, send message = .ok ()) :
    ∀ {remaining : Text}, remaining.length < response.length →
      ∃ rounds messages, postChunks send response rounds remaining = some ⟨messages, .ok ()⟩ ∧
        (∀ message ∈ messages, message.length ≤ discordMaxChars) ∧
        messages.flatten = remaining := by
  intro remaining shorter
  induction length : remaining.length using Nat.strong_induction_on generalizing remaining with
  | _ count ih =>
      by_cases ended : remaining = []
      · subst ended
        exact ⟨0, [], rfl, nofun, rfl⟩
      · have inhabited := List.length_pos_iff.mpr ended
        have fewer : (remaining.drop discordMaxChars).length < count := by
          rw [List.length_drop, ← length]
          exact Nat.sub_lt inhabited (by decide)
        obtain ⟨rounds, messages, posted, bounded, whole⟩ :=
          ih _ fewer (fewer.trans (length ▸ shorter)) rfl
        refine ⟨rounds + 1, remaining.take discordMaxChars :: messages, ?_, ?_, ?_⟩
        · have other : remaining ≠ response := fun same => shorter.ne (congrArg List.length same)
          rw [postChunks_succ rounds ended, if_neg other, List.nil_append]
          dsimp only
          rw [takes, posted]
          rfl
        · exact List.forall_mem_cons.mpr ⟨List.length_take_le _ _, bounded⟩
        · rw [List.flatten_cons, whole, List.take_append_drop]

/-- In a channel that takes every message, the loop ends, and it loses nothing of the response:
only the first message may be too long. -/
theorem postChunks_whole (takes : ∀ message, send message = .ok ()) (inhabited : response ≠ []) :
    ∃ rounds first messages,
      postChunks send response rounds response = some ⟨first :: messages, .ok ()⟩ ∧
        first.length ≤ heading.length + discordMaxChars ∧
        (∀ message ∈ messages, message.length ≤ discordMaxChars) ∧
        (first :: messages).flatten = heading ++ response := by
  have shorter : (response.drop discordMaxChars).length < response.length := by
    rw [List.length_drop]
    exact Nat.sub_lt (List.length_pos_iff.mpr inhabited) (by decide)
  obtain ⟨rounds, messages, posted, bounded, whole⟩ := postChunks_rest takes shorter
  refine ⟨rounds + 1, heading ++ response.take discordMaxChars, messages, ?_, ?_, bounded, ?_⟩
  · rw [postChunks_succ rounds inhabited, if_pos rfl]
    dsimp only
    rw [takes, posted]
    rfl
  · rw [List.length_append]
    exact Nat.add_le_add_left (List.length_take_le _ _) _
  · rw [List.flatten_cons, whole, List.append_assoc, List.take_append_drop]

/-- However the loop ends, the first message is the heading with the first piece. -/
theorem postChunks_first {rounds : ℕ} {posting : Posting Unit} (inhabited : response ≠ [])
    (posted : postChunks send response rounds response = some posting) :
    ∃ later, posting.sent = (heading ++ response.take discordMaxChars) :: later := by
  cases rounds with
  | zero =>
      obtain ⟨c, rest, rfl⟩ := List.exists_cons_of_ne_nil inhabited
      cases posted
  | succ rounds =>
      rw [postChunks_succ rounds inhabited, if_pos rfl] at posted
      dsimp only at posted
      split at posted
      · cases posted
        exact ⟨[], rfl⟩
      · obtain ⟨later, _, rfl⟩ := Option.map_eq_some_iff.mp posted
        exact ⟨later.sent, rfl⟩

/-- The call once the daemon has responded. -/
theorem sendToChannel_relayed (ready : port.send statusMessage = .ok ())
    (relayed : port.relay content = .ok response) (inhabited : response ≠ []) (rounds : ℕ) :
    sendToChannel port content rounds =
      (postChunks port.send response rounds response).map fun posting =>
        (posting.map fun _ => response).behind statusMessage := by
  unfold sendToChannel
  rw [ready, relayed]
  exact if_neg inhabited

/-- What is sent first tells that a delivered response leaves room for the heading. -/
theorem Delivers.fits (ready : port.send statusMessage = .ok ())
    (relayed : port.relay content = .ok response) (inhabited : response ≠ [])
    (delivers : Delivers port content response) :
    heading.length + response.length ≤ discordMaxChars := by
  obtain ⟨rounds, messages, result, sent, bounded, -⟩ := delivers
  rw [sendToChannel_relayed ready relayed inhabited] at sent
  obtain ⟨posting, posted, same⟩ := Option.map_eq_some_iff.mp sent
  obtain ⟨later, first⟩ := postChunks_first inhabited posted
  obtain rfl : posting.sent = messages := (List.cons.inj (congrArg Posting.sent same)).2
  rw [first, List.forall_mem_cons, List.length_append, List.length_take] at bounded
  have headed : 0 < heading.length := by decide
  omega

theorem not_blank_headed (response : Text) : ¬ Text.Blank (heading ++ response) := by
  intro blank
  have first := blank '[' (List.mem_append_left _ (by decide))
  exact absurd first (by decide)

/-- **Long responses.** A response is delivered whole and in messages that Discord allows
exactly when it and the heading fit into one message. -/
theorem sendToChannel_delivers_iff (relayed : port.relay content = .ok response)
    (inhabited : response ≠ [])
    (takes : ∀ message : Text, ¬ Text.Blank message → message.length ≤ discordMaxChars →
      port.send message = .ok ()) :
    Delivers port content response ↔ heading.length + response.length ≤ discordMaxChars := by
  have ready := takes statusMessage (by decide) (by decide)
  refine ⟨Delivers.fits ready relayed inhabited, fun fits => ?_⟩
  have all : response.length ≤ discordMaxChars := (Nat.le_add_left _ _).trans fits
  have message : port.send (heading ++ response) = .ok () :=
    takes _ (not_blank_headed response) (by rw [List.length_append]; exact fits)
  refine ⟨1, [heading ++ response], .ok response, ?_, ?_, List.flatten_singleton⟩
  · rw [sendToChannel_relayed ready relayed inhabited, postChunks_succ 0 inhabited, if_pos rfl,
      List.take_of_length_le all, List.drop_eq_nil_of_le all]
    dsimp only
    rw [message, postChunks_nil]
    rfl
  · intro message member
    rw [List.mem_singleton.mp member, List.length_append]
    exact fits

/-- A channel that refuses what is blank or too long, and a daemon that gives the response. -/
private def answering (response : Text) : Port where
  send message :=
    if ¬ Text.Blank message ∧ message.length ≤ discordMaxChars then .ok () else .error .other
  relay _ := .ok response

theorem short_answer_delivered :
    heading.length + ("done" : Text).length ≤ discordMaxChars ∧
      Delivers (answering "done") [] "done" := by
  have fits : heading.length + ("done" : Text).length ≤ discordMaxChars := by decide
  exact ⟨fits, (sendToChannel_delivers_iff rfl (by decide) fun _ solid short =>
    if_pos ⟨solid, short⟩).mpr fits⟩

/-- A response of 1983 characters makes a message of 2001. -/
theorem long_answer_not_delivered :
    ¬ ∀ (port : Port) (content response : Text), port.relay content = .ok response →
      response ≠ [] →
      (∀ message : Text, ¬ Text.Blank message → message.length ≤ discordMaxChars →
        port.send message = .ok ()) → Delivers port content response := by
  intro claim
  have inhabited : List.replicate 1983 'a' ≠ [] := List.cons_ne_nil _ _
  have delivers := claim (answering (List.replicate 1983 'a')) [] _ rfl inhabited
    fun _ solid short => if_pos ⟨solid, short⟩
  have fits := delivers.fits rfl rfl inhabited
  rw [List.length_replicate] at fits
  exact absurd fits (by decide)

end Vcompany.Bot.WorkflowMasterCog
