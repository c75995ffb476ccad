import Vcompany.Supervisor.CompanyRoot
import Vcompany.Transport.Framing

/-! # The channel reader

The daemon reads the lines of a worker one after another. A line that does not decode is
skipped, but an exception of the communication port is caught outside the loop. So the reader
hears the worker to the end exactly if no message of it is refused (`reader_hears_iff`).
-/

namespace Vcompany.Supervisor

open Foundation Transport

structure SendMessagePayload where
  channelId : Text
  content : Text
  deriving DecidableEq

/-- `send_message` of a communication port with a state. -/
abbrev SendMessage (σ : Type) := SendMessagePayload → σ → Except PyExc Bool × σ

variable {σ : Type}

/-- The reader's view: the port, the health report that the handle keeps, the messages it has
dealt with, and whether it still reads. -/
structure ChannelReader (σ : Type) where
  port : σ
  lastHealth : Option HealthReportMessage
  processed : List WorkerMessage
  reading : Bool

/-! ## Routing -/

/-- The channel of a handle, unless it is empty: `if handle.channel_id`. -/
def AgentHandle.givenChannel (handle : AgentHandle) : Option Text :=
  match handle.channelId with
  | some (c :: rest) => some (c :: rest)
  | _ => none

section Routing

variable (send : SendMessage σ) (handle : AgentHandle)

/-- `if handle.channel_id: await self._comm_port.send_message(…)`. What the port answers is not
looked at. -/
def sendToChannel (content : Text) (port : σ) : Except PyExc Unit × σ :=
  match handle.givenChannel with
  | none => (.ok (), port)
  | some channel =>
      match send ⟨channel, content⟩ port with
      | (.ok _, next) => (.ok (), next)
      | (.error raised, next) => (.error raised, next)

/-- `_route_report`. -/
def routeReport (message : ReportMessage) (port : σ) : Except PyExc Unit × σ :=
  sendToChannel send handle message.content port

def questionPrefix : Text := "**Question:** ".toList

/-- `_route_ask`. -/
def routeAsk (message : AskMessage) (port : σ) : Except PyExc Unit × σ :=
  sendToChannel send handle (questionPrefix ++ message.question) port

def readyName : Text := "ready".toList

/-- The announcement of a worker that is ready. -/
def readyContent (message : SignalMessage) : Text :=
  let detail := if message.detail = [] then [] else " (".toList ++ message.detail ++ ")".toList
  "[system] **".toList ++ handle.agentId ++ "** is ready".toList ++ detail ++ ".".toList

/-- What a signal is routed as. -/
def routeSignal (message : SignalMessage) (port : σ) : Except PyExc Unit × σ :=
  match handle.givenChannel with
  | none => (.ok (), port)
  | some channel =>
      if message.signal = readyName then
        routeReport send handle { channel := channel, content := readyContent handle message } port
      else (.ok (), port)

/-- What a message is routed as. Files are only logged. -/
def route (port : σ) : WorkerMessage → Except PyExc Unit × σ
  | .healthReport _ => (.ok (), port)
  | .signal message => routeSignal send handle message port
  | .report message => routeReport send handle message port
  | .ask message => routeAsk send handle message port
  | .sendFile _ => (.ok (), port)

/-! ## The loop -/

namespace ChannelReader

/-- The handle's health after a message. -/
def health (lastHealth : Option HealthReportMessage) : WorkerMessage → Option HealthReportMessage
  | .healthReport report => some report
  | _ => lastHealth

/-- The body of the loop for a message. An exception leaves the loop; what catches it outside
only writes to the log. -/
def dispatch (reader : ChannelReader σ) (message : WorkerMessage) : ChannelReader σ :=
  match route send handle reader.port message with
  | (.ok _, port) => {
      reader with
      port := port
      lastHealth := health reader.lastHealth message
      processed := reader.processed ++ [message] }
  | (.error _, port) => { reader with port := port, reading := false }

/-- `_channel_reader`, for the lines that come in. -/
def readLines (codec : Codec WorkerMessage) (reader : ChannelReader σ) (lines : List Octets) :
    ChannelReader σ :=
  match lines with
  | [] => reader
  | line :: lines =>
      if reader.reading then
        match decodeLine codec line with
        | none => readLines codec reader lines
        | some message => readLines codec (reader.dispatch send handle message) lines
      else reader

def start (port : σ) : ChannelReader σ := ⟨port, none, [], true⟩

end ChannelReader

end Routing

/-! ## What is refused -/

/-- What a message is to say in the channel of its agent. -/
def announced (handle : AgentHandle) : WorkerMessage → Option Text
  | .signal message =>
      if message.signal = readyName then some (readyContent handle message) else none
  | .report message => some message.content
  | .ask message => some (questionPrefix ++ message.question)
  | .healthReport _ | .sendFile _ => none

/-- What a message asks the port to send. -/
def outgoing (handle : AgentHandle) (message : WorkerMessage) : Option SendMessagePayload :=
  handle.givenChannel.bind fun channel =>
    (announced handle message).map fun content => ⟨channel, content⟩

/-- None of the calls raises, made one after another. -/
def Answers (send : SendMessage σ) : σ → List SendMessagePayload → Prop
  | _, [] => True
  | port, payload :: payloads =>
      (∃ answer, (send payload port).1 = .ok answer) ∧ Answers send (send payload port).2 payloads

variable {send : SendMessage σ} {handle : AgentHandle}

theorem sendToChannel_eq (content : Text) (port : σ) :
    sendToChannel send handle content port = match handle.givenChannel with
      | none => (.ok (), port)
      | some channel =>
          ((send ⟨channel, content⟩ port).1.map fun _ => (), (send ⟨channel, content⟩ port).2) := by
  unfold sendToChannel
  rcases handle.givenChannel with _ | channel
  · rfl
  · dsimp only
    rcases send ⟨channel, content⟩ port with ⟨answer | answer, next⟩ <;> rfl

/-- A message is routed as the call it asks for, if it asks for one. -/
theorem route_eq (port : σ) (message : WorkerMessage) :
    route send handle port message = match outgoing handle message with
      | none => (.ok (), port)
      | some payload => ((send payload port).1.map fun _ => (), (send payload port).2) := by
  unfold outgoing
  rcases given : handle.givenChannel with _ | channel
  · cases message with
    | signal message =>
        dsimp only [route]
        unfold routeSignal
        rw [given]
        rfl
    | report message => exact (sendToChannel_eq message.content port).trans (by rw [given]; rfl)
    | ask message =>
        exact (sendToChannel_eq (questionPrefix ++ message.question) port).trans
          (by rw [given]; rfl)
    | sendFile message => rfl
    | healthReport message => rfl
  · cases message with
    | signal message =>
        dsimp only [route, Option.bind, announced]
        unfold routeSignal
        rw [given]
        dsimp only
        split
        · exact (sendToChannel_eq (readyContent handle message) port).trans (by rw [given]; rfl)
        · rfl
    | report message => exact (sendToChannel_eq message.content port).trans (by rw [given]; rfl)
    | ask message =>
        exact (sendToChannel_eq (questionPrefix ++ message.question) port).trans
          (by rw [given]; rfl)
    | sendFile message => rfl
    | healthReport message => rfl

namespace ChannelReader

variable {codec : Codec WorkerMessage}

/-- What a message that asks for no call leaves. -/
def noted (reader : ChannelReader σ) (port : σ) (message : WorkerMessage) : ChannelReader σ :=
  { reader with
    port := port
    lastHealth := health reader.lastHealth message
    processed := reader.processed ++ [message] }

theorem dispatch_of_silent (reader : ChannelReader σ) {message : WorkerMessage}
    (silent : outgoing handle message = none) :
    reader.dispatch send handle message = reader.noted reader.port message := by
  unfold dispatch
  rw [route_eq, silent]
  rfl

theorem dispatch_of_outgoing (reader : ChannelReader σ) {message : WorkerMessage}
    {payload : SendMessagePayload} (asks : outgoing handle message = some payload) :
    reader.dispatch send handle message = match send payload reader.port with
      | (.ok _, port) => reader.noted port message
      | (.error _, port) => { reader with port := port, reading := false } := by
  unfold dispatch
  rw [route_eq, asks]
  dsimp only
  rcases send payload reader.port with ⟨answer | answer, port⟩ <;> rfl

/-- Once the loop is left, nothing is read. -/
theorem readLines_of_left {reader : ChannelReader σ} (left : reader.reading = false)
    (lines : List Octets) : readLines send handle codec reader lines = reader := by
  cases lines with
  | nil => rfl
  | cons line lines =>
      unfold readLines
      rw [if_neg (by rw [left]; exact Bool.false_ne_true)]

/-- What the reader has dealt with, once all the lines have come in and it still reads. -/
def Hears (reader : ChannelReader σ) (messages : List WorkerMessage)
    (after : ChannelReader σ) : Prop :=
  after.reading = true ∧ after.processed = reader.processed ++ messages

theorem hears_readLines_iff (reader : ChannelReader σ) (reads : reader.reading = true)
    (lines : List Octets) :
    Hears reader (lines.filterMap (decodeLine codec)) (readLines send handle codec reader lines) ↔
      Answers send reader.port
        ((lines.filterMap (decodeLine codec)).filterMap (outgoing handle)) := by
  induction lines generalizing reader with
  | nil => exact iff_of_true ⟨reads, (List.append_nil _).symm⟩ trivial
  | cons line lines ih =>
      unfold readLines
      rw [if_pos reads]
      rcases decoded : decodeLine codec line with _ | message
      · rw [List.filterMap_cons_none decoded]
        exact ih reader reads
      · rw [List.filterMap_cons_some decoded]
        dsimp only
        have later : ∀ port, Hears reader (message :: lines.filterMap (decodeLine codec))
            (readLines send handle codec (reader.noted port message) lines) ↔
              Answers send port
                ((lines.filterMap (decodeLine codec)).filterMap (outgoing handle)) := by
          intro port
          refine Iff.trans ?_ (ih (reader.noted port message) reads)
          unfold Hears noted
          rw [List.append_assoc, List.singleton_append]
        rcases asks : outgoing handle message with _ | payload
        · rw [dispatch_of_silent reader asks, List.filterMap_cons_none asks]
          exact later reader.port
        · rw [dispatch_of_outgoing reader asks, List.filterMap_cons_some asks]
          unfold Answers
          rcases send payload reader.port with ⟨raised | answer, port⟩
          · dsimp only
            rw [readLines_of_left rfl]
            refine iff_of_false (fun hears => ?_) fun answers => ?_
            · cases hears.1
            · obtain ⟨_, same⟩ := answers.1
              cases same
          · exact (later port).trans ⟨fun rest => ⟨⟨answer, rfl⟩, rest⟩, And.right⟩

end ChannelReader

open ChannelReader

/-- **The channel reader.** All messages of a worker are dealt with and the reader still reads,
exactly if no call that they ask for raises. -/
theorem reader_hears_iff (send : SendMessage σ) (handle : AgentHandle)
    (codec : Codec WorkerMessage) (port : σ) (lines : List Octets) :
    Hears (start port) (lines.filterMap (decodeLine codec))
        (readLines send handle codec (start port) lines) ↔
      Answers send port ((lines.filterMap (decodeLine codec)).filterMap (outgoing handle)) :=
  hears_readLines_iff (start port) rfl lines

/-! ## The port of the bot -/

/-- `DiscordCommunicationPort.send_message`, where `resolveChannel` finds the text channels, each
with what sending a content to it gives. -/
def sendMessage (resolveChannel : Text → Option (Text → Except PyExc Unit)) :
    SendMessage (List SendMessagePayload) :=
  fun payload posted =>
    match resolveChannel payload.channelId with
    | none => (.ok false, posted)
    | some channelSend =>
        match channelSend payload.content with
        | .error raised => (.error raised, posted)
        | .ok _ => (.ok true, posted ++ [payload])

/-- The bot's port raises for what a channel refuses, and for nothing else. -/
theorem answers_sendMessage_iff (resolveChannel : Text → Option (Text → Except PyExc Unit))
    (posted payloads : List SendMessagePayload) :
    Answers (sendMessage resolveChannel) posted payloads ↔
      ∀ payload ∈ payloads, ∀ channelSend, resolveChannel payload.channelId = some channelSend →
        channelSend payload.content = .ok () := by
  induction payloads generalizing posted with
  | nil => exact iff_of_true trivial nofun
  | cons payload payloads ih =>
      unfold Answers
      rw [List.forall_mem_cons, ih]
      apply and_congr_left
      intro _
      unfold sendMessage
      rcases resolveChannel payload.channelId with _ | channelSend
      · exact iff_of_true ⟨false, rfl⟩ nofun
      · dsimp only
        rcases sent : channelSend payload.content with raised | done
        · refine iff_of_false (fun answers => ?_) fun accepts => ?_
          · obtain ⟨_, same⟩ := answers
            cases same
          · cases sent.symm.trans (accepts channelSend rfl)
        · exact iff_of_true ⟨true, rfl⟩ fun other same => Option.some.inj same ▸ sent

/-- What Discord takes as the content of a message. -/
def discordAccepts (content : Text) : Except PyExc Unit :=
  if 0 < content.length ∧ content.length ≤ 2000 then .ok () else .error .other

def connectedHandle : AgentHandle where
  agentId := "dev".toList
  agentType := "task".toList
  handlerType := "session".toList
  config := []
  capabilities := []
  channelId := some "1".toList
  socket := some .remote

def longReportLine : Octets := (longReportCodec 2001).modelDumpJson (longReport 2001)

/-- A report of one letter more than Discord takes is the last line that the daemon reads. -/
theorem long_report_deafens :
    ¬ Hears (start [])
        ([longReportLine, longReportLine].filterMap (decodeLine (longReportCodec 2001)))
        (readLines (sendMessage fun _ => some discordAccepts) connectedHandle (longReportCodec 2001)
          (start []) [longReportLine, longReportLine]) := by
  rw [hears_readLines_iff (start []) rfl, answers_sendMessage_iff]
  intro accepts
  have decoded : decodeLine (longReportCodec 2001) longReportLine = some (longReport 2001) :=
    decodeLine_dump (longReport_roundTrips 2001)
  rw [List.filterMap_cons_some decoded] at accepts
  have taken := accepts ⟨"1".toList, List.replicate 2001 'x'⟩ List.mem_cons_self _ rfl
  have length : (List.replicate 2001 'x').length = 2001 := List.length_replicate
  unfold discordAccepts at taken
  dsimp only at taken
  rw [length, if_neg (by omega)] at taken
  cases taken

end Vcompany.Supervisor
