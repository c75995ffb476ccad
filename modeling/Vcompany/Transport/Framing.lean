import Vcompany.Foundation.LineReader
import Vcompany.Transport.Messages
import Mathlib.Data.List.DropRight

/-! # Framing messages as lines

A message travels as one line: its JSON text and a newline. The head and the worker
have the same codec and the same read loop, which takes lines off an
`asyncio.StreamReader`, skips blank lines and lines that do not decode, and ends
when the reader raises. The stream is opened without a limit of its own, so the
reader has the default one.

`channel_lossless_iff` shows that the channel delivers a sequence of messages
exactly when the JSON text of each fits in the limit.
-/

namespace Vcompany.Transport

open Foundation

abbrev Octets := List UInt8

def newline : UInt8 := 10

/-- `asyncio.streams._DEFAULT_LIMIT`. -/
def streamLimit : ℕ := 65536

/-- The bytes that `bytes.strip` removes. -/
def isSpaceByte (octet : UInt8) : Bool := (9 ≤ octet && octet ≤ 13) || octet == 32

/-- `bytes.strip()`. -/
def stripBytes (data : Octets) : Octets := (data.dropWhile isSpaceByte).rdropWhile isSpaceByte

/-- The serialization of a message type: `model_dump_json`, encoded as UTF-8, and
the `validate_json` of its type adapter. -/
structure Codec (M : Type) where
  modelDumpJson : M → Octets
  validateJson : Octets → Except PyExc M

variable {M : Type}

/-- `encode`. -/
def encode (codec : Codec M) (message : M) : Octets := codec.modelDumpJson message ++ [newline]

/-- `decode_head` and `decode_worker`, for the codec of the head's or the worker's
messages. -/
def decode (codec : Codec M) (data : Octets) : Except PyExc M :=
  codec.validateJson (stripBytes data)

/-- The body of the read loops, up to the dispatch of the message, for a line that
was read without its newline. -/
def decodeLine (codec : Codec M) (line : Octets) : Option M :=
  let stripped := stripBytes (line ++ [newline])
  if stripped = [] then none
  else match decode codec stripped with
    | .ok message => some message
    | .error _ => none

/-- The messages that a read loop has dispatched. -/
def received (codec : Codec M) (reader : LineReader UInt8) : List M :=
  reader.lines.filterMap (decodeLine codec)

/-- The serialization of a message is one line of JSON, an object, and is validated
as the message. -/
structure Codec.RoundTrips (codec : Codec M) (message : M) : Prop where
  validated : codec.validateJson (codec.modelDumpJson message) = .ok message
  object : ∃ fields, codec.modelDumpJson message = 123 :: fields ++ [125]
  oneLine : newline ∉ codec.modelDumpJson message

/-- The reader has been given the encoded messages, cut into chunks in some way, and
waits for more or has failed. -/
structure Delivered (codec : Codec M) (messages : List M) (reader : LineReader UInt8) : Prop where
  run : ∃ events, Run (LineReader.Step newline streamLimit) LineReader.init events reader
  arrived : reader.arrived = messages.flatMap (encode codec)
  idle : LineReader.Idle newline streamLimit reader

/-- The messages arrived as they were sent, and the read loop goes on. -/
def Lossless (codec : Codec M) (messages : List M) (reader : LineReader UInt8) : Prop :=
  received codec reader = messages ∧ reader.failed = false

/-! ## One message -/

/-- Only the newline is stripped from an encoded message. -/
theorem stripBytes_object (fields : Octets) :
    stripBytes (123 :: fields ++ [125] ++ [newline]) = 123 :: fields ++ [125] := by
  have start : (123 :: fields ++ [125] ++ [newline]).dropWhile isSpaceByte =
      123 :: fields ++ [125] ++ [newline] := by
    rw [List.cons_append, List.cons_append, List.dropWhile_cons_of_neg (by decide)]
  rw [stripBytes, start, List.rdropWhile_concat_pos _ _ _ (by decide),
    List.rdropWhile_concat_neg _ _ _ (by decide)]

private theorem stripBytes_bare (fields : Octets) :
    stripBytes (123 :: fields ++ [125]) = 123 :: fields ++ [125] := by
  have start : (123 :: fields ++ [125]).dropWhile isSpaceByte = 123 :: fields ++ [125] := by
    rw [List.cons_append, List.dropWhile_cons_of_neg (by decide)]
  rw [stripBytes, start, List.rdropWhile_concat_neg _ _ _ (by decide)]

/-- The line of an encoded message decodes to it. -/
theorem decodeLine_dump {codec : Codec M} {message : M} (roundTrips : codec.RoundTrips message) :
    decodeLine codec (codec.modelDumpJson message) = some message := by
  obtain ⟨fields, object⟩ := roundTrips.object
  have bare : stripBytes (codec.modelDumpJson message) = codec.modelDumpJson message := by
    rw [object]
    exact stripBytes_bare fields
  have line : stripBytes (codec.modelDumpJson message ++ [newline]) =
      codec.modelDumpJson message := by
    rw [object]
    exact stripBytes_object fields
  unfold decodeLine decode
  dsimp only
  rw [line, bare, roundTrips.validated, if_neg (by simp [object])]

theorem decode_encode {codec : Codec M} {message : M} (roundTrips : codec.RoundTrips message) :
    decode codec (encode codec message) = .ok message := by
  obtain ⟨fields, object⟩ := roundTrips.object
  unfold decode encode
  rw [object, stripBytes_object, ← object, roundTrips.validated]

/-! ## A sequence of messages -/

theorem flatMap_encode (codec : Codec M) (messages : List M) :
    messages.flatMap (encode codec) =
      joinLines newline (messages.map codec.modelDumpJson) := by
  rw [joinLines, List.flatMap_map]
  rfl

/-- The lines of encoded messages decode to them. -/
theorem filterMap_decodeLine {codec : Codec M} {messages : List M}
    (roundTrips : ∀ message ∈ messages, codec.RoundTrips message) :
    (messages.map codec.modelDumpJson).filterMap (decodeLine codec) = messages := by
  rw [List.filterMap_map]
  calc messages.filterMap (decodeLine codec ∘ codec.modelDumpJson)
    _ = messages.filterMap some :=
        List.filterMap_congr fun message member => decodeLine_dump (roundTrips message member)
    _ = messages := List.filterMap_some

/-- The stream can be delivered in any chunks. -/
theorem exists_delivered_in {chunks : List Octets} {stream : Octets}
    (whole : chunks.flatten = stream) :
    ∃ reads reader, Run (LineReader.Step newline streamLimit) LineReader.init
        (chunks.map .feed ++ reads) reader ∧
      reader.arrived = stream ∧ LineReader.Idle newline streamLimit reader := by
  subst whole
  obtain ⟨reads, reader, run, idle, arrived⟩ := LineReader.exists_idle newline streamLimit
    { (LineReader.init : LineReader UInt8) with
      arrived := chunks.flatten, buffer := chunks.flatten }
  exact ⟨reads, reader, LineReader.run_feed run, arrived, idle⟩

/-- The encoded messages can be delivered. -/
theorem exists_delivered (codec : Codec M) (messages : List M) :
    ∃ reader, Delivered codec messages reader := by
  obtain ⟨reads, reader, run, arrived, idle⟩ :=
    exists_delivered_in (@List.flatten_singleton _ (messages.flatMap (encode codec)))
  exact ⟨reader, ⟨_, run⟩, arrived, idle⟩

/-- However the messages are delivered, nothing is lost exactly when each fits. -/
theorem lossless_iff {codec : Codec M} {messages : List M} {reader : LineReader UInt8}
    (roundTrips : ∀ message ∈ messages, codec.RoundTrips message)
    (delivered : Delivered codec messages reader) :
    Lossless codec messages reader ↔
      ∀ message ∈ messages, (codec.modelDumpJson message).length ≤ streamLimit := by
  obtain ⟨⟨events, run⟩, arrived, idle⟩ := delivered
  rw [flatMap_encode] at arrived
  have solid : ∀ line ∈ messages.map codec.modelDumpJson, newline ∉ line := by
    rw [List.forall_mem_map]
    exact fun message member => (roundTrips message member).oneLine
  have faithful := LineReader.reads_iff run solid arrived idle
  rw [List.forall_mem_map] at faithful
  rw [← faithful]
  constructor
  · rintro ⟨_, alive⟩
    refine ⟨?_, alive⟩
    exact LineReader.lines_eq_of_idle solid (LineReader.faithful_run run) arrived idle alive
  · rintro ⟨lines, alive⟩
    refine ⟨?_, alive⟩
    rw [received, lines, filterMap_decodeLine roundTrips]

/-- **The channel.** A sequence of head messages, and one of worker messages, can be
delivered, and however it is cut into chunks it arrives as it was sent, with the
read loop still running, exactly when the JSON text of each message fits in the
reader's limit. -/
theorem channel_lossless_iff (head : Codec HeadMessage) (worker : Codec WorkerMessage) :
    (∀ messages, (∀ message ∈ messages, head.RoundTrips message) →
      (∃ reader, Delivered head messages reader) ∧
        ∀ reader, Delivered head messages reader →
          (Lossless head messages reader ↔
            ∀ message ∈ messages, (head.modelDumpJson message).length ≤ streamLimit)) ∧
    ∀ messages, (∀ message ∈ messages, worker.RoundTrips message) →
      (∃ reader, Delivered worker messages reader) ∧
        ∀ reader, Delivered worker messages reader →
          (Lossless worker messages reader ↔
            ∀ message ∈ messages, (worker.modelDumpJson message).length ≤ streamLimit) :=
  ⟨fun messages roundTrips => ⟨exists_delivered head messages, fun _ => lossless_iff roundTrips⟩,
    fun messages roundTrips =>
      ⟨exists_delivered worker messages, fun _ => lossless_iff roundTrips⟩⟩

def asciiOctets (text : Text) : Octets := text.map fun c => c.toNat.toUInt8

/-- The ASCII encoding of a JSON object with the given fields. -/
def objectOctets (fields : Text) : Octets := 123 :: asciiOctets fields ++ [125]

/-- A codec that serializes one message as the given object. -/
def sampleCodec (message : M) (fields : Text) : Codec M where
  modelDumpJson _ := objectOctets fields
  validateJson data := if data = objectOctets fields then .ok message else .error .valueError

theorem objectOctets_oneLine {fields : Text} (oneLine : newline ∉ asciiOctets fields) :
    newline ∉ objectOctets fields := by
  simp only [objectOctets, List.mem_append, List.mem_cons, List.not_mem_nil, or_false]
  rintro ((same | member) | same)
  · cases same
  · exact oneLine member
  · cases same

private theorem sampleCodec_roundTrips {message : M} {fields : Text}
    (oneLine : newline ∉ asciiOctets fields) :
    (sampleCodec message fields).RoundTrips message where
  validated := if_pos rfl
  object := ⟨_, rfl⟩
  oneLine := objectOctets_oneLine oneLine

/-- A codec that reads the texts of the given messages. -/
def knownCodec (fields : M → Text) (known : List M) : Codec M where
  modelDumpJson message := objectOctets (fields message)
  validateJson data :=
    match known.find? fun message => objectOctets (fields message) = data with
    | some message => .ok message
    | none => .error .valueError

theorem knownCodec_roundTrips {fields : M → Text} {known : List M} {message : M}
    (own : known.find? (fun other => objectOctets (fields other) = objectOctets (fields message)) =
      some message)
    (oneLine : newline ∉ asciiOctets (fields message)) :
    (knownCodec fields known).RoundTrips message where
  validated := by simp only [knownCodec, own]
  object := ⟨_, rfl⟩
  oneLine := objectOctets_oneLine oneLine

/-- The fields of head messages, as JSON, where nothing is to be escaped and a configuration
holds the session handler. -/
def headFields : HeadMessage → Text
  | .start message =>
      ("\"type\":\"start\",\"agent_id\":\"" : Text) ++ message.agentId ++
        ("\",\"config\":\x7b\"handler_type\":\"session\"\x7d" : Text)
  | .message message =>
      ("\"type\":\"message\",\"sender\":\"" : Text) ++ message.sender ++
        ("\",\"channel\":\"" : Text) ++ message.channel ++
        ("\",\"content\":\"" : Text) ++ message.content ++ ("\",\"message_id\":null" : Text)
  | .giveTask message =>
      ("\"type\":\"give-task\",\"task_id\":\"" : Text) ++ message.taskId ++
        ("\",\"description\":\"" : Text) ++ message.description ++
        ("\",\"context\":\x7b\x7d" : Text)
  | .healthCheck => "\"type\":\"health-check\""
  | .stop message =>
      ("\"type\":\"stop\",\"reason\":\"" : Text) ++ message.reason ++
        ("\",\"graceful\":" : Text) ++
        if message.graceful then ("true" : Text) else ("false" : Text)
  | .reconnect message =>
      ("\"type\":\"reconnect\",\"agent_id\":\"" : Text) ++ message.agentId ++ ("\"" : Text)

/-- A task and a health check. -/
def taskAndCheck : List HeadMessage :=
  [.giveTask { taskId := "t", description := "parse" }, .healthCheck]

/-- The fields of a signal and of a report, as JSON, where nothing is to be escaped. -/
def workerFields : WorkerMessage → Text
  | .signal message =>
      ("\"type\":\"signal\",\"signal\":\"" : Text) ++ message.signal ++
        ("\",\"detail\":\"" : Text) ++ message.detail ++ ("\"" : Text)
  | .report message =>
      ("\"type\":\"report\",\"channel\":\"" : Text) ++ message.channel ++
        ("\",\"content\":\"" : Text) ++ message.content ++ ("\",\"task_id\":null" : Text)
  | _ => []

/-- The signal of a started worker, and its first report. -/
def readyAndReport : List WorkerMessage :=
  [.signal { signal := "ready" }, .report { channel := "1", content := "done" }]

/-- The stream in three chunks, cut within a message and anywhere behind it. -/
def threeChunks (stream : Octets) : List Octets :=
  [stream.take 9, (stream.drop 9).take 60, (stream.drop 9).drop 60]

theorem threeChunks_flatten (stream : Octets) : (threeChunks stream).flatten = stream := by
  unfold threeChunks
  rw [List.flatten_cons, List.flatten_cons, List.flatten_cons, List.flatten_nil, List.append_nil,
    List.take_append_drop, List.take_append_drop]

/-- Short messages arrive, though the stream cuts them. -/
theorem short_messages_arrive :
    (∃ reads reader, Run (LineReader.Step newline streamLimit) LineReader.init
        ((threeChunks (taskAndCheck.flatMap
          (encode (knownCodec headFields taskAndCheck)))).map .feed ++ reads) reader ∧
      Lossless (knownCodec headFields taskAndCheck) taskAndCheck reader) ∧
    ∃ reads reader, Run (LineReader.Step newline streamLimit) LineReader.init
        ((threeChunks (readyAndReport.flatMap
          (encode (knownCodec workerFields readyAndReport)))).map .feed ++ reads) reader ∧
      Lossless (knownCodec workerFields readyAndReport) readyAndReport reader := by
  have head : ∀ message ∈ taskAndCheck,
      (knownCodec headFields taskAndCheck).RoundTrips message := by
    unfold taskAndCheck
    rw [List.forall_mem_cons, List.forall_mem_singleton]
    exact ⟨knownCodec_roundTrips rfl (by decide), knownCodec_roundTrips rfl (by decide)⟩
  have worker : ∀ message ∈ readyAndReport,
      (knownCodec workerFields readyAndReport).RoundTrips message := by
    unfold readyAndReport
    rw [List.forall_mem_cons, List.forall_mem_singleton]
    exact ⟨knownCodec_roundTrips rfl (by decide), knownCodec_roundTrips rfl (by decide)⟩
  have channel := channel_lossless_iff (knownCodec headFields taskAndCheck)
    (knownCodec workerFields readyAndReport)
  obtain ⟨headReads, headReader, headRun, headArrived, headIdle⟩ :=
    exists_delivered_in (threeChunks_flatten (taskAndCheck.flatMap
      (encode (knownCodec headFields taskAndCheck))))
  obtain ⟨workerReads, workerReader, workerRun, workerArrived, workerIdle⟩ :=
    exists_delivered_in (threeChunks_flatten (readyAndReport.flatMap
      (encode (knownCodec workerFields readyAndReport))))
  have headLossless := (channel.1 _ head).2 headReader ⟨⟨_, headRun⟩, headArrived, headIdle⟩
  have workerLossless :=
    (channel.2 _ worker).2 workerReader ⟨⟨_, workerRun⟩, workerArrived, workerIdle⟩
  refine ⟨⟨headReads, headReader, headRun, headLossless.mpr ?_⟩,
    workerReads, workerReader, workerRun, workerLossless.mpr ?_⟩
  · unfold taskAndCheck
    rw [List.forall_mem_cons, List.forall_mem_singleton]
    exact ⟨by decide, by decide⟩
  · unfold readyAndReport
    rw [List.forall_mem_cons, List.forall_mem_singleton]
    exact ⟨by decide, by decide⟩

/-- The fields of a report with so many letters. -/
def longReportFields (letters : ℕ) : Text :=
  ("\"type\":\"report\",\"channel\":\"1\",\"content\":\"" : Text) ++
    (List.replicate letters 'x' ++ ("\",\"task_id\":null" : Text))

def longReport (letters : ℕ) : WorkerMessage :=
  .report { channel := "1", content := List.replicate letters 'x' }

def longReportCodec (letters : ℕ) : Codec WorkerMessage :=
  sampleCodec (longReport letters) (longReportFields letters)

theorem longReport_roundTrips (letters : ℕ) :
    (longReportCodec letters).RoundTrips (longReport letters) := by
  have shape : asciiOctets (longReportFields letters) =
      asciiOctets ("\"type\":\"report\",\"channel\":\"1\",\"content\":\"" : Text) ++
        (List.replicate letters 120 ++ asciiOctets ("\",\"task_id\":null" : Text)) := by
    unfold longReportFields asciiOctets
    rw [List.map_append, List.map_append, List.map_replicate]
    rfl
  apply sampleCodec_roundTrips
  rw [shape, List.mem_append, List.mem_append]
  rintro (before | letter | after)
  · exact absurd before (by decide)
  · cases List.eq_of_mem_replicate letter
  · exact absurd after (by decide)

private theorem letters_lt_length (letters : ℕ) :
    letters < ((longReportCodec letters).modelDumpJson (longReport letters)).length := by
  change letters < (objectOctets (longReportFields letters)).length
  have fields : letters ≤ (longReportFields letters).length := by
    unfold longReportFields
    rw [List.length_append, List.length_append, List.length_replicate]
    omega
  have octets : (objectOctets (longReportFields letters)).length =
      (longReportFields letters).length + 2 := by
    rw [objectOctets, asciiOctets, List.length_append, List.length_cons, List.length_map]
    rfl
  omega

private theorem longReport_not_lossless {letters : ℕ} (long : streamLimit ≤ letters) :
    ∃ reader, Delivered (longReportCodec letters) [longReport letters] reader ∧
      ¬ Lossless (longReportCodec letters) [longReport letters] reader := by
  obtain ⟨reader, delivered⟩ := exists_delivered (longReportCodec letters) [longReport letters]
  refine ⟨reader, delivered, fun lossless => ?_⟩
  have roundTrips : ∀ message ∈ [longReport letters],
      (longReportCodec letters).RoundTrips message := by
    rw [List.forall_mem_singleton]
    exact longReport_roundTrips letters
  have fits := (lossless_iff roundTrips delivered).mp lossless (longReport letters)
    List.mem_cons_self
  have tooLong := letters_lt_length letters
  omega

/-- A report of as many letters as the limit ends the read loop. -/
theorem long_report_lost :
    (longReportCodec streamLimit).RoundTrips (longReport streamLimit) ∧
      ∃ reader, Delivered (longReportCodec streamLimit) [longReport streamLimit] reader ∧
        ¬ Lossless (longReportCodec streamLimit) [longReport streamLimit] reader :=
  ⟨longReport_roundTrips streamLimit, longReport_not_lossless le_rfl⟩

end Vcompany.Transport
