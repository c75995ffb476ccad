import Mathlib.Data.List.Perm.Basic
import Vcompany.Bot.QuestionEmbed
import Vcompany.Foundation.Transition

/-! # Alerts

An alert is sent to its channel, or put into a buffer when it cannot be. After a reconnect the
buffer is sent from its start and then emptied, however far the sending came. So an alert is
lost when a flush ends before it (`alerts_accounted_iff`).
-/

namespace Vcompany.Bot

open Foundation

/-! ## The embeds -/

/-- What the daemon raises an alert about. -/
inductive Alert where
  | agentDead (agentId : Text)
  | agentStuck (agentId : Text)
  | circuitOpen (agentId : Text) (crashCount : ℕ)
  | hookTimeout (agentId requestId fallback : Text)
  /-- The name of the plan's path. -/
  | planDetected (agentId planName : Text)
  deriving DecidableEq

inductive AlertType where
  | error
  | warning
  | info
  deriving DecidableEq

/-- `_ALERT_COLORS`. -/
def AlertType.color : AlertType → ℕ
  | error => 0xE74C3C
  | warning => 0xE67E22
  | info => 0xFEE75C

/-- `build_alert_embed`. -/
def buildAlertEmbed (title description : Text) (alertType : AlertType) : Embed where
  title := some title
  description := some description
  color := some alertType.color

def agentLabel (agentId : Text) : Text := "Agent **".toList ++ agentId ++ "** ".toList

def Alert.embed : Alert → Embed
  | agentDead agentId =>
      buildAlertEmbed "Agent Dead".toList
        (agentLabel agentId ++
          "is no longer responding. Automatic relaunch will be attempted.".toList) .error
  | agentStuck agentId =>
      buildAlertEmbed "Agent Stuck".toList
        (agentLabel agentId ++ "has had no git commits for 30+ minutes.".toList) .warning
  | circuitOpen agentId crashCount =>
      buildAlertEmbed "Circuit Breaker Open".toList
        (agentLabel agentId ++ "has crashed ".toList ++ (Nat.repr crashCount).toList ++
          " times in the last hour. Automatic relaunch disabled.".toList) .error
  | hookTimeout agentId requestId fallback =>
      buildAlertEmbed "Hook Timeout: Auto-fallback".toList
        (agentLabel agentId ++ "question (request `".toList ++ requestId ++
          "`) timed out.\nFallback answer: ".toList ++ fallback) .warning
  | planDetected agentId planName =>
      buildAlertEmbed "New Plan Detected".toList
        (agentLabel agentId ++ "created: `".toList ++ planName ++ "`".toList) .info

/-! ## The cog -/

/-- An alert that was raised, with its number. -/
structure RaisedAlert where
  number : ℕ
  embed : Embed
  deriving DecidableEq

/-- A flush that waits for its send: the place of the alert in the buffer, and the alert. -/
structure Flush where
  position : ℕ
  alert : RaisedAlert
  deriving DecidableEq

/-- A text channel of the guild. -/
structure GuildChannel where
  id : ℕ
  name : Text

/-- The cog and the bot's connection, with the alerts whose send is under way, those whose call
has returned, and those that Discord accepted. -/
structure AlertsCog where
  alertBuffer : List RaisedAlert
  alertsChannel : Option ℕ
  planReviewChannel : Option ℕ
  isClosed : Bool
  isBotReady : Bool
  made : ℕ
  sending : List RaisedAlert
  flushes : List Flush
  raised : List RaisedAlert
  sent : List RaisedAlert

namespace AlertsCog

def initial : AlertsCog := ⟨[], none, none, false, false, 0, [], [], [], []⟩

variable (cog : AlertsCog)

def resolveChannel (cog : AlertsCog) (channel : GuildChannel) : AlertsCog :=
  if channel.name = "alerts".toList then { cog with alertsChannel := some channel.id }
  else if channel.name = "plan-review".toList then
    { cog with planReviewChannel := some channel.id }
  else cog

/-- `_resolve_channels`, with the text channels of the guild if the bot knows it. -/
def resolveChannels (guild : Option (List GuildChannel)) : AlertsCog :=
  (guild.getD []).foldl resolveChannel cog

/-- The call ends with the alert in the buffer. -/
def buffered (alert : RaisedAlert) : AlertsCog :=
  { cog with alertBuffer := cog.alertBuffer ++ [alert], raised := alert :: cog.raised }

/-- The call waits for its send. -/
def startSend (alert : RaisedAlert) : AlertsCog := { cog with sending := cog.sending ++ [alert] }

/-- `_send_or_buffer`, up to its `await`. -/
def sendOrBuffer (alert : RaisedAlert) : AlertsCog :=
  if cog.isClosed = true ∨ cog.isBotReady = false then cog.buffered alert
  else if cog.alertsChannel.isSome then cog.startSend alert
  else cog.buffered alert

/-- `alert_plan_detected`, up to its `await`. -/
def alertPlanDetected (alert : RaisedAlert) : AlertsCog :=
  if cog.planReviewChannel.isSome then cog.startSend alert else cog.buffered alert

/-- One of the methods that raise an alert, up to its `await`. -/
def raise (alert : Alert) : AlertsCog :=
  let next := { cog with made := cog.made + 1 }
  match alert with
  | .planDetected .. => next.alertPlanDetected ⟨cog.made, alert.embed⟩
  | _ => next.sendOrBuffer ⟨cog.made, alert.embed⟩

/-- The send of a call ends: the call returns, or puts the alert into the buffer. -/
def sendEnds (index : ℕ) (delivered : Bool) : AlertsCog :=
  match cog.sending[index]? with
  | none => cog
  | some alert =>
      let next := { cog with sending := cog.sending.eraseIdx index }
      if delivered then { next with sent := alert :: cog.sent, raised := alert :: cog.raised }
      else next.buffered alert

/-- The loop of `on_resumed` comes to the end of the buffer, or breaks. -/
def endFlush (index : ℕ) : AlertsCog :=
  { cog with flushes := cog.flushes.eraseIdx index, alertBuffer := [] }

/-- The loop goes on with the next alert. The iterator counts places in a list that other calls
append to and other flushes clear. -/
def nextAlert (index position : ℕ) : AlertsCog :=
  match cog.alertBuffer[position]? with
  | none => cog.endFlush index
  | some alert => { cog with flushes := cog.flushes.set index ⟨position, alert⟩ }

/-- The send of a flush ends. -/
def flushSendEnds (index : ℕ) (delivered : Bool) : AlertsCog :=
  match cog.flushes[index]? with
  | none => cog
  | some flush =>
      if delivered then
        { cog with sent := flush.alert :: cog.sent }.nextAlert index (flush.position + 1)
      else cog.endFlush index

/-- The flush of `on_resumed` begins, if there is a channel and something to send. -/
def startFlush : AlertsCog :=
  match cog.alertBuffer, cog.alertsChannel with
  | alert :: _, some _ => { cog with flushes := cog.flushes ++ [⟨0, alert⟩] }
  | _, _ => cog

/-- `on_resumed`, up to its first `await`. -/
def onResumed (guild : Option (List GuildChannel)) : AlertsCog :=
  (cog.resolveChannels guild).startFlush

/-- `on_ready`. -/
def onReady (guild : Option (List GuildChannel)) : AlertsCog := cog.resolveChannels guild

inductive AlertsEvent where
  | raise (alert : Alert)
  | sendEnds (index : ℕ) (delivered : Bool)
  | resumed (guild : Option (List GuildChannel))
  | flushSendEnds (index : ℕ) (delivered : Bool)
  | ready (guild : Option (List GuildChannel))
  | connection (isClosed isBotReady : Bool)

def step (cog : AlertsCog) : AlertsEvent → AlertsCog
  | .raise alert => cog.raise alert
  | .sendEnds index delivered => cog.sendEnds index delivered
  | .resumed guild => cog.onResumed guild
  | .flushSendEnds index delivered => cog.flushSendEnds index delivered
  | .ready guild => cog.onReady guild
  | .connection isClosed isBotReady =>
      { cog with isClosed := isClosed, isBotReady := isBotReady }

/-! ## No alert is lost -/

/-- Every alert whose call has returned was sent or is in the buffer. -/
def Accounted : Prop := ∀ alert ∈ cog.raised, alert ∈ cog.sent ∨ alert ∈ cog.alertBuffer

/-- The alerts that are sent once a send of a flush has ended. -/
def sentAfter (flush : Flush) (delivered : Bool) : List RaisedAlert :=
  if delivered then flush.alert :: cog.sent else cog.sent

/-- The flush ends with this send. -/
def EndsWith (flush : Flush) (delivered : Bool) : Prop :=
  delivered = false ∨ cog.alertBuffer[flush.position + 1]? = none

/-- A flush ends only when everything that is in the buffer was sent. -/
def Exhausts : AlertsEvent → Prop
  | .flushSendEnds index delivered => ∀ flush, cog.flushes[index]? = some flush →
      cog.EndsWith flush delivered →
        ∀ alert ∈ cog.alertBuffer, alert ∈ cog.sentAfter flush delivered
  | _ => True

/-- No send of a flush fails. -/
def FlushDelivers : AlertsEvent → Prop
  | .flushSendEnds index delivered => index < cog.flushes.length → delivered = true
  | _ => True

/-- No reconnect comes while a flush is under way. -/
def Apart : AlertsEvent → Prop
  | .resumed _ => cog.flushes = []
  | _ => True

/-- What is in the buffer was raised by a call that has returned. -/
def Recorded : Prop := ∀ alert ∈ cog.alertBuffer, alert ∈ cog.raised

variable {cog} {alert : RaisedAlert}

/-- Finding the channels changes nothing else. -/
theorem resolveChannels_eq (cog : AlertsCog) (guild : Option (List GuildChannel)) :
    ∃ alerts planReview, cog.resolveChannels guild =
      { cog with alertsChannel := alerts, planReviewChannel := planReview } := by
  unfold resolveChannels
  generalize guild.getD [] = channels
  induction channels generalizing cog with
  | nil => exact ⟨cog.alertsChannel, cog.planReviewChannel, rfl⟩
  | cons channel channels ih =>
      obtain ⟨alerts, planReview, found⟩ := ih (cog.resolveChannel channel)
      refine ⟨alerts, planReview, found.trans ?_⟩
      unfold resolveChannel
      split
      · rfl
      · split <;> rfl

/-- A call that raises an alert buffers it or waits for its send. -/
theorem raise_cases (cog : AlertsCog) (alert : Alert) :
    cog.raise alert = { cog with made := cog.made + 1 }.buffered ⟨cog.made, alert.embed⟩ ∨
      cog.raise alert = { cog with made := cog.made + 1 }.startSend ⟨cog.made, alert.embed⟩ := by
  have either : ∀ raised : RaisedAlert,
      { cog with made := cog.made + 1 }.sendOrBuffer raised =
          { cog with made := cog.made + 1 }.buffered raised ∨
        { cog with made := cog.made + 1 }.sendOrBuffer raised =
          { cog with made := cog.made + 1 }.startSend raised := by
    intro raised
    unfold sendOrBuffer
    split
    · exact .inl rfl
    · split
      · exact .inr rfl
      · exact .inl rfl
  cases alert with
  | planDetected agentId planName =>
      dsimp only [raise]
      unfold alertPlanDetected
      split
      · exact .inr rfl
      · exact .inl rfl
  | agentDead | agentStuck | circuitOpen | hookTimeout => exact either _

/-- A reconnect finds the channels, and starts a flush at the first alert of the buffer or none. -/
theorem onResumed_cases (cog : AlertsCog) (guild : Option (List GuildChannel)) :
    ∃ alerts planReview flushes,
      cog.onResumed guild = { cog with
        alertsChannel := alerts, planReviewChannel := planReview, flushes := flushes } ∧
      (flushes = cog.flushes ∨ ∃ first later, cog.alertBuffer = first :: later ∧
        flushes = cog.flushes ++ [⟨0, first⟩]) := by
  obtain ⟨alerts, planReview, resolved⟩ := resolveChannels_eq cog guild
  unfold onResumed
  rw [resolved]
  unfold startFlush
  split
  · next first later _ same _ => exact ⟨alerts, planReview, _, rfl, .inr ⟨first, later, same, rfl⟩⟩
  · exact ⟨alerts, planReview, _, rfl, .inl rfl⟩

/-! ### One event -/

theorem recorded_buffered (recorded : cog.Recorded) : (cog.buffered alert).Recorded := by
  intro other member
  rcases List.mem_append.mp member with before | own
  · exact List.mem_cons_of_mem _ (recorded other before)
  · exact List.mem_singleton.mp own ▸ List.mem_cons_self

theorem accounted_buffered (accounted : cog.Accounted) : (cog.buffered alert).Accounted := by
  intro other member
  rcases List.mem_cons.mp member with rfl | before
  · exact .inr (List.mem_append_right _ (List.mem_singleton_self _))
  · exact (accounted other before).imp_right (List.mem_append_left _)

theorem recorded_nextAlert (recorded : cog.Recorded) (index position : ℕ) :
    (cog.nextAlert index position).Recorded := by
  unfold nextAlert
  split
  · exact nofun
  · exact recorded

theorem recorded_step (recorded : cog.Recorded) (event : AlertsEvent) :
    (cog.step event).Recorded := by
  cases event with
  | raise alert =>
      dsimp only [step]
      rcases raise_cases cog alert with same | same
      · rw [same]
        exact recorded_buffered recorded
      · rw [same]
        exact recorded
  | sendEnds index delivered =>
      dsimp only [step]
      unfold sendEnds
      split
      · exact recorded
      · split
        · exact fun other member => List.mem_cons_of_mem _ (recorded other member)
        · exact recorded_buffered recorded
  | resumed guild =>
      obtain ⟨alerts, planReview, flushes, same, _⟩ := onResumed_cases cog guild
      dsimp only [step]
      rw [same]
      exact recorded
  | flushSendEnds index delivered =>
      dsimp only [step]
      unfold flushSendEnds
      split
      · exact recorded
      · split
        · next flush _ _ =>
            have more : ({ cog with sent := flush.alert :: cog.sent } : AlertsCog).Recorded :=
              recorded
            exact recorded_nextAlert more index (flush.position + 1)
        · exact nofun
  | ready guild =>
      obtain ⟨alerts, planReview, resolved⟩ := resolveChannels_eq cog guild
      dsimp only [step]
      unfold onReady
      rw [resolved]
      exact recorded
  | connection isClosed isBotReady => exact recorded

/-- After the end of a flush only what was sent is accounted for. -/
theorem accounted_emptied_iff {sent : List RaisedAlert} {flushes : List Flush}
    (recorded : cog.Recorded) (accounted : cog.Accounted) (more : cog.sent ⊆ sent) :
    ({ cog with sent := sent, flushes := flushes, alertBuffer := [] } : AlertsCog).Accounted ↔
      ∀ alert ∈ cog.alertBuffer, alert ∈ sent := by
  constructor
  · intro after alert member
    rcases after alert (recorded alert member) with there | none
    · exact there
    · cases none
  · intro exhausted alert member
    rcases accounted alert member with before | buffered
    · exact .inl (more before)
    · exact .inl (exhausted alert buffered)

theorem accounted_flushSendEnds_iff (recorded : cog.Recorded) (accounted : cog.Accounted)
    (index : ℕ) (delivered : Bool) :
    (cog.flushSendEnds index delivered).Accounted ↔
      cog.Exhausts (.flushSendEnds index delivered) := by
  unfold flushSendEnds
  rcases there : cog.flushes[index]? with _ | flush
  · refine iff_of_true accounted fun flush found => ?_
    cases there.symm.trans found
  · have only : cog.Exhausts (.flushSendEnds index delivered) ↔
        (cog.EndsWith flush delivered →
          ∀ alert ∈ cog.alertBuffer, alert ∈ cog.sentAfter flush delivered) := by
      refine ⟨fun exhausts => exhausts flush there, fun exhausts other found => ?_⟩
      obtain rfl := Option.some.inj (there.symm.trans found)
      exact exhausts
    rw [only]
    cases delivered with
    | false =>
        exact (accounted_emptied_iff recorded accounted (List.Subset.refl _)).trans
          ⟨fun exhausted _ => exhausted, fun exhausted => exhausted (.inl rfl)⟩
    | true =>
        have more : cog.sent ⊆ flush.alert :: cog.sent := List.subset_cons_self _ _
        dsimp only [if_true]
        unfold nextAlert
        rcases later : cog.alertBuffer[flush.position + 1]? with _ | next
        · exact (accounted_emptied_iff recorded accounted more).trans
            ⟨fun exhausted _ => exhausted, fun exhausted => exhausted (.inr later)⟩
        · refine iff_of_true ?_ fun ends => ?_
          · exact fun alert member => (accounted alert member).imp_left (more ·)
          · rcases ends with failed | last
            · cases failed
            · cases later.symm.trans last

theorem accounted_step_iff (recorded : cog.Recorded) (accounted : cog.Accounted)
    (event : AlertsEvent) : (cog.step event).Accounted ↔ cog.Exhausts event := by
  cases event with
  | raise alert =>
      refine iff_of_true ?_ trivial
      dsimp only [step]
      rcases raise_cases cog alert with same | same
      · rw [same]
        exact accounted_buffered accounted
      · rw [same]
        exact accounted
  | sendEnds index delivered =>
      refine iff_of_true ?_ trivial
      dsimp only [step]
      unfold sendEnds
      split
      · exact accounted
      · split
        · intro other member
          rcases List.mem_cons.mp member with rfl | before
          · exact .inl List.mem_cons_self
          · exact (accounted other before).imp_left (List.mem_cons_of_mem _)
        · exact accounted_buffered accounted
  | resumed guild =>
      refine iff_of_true ?_ trivial
      obtain ⟨alerts, planReview, flushes, same, _⟩ := onResumed_cases cog guild
      dsimp only [step]
      rw [same]
      exact accounted
  | flushSendEnds index delivered => exact accounted_flushSendEnds_iff recorded accounted _ _
  | ready guild =>
      refine iff_of_true ?_ trivial
      obtain ⟨alerts, planReview, resolved⟩ := resolveChannels_eq cog guild
      dsimp only [step]
      unfold onReady
      rw [resolved]
      exact accounted
  | connection isClosed isBotReady => exact iff_of_true accounted trivial

theorem recorded_initial : initial.Recorded := nofun

theorem accounted_initial : initial.Accounted := nofun

/-- No alert is lost, exactly if no flush ends while the buffer holds one that was not sent. -/
theorem accounted_throughout_iff (events : List AlertsEvent) :
    Throughout step Accounted initial events ↔ EachMeets step Exhausts initial events :=
  @throughout_iff_within _ _ step Recorded Accounted Exhausts
    (fun _ event recorded => recorded_step recorded event)
    (fun _ event recorded accounted => accounted_step_iff recorded accounted event)
    initial recorded_initial accounted_initial events

/-! ### Flushes that do not overlap -/

/-- The flush that is under way has sent the alerts before its place, and those alone are sent
of the buffer. -/
def Progress (flushes : List Flush) (buffer sent : List RaisedAlert) : Prop :=
  (flushes = [] ∧ ∀ alert ∈ buffer, alert ∉ sent) ∨
    ∃ before current after, flushes = [⟨before.length, current⟩] ∧
      buffer = before ++ current :: after ∧ (∀ alert ∈ before, alert ∈ sent) ∧
      ∀ alert ∈ current :: after, alert ∉ sent

/-- An alert is in one place, and one flush at most is under way. -/
structure Orderly (cog : AlertsCog) : Prop where
  distinct : (cog.sending ++ cog.alertBuffer).Nodup
  unsent : ∀ alert ∈ cog.sending, alert ∉ cog.sent
  waiting : ∀ alert ∈ cog.sending ++ cog.alertBuffer, alert.number < cog.made
  sent : ∀ alert ∈ cog.sent, alert.number < cog.made
  progress : Progress cog.flushes cog.alertBuffer cog.sent

/-- An alert that is not sent can join the buffer. -/
theorem Progress.append {flushes : List Flush} {buffer sent : List RaisedAlert}
    (progress : Progress flushes buffer sent) (unsent : alert ∉ sent) :
    Progress flushes (buffer ++ [alert]) sent := by
  rcases progress with ⟨idle, waiting⟩ | ⟨before, current, after, single, rfl, done, waiting⟩
  · refine .inl ⟨idle, fun other member => ?_⟩
    rcases List.mem_append.mp member with there | own
    · exact waiting other there
    · exact List.mem_singleton.mp own ▸ unsent
  · refine .inr ⟨before, current, after ++ [alert], single, by simp, done, fun other member => ?_⟩
    rw [← List.cons_append] at member
    rcases List.mem_append.mp member with there | own
    · exact waiting other there
    · exact List.mem_singleton.mp own ▸ unsent

/-- Sending an alert that is not in the buffer leaves the progress as it is. -/
theorem Progress.sent_cons {flushes : List Flush} {buffer sent : List RaisedAlert}
    (progress : Progress flushes buffer sent) (elsewhere : alert ∉ buffer) :
    Progress flushes buffer (alert :: sent) := by
  rcases progress with ⟨idle, waiting⟩ | ⟨before, current, after, single, rfl, done, waiting⟩
  · refine .inl ⟨idle, fun other member sentNow => ?_⟩
    rcases List.mem_cons.mp sentNow with rfl | sentBefore
    · exact elsewhere member
    · exact waiting other member sentBefore
  · refine .inr ⟨before, current, after, single, rfl, fun other member => ?_,
      fun other member sentNow => ?_⟩
    · exact List.mem_cons_of_mem _ (done other member)
    · rcases List.mem_cons.mp sentNow with rfl | sentBefore
      · exact elsewhere (List.mem_append_right _ member)
      · exact waiting other member sentBefore

theorem orderly_raise (orderly : cog.Orderly) (alert : Alert) : (cog.raise alert).Orderly := by
  have fresh : (⟨cog.made, alert.embed⟩ : RaisedAlert) ∉ cog.sending ++ cog.alertBuffer :=
    fun member => Nat.lt_irrefl _ (orderly.waiting _ member)
  have unsent : (⟨cog.made, alert.embed⟩ : RaisedAlert) ∉ cog.sent :=
    fun member => Nat.lt_irrefl _ (orderly.sent _ member)
  have sent : ∀ other ∈ cog.sent, other.number < cog.made + 1 :=
    fun other member => (orderly.sent other member).trans (Nat.lt_succ_self _)
  have bound : ∀ other, other = ⟨cog.made, alert.embed⟩ ∨
      other ∈ cog.sending ++ cog.alertBuffer → other.number < cog.made + 1 := by
    rintro other (rfl | member)
    · exact Nat.lt_succ_self _
    · exact (orderly.waiting other member).trans (Nat.lt_succ_self _)
  rcases raise_cases cog alert with same | same
  · rw [same]
    refine ⟨?_, orderly.unsent, fun other member => bound other ?_, sent,
      orderly.progress.append unsent⟩
    · dsimp only [buffered]
      rw [← List.append_assoc]
      exact List.nodup_append'.mpr ⟨orderly.distinct, List.nodup_singleton _,
        List.disjoint_singleton.mpr fresh⟩
    · dsimp only [buffered] at member
      rw [← List.append_assoc, List.mem_append, List.mem_singleton] at member
      exact member.symm
  · rw [same]
    have shape : ((cog.sending ++ [(⟨cog.made, alert.embed⟩ : RaisedAlert)]) ++
        cog.alertBuffer).Perm (⟨cog.made, alert.embed⟩ :: (cog.sending ++ cog.alertBuffer)) := by
      rw [List.append_assoc]
      exact List.perm_middle
    refine ⟨?_, fun other member => ?_, fun other member => bound other ?_, sent, orderly.progress⟩
    · exact shape.nodup_iff.mpr (List.nodup_cons.mpr ⟨fresh, orderly.distinct⟩)
    · rcases List.mem_append.mp member with before | own
      · exact orderly.unsent other before
      · exact List.mem_singleton.mp own ▸ unsent
    · exact List.mem_cons.mp (shape.mem_iff.mp member)

theorem orderly_sendEnds (orderly : cog.Orderly) (index : ℕ) (delivered : Bool) :
    (cog.sendEnds index delivered).Orderly := by
  unfold sendEnds
  rcases there : cog.sending[index]? with _ | alert
  · exact orderly
  · obtain ⟨bound, rfl⟩ := List.getElem?_eq_some_iff.mp there
    have taken : (cog.sending[index] :: (cog.sending.eraseIdx index ++ cog.alertBuffer)).Perm
        (cog.sending ++ cog.alertBuffer) :=
      (List.getElem_cons_eraseIdx_perm bound).append_right _
    have apart := List.nodup_cons.mp (taken.nodup_iff.mpr orderly.distinct)
    have unsent := orderly.unsent _ (List.getElem_mem bound)
    have rest : ∀ other ∈ cog.sending.eraseIdx index, other ∉ cog.sent :=
      fun other member => orderly.unsent other (List.mem_of_mem_eraseIdx member)
    have waiting : ∀ other ∈ cog.sending[index] ::
        (cog.sending.eraseIdx index ++ cog.alertBuffer), other.number < cog.made :=
      fun other member => orderly.waiting other (taken.mem_iff.mp member)
    dsimp only
    cases delivered with
    | true =>
        refine ⟨apart.2, fun other member sentNow => ?_, fun other member => ?_,
          fun other member => ?_, ?_⟩
        · rcases List.mem_cons.mp sentNow with rfl | sentBefore
          · exact apart.1 (List.mem_append_left _ member)
          · exact rest other member sentBefore
        · exact waiting other (List.mem_cons_of_mem _ member)
        · rcases List.mem_cons.mp member with rfl | sentBefore
          · exact waiting _ List.mem_cons_self
          · exact orderly.sent other sentBefore
        · exact orderly.progress.sent_cons fun member => apart.1 (List.mem_append_right _ member)
    | false =>
        have shape : (cog.sending.eraseIdx index ++ (cog.alertBuffer ++ [cog.sending[index]])).Perm
            (cog.sending[index] :: (cog.sending.eraseIdx index ++ cog.alertBuffer)) := by
          rw [← List.append_assoc]
          exact List.perm_append_singleton _ _
        refine ⟨?_, rest, fun other member => ?_, orderly.sent, orderly.progress.append unsent⟩
        · exact shape.nodup_iff.mpr (List.nodup_cons.mpr apart)
        · exact waiting other (shape.mem_iff.mp member)

/-- A place of the buffer, with what is before it and behind it. -/
theorem getElem?_behind {before after : List RaisedAlert} {current : RaisedAlert} :
    (before ++ current :: after)[before.length + 1]? = after.head? := by
  rw [List.getElem?_append_right (Nat.le_add_right _ 1), Nat.add_sub_cancel_left]
  cases after <;> rfl

theorem flushes_cases {flush current : Flush} {index : ℕ}
    (there : [current][index]? = some flush) : index = 0 ∧ flush = current := by
  cases index with
  | zero => exact ⟨rfl, (Option.some.inj there).symm⟩
  | succ index => cases there

/-- With the end of a flush the buffer is empty, and no other flush is left. -/
theorem orderly_emptied (orderly : cog.Orderly) {sent : List RaisedAlert}
    (known : ∀ alert ∈ sent, alert ∈ cog.sent ∨ alert ∈ cog.alertBuffer) :
    ({ cog with sent := sent, flushes := [], alertBuffer := [] } : AlertsCog).Orderly where
  distinct := by
    rw [List.append_nil]
    exact (List.nodup_append'.mp orderly.distinct).1
  unsent alert member sentNow := by
    rcases known alert sentNow with before | buffered
    · exact orderly.unsent alert member before
    · exact (List.nodup_append'.mp orderly.distinct).2.2 member buffered
  waiting alert member := by
    rw [List.append_nil] at member
    exact orderly.waiting alert (List.mem_append_left _ member)
  sent alert member := by
    rcases known alert member with before | buffered
    · exact orderly.sent alert before
    · exact orderly.waiting alert (List.mem_append_right _ buffered)
  progress := .inl ⟨rfl, nofun⟩

theorem orderly_flushSendEnds (orderly : cog.Orderly) (index : ℕ) (delivered : Bool) :
    (cog.flushSendEnds index delivered).Orderly := by
  unfold flushSendEnds
  rcases there : cog.flushes[index]? with _ | flush
  · exact orderly
  rcases orderly.progress with ⟨idle, _⟩ | ⟨before, current, after, single, split, done, waiting⟩
  · rw [idle] at there
    cases there
  rw [single] at there
  obtain ⟨rfl, rfl⟩ := flushes_cases there
  have listed : current ∈ cog.alertBuffer := by
    rw [split]
    exact List.mem_append_right _ List.mem_cons_self
  have known : ∀ alert ∈ current :: cog.sent, alert ∈ cog.sent ∨ alert ∈ cog.alertBuffer := by
    intro alert member
    rcases List.mem_cons.mp member with rfl | sentBefore
    · exact .inr listed
    · exact .inl sentBefore
  cases delivered with
  | false =>
      dsimp only
      unfold endFlush
      rw [single]
      exact orderly_emptied orderly fun alert member => .inl member
  | true =>
      dsimp only
      unfold nextAlert endFlush
      dsimp only
      rw [split, getElem?_behind, single]
      cases after with
      | nil => exact orderly_emptied orderly known
      | cons next later =>
          have parts := List.nodup_append'.mp orderly.distinct
          rw [split, List.nodup_append'] at parts
          refine ⟨split ▸ orderly.distinct, fun alert member sentNow => ?_, split ▸ orderly.waiting,
            fun alert member => ?_, .inr ⟨before ++ [current], next, later, ?_, ?_, ?_, ?_⟩⟩
          · rcases List.mem_cons.mp sentNow with rfl | sentBefore
            · exact (List.nodup_append'.mp orderly.distinct).2.2 member listed
            · exact orderly.unsent alert member sentBefore
          · rcases known alert member with sentBefore | buffered
            · exact orderly.sent alert sentBefore
            · exact orderly.waiting alert (List.mem_append_right _ buffered)
          · simp
          · simp
          · intro alert member
            rcases List.mem_append.mp member with early | own
            · exact List.mem_cons_of_mem _ (done alert early)
            · exact List.mem_singleton.mp own ▸ List.mem_cons_self
          · intro alert member sentNow
            rcases List.mem_cons.mp sentNow with rfl | sentBefore
            · exact (List.nodup_cons.mp parts.2.1.2.1).1 member
            · exact waiting alert (List.mem_cons_of_mem _ member) sentBefore

theorem orderly_step (orderly : cog.Orderly) (event : AlertsEvent) (apart : cog.Apart event) :
    (cog.step event).Orderly := by
  cases event with
  | raise alert => exact orderly_raise orderly alert
  | sendEnds index delivered => exact orderly_sendEnds orderly index delivered
  | resumed guild =>
      obtain ⟨alerts, planReview, flushes, same, started⟩ := onResumed_cases cog guild
      dsimp only [step]
      rw [same]
      refine ⟨orderly.distinct, orderly.unsent, orderly.waiting, orderly.sent, ?_⟩
      rcases started with rfl | ⟨first, later, split, rfl⟩
      · exact orderly.progress
      · have idle : cog.flushes = [] := apart
        rcases orderly.progress with ⟨_, waiting⟩ | ⟨before, current, after, single, _⟩
        · refine .inr ⟨[], first, later, ?_, split, nofun, split ▸ waiting⟩
          rw [idle]
          rfl
        · cases idle.symm.trans single
  | flushSendEnds index delivered => exact orderly_flushSendEnds orderly index delivered
  | ready guild =>
      obtain ⟨alerts, planReview, resolved⟩ := resolveChannels_eq cog guild
      dsimp only [step]
      unfold onReady
      rw [resolved]
      exact ⟨orderly.distinct, orderly.unsent, orderly.waiting, orderly.sent, orderly.progress⟩
  | connection isClosed isBotReady =>
      exact ⟨orderly.distinct, orderly.unsent, orderly.waiting, orderly.sent, orderly.progress⟩

/-- A single flush exhausts the buffer as long as none of its sends fails. -/
theorem exhausts_iff_flushDelivers (orderly : cog.Orderly) (event : AlertsEvent) :
    cog.Exhausts event ↔ cog.FlushDelivers event := by
  cases event with
  | flushSendEnds index delivered =>
      unfold Exhausts FlushDelivers
      rcases orderly.progress with ⟨idle, _⟩ |
        ⟨before, current, after, single, split, done, waiting⟩
      · rw [idle]
        exact iff_of_true nofun nofun
      · rw [single, split]
        constructor
        · intro exhausts bound
          cases index with
          | succ index => exact absurd bound (by simp)
          | zero =>
              cases delivered with
              | true => rfl
              | false =>
                  have listed : current ∈ before ++ current :: after :=
                    List.mem_append_right _ List.mem_cons_self
                  have sent := exhausts _ rfl (.inl rfl) current listed
                  exact absurd sent (waiting current List.mem_cons_self)
        · intro delivers flush there ends alert member
          obtain ⟨rfl, rfl⟩ := flushes_cases there
          obtain rfl := delivers (Nat.lt_succ_self 0)
          rcases ends with failed | last
          · cases failed
          · rw [split, getElem?_behind, List.head?_eq_none_iff] at last
            subst last
            rcases List.mem_append.mp member with early | own
            · exact List.mem_cons_of_mem _ (done alert early)
            · exact List.mem_singleton.mp own ▸ List.mem_cons_self
  | raise | sendEnds | resumed | ready | connection => exact Iff.rfl

theorem orderly_initial : initial.Orderly :=
  ⟨List.nodup_nil, nofun, nofun, nofun, .inl ⟨rfl, nofun⟩⟩

/-- **Alerts.** No alert is lost, exactly if no flush ends while the buffer holds one that was not
sent. As long as no reconnect comes during a flush, that is exactly if no send of a flush fails. -/
theorem alerts_accounted_iff (events : List AlertsEvent) :
    (Throughout step Accounted initial events ↔ EachMeets step Exhausts initial events) ∧
      (EachMeets step Apart initial events →
        (Throughout step Accounted initial events ↔
          EachMeets step FlushDelivers initial events)) := by
  refine ⟨accounted_throughout_iff events, fun apart => ?_⟩
  apply (accounted_throughout_iff events).trans
  exact EachMeets.congr (fun _ event orderly own => orderly_step orderly event own)
    (fun _ event orderly _ => exhausts_iff_flushDelivers orderly event) orderly_initial apart

/-- Two alerts are raised while the bot is not connected. After the reconnect the first send
fails again. -/
def interruptedFlush : List AlertsEvent :=
  [.raise (.agentDead "dev".toList), .raise (.agentStuck "qa".toList),
    .resumed (some [⟨1, "alerts".toList⟩]), .flushSendEnds 0 false]

theorem interruptedFlush_not_accounted :
    ¬ Throughout step Accounted initial interruptedFlush := by
  intro throughout
  have lost := (accounted_throughout_iff interruptedFlush).mp throughout
  have exhausts := lost.2.2.2.1 ⟨0, ⟨0, (Alert.agentDead "dev".toList).embed⟩⟩ (by decide)
    (.inl rfl) ⟨0, (Alert.agentDead "dev".toList).embed⟩ (by decide)
  exact absurd exhausts (by decide)

end AlertsCog

end Vcompany.Bot
