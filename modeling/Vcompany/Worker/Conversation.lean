import Vcompany.Foundation.Text
import Vcompany.Foundation.Transition

/-! # Conversations with the Claude CLI

A `ConversationSession` resumes a session of the CLI, or creates it with the persona, and is
marked as initialized then. Only a failed attempt to resume is told from a response: a failed
creation is answered with a sentence, which is taken for one (`execClaude_ne_none`). So a
conversation recovers from a failed start only where no creation fails (`recovers_iff`).
-/

namespace Vcompany.Worker

open Foundation

/-- How an invocation of the CLI ends. It raises if it cannot be started, or if its output
cannot be decoded. -/
inductive Invocation where
  | exits (returncode : ℤ) (stdout : Text)
  | timesOut
  | raises
  deriving DecidableEq

namespace Invocation

/-- The CLI exits with zero. -/
def Succeeds : Invocation → Prop
  | exits returncode _ => returncode = 0
  | timesOut | raises => False

instance : DecidablePred Succeeds
  | exits returncode _ => inferInstanceAs (Decidable (returncode = 0))
  | timesOut => isFalse not_false
  | raises => isFalse not_false

/-- The end of `_exec_claude` after a failure. -/
def failure (allowFailure : Bool) (text : Text) : Option Text :=
  if allowFailure then none else some text

/-- `_exec_claude`. -/
def execClaude (allowFailure : Bool) : Invocation → Option Text
  | exits returncode stdout =>
      if returncode ≠ 0 then failure allowFailure "I hit a snag. Try asking again?"
      else
        let result := Text.strip stdout
        some (if result ≠ [] then result else "I don't have a response for that.")
  | timesOut =>
      failure allowFailure "I need more time to think about that. Could you rephrase?"
  | raises => failure allowFailure "Something went wrong on my end. Try again?"

/-- Where failures are not allowed, there is always a response. -/
theorem execClaude_ne_none (ended : Invocation) : ended.execClaude false ≠ none := by
  cases ended with
  | exits returncode stdout =>
      change (if returncode ≠ 0 then some _ else some _) ≠ none
      split <;> exact Option.some_ne_none _
  | timesOut => exact Option.some_ne_none _
  | raises => exact Option.some_ne_none _

theorem execClaude_eq_none_iff {ended : Invocation} :
    ended.execClaude true = none ↔ ¬ ended.Succeeds := by
  cases ended with
  | exits returncode stdout =>
      change (if returncode ≠ 0 then none else some _) = none ↔ ¬ returncode = 0
      by_cases zero : returncode = 0
      · rw [if_neg (not_not.mpr zero)]
        exact iff_of_false (Option.some_ne_none _) (not_not.mpr zero)
      · rw [if_pos zero]
        exact iff_of_true rfl zero
  | timesOut => exact iff_of_true rfl not_false
  | raises => exact iff_of_true rfl not_false

end Invocation

inductive Command where
  | resume
  | create
  deriving DecidableEq

structure ConversationSession where
  persona : Text
  sessionId : Text
  allowedTools : Text := "Bash Read Write"
  model : Text := "opus"
  reinjectEvery : ℕ := 10
  reinjectEvery_pos : 0 < reinjectEvery := by decide
  styleReminder : Option Text := none
  initialized : Bool := false
  messageCount : ℕ := 0

/-- What a session does, in order. -/
inductive SessionEntry where
  | invoked (command : List Text) (content : Text) (ended : Invocation)
  /-- `_initialized` is set. -/
  | initialized
  deriving DecidableEq

/-- What a `send` returns, and what it did. -/
structure Sent where
  response : Option Text
  session : ConversationSession
  entries : List SessionEntry

namespace ConversationSession

/-- `_resume_command` and `_create_command`. -/
def command (session : ConversationSession) : Command → List Text
  | .resume => common ++ [("--resume" : Text), session.sessionId]
  | .create => common ++ [("--session-id" : Text), session.sessionId]
where
  common : List Text :=
    [("claude" : Text), ("-p" : Text), ("--model" : Text), session.model,
      ("--output-format" : Text), ("text" : Text), ("--allowedTools" : Text),
      session.allowedTools]

/-- The content with the reminder of the style, if this message is one to carry it. -/
def reminded (session : ConversationSession) (count : ℕ) (content : Text) : Text :=
  match session.styleReminder with
  | none => content
  | some reminder =>
      if reminder ≠ [] ∧ count % session.reinjectEvery = 0 then
        reminder ++ "\n\n".toList ++ content
      else content

/-- `send`, whose invocations end as told, one after the other. -/
def send (session : ConversationSession) (content : Text) (ends : ℕ → Invocation) : Sent :=
  let resumed := fun content ended => SessionEntry.invoked (session.command .resume) content ended
  if session.initialized then
    let count := session.messageCount + 1
    { response := (ends 0).execClaude false
      session := { session with messageCount := count }
      entries := [resumed (session.reminded count content) (ends 0)] }
  else
    match (ends 0).execClaude true with
    | some result =>
        { response := some result
          session := { session with initialized := true }
          entries := [resumed content (ends 0), .initialized] }
    | none =>
        let created := SessionEntry.invoked (session.command .create) session.persona (ends 1)
        match (ends 1).execClaude false with
        | none =>
            { response := some "Failed to initialize conversation session."
              session := session
              entries := [resumed content (ends 0), created] }
        | some _ =>
            { response := (ends 2).execClaude false
              session := { session with initialized := true }
              entries := [resumed content (ends 0), created, .initialized,
                resumed content (ends 2)] }

variable {session : ConversationSession} {ends : ℕ → Invocation}

theorem command_create_ne : session.command .create ≠ session.command .resume := by
  intro same
  have last := (List.append_inj_right same rfl)
  exact absurd (List.cons.inj last).1 (by decide)

theorem send_of_initialized (initialized : session.initialized = true) (content : Text) :
    (session.send content ends).session =
        { session with messageCount := session.messageCount + 1 } ∧
      ∃ reminded, (session.send content ends).entries =
        [.invoked (session.command .resume) reminded (ends 0)] := by
  unfold send
  rw [if_pos initialized]
  exact ⟨rfl, _, rfl⟩

/-- The three ways of a first `send`: the session is resumed, or it is created, or it is taken to
be although the creation failed. -/
theorem send_of_uninitialized (uninitialized : session.initialized = false) (content : Text) :
    ((ends 0).Succeeds ∧
      (session.send content ends).session = { session with initialized := true } ∧
      (session.send content ends).entries =
        [.invoked (session.command .resume) content (ends 0), .initialized]) ∨
    (¬ (ends 0).Succeeds ∧
      (session.send content ends).session = { session with initialized := true } ∧
      (session.send content ends).entries =
        [.invoked (session.command .resume) content (ends 0),
          .invoked (session.command .create) session.persona (ends 1), .initialized,
          .invoked (session.command .resume) content (ends 2)]) := by
  unfold send
  rw [if_neg (by rw [uninitialized]; exact Bool.false_ne_true)]
  rcases resumed : (ends 0).execClaude true with _ | result
  · refine .inr ⟨Invocation.execClaude_eq_none_iff.mp resumed, ?_⟩
    rcases created : (ends 1).execClaude false with _ | response
    · exact absurd created (ends 1).execClaude_ne_none
    · exact ⟨rfl, rfl⟩
  · refine .inl ⟨?_, rfl, rfl⟩
    by_contra failed
    rw [Invocation.execClaude_eq_none_iff.mpr failed] at resumed
    cases resumed

end ConversationSession

/-! ## Recovery -/

/-- An invocation that succeeded. -/
def SessionEntry.Succeeded : SessionEntry → Prop
  | invoked _ _ ended => ended.Succeeds
  | initialized => False

/-- The session, with what each `send` so far has done. -/
structure ConversationLog where
  session : ConversationSession
  sends : List (List SessionEntry)

/-- A `send`: its content, and how its invocations end. -/
structure SendCall where
  content : Text
  ends : ℕ → Invocation

namespace ConversationLog

def perform (log : ConversationLog) (call : SendCall) : ConversationLog where
  session := (log.session.send call.content call.ends).session
  sends := log.sends ++ [(log.session.send call.content call.ends).entries]

/-- The session is marked as initialized only behind an invocation that succeeded. -/
def Earned (log : ConversationLog) : Prop :=
  ∀ before after, log.sends.flatten = before ++ .initialized :: after →
    ∃ entry ∈ before, entry.Succeeded

/-- The last `send` tried to create the session, and failed. -/
def CreationFailed (log : ConversationLog) : Prop :=
  ∃ entries ∈ log.sends.getLast?, ∃ content ended,
    .invoked (log.session.command .create) content ended ∈ entries ∧ ¬ ended.Succeeds

/-- The next `send` tries to resume the session, and if that fails to create it. -/
def Retries (log : ConversationLog) : Prop :=
  ∀ call : SendCall, ∃ later,
    (log.session.send call.content call.ends).entries =
      .invoked (log.session.command .resume) call.content (call.ends 0) :: later ∧
    (¬ (call.ends 0).Succeeds →
      ∃ more, later =
        .invoked (log.session.command .create) log.session.persona (call.ends 1) :: more)

/-- The conversation recovers from a failed start. -/
def Recovers (log : ConversationLog) : Prop :=
  log.Earned ∧ (log.CreationFailed → log.Retries)

/-- A creation of the session by this `send` would succeed. -/
def CreationSucceeds (log : ConversationLog) (call : SendCall) : Prop :=
  log.session.initialized = false → ¬ (call.ends 0).Succeeds → (call.ends 1).Succeeds

/-- No invocation has succeeded yet, unless the session is marked. -/
def Fresh (log : ConversationLog) : Prop :=
  log.session.initialized = false → ∀ entry ∈ log.sends.flatten, ¬ entry.Succeeded

end ConversationLog

/-- Each mark among the entries stands behind an invocation that succeeded, there or earlier. -/
def EarnedBehind (earlier entries : List SessionEntry) : Prop :=
  ∀ before after, entries = before ++ .initialized :: after →
    ∃ entry ∈ earlier ++ before, entry.Succeeded

variable {earlier entries first second : List SessionEntry} {entry : SessionEntry}

theorem earnedBehind_nil : EarnedBehind earlier [] := by
  intro before after same
  cases before <;> cases same

theorem earnedBehind_cons_iff :
    EarnedBehind earlier (entry :: entries) ↔
      (entry = .initialized → ∃ entry ∈ earlier, entry.Succeeded) ∧
        EarnedBehind (earlier ++ [entry]) entries := by
  constructor
  · intro earned
    refine ⟨?_, fun before after same => ?_⟩
    · rintro rfl
      obtain ⟨found, member, succeeded⟩ := earned [] entries rfl
      exact ⟨found, by rwa [List.append_nil] at member, succeeded⟩
    · obtain ⟨found, member, succeeded⟩ := earned (entry :: before) after (by rw [same]; rfl)
      exact ⟨found, by rwa [List.append_assoc], succeeded⟩
  · rintro ⟨here, later⟩ before after same
    cases before with
    | nil =>
        obtain ⟨found, member, succeeded⟩ := here (List.cons.inj same).1
        exact ⟨found, List.mem_append_left _ member, succeeded⟩
    | cons other before =>
        obtain ⟨rfl, rest⟩ := List.cons.inj same
        obtain ⟨found, member, succeeded⟩ := later before after rest
        exact ⟨found, by rwa [List.append_assoc] at member, succeeded⟩

theorem earnedBehind_append_iff :
    EarnedBehind earlier (first ++ second) ↔
      EarnedBehind earlier first ∧ EarnedBehind (earlier ++ first) second := by
  induction first generalizing earlier with
  | nil =>
      rw [List.nil_append, List.append_nil]
      exact (and_iff_right earnedBehind_nil).symm
  | cons entry first ih =>
      rw [List.cons_append, earnedBehind_cons_iff, earnedBehind_cons_iff, ih, and_assoc,
        List.append_assoc, List.singleton_append]

namespace ConversationLog

variable {log : ConversationLog} {call : SendCall}

theorem earned_perform_iff (earned : log.Earned) :
    (log.perform call).Earned ↔
      EarnedBehind log.sends.flatten (log.session.send call.content call.ends).entries := by
  change EarnedBehind [] (log.sends ++ [_]).flatten ↔ _
  rw [List.flatten_append, List.flatten_singleton, earnedBehind_append_iff, List.nil_append]
  exact and_iff_right earned

theorem initialized_perform : (log.perform call).session.initialized = true := by
  unfold perform
  dsimp only
  cases marked : log.session.initialized with
  | true =>
      rw [(ConversationSession.send_of_initialized marked call.content).1]
      exact marked
  | false =>
      obtain ⟨-, session, -⟩ | ⟨-, session, -⟩ :=
        ConversationSession.send_of_uninitialized marked call.content
      · rw [session]
      · rw [session]

theorem command_perform (command : Command) :
    (log.perform call).session.command command = log.session.command command := by
  unfold perform
  dsimp only
  cases marked : log.session.initialized with
  | true => rw [(ConversationSession.send_of_initialized marked call.content).1]; rfl
  | false =>
      obtain ⟨-, session, -⟩ | ⟨-, session, -⟩ :=
        ConversationSession.send_of_uninitialized marked call.content
      · rw [session]; rfl
      · rw [session]; rfl

/-- A creation failed in the last `send` if that says so. -/
theorem creationFailed_perform_iff :
    (log.perform call).CreationFailed ↔ ∃ content ended,
      .invoked (log.session.command .create) content ended ∈
        (log.session.send call.content call.ends).entries ∧ ¬ ended.Succeeds := by
  unfold CreationFailed
  rw [command_perform]
  unfold perform
  rw [List.getLast?_concat]
  simp

/-- A conversation recovers after a `send` exactly if this did not fail to create the session. -/
theorem recovers_perform_iff (fresh : log.Fresh) (recovers : log.Recovers) :
    (log.perform call).Recovers ↔ log.CreationSucceeds call := by
  unfold Recovers CreationSucceeds
  rw [earned_perform_iff recovers.1, creationFailed_perform_iff]
  have other := @ConversationSession.command_create_ne log.session
  cases marked : log.session.initialized with
  | true =>
      obtain ⟨-, reminded, entries⟩ :=
        ConversationSession.send_of_initialized marked call.content
      rw [entries, earnedBehind_cons_iff]
      refine iff_of_true ⟨⟨nofun, earnedBehind_nil⟩, ?_⟩ nofun
      rintro ⟨content, ended, member, -⟩
      exact absurd (SessionEntry.invoked.inj (List.mem_singleton.mp member)).1 other
  | false =>
      obtain ⟨resumed, -, entries⟩ | ⟨failed, -, entries⟩ :=
        ConversationSession.send_of_uninitialized marked call.content
      · rw [entries, earnedBehind_cons_iff, earnedBehind_cons_iff]
        refine iff_of_true ⟨⟨nofun, fun _ => ?_, earnedBehind_nil⟩, ?_⟩
          fun _ failed => absurd resumed failed
        · exact ⟨_, List.mem_append_right _ (List.mem_singleton_self _), resumed⟩
        · rintro ⟨content, ended, member, -⟩
          rcases List.mem_cons.mp member with same | mark
          · exact absurd (SessionEntry.invoked.inj same).1 other
          · cases List.mem_singleton.mp mark
      · rw [entries, earnedBehind_cons_iff, earnedBehind_cons_iff, earnedBehind_cons_iff,
          earnedBehind_cons_iff]
        constructor
        · rintro ⟨⟨-, -, earned, -⟩, -⟩ - -
          -- nothing before the mark has succeeded but the creation
          obtain ⟨entry, member, succeeded⟩ := earned rfl
          rw [List.append_assoc, List.mem_append] at member
          rcases member with before | here
          · exact absurd succeeded (fresh marked entry before)
          · rcases List.mem_cons.mp here with rfl | created
            · exact absurd succeeded failed
            · rwa [List.mem_singleton.mp created] at succeeded
        · intro creates
          have created := creates rfl failed
          refine ⟨⟨nofun, nofun, fun _ => ?_, nofun, earnedBehind_nil⟩, ?_⟩
          · exact ⟨_, List.mem_append_right _ (List.mem_singleton_self _), created⟩
          · rintro ⟨content, ended, member, broken⟩
            have same : ended = call.ends 1 := by
              rcases List.mem_cons.mp member with same | member
              · exact absurd (SessionEntry.invoked.inj same).1 other
              rcases List.mem_cons.mp member with same | member
              · exact (SessionEntry.invoked.inj same).2.2
              rcases List.mem_cons.mp member with same | member
              · cases same
              · exact absurd (SessionEntry.invoked.inj (List.mem_singleton.mp member)).1 other
            exact absurd (same ▸ created) broken

theorem fresh_perform : (log.perform call).Fresh := by
  intro unmarked
  rw [initialized_perform] at unmarked
  cases unmarked

/-- A session before its first `send`. -/
def start (session : ConversationSession) : ConversationLog where
  session := { session with initialized := false, messageCount := 0 }
  sends := []

theorem fresh_start (session : ConversationSession) : (start session).Fresh := nofun

theorem recovers_start (session : ConversationSession) : (start session).Recovers := by
  refine ⟨?_, nofun⟩
  change EarnedBehind [] []
  exact earnedBehind_nil

/-- **When a conversation recovers.** The session is marked only behind an invocation that
succeeded, and a failed creation is tried again, throughout exactly those runs in which no
creation fails. -/
theorem recovers_iff (session : ConversationSession) (calls : List SendCall) :
    Throughout perform Recovers (start session) calls ↔
      EachMeets perform CreationSucceeds (start session) calls :=
  @throughout_iff_within _ _ perform Fresh Recovers CreationSucceeds
    (fun _ _ _ => fresh_perform) (fun _ _ fresh recovers => recovers_perform_iff fresh recovers)
    (start session) (fresh_start session) (recovers_start session) calls

/-- The CLI cannot be started, and then it can. -/
def failedStart : List SendCall := [⟨"hello", fun _ => .raises⟩]

/-- A failed creation marks the session as initialized. -/
theorem failed_creation_marks :
    ¬ ∀ (session : ConversationSession) (calls : List SendCall),
      Throughout perform Recovers (start session) calls := by
  intro always
  have recovers := (always { persona := "You plan.", sessionId := "s" } failedStart).last
  obtain ⟨entry, member, succeeded⟩ := recovers.1
    [.invoked _ "hello" .raises, .invoked _ "You plan." .raises]
    [.invoked _ "hello" .raises] rfl
  rcases List.mem_cons.mp member with rfl | member
  · exact succeeded
  · rw [List.mem_singleton.mp member] at succeeded
    exact succeeded

end ConversationLog

end Vcompany.Worker
