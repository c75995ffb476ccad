import Vcompany.Supervisor.FailureHandling

/-! # Children that are forgotten

What each step of a restart keeps of the children that it is not about, and from it: in a run in
which no failure is dropped, every PERMANENT child that errors is waited for.
-/

namespace Vcompany.Supervisor

open Foundation Resilience

namespace Supervision

/-! ## What a step leaves -/

variable {sup later : Supervision} {childId other : Text} {work : Work} {hit : Work → Bool}
  {keeps : ℕ → Bool}

/-- What holds of every supervisor whose children have different ids: each restart is one of its
strategy. -/
structure Sound (sup : Supervision) : Prop where
  distinct : (sup.core.childSpecs.map ChildSpec.childId).Nodup
  settled : ∀ childId, sup.core.children childId ≠ some .stopping
  proper : sup.exceeded = false → ∀ work ∈ sup.works, sup.core.Proper work

/-- The child has its monitor, or will have it, and if it has errored, then it is waited for. -/
def Held (sup : Supervision) (childId : Text) : Prop :=
  (childId ∈ sup.tasks ∨ sup.Covered childId) ∧
    (sup.core.children childId = some .errored → sup.Ready childId ∨ sup.Covered childId)

/-- What a step keeps of a child that it is not about. -/
structure Frames (sup later : Supervision) (childId : Text) : Prop where
  children : later.core.children childId = sup.core.children childId
  tasks : childId ∈ sup.tasks → childId ∈ later.tasks
  events : childId ∈ sup.core.childEvents → childId ∈ later.core.childEvents
  busy : later.Busy childId → sup.Busy childId
  covered : sup.Covered childId → later.Covered childId

theorem Frames.held (frames : Frames sup later childId) (held : sup.Held childId) :
    later.Held childId := by
  refine ⟨held.1.imp frames.tasks frames.covered, fun errored => ?_⟩
  rw [frames.children] at errored
  rcases held.2 errored with ⟨watched, woken, free⟩ | covered
  · exact .inl ⟨frames.tasks watched, frames.events woken, fun busy => free (frames.busy busy)⟩
  · exact .inr (frames.covered covered)

theorem permanent_congr (childSpecs : later.core.childSpecs = sup.core.childSpecs)
    (childId : Text) : later.Permanent childId ↔ sup.Permanent childId := by
  unfold Permanent SupervisorState.getSpec
  rw [childSpecs]

theorem up_congr (children : later.core.children childId = sup.core.children childId) :
    later.Up childId ↔ sup.Up childId := by
  unfold Up
  rw [children]

/-- A step that is about one child is right if it is right for that child. -/
theorem Answers.of_own (answers : sup.Answers) (later : Supervision) (childId : Text)
    (childSpecs : later.core.childSpecs = sup.core.childSpecs)
    (exceeded : later.exceeded = sup.exceeded)
    (frames : sup.exceeded = false → ∀ other ≠ childId, Frames sup later other) :
    later.Answers ↔ (later.exceeded = false → later.Permanent childId → later.Up childId →
      later.Held childId) := by
  refine ⟨fun answers within => answers within childId, fun own within => ?_⟩
  intro other permanent up
  by_cases same : other = childId
  · subst same
    exact own within permanent up
  · have before : sup.exceeded = false := exceeded ▸ within
    have kept := frames before other same
    exact kept.held (answers before other ((permanent_congr childSpecs other).mp permanent)
      ((up_congr kept.children).mp up))

theorem isOf_leave (childId : Text) (work : Work) : work.leave.isOf childId = false := rfl

theorem isOf_detach (work : Work) (apart : other ≠ childId) :
    (work.detach childId).isOf other = work.isOf other := by
  unfold Work.detach
  split
  · next own =>
      rw [isOf_leave]
      unfold Work.isOf at own ⊢
      rw [Bool.and_eq_true, decide_eq_true_eq] at own
      simp [own.2, Ne.symm apart]
  · rfl

theorem yetToStart_detach (core : SupervisorState) (childId : Text) (work : Work) :
    core.yetToStart (work.detach childId) = core.yetToStart work := by
  unfold Work.detach
  split <;> rfl

/-- What is left of the works when monitors are cancelled. -/
theorem mem_cancel (member : work ∈ (sup.cancel hit keeps).works) :
    ∃ before ∈ sup.works, (hit before = false ∧ work = before) ∨
      (hit before = true ∧ work = before.leave) := by
  obtain ⟨entry, kept, rfl⟩ := List.mem_map.mp member
  have before : entry.1 ∈ sup.works := (List.mem_zipIdx' (List.mem_filter.mp kept).1).2 ▸
    List.getElem_mem _
  refine ⟨entry.1, before, ?_⟩
  cases isHit : hit entry.1
  · exact .inl ⟨rfl, by simp⟩
  · exact .inr ⟨rfl, by simp⟩

theorem mem_cancel_of_not_hit (member : work ∈ sup.works) (safe : hit work = false) :
    work ∈ (sup.cancel hit keeps).works := by
  obtain ⟨place, found⟩ := List.mem_iff_getElem?.mp member
  refine List.mem_map.mpr ⟨(work, place), List.mem_filter.mpr ⟨?_, ?_⟩, ?_⟩
  · exact List.mem_zipIdx_iff_getElem?.mpr found
  · simp [safe]
  · simp [safe]

@[simp] theorem stopChild_works (childId : Text) (sup : Supervision) :
    (sup.stopChild childId).works = sup.works := by
  unfold stopChild
  split
  · split <;> rfl
  · rfl

@[simp] theorem stopChild_tasks (childId : Text) (sup : Supervision) :
    (sup.stopChild childId).tasks = sup.tasks := by
  unfold stopChild
  split
  · split <;> rfl
  · rfl

@[simp] theorem stopChild_exceeded (childId : Text) (sup : Supervision) :
    (sup.stopChild childId).exceeded = sup.exceeded := by
  unfold stopChild
  split
  · split <;> rfl
  · rfl

section

variable (work : Work) (childId : Text) (next : ℕ) (bound : Option ℕ) (sup : Supervision)

@[simp] theorem startTurn_core :
    (sup.startTurn work childId next bound).core = (sup.startChild childId).core := by
  unfold startTurn
  dsimp only
  split
  · rfl
  · split <;> rfl

@[simp] theorem startTurn_tasks :
    (sup.startTurn work childId next bound).tasks = insert childId sup.tasks := by
  unfold startTurn
  dsimp only
  split
  · rfl
  · split <;> rfl

@[simp] theorem startTurn_exceeded :
    (sup.startTurn work childId next bound).exceeded = sup.exceeded := by
  unfold startTurn
  dsimp only
  split
  · rfl
  · split <;> rfl

/-- The works leave a monitor of the child, and the one that goes on is the last. -/
theorem startTurn_works :
    (sup.startTurn work childId next bound).works = sup.works.map (Work.detach childId) ++
      if next + 1 < bound.getD sup.core.childSpecs.length then
        [{ work.detach childId with ahead := .starts (next + 1) bound }] else [] := by
  unfold startTurn
  dsimp only
  by_cases goesOn : next + 1 < bound.getD sup.core.childSpecs.length
  · rw [if_pos goesOn, if_pos goesOn]
    rfl
  · rw [if_neg goesOn, if_neg goesOn, List.append_nil]
    split <;> rfl

end

/-- A step leaves the list and the strategy. -/
structure Same (sup later : Supervision) : Prop where
  childSpecs : later.core.childSpecs = sup.core.childSpecs
  strategy : later.core.strategy = sup.core.strategy
  exceeded : later.exceeded = sup.exceeded

theorem same_stopChild (childId : Text) (sup : Supervision) : Same sup (sup.stopChild childId) := by
  unfold stopChild
  split
  · split <;> exact ⟨rfl, rfl, rfl⟩
  · exact ⟨rfl, rfl, rfl⟩

theorem children_stopChild_of_ne (apart : other ≠ childId) :
    (sup.stopChild childId).core.children other = sup.core.children other := by
  unfold stopChild
  split
  · split
    · exact Function.update_of_ne apart _ _
    · rfl
  · rfl

theorem childEvents_subset_stopChild (childId : Text) (sup : Supervision) :
    sup.core.childEvents ⊆ (sup.stopChild childId).core.childEvents := by
  unfold stopChild report
  split
  · split
    · dsimp only
      split
      · exact Finset.Subset.refl _
      · exact Finset.subset_insert _ _
    · exact Finset.Subset.refl _
  · exact Finset.Subset.refl _

/-- A child that is stopped is not up. -/
theorem not_up_stopChild (settled : sup.core.children childId ≠ some .stopping) :
    ¬ (sup.stopChild childId).Up childId := by
  rintro ⟨state, found, up⟩
  unfold stopChild report at found
  split at found
  · next before present =>
      split at found
      · simp only [Function.update_self, Option.mem_def, Option.some.injEq] at found
        subst found
        simp at up
      · next passed =>
          rw [Option.mem_def, present] at found
          obtain rfl := Option.some.inj found
          cases before <;> simp_all [ContainerState.isLive]
  · next absent =>
      rw [Option.mem_def, absent] at found
      cases found

/-- The states that a step can leave a child in. -/
theorem settled_of_cases (settled : ∀ childId, sup.core.children childId ≠ some .stopping)
    (outcomes : ∀ childId, later.core.children childId = sup.core.children childId ∨
      later.core.children childId ∈ [some ContainerState.stopped, some .running, some .errored]) :
    ∀ childId, later.core.children childId ≠ some .stopping := by
  intro childId stopping
  rcases outcomes childId with same | listed
  · exact settled childId (same ▸ stopping)
  · rw [stopping] at listed
    simp at listed

theorem children_stopChild (childId : Text) (sup : Supervision) (other : Text) :
    (sup.stopChild childId).core.children other = sup.core.children other ∨
      (sup.stopChild childId).core.children other ∈
        [some ContainerState.stopped, some .running, some .errored] := by
  unfold stopChild report
  split
  · split
    · by_cases own : other = childId
      · subst own
        exact .inr (by simp)
      · exact .inl (Function.update_of_ne own _ _)
    · exact .inl rfl
  · exact .inl rfl

/-! ## The turn of a restart -/

/-- The work, and the others. -/
structure Splits (sup : Supervision) (work : Work) (others : Supervision) : Prop where
  core : others.core = sup.core
  tasks : others.tasks = sup.tasks
  restarting : others.restarting = sup.restarting
  exceeded : others.exceeded = sup.exceeded
  mem : ∀ other, other ∈ sup.works ↔ other = work ∨ other ∈ others.works

theorem splits_eraseIdx {index : ℕ} (here : sup.works[index]? = some work) :
    Splits sup work { sup with works := sup.works.eraseIdx index } where
  core := rfl
  tasks := rfl
  restarting := rfl
  exceeded := rfl
  mem other := by
    obtain ⟨inside, found⟩ := List.getElem?_eq_some_iff.mp here
    have perm := List.getElem_cons_eraseIdx_perm inside
    rw [found] at perm
    rw [← perm.mem_iff, List.mem_cons]

/-- The step of a work that a turn is. -/
inductive TurnOf (sup : Supervision) (keeps : ℕ → Bool) : Supervision → Prop where
  | idle : TurnOf sup keeps sup
  | stops {work : Work} {others : Supervision} (splits : Splits sup work others)
      {position : ℕ} {stopping : List ℕ} (ahead : work.stopping = position :: stopping)
      {childId : Text} (here : sup.core.childAt position = some childId) :
      TurnOf sup keeps (others.stopTurn { work with stopping } childId keeps)
  | starts {work : Work} {others : Supervision} (splits : Splits sup work others)
      (stopped : work.stopping = []) {next : ℕ} {bound : Option ℕ}
      (ahead : work.ahead = .starts next bound)
      {childId : Text} (here : sup.core.childAt next = some childId) :
      TurnOf sup keeps (others.startTurn work childId next bound)

theorem turnOf_turn (sup : Supervision) (index : ℕ) (keeps : ℕ → Bool) :
    TurnOf sup keeps (sup.turn index keeps) := by
  unfold turn
  cases found : sup.works[index]? with
  | none => exact .idle
  | some work =>
      dsimp only
      split
      · next position stopping _ ahead =>
          split
          · next spec here =>
              exact .stops (splits_eraseIdx found) ahead
                (by rw [SupervisorState.childAt, here, Option.map_some])
          · exact .idle
      · next next bound stopped ahead =>
          split
          · next spec here =>
              exact .starts (splits_eraseIdx found) stopped ahead
                (by rw [SupervisorState.childAt, here, Option.map_some])
          · exact .idle
      · exact .idle

section Turn

variable {others : Supervision} {position next : ℕ} {stopping : List ℕ} {bound : Option ℕ}

theorem Splits.same (splits : Splits sup work others) : Same sup others :=
  ⟨by rw [splits.core], by rw [splits.core], splits.exceeded⟩

/-- A child is stopped, and the work goes on without touching any monitor. -/
theorem frames_push (splits : Splits sup work others) (stopping : List ℕ)
    (apart : other ≠ childId) :
    Frames sup ((others.stopChild childId).push { work with stopping }) other where
  children := by
    change (others.stopChild childId).core.children other = _
    rw [children_stopChild_of_ne apart, splits.core]
  tasks watched := by
    change other ∈ (others.stopChild childId).tasks
    rw [stopChild_tasks, splits.tasks]
    exact watched
  events woken := childEvents_subset_stopChild childId others (splits.core.symm ▸ woken)
  busy := by
    rintro ⟨busy, member, own⟩
    change busy ∈ (others.stopChild childId).works ++ [_] at member
    rw [stopChild_works] at member
    rcases List.mem_append.mp member with among | last
    · exact ⟨busy, (splits.mem busy).mpr (.inr among), own⟩
    · obtain rfl := List.mem_singleton.mp last
      exact ⟨work, (splits.mem work).mpr (.inl rfl), own⟩
  covered := by
    rintro ⟨covering, member, yet⟩
    have same : (others.stopChild childId).core.childSpecs = sup.core.childSpecs := by
      rw [(same_stopChild childId others).childSpecs, splits.core]
    have still (kept : Work) :
        ((others.stopChild childId).push { work with stopping }).core.yetToStart kept =
          sup.core.yetToStart kept := by
      change (others.stopChild childId).core.yetToStart kept = _
      unfold SupervisorState.yetToStart
      rw [same]
    rcases (splits.mem covering).mp member with rfl | among
    · exact ⟨{ covering with stopping }, List.mem_append_right _ (List.mem_singleton_self _),
        (still _).symm ▸ yet⟩
    · refine ⟨covering, List.mem_append_left _ ?_, (still _).symm ▸ yet⟩
      rw [stopChild_works]
      exact among

/-- A child is stopped and its monitor taken out; what a work that ends there had yet to start,
this one has yet to start. -/
theorem frames_popTask (splits : Splits sup work others) (stopping : List ℕ)
    (apart : other ≠ childId)
    (takes : ∀ taken ∈ others.works, taken.isOf childId = true →
      other ∈ sup.core.yetToStart taken → other ∈ sup.core.yetToStart work) :
    Frames sup (((others.stopChild childId).popTask childId keeps).push
      (Work.detach childId { work with stopping })) other where
  children := by
    change (others.stopChild childId).core.children other = _
    rw [children_stopChild_of_ne apart, splits.core]
  tasks watched := by
    change other ∈ (others.stopChild childId).tasks.erase childId
    rw [stopChild_tasks, splits.tasks]
    exact Finset.mem_erase.mpr ⟨apart, watched⟩
  events woken := childEvents_subset_stopChild childId others (splits.core.symm ▸ woken)
  busy := by
    rintro ⟨busy, member, own⟩
    rcases List.mem_append.mp member with among | last
    · obtain ⟨before, isWork, ⟨-, rfl⟩ | ⟨-, rfl⟩⟩ := mem_cancel among
      · rw [stopChild_works] at isWork
        exact ⟨busy, (splits.mem busy).mpr (.inr isWork), own⟩
      · cases own
    · obtain rfl := List.mem_singleton.mp last
      rw [isOf_detach _ apart] at own
      exact ⟨work, (splits.mem work).mpr (.inl rfl), own⟩
  covered := by
    rintro ⟨covering, member, yet⟩
    have same : (others.stopChild childId).core.childSpecs = sup.core.childSpecs := by
      rw [(same_stopChild childId others).childSpecs, splits.core]
    have still (kept : Work) : (((others.stopChild childId).popTask childId keeps).push
        (Work.detach childId { work with stopping })).core.yetToStart kept =
          sup.core.yetToStart kept := by
      change (others.stopChild childId).core.yetToStart kept = _
      unfold SupervisorState.yetToStart
      rw [same]
    have own (yet : other ∈ sup.core.yetToStart work) :
        Covered (((others.stopChild childId).popTask childId keeps).push
          (Work.detach childId { work with stopping })) other := by
      refine ⟨_, List.mem_append_right _ (List.mem_singleton_self _), ?_⟩
      rw [yetToStart_detach, still]
      exact yet
    rcases (splits.mem covering).mp member with rfl | among
    · exact own yet
    · cases isHit : covering.isOf childId with
      | true => exact own (takes covering among isHit yet)
      | false =>
          refine ⟨covering, List.mem_append_left _ (mem_cancel_of_not_hit ?_ isHit), ?_⟩
          · rw [stopChild_works]
            exact among
          · rw [still]
            exact yet

/-- A child is started. -/
theorem frames_startTurn (splits : Splits sup work others) (ahead : work.ahead = .starts next bound)
    (here : sup.core.childAt next = some childId) (apart : other ≠ childId) :
    Frames sup (others.startTurn work childId next bound) other where
  children := by
    rw [startTurn_core, ← splits.core]
    exact Function.update_of_ne apart _ _
  tasks watched := by
    rw [startTurn_tasks, splits.tasks]
    exact Finset.mem_insert_of_mem watched
  events woken := by
    rw [← splits.core] at woken
    rw [startTurn_core]
    exact Finset.mem_erase.mpr ⟨apart, woken⟩
  busy := by
    rintro ⟨busy, member, own⟩
    rw [startTurn_works, List.mem_append] at member
    rcases member with among | last
    · obtain ⟨before, isWork, rfl⟩ := List.mem_map.mp among
      rw [isOf_detach _ apart] at own
      exact ⟨before, (splits.mem before).mpr (.inr isWork), own⟩
    · split at last
      · obtain rfl := List.mem_singleton.mp last
        refine ⟨work, (splits.mem work).mpr (.inl rfl), ?_⟩
        rw [← isOf_detach work apart]
        exact own
      · cases last
  covered := by
    rintro ⟨covering, member, yet⟩
    have still (kept : Work) : (others.startTurn work childId next bound).core.yetToStart kept =
        sup.core.yetToStart kept := by
      rw [startTurn_core, ← splits.core]
      rfl
    rcases (splits.mem covering).mp member with rfl | among
    · obtain ⟨place, after, inside, isOther⟩ :=
        (SupervisorState.mem_yetToStart_iff ahead).mp yet
      -- the other child is at a later position
      have behind : next + 1 ≤ place := by
        rcases Nat.lt_or_eq_of_le after with later | same
        · exact later
        · rw [← same, here] at isOther
          exact absurd (Option.some.inj isOther).symm apart
      have goesOn : next + 1 < bound.getD others.core.childSpecs.length := by
        rw [splits.core]
        omega
      refine ⟨{ covering.detach childId with ahead := .starts (next + 1) bound }, ?_, ?_⟩
      · rw [startTurn_works, if_pos goesOn]
        exact List.mem_append_right _ (List.mem_singleton_self _)
      · rw [still]
        exact (SupervisorState.mem_yetToStart_iff rfl).mpr ⟨place, behind, inside, isOther⟩
    · refine ⟨covering.detach childId, ?_, ?_⟩
      · rw [startTurn_works]
        exact List.mem_append_left _ (List.mem_map_of_mem among)
      · rw [still, yetToStart_detach]
        exact yet

/-- What a turn leaves of the works. -/
theorem proper_stopTurn (sound : sup.Sound) (within : sup.exceeded = false)
    (splits : Splits sup work others) (stops : work.stopping = position :: stopping)
    (here : sup.core.childAt position = some childId) :
    ∀ kept ∈ (others.stopTurn { work with stopping } childId keeps).works,
      sup.core.Proper kept := by
  have own := sound.proper within work ((splits.mem work).mpr (.inl rfl))
  have rest (kept : Work) (member : kept ∈ others.works) : sup.core.Proper kept :=
    sound.proper within kept ((splits.mem kept).mpr (.inr member))
  obtain ⟨next, bound, ahead⟩ := own.starts
  have later : sup.core.Proper (Work.detach childId { work with stopping }) := by
    unfold SupervisorState.Proper at own ⊢
    split at own
    · unfold Work.detach
      split <;> exact own
    · obtain ⟨suppresses, next, bound, ahead, whole, inside, first, attached⟩ := own
      rw [stops] at inside first attached
      have fields : (Work.detach childId { work with stopping }).stopping = stopping ∧
          (Work.detach childId { work with stopping }).suppresses = work.suppresses ∧
          (Work.detach childId { work with stopping }).ahead = work.ahead ∧
          (Work.detach childId { work with stopping }).failedId = work.failedId := by
        unfold Work.detach
        split <;> exact ⟨rfl, rfl, rfl, rfl⟩
      rw [fields.1, fields.2.1, fields.2.2.1, fields.2.2.2]
      refine ⟨suppresses, next, bound, ahead, whole, ?_, fun _ => first (List.cons_ne_nil _ _), ?_⟩
      · exact fun place member => inside place (List.mem_cons_of_mem position member)
      · intro still
        unfold Work.detach at still
        split at still
        · cases still
        · next other =>
            obtain ⟨place, member, failed⟩ := attached still
            rcases List.mem_cons.mp member with rfl | after
            · rw [here] at failed
              have still : work.attached = true := still
              exact absurd (by simp [Work.isOf, still, Option.some.inj failed]) other
            · exact ⟨place, after, failed⟩
  unfold stopTurn
  dsimp only
  split
  · split
    · intro kept member
      rcases List.mem_append.mp member with among | last
      · obtain ⟨before, isWork, ⟨-, rfl⟩ | ⟨-, rfl⟩⟩ := mem_cancel among
        · rw [stopChild_works] at isWork
          exact rest kept isWork
        · rw [stopChild_works] at isWork
          exact (rest before isWork).leave
      · obtain rfl := List.mem_singleton.mp last
        exact later
    · next alone =>
        intro kept member
        change kept ∈ (others.stopChild childId).works ++ [_] at member
        rw [stopChild_works] at member
        rcases List.mem_append.mp member with among | last
        · exact rest kept among
        · obtain rfl := List.mem_singleton.mp last
          unfold SupervisorState.Proper at own ⊢
          split at own
          · exact own
          · exact absurd own.1 alone
  · next escalates =>
      change work.ahead = .escalates at escalates
      rw [ahead] at escalates
      cases escalates

theorem proper_startTurn (sound : sup.Sound) (within : sup.exceeded = false)
    (splits : Splits sup work others) (stopped : work.stopping = [])
    (ahead : work.ahead = .starts next bound) :
    ∀ kept ∈ (others.startTurn work childId next bound).works, sup.core.Proper kept := by
  have own := sound.proper within work ((splits.mem work).mpr (.inl rfl))
  have rest (kept : Work) (member : kept ∈ others.works.map (Work.detach childId)) :
      sup.core.Proper kept := by
    obtain ⟨before, isWork, rfl⟩ := List.mem_map.mp member
    exact (sound.proper within before ((splits.mem before).mpr (.inr isWork))).detach childId
  intro kept member
  rw [startTurn_works, List.mem_append] at member
  rcases member with among | last
  · exact rest kept among
  · split at last
    · next goesOn =>
        obtain rfl := List.mem_singleton.mp last
        unfold SupervisorState.Proper at own ⊢
        split at own
        · obtain ⟨-, place, alone, -⟩ := own
          rw [ahead] at alone
          cases alone
          simp at goesOn
        · obtain ⟨suppresses, begun, limit, isAhead, whole, -, -, attached⟩ := own
          rw [ahead] at isAhead
          cases isAhead
          have unattached : work.attached = false := by
            by_contra still
            obtain ⟨place, member, -⟩ := attached (by simpa using still)
            rw [stopped] at member
            exact List.not_mem_nil member
          have fields : (work.detach childId) = work := by
            unfold Work.detach Work.isOf
            rw [unattached]
            rfl
          rw [fields]
          refine ⟨suppresses, _, _, rfl, whole, ?_, ?_, ?_⟩
          · dsimp only
            rw [stopped]
            exact List.forall_mem_nil _
          · exact fun more => absurd stopped more
          · intro still
            rw [unattached] at still
            cases still
    · cases last

theorem same_startTurn (splits : Splits sup work others) (childId : Text) (next : ℕ)
    (bound : Option ℕ) : Same sup (others.startTurn work childId next bound) := by
  have same := splits.same
  refine ⟨?_, ?_, (startTurn_exceeded ..).trans same.exceeded⟩
  · rw [startTurn_core]
    exact same.childSpecs
  · rw [startTurn_core]
    exact same.strategy

theorem same_stopTurn (splits : Splits sup work others) (kept : Work) (childId : Text)
    (keeps : ℕ → Bool) : Same sup (others.stopTurn kept childId keeps) := by
  have same := splits.same
  have stopped := same_stopChild childId others
  have both : Same sup (others.stopChild childId) :=
    ⟨stopped.childSpecs.trans same.childSpecs, stopped.strategy.trans same.strategy,
      stopped.exceeded.trans same.exceeded⟩
  unfold stopTurn
  dsimp only
  split
  · split <;> exact ⟨both.childSpecs, both.strategy, both.exceeded⟩
  · split <;> exact ⟨both.childSpecs, both.strategy, both.exceeded⟩

theorem children_startTurn (splits : Splits sup work others) :
    (others.startTurn work childId next bound).core.children =
      Function.update sup.core.children childId (some .running) := by
  rw [startTurn_core, ← splits.core]
  rfl

theorem children_stopTurn (kept : Work) :
    (others.stopTurn kept childId keeps).core.children =
      (others.stopChild childId).core.children := by
  unfold stopTurn
  dsimp only
  split
  · split <;> rfl
  · split <;> rfl

theorem Sound.turn (sound : sup.Sound) (index : ℕ) (keeps : ℕ → Bool) :
    (sup.turn index keeps).Sound := by
  have step := turnOf_turn sup index keeps
  generalize sup.turn index keeps = later at step ⊢
  cases step with
  | idle => exact sound
  | stops splits stops here =>
      next work others position stopping childId =>
      have same := same_stopTurn splits { work with stopping } childId keeps
      refine ⟨by rw [same.childSpecs]; exact sound.distinct, ?_, fun within => ?_⟩
      · refine settled_of_cases sound.settled fun other => ?_
        rw [children_stopTurn, ← splits.core]
        exact children_stopChild childId _ other
      · rw [same.exceeded] at within
        exact fun kept member => (proper_stopTurn sound within splits stops here kept member).congr
          same.strategy same.childSpecs
  | starts splits stopped ahead here =>
      next work others next bound childId =>
      have same := same_startTurn splits childId next bound
      refine ⟨by rw [same.childSpecs]; exact sound.distinct, ?_, fun within => ?_⟩
      · refine settled_of_cases sound.settled fun other => ?_
        rw [children_startTurn splits]
        by_cases own : other = childId
        · subst own
          exact .inr (by simp)
        · exact .inl (Function.update_of_ne own _ _)
      · rw [same.exceeded] at within
        exact fun kept member => (proper_startTurn sound within splits stopped ahead kept
          member).congr same.strategy same.childSpecs

/-- A turn forgets no child. -/
theorem Answers.turn (answers : sup.Answers) (sound : sup.Sound) (index : ℕ) (keeps : ℕ → Bool) :
    (sup.turn index keeps).Answers := by
  have step := turnOf_turn sup index keeps
  generalize sup.turn index keeps = later at step ⊢
  by_cases within : sup.exceeded = false
  · cases step with
    | idle => exact answers
    | stops splits stops here =>
        next work others position stopping childId =>
        have same := same_stopTurn splits { work with stopping } childId keeps
        have member := (splits.mem work).mpr (.inl rfl)
        have proper := sound.proper within work member
        obtain ⟨next, bound, ahead⟩ := proper.starts
        have gone := @not_up_stopChild others childId (splits.core ▸ sound.settled childId)
        refine (answers.of_own _ childId same.childSpecs same.exceeded fun _ other apart => ?_).mpr
          fun _ _ up => absurd ?_ gone
        · unfold stopTurn
          dsimp only
          split
          · split
            · next suppresses =>
                refine frames_popTask splits stopping apart fun taken among own yet => ?_
                rw [Work.isOf, Bool.and_eq_true, decide_eq_true_eq] at own
                refine proper.covers_taken sound.distinct suppresses
                  (stops ▸ List.mem_cons_self) (own.2.symm ▸ here) ?_ own.1 yet
                exact sound.proper within taken ((splits.mem taken).mpr (.inr among))
            · exact frames_push splits stopping apart
          · next escalates =>
              change work.ahead = .escalates at escalates
              rw [ahead] at escalates
              cases escalates
        · obtain ⟨state, found, isUp⟩ := up
          rw [children_stopTurn] at found
          exact ⟨state, found, isUp⟩
    | starts splits stopped ahead here =>
        next work others next bound childId =>
        have same := same_startTurn splits childId next bound
        refine (answers.of_own _ childId same.childSpecs same.exceeded fun _ other apart =>
          frames_startTurn splits ahead here apart).mpr fun _ _ _ => ⟨.inl ?_, fun errored => ?_⟩
        · rw [startTurn_tasks]
          exact Finset.mem_insert_self _ _
        · rw [children_startTurn splits, Function.update_self] at errored
          cases errored
  · have same : later.exceeded = sup.exceeded := by
      cases step with
      | idle => rfl
      | stops splits _ _ => exact (same_stopTurn splits _ _ _).exceeded
      | starts splits _ _ _ => exact (same_startTurn splits _ _ _).exceeded
    exact fun after => absurd (same ▸ after) within

end Turn

/-! ## Monitors -/

/-- What the handling of a failure leaves of a child that it is not about. -/
theorem frames_of_more (childSpecs : later.core.childSpecs = sup.core.childSpecs)
    (children : later.core.children = sup.core.children)
    (tasks : other ∈ sup.tasks → other ∈ later.tasks)
    (events : other ∈ sup.core.childEvents → other ∈ later.core.childEvents)
    (works : later.works = sup.works ∨ ∃ work, work.isOf other = false ∧
      later.works = sup.works ++ [work]) : Frames sup later other := by
  refine ⟨by rw [children], tasks, events, ?_, ?_⟩
  · rintro ⟨busy, member, isOf⟩
    rcases works with same | ⟨work, apart, more⟩
    · exact ⟨busy, same ▸ member, isOf⟩
    · rw [more] at member
      rcases List.mem_append.mp member with among | last
      · exact ⟨busy, among, isOf⟩
      · obtain rfl := List.mem_singleton.mp last
        rw [apart] at isOf
        cases isOf
  · rintro ⟨covering, member, yet⟩
    refine ⟨covering, ?_, ?_⟩
    · rcases works with same | ⟨work, -, more⟩
      · exact same ▸ member
      · exact more ▸ List.mem_append_left _ member
    · unfold SupervisorState.yetToStart at yet ⊢
      rw [childSpecs]
      exact yet

theorem restartWork_isOf (core : SupervisorState) (failedId childId : Text) (attached : Bool) :
    (core.restartWork failedId attached).isOf childId =
      (attached && decide (failedId = childId)) := by
  unfold SupervisorState.restartWork
  dsimp only
  split <;> rfl

theorem Sound.of_like (sound : sup.Sound) (childSpecs : later.core.childSpecs = sup.core.childSpecs)
    (strategy : later.core.strategy = sup.core.strategy)
    (children : later.core.children = sup.core.children)
    (proper : later.exceeded = false → ∀ work ∈ later.works, sup.core.Proper work) :
    later.Sound where
  distinct := by
    rw [childSpecs]
    exact sound.distinct
  settled childId := by
    rw [children]
    exact sound.settled childId
  proper within work member := (proper within work member).congr strategy childSpecs

theorem getSpec_congr {core : SupervisorState} (childSpecs : core.childSpecs = sup.core.childSpecs)
    (childId : Text) : core.getSpec childId = sup.core.getSpec childId := by
  unfold SupervisorState.getSpec
  rw [childSpecs]

theorem Sound.handle (sound : sup.Sound) (clock : FailureClock) (notifyRaises attached : Bool)
    (childId : Text) : (sup.handle clock notifyRaises attached childId).Sound := by
  have like := SupervisorState.handleChildFailure_like clock childId sup.core
  have restarts := @SupervisorState.handleChildFailure_restarts sup.core childId clock
  unfold Supervision.handle
  rcases decided : sup.core.handleChildFailure clock childId with ⟨core, decision⟩
  rw [decided] at like restarts
  cases decision with
  | idle => exact sound.of_like like.childSpecs like.strategy like.children sound.proper
  | outage =>
      dsimp only
      split
      · exact sound.of_like like.childSpecs like.strategy like.children sound.proper
      · exact sound.of_like like.childSpecs like.strategy like.children sound.proper
  | escalates => exact sound.of_like like.childSpecs like.strategy like.children nofun
  | restarts =>
      refine sound.of_like like.childSpecs like.strategy like.children fun within work member => ?_
      rcases List.mem_append.mp member with among | last
      · exact sound.proper within work among
      · obtain rfl := List.mem_singleton.mp last
        obtain ⟨spec, found, -⟩ := restarts rfl
        have begun := SupervisorState.proper_restartWork attached
          ((getSpec_congr like.childSpecs childId).trans found)
        exact begun.congr like.strategy.symm like.childSpecs.symm

/-- A former monitor forgets no child. -/
theorem Answers.stale (answers : sup.Answers) (clock : FailureClock) (notifyRaises : Bool)
    (childId : Text) : (sup.handle clock notifyRaises false childId).Answers := by
  have like := SupervisorState.handleChildFailure_like clock childId sup.core
  unfold Supervision.handle
  rcases decided : sup.core.handleChildFailure clock childId with ⟨core, decision⟩
  rw [decided] at like
  have framed (later : Supervision) (childSpecs : later.core.childSpecs = core.childSpecs)
      (children : later.core.children = core.children)
      (events : later.core.childEvents = core.childEvents) (tasks : later.tasks = sup.tasks)
      (works : later.works = sup.works ∨ ∃ work, (∀ other, work.isOf other = false) ∧
        later.works = sup.works ++ [work])
      (exceeded : later.exceeded = sup.exceeded) : later.Answers := by
    have frames (other : Text) : Frames sup later other :=
      frames_of_more (childSpecs.trans like.childSpecs) (children.trans like.children)
        (tasks.symm ▸ id) (by rw [events, like.childEvents]; exact id)
        (works.imp id fun ⟨work, apart, more⟩ => ⟨work, apart other, more⟩)
    refine (answers.of_own later childId (childSpecs.trans like.childSpecs) exceeded
      fun _ other _ => frames other).mpr fun within permanent up => (frames childId).held ?_
    exact answers (exceeded ▸ within) childId
      ((permanent_congr (childSpecs.trans like.childSpecs) childId).mp permanent)
      ((up_congr (frames childId).children).mp up)
  cases decision with
  | idle => exact framed _ rfl rfl rfl rfl (.inl rfl) rfl
  | outage =>
      dsimp only
      split
      · exact framed _ rfl rfl rfl rfl (.inl rfl) rfl
      · exact framed _ rfl rfl rfl rfl (.inl rfl) rfl
  | escalates => exact fun within => nomatch within
  | restarts =>
      exact framed _ rfl rfl rfl rfl
        (.inr ⟨_, fun other => restartWork_isOf core childId other false, rfl⟩) rfl

/-- The handling of a failure answers it, unless it is dropped. -/
theorem handle_answers_iff (answers : sup.Answers) (clock : FailureClock) (notifyRaises : Bool)
    (ready : sup.Ready childId) (errored : sup.core.children childId = some .errored) :
    ((sup.clear childId).handle clock notifyRaises true childId).Answers ↔
      (sup.exceeded = false → sup.Permanent childId →
        sup.Attends clock childId ∨ sup.Covered childId) := by
  have like := SupervisorState.handleChildFailure_like clock childId (sup.clear childId).core
  have permanent := @SupervisorState.handleChildFailure_permanent_iff (sup.clear childId).core
    childId clock
  have restarts := @SupervisorState.handleChildFailure_restarts (sup.clear childId).core childId
    clock
  unfold Supervision.handle
  rcases decided : (sup.clear childId).core.handleChildFailure clock childId with
    ⟨core, decision⟩
  rw [decided] at like permanent restarts
  have up : sup.Up childId := ⟨.errored, errored, by decide⟩
  have quiet (dropped : decision ≠ .restarts ∧ decision ≠ .escalates)
      (isPermanent : sup.Permanent childId) : ¬ sup.Attends clock childId := by
    obtain ⟨spec, found, isPermanent⟩ := isPermanent
    exact fun attends =>
      ((permanent found isPermanent errored).mpr attends).elim dropped.1 dropped.2
  -- where nothing is begun, the child is waited for by a restart under way only
  have dropped (later : Supervision) (childSpecs : later.core.childSpecs = sup.core.childSpecs)
      (children : later.core.children = sup.core.children)
      (events : childId ∉ later.core.childEvents) (works : later.works = sup.works)
      (exceeded : later.exceeded = sup.exceeded)
      (frames : ∀ other ≠ childId, Frames sup later other)
      (idle : decision ≠ .restarts ∧ decision ≠ .escalates) :
      later.Answers ↔ (sup.exceeded = false → sup.Permanent childId →
        sup.Attends clock childId ∨ sup.Covered childId) := by
    have covered : later.Covered childId ↔ sup.Covered childId := by
      unfold Covered SupervisorState.yetToStart
      rw [works, childSpecs]
    rw [answers.of_own later childId childSpecs exceeded fun _ => frames, exceeded]
    refine imp_congr_right fun _ => ?_
    rw [permanent_congr childSpecs]
    refine imp_congr_right fun isPermanent => ?_
    rw [forall_prop_of_true ((up_congr (congrFun children childId)).mpr up),
      or_iff_right (quiet idle isPermanent), ← covered]
    refine ⟨fun held => ?_, fun covered => ⟨.inr covered, fun _ => .inr covered⟩⟩
    exact (held.2 (children ▸ errored)).resolve_left fun ready => events ready.2.1
  have cleared : childId ∉ core.childEvents := by
    rw [like.childEvents]
    exact Finset.notMem_erase childId _
  have woken (other : Text) (apart : other ≠ childId) (isSet : other ∈ sup.core.childEvents) :
      other ∈ core.childEvents := by
    rw [like.childEvents]
    exact Finset.mem_erase.mpr ⟨apart, isSet⟩
  cases decision with
  | idle =>
      exact dropped _ like.childSpecs like.children cleared rfl rfl (fun other apart =>
        frames_of_more like.childSpecs like.children id (woken other apart) (.inl rfl))
        ⟨nofun, nofun⟩
  | outage =>
      dsimp only
      split
      · exact dropped _ like.childSpecs like.children cleared rfl rfl (fun other apart =>
          frames_of_more like.childSpecs like.children
            (fun watched => Finset.mem_erase.mpr ⟨apart, watched⟩) (woken other apart) (.inl rfl))
          ⟨nofun, nofun⟩
      · exact dropped _ like.childSpecs like.children cleared rfl rfl (fun other apart =>
          frames_of_more like.childSpecs like.children id (woken other apart) (.inl rfl))
          ⟨nofun, nofun⟩
  | escalates =>
      refine iff_of_true nofun fun _ ⟨spec, found, isPermanent⟩ => .inl ?_
      exact (permanent found isPermanent errored).mp (.inr rfl)
  | restarts =>
      refine iff_of_true ?_ fun _ ⟨spec, found, isPermanent⟩ =>
        .inl ((permanent found isPermanent errored).mp (.inl rfl))
      refine (answers.of_own _ childId ?_ ?_ fun _ other apart => ?_).mpr fun _ _ _ => ?_
      · exact like.childSpecs
      · rfl
      · refine frames_of_more like.childSpecs like.children id (woken other apart)
          (.inr ⟨_, ?_, rfl⟩)
        rw [restartWork_isOf]
        simp [Ne.symm apart]
      obtain ⟨spec, found, -⟩ := restarts rfl
      have covered : childId ∈ core.yetToStart (core.restartWork childId true) :=
        SupervisorState.mem_yetToStart_restartWork true
          ((getSpec_congr like.childSpecs childId).trans found)
      exact ⟨.inl ready.1, fun _ => .inr ⟨_, List.mem_append_right _ (List.mem_singleton_self _),
        covered⟩⟩

/-! ## Every run -/

theorem Sound.perform (sound : sup.Sound) (event : FailureEvent) : (sup.perform event).Sound := by
  cases event with
  | fails childId =>
      unfold Supervision.perform
      dsimp only
      split
      · split
        · exact sound
        · refine ⟨sound.distinct, settled_of_cases sound.settled fun other => ?_, sound.proper⟩
          by_cases own : other = childId
          · subst own
            exact .inr (by simp [report])
          · exact .inl (Function.update_of_ne own _ _)
      · exact sound
  | monitored childId clock notifyRaises =>
      unfold Supervision.perform
      dsimp only
      split
      · split
        · exact @Sound.handle (sup.clear childId) ⟨sound.distinct, sound.settled, sound.proper⟩
            clock notifyRaises true childId
        · exact ⟨sound.distinct, sound.settled, sound.proper⟩
        · exact ⟨sound.distinct, sound.settled, sound.proper⟩
        · exact ⟨sound.distinct, sound.settled, sound.proper⟩
        · exact ⟨sound.distinct, sound.settled, sound.proper⟩
      · exact sound
  | stale childId clock notifyRaises =>
      unfold Supervision.perform
      dsimp only
      split
      · exact sound.handle clock notifyRaises false childId
      · exact sound
  | turn index keeps => exact sound.turn index keeps
  | backoffExpires =>
      unfold Supervision.perform
      dsimp only
      split
      · exact ⟨sound.distinct, sound.settled, sound.proper⟩
      · exact sound

/-- A child that errs sets its event, unless callbacks are suppressed. -/
theorem report_answers_iff (answers : sup.Answers) (sound : sup.Sound) (up : sup.Up childId) :
    (sup.report childId .errored).Answers ↔
      (sup.exceeded = false → sup.restarting = true → sup.Permanent childId →
        sup.Ready childId ∨ sup.Covered childId) := by
  have frames : ∀ other ≠ childId, Frames sup (sup.report childId .errored) other := by
    refine fun other apart => ⟨Function.update_of_ne apart _ _, id, fun woken => ?_, id, id⟩
    unfold report
    dsimp only
    split
    · exact woken
    · exact Finset.mem_insert_of_mem woken
  have isUp : (sup.report childId .errored).Up childId :=
    ⟨.errored, Function.update_self _ _ _, by decide⟩
  rw [answers.of_own (sup.report childId .errored) childId rfl rfl fun _ => frames]
  refine imp_congr_right fun within => ?_
  have errs : (sup.report childId .errored).core.children childId = some .errored :=
    Function.update_self _ _ _
  constructor
  · intro held restarting permanent
    rcases (held permanent isUp).2 errs with ⟨watched, woken, free⟩ | covered
    · refine .inl ⟨watched, ?_, free⟩
      unfold report at woken
      dsimp only at woken
      rwa [if_pos restarting] at woken
    · exact .inr covered
  · intro noticed permanent _
    obtain ⟨watched, -⟩ := answers within childId permanent up
    refine ⟨watched, fun _ => ?_⟩
    cases restarting : sup.restarting with
    | true =>
        refine (noticed restarting permanent).imp (fun ready => ⟨ready.1, ?_, ready.2.2⟩) id
        unfold report
        dsimp only
        rw [if_pos restarting]
        exact ready.2.1
    | false =>
        rcases watched with watched | covered
        · by_cases busy : sup.Busy childId
          · obtain ⟨work, member, own⟩ := busy
            rw [Work.isOf, Bool.and_eq_true, decide_eq_true_eq] at own
            exact .inr ⟨work, member,
              own.2 ▸ (sound.proper within work member).covers own.1⟩
          · refine .inl ⟨watched, ?_, busy⟩
            unfold report
            dsimp only
            rw [restarting]
            exact Finset.mem_insert_self _ _
        · exact .inr covered

/-- **One event.** Every PERMANENT child that has errored is waited for exactly under the
condition on the state before the event. -/
theorem answers_perform_iff (sound : sup.Sound) (answers : sup.Answers) (event : FailureEvent) :
    (sup.perform event).Answers ↔ sup.Heard event := by
  cases event with
  | fails childId =>
      unfold Supervision.perform Heard
      dsimp only
      split
      · next state found =>
          split
          · next ended =>
              refine iff_of_true answers fun _ _ _ ⟨other, isState, up⟩ => absurd ended ?_
              rw [Option.mem_def, found] at isState
              exact Option.some.inj isState ▸ up
          · next up =>
              have isUp : sup.Up childId := ⟨state, found, up⟩
              rw [report_answers_iff answers sound isUp]
              simp only [forall_prop_of_true isUp]
      · next absent =>
          refine iff_of_true answers fun _ _ _ ⟨other, isState, _⟩ => ?_
          rw [Option.mem_def, absent] at isState
          cases isState
  | monitored childId clock notifyRaises =>
      unfold Supervision.perform Heard
      dsimp only
      split
      · next ready =>
          rw [forall_prop_of_true ready]
          have frames (tasks : Finset Text) (kept : ∀ other ≠ childId, other ∈ sup.tasks →
              other ∈ tasks) : ∀ other ≠ childId,
              Frames sup { sup.clear childId with tasks } other :=
            fun other apart => ⟨rfl, kept other apart,
              fun woken => Finset.mem_erase.mpr ⟨apart, woken⟩, id, id⟩
          have gone (ended : ¬ sup.Up childId) :
              Answers { sup.clear childId with tasks := sup.tasks.erase childId } :=
            (answers.of_own { sup.clear childId with tasks := sup.tasks.erase childId } childId
              rfl rfl
              fun _ => frames _ fun other apart watched =>
              Finset.mem_erase.mpr ⟨apart, watched⟩).mpr fun _ _ up => absurd up ended
          split
          · next errored =>
              rw [forall_prop_of_true errored]
              exact handle_answers_iff answers clock notifyRaises ready errored
          · next absent =>
              refine iff_of_true (gone ?_) fun _ errored => by simp [absent] at errored
              rintro ⟨state, found, -⟩
              simp [absent] at found
          · next stopped =>
              refine iff_of_true (gone ?_) fun _ errored => by simp [stopped] at errored
              rintro ⟨state, found, up⟩
              rw [Option.mem_def, stopped] at found
              cases found
              simp at up
          · next destroyed =>
              refine iff_of_true (gone ?_) fun _ errored => by simp [destroyed] at errored
              rintro ⟨state, found, up⟩
              rw [Option.mem_def, destroyed] at found
              cases found
              simp at up
          · next other _ _ _ =>
              refine iff_of_true ?_ fun _ errored => absurd errored other
              exact (answers.of_own (sup.clear childId) childId rfl rfl
                fun _ => frames _ fun _ _ => id).mpr
                fun _ _ _ => ⟨.inl ready.1, fun errored => absurd errored other⟩
      · next other => exact iff_of_true answers fun _ ready => absurd ready other
  | stale childId clock notifyRaises =>
      refine iff_of_true ?_ trivial
      unfold Supervision.perform
      dsimp only
      split
      · exact answers.stale clock notifyRaises childId
      · exact answers
  | turn index keeps => exact iff_of_true (answers.turn sound index keeps) trivial
  | backoffExpires =>
      refine iff_of_true ?_ trivial
      unfold Supervision.perform
      dsimp only
      split
      · exact answers
      · exact answers

theorem sound_started (strategy : RestartStrategy) {childSpecs : List ChildSpec}
    (distinct : (childSpecs.map ChildSpec.childId).Nodup) (restartTracker : RestartTracker) :
    (started strategy childSpecs restartTracker).Sound where
  distinct := distinct
  settled childId stopping := by
    change (if childId ∈ childSpecs.map ChildSpec.childId then some ContainerState.running
      else none) = _ at stopping
    split at stopping <;> cases stopping
  proper _ := List.forall_mem_nil _

theorem started_answers (strategy : RestartStrategy) (childSpecs : List ChildSpec)
    (restartTracker : RestartTracker) :
    (started strategy childSpecs restartTracker).Answers := by
  rintro - childId - ⟨state, found, -⟩
  change (if childId ∈ childSpecs.map ChildSpec.childId then some ContainerState.running
    else none) = _ at found
  split at found
  · next listed =>
      refine ⟨.inl (List.mem_toFinset.mpr listed), fun errored => ?_⟩
      change (if childId ∈ childSpecs.map ChildSpec.childId then some ContainerState.running
        else none) = _ at errored
      rw [if_pos listed] at errored
      cases errored
  · cases found

theorem Answers.forgetsNone (answers : sup.Answers) : sup.ForgetsNone := by
  intro _ within _ quiescent childId permanent errored
  obtain ⟨settled, quiet⟩ := quiescent
  rcases (answers within childId permanent ⟨.errored, errored, by decide⟩).2 errored with
    ⟨watched, woken, -⟩ | ⟨work, member, -⟩
  · exact quiet childId watched woken
  · rw [settled] at member
    exact List.not_mem_nil member

/-- **No child is forgotten.** In a run in which each PERMANENT child that errs while callbacks are
suppressed is yet to be started, and each failure of one is handled outside a backoff and is not
taken for an outage, no quiescent state has such a child errored. -/
theorem no_child_forgotten (strategy : RestartStrategy) {childSpecs : List ChildSpec}
    (distinct : (childSpecs.map ChildSpec.childId).Nodup) (restartTracker : RestartTracker)
    (events : List FailureEvent)
    (heard : EachMeets perform Heard (started strategy childSpecs restartTracker) events) :
    Throughout perform ForgetsNone (started strategy childSpecs restartTracker) events := by
  have answered : Throughout perform Answers _ events :=
    (@throughout_iff_within _ _ perform Sound Answers Heard (fun _ event sound =>
      sound.perform event) (fun _ event sound answers => answers_perform_iff sound answers event) _
      (sound_started strategy distinct restartTracker)
      (started_answers strategy childSpecs restartTracker) events).mpr heard
  exact answered.mono fun _ => Answers.forgetsNone

private def trio : List ChildSpec :=
  [{ childId := "a".toList }, { childId := "b".toList }, { childId := "c".toList }]

/-- The readings of a failure that is handled at a time. -/
private def clockAt (time : ℚ) : FailureClock := ⟨time, time, time, time⟩

/-- A child errs, and while the others are stopped with it another one errs; later one errs
again. -/
private def twoRestarts : List FailureEvent :=
  [.fails "b".toList, .monitored "b".toList (clockAt 0) false, .fails "c".toList] ++
    List.replicate 4 (.turn 0 fun _ => false) ++
    [.fails "a".toList, .monitored "a".toList (clockAt 100) false] ++
    List.replicate 6 (.turn 0 fun _ => false)

theorem failures_answered :
    EachMeets perform Heard (started .restForOne trio {}) twoRestarts ∧
      Throughout perform ForgetsNone (started .restForOne trio {}) twoRestarts := by
  have heard : EachMeets perform Heard (started .restForOne trio {}) twoRestarts := by
    decide +kernel
  exact ⟨heard, no_child_forgotten .restForOne (by decide) {} _ heard⟩

private def pair : List ChildSpec := [{ childId := "a".toList }, { childId := "b".toList }]

private def outage : List FailureEvent :=
  [.fails "a".toList, .monitored "a".toList (clockAt 0) false, .turn 0 fun _ => false,
    .turn 0 fun _ => false, .fails "b".toList, .monitored "b".toList (clockAt 0) false,
    .backoffExpires]

/-- Two children error within the window; the event of the second is cleared, and its failure
is taken for an outage. When the backoff has expired, it is left errored. -/
theorem outage_forgets_child :
    ¬ ∀ (strategy : RestartStrategy) (childSpecs : List ChildSpec)
      (restartTracker : RestartTracker) (events : List FailureEvent),
      Throughout perform ForgetsNone (started strategy childSpecs restartTracker) events := by
  intro claim
  have quiet := (claim .oneForOne pair {} outage).last
  have expired : (outage.foldl perform (started .oneForOne pair {})).core.bulkDetector.map
      BulkFailureDetector.inBackoff = some false := by decide +kernel
  refine quiet (by decide +kernel) (by decide +kernel) ?_
    ⟨by decide +kernel, by decide +kernel⟩ "b".toList (by decide +kernel) (by decide +kernel)
  intro detector present
  rw [Option.mem_def] at present
  rw [present] at expired
  exact Option.some.inj expired

end Supervision

end Vcompany.Supervisor
