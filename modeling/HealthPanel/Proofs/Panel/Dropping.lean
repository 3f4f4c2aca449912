import HealthPanel.Proofs.Panel.Accounting
import HealthPanel.Proofs.Panel.Closing

/-!
# To drop a panel is to tear it down

A teardown makes the panel inactive and raises the signal. A drop leaves the flag as it is, raises
the signal, and leaves nobody who could raise it again. To the tasks in flight both are the same
news. Only a task that has found a status would ask for the flag, and after any use of the panel
there is none. Responses that come after the end are left out, since a task may then find a status
before it looks at the signal.
-/

namespace HealthPanel.Panel

variable {panel later : Panel} {action : Action} {actions ending : List Action} {task seen : Nat}
  {outcome : String}

/-! ## What is counted -/

/-- A task that runs in vain never comes to write a status. -/
theorem RunsInVain.not_occurs_findsInactive (vain : RunsInVain task panel)
    (aftermath : ∀ action ∈ actions, action.IsAftermath) :
    ¬panel.Occurs (FindsInactive task) actions := by
  rintro ⟨before, action, after, rfl, -, ⟨status, hresolved⟩, -⟩
  rw [List.forall_mem_append] at aftermath
  obtain ⟨phase, hphase, hvain⟩ := vain.run aftermath.1
  obtain rfl := Option.some.inj (hphase.symm.trans hresolved)
  cases hvain

/-- What a task in flight adds to the counters: nothing but one to that of the checks that were
given up, once it has ended. -/
theorem IsInFlight.credit_eq (inFlight : panel.IsInFlight task) (metered : panel.IsMetered)
    (aftermath : ∀ action ∈ actions, action.IsAftermath) :
    (∀ outcome, Metrics.key outcome ≠ Metrics.key Metrics.cancelled →
      panel.credit outcome task actions = 0) ∧
      ((panel.run actions).result? task = some none →
        panel.credit Metrics.cancelled task actions = 1) := by
  have hpending : IsPending (panel.phase? task) := by
    obtain ⟨seen, hphase | hphase⟩ := inFlight <;> rw [hphase] <;> trivial
  have haccount := accounted_run_of_pending metered hpending actions
  have hnot := inFlight.runsInVain.not_occurs_findsInactive aftermath
  obtain ⟨phase, hphase, hvain⟩ := inFlight.runsInVain.run aftermath
  rw [result?_eq_some_iff, hphase]
  rw [hphase] at haccount
  cases haccount with
  | pending hopen _ _ hn =>
    refine ⟨fun outcome _ => hn outcome, fun hended => ?_⟩
    cases hended
    exact hopen.elim
  | interrupted _ _ hn => exact ⟨fun outcome _ => hn outcome, fun hended => nomatch hended⟩
  | cancelled _ _ hn =>
    exact ⟨fun outcome hne => by rw [hn, if_neg hne], fun _ => by rw [hn, if_pos rfl]⟩
  | discarded _ hd => exact absurd hd hnot
  | counted => cases hvain

/-- A task that has ended adds nothing any more. -/
theorem credit_eq_zero_of_ended (metered : panel.IsMetered) {result : Option Status}
    (ended : panel.result? task = some result) (actions : List Action) :
    panel.credit outcome task actions = 0 := by
  induction actions using List.reverseRecOn with
  | nil => rfl
  | append_singleton actions last ih =>
    have hended := run_induction (motive := fun later => later.result? task = some result)
      (fun h => h.result?_eq) ended actions
    obtain ⟨asked, hentry⟩ := phase?_eq_some_iff.mp (result?_eq_some_iff.mp hended)
    have hshare : (panel.run actions).share outcome task last = 0 := by
      refine share_eq_zero (fun old new hold move => ?_) outcome
      obtain rfl := Option.some.inj (hentry.symm.trans hold)
      cases move
    rw [credit_concat metered, ih, hshare]

/-- After the end of a panel no task is added. -/
theorem length_tasks_run (aftermath : ∀ action ∈ actions, action.IsAftermath) :
    (panel.run actions).tasks.length = panel.tasks.length := by
  refine run_induction_of (motive := fun later => later.tasks.length = panel.tasks.length) ?_ rfl
    aftermath
  intro before action after haftermath h hlength
  rw [← hlength]
  cases h with
  | activate => exact haftermath.elim
  | ask => simp
  | refuse | resolve | giveUp | wait | write | discard | recordCheck | recordCancelled =>
    exact length_tasks_setPhase
  | _ => rfl

namespace IsInUse

/-- Each task of a panel in use is in flight or has ended. -/
theorem inFlight_or_ended (used : panel.IsInUse) (present : task < panel.tasks.length) :
    panel.IsInFlight task ∨ ∃ status, panel.result? task = some (some status) := by
  obtain ⟨phase, hphase⟩ : ∃ phase, panel.phase? task = some phase :=
    ⟨_, by rw [phase?, List.getElem?_eq_getElem present]; rfl⟩
  cases used.resting task phase hphase with
  | spawned => exact .inl ⟨0, .inl hphase⟩
  | probing => exact .inl ⟨0, .inr hphase⟩
  | ended status => exact .inr ⟨status, result?_eq_some_iff.mpr hphase⟩

/-- After the use of a panel no check is counted under a status. -/
theorem counter_run_of_ne (used : panel.IsInUse) (metered : panel.IsMetered)
    (aftermath : ∀ action ∈ actions, action.IsAftermath)
    (other : Metrics.key outcome ≠ Metrics.key Metrics.cancelled) :
    (panel.run actions).counter outcome = panel.counter outcome := by
  have hnone : ∀ task, task < (panel.run actions).tasks.length →
      (False → panel.credit outcome task actions = 1) ∧
        (¬False → panel.credit outcome task actions = 0) := by
    intro task hpresent
    refine ⟨False.elim, fun _ => ?_⟩
    rw [length_tasks_run aftermath] at hpresent
    rcases used.inFlight_or_ended hpresent with hflight | ⟨status, hended⟩
    · exact (hflight.credit_eq metered aftermath).1 outcome other
    · exact credit_eq_zero_of_ended metered hended actions
  have hcounter : (panel.run actions).counter outcome =
      panel.counter outcome + {task : Nat | False}.ncard :=
    counter_run_eq_add_ncard metered (fun _ => False.elim) hnone
  simpa using hcounter

/-- Once all tasks in flight have ended with nothing, each of them is counted as given up. -/
theorem counter_cancelled_run (used : panel.IsInUse) (metered : panel.IsMetered)
    (aftermath : ∀ action ∈ actions, action.IsAftermath)
    (ended : ∀ task, panel.IsInFlight task → (panel.run actions).result? task = some none) :
    (panel.run actions).counter Metrics.cancelled =
      panel.counter Metrics.cancelled + {task | panel.IsInFlight task}.ncard := by
  refine counter_run_eq_add_ncard metered ?_ fun task hpresent => ⟨fun hflight => ?_, ?_⟩
  · exact fun task hflight => lt_length_of_result? (ended task hflight)
  · exact (hflight.credit_eq metered aftermath).2 (ended task hflight)
  · intro hlanded
    rw [length_tasks_run aftermath] at hpresent
    obtain ⟨status, hended⟩ := (used.inFlight_or_ended hpresent).resolve_left hlanded
    exact credit_eq_zero_of_ended metered hended actions

end IsInUse

/-! ## Two ends, one effect -/

/-- No task has found a status that it has yet to write or to record. -/
def IsCalm (panel : Panel) : Prop :=
  ∀ task status, panel.phase? task ≠ some (.resolved status) ∧
    panel.phase? task ≠ some (.applied status)

/-- In a panel in use no task has found a status that it has yet to write or to record. -/
theorem IsInUse.isCalm (used : panel.IsInUse) : panel.IsCalm := by
  intro task status
  constructor
  all_goals
    intro hphase
    cases used.resting task _ hphase

/-- Without responses no status is found. -/
theorem Transition.isCalm (h : Transition panel action later) (aftermath : action.IsAftermath)
    (calm : panel.IsCalm) : later.IsCalm := by
  intro task status
  have hbefore := calm task
  have hchange := h.taskChange task
  simp only [phase?] at hbefore ⊢
  generalize later.tasks[task]? = entry at hchange
  cases hchange with
  | same => exact hbefore status
  | new => simp
  | moved hold move =>
    rw [hold] at hbefore
    cases move with
    | resolve => exact aftermath.elim
    | @write found => exact absurd rfl (hbefore found).1
    | _ => simp

/-- Where no status has been found no time is counted. -/
theorem Transition.times_eq (h : Transition panel action later) (calm : panel.IsCalm) :
    later.metrics.map Metrics.times = panel.metrics.map Metrics.times := by
  cases h with
  | recordCheck applied => exact absurd applied (calm _ _).2
  | recordCancelled => simp [Metrics.recordCancelled, Function.comp_def]
  | readCounter => simp [Metrics.read, Function.comp_def]
  | _ => rfl

/-- After the use of a panel the histogram stays as it was. -/
theorem IsInUse.times_run (used : panel.IsInUse)
    (aftermath : ∀ action ∈ actions, action.IsAftermath) :
    (panel.run actions).metrics.map Metrics.times = panel.metrics.map Metrics.times := by
  have hboth := run_induction_of (motive := fun later => later.IsCalm ∧
    later.metrics.map Metrics.times = panel.metrics.map Metrics.times)
    (fun aftermath h before => ⟨h.isCalm aftermath before.1, (h.times_eq before.1).trans before.2⟩)
    ⟨used.isCalm, rfl⟩ aftermath
  exact hboth.2

/-- Two panels with the same tasks that hold the same and have counted the same. -/
structure Agrees (first second : Panel) : Prop where
  status : first.status = second.status
  checkedAt : first.checkedAt = second.checkedAt
  metrics : first.metrics = second.metrics
  tasks : first.tasks = second.tasks

/-- What ends a panel touches neither its tasks nor what it holds nor what it has counted. -/
theorem Transition.agrees (h : Transition panel action later)
    (ends : action ∈ [.teardown, .drop] ∨ ∃ call, action = .raise call) : later.Agrees panel := by
  cases h with
  | idle | deactivate | returnAtOnce | raise | drop => exact ⟨rfl, rfl, rfl, rfl⟩
  | _ => simp at ends

namespace Agrees

variable {first second third : Panel}

/-- Of two panels that agree either agrees with the other. -/
theorem symm (agrees : first.Agrees second) : second.Agrees first :=
  ⟨agrees.status.symm, agrees.checkedAt.symm, agrees.metrics.symm, agrees.tasks.symm⟩

/-- Panels agree if both agree with one that stands between them. -/
theorem trans (agrees : first.Agrees second) (others : second.Agrees third) :
    first.Agrees third :=
  ⟨agrees.status.trans others.status, agrees.checkedAt.trans others.checkedAt,
    agrees.metrics.trans others.metrics, agrees.tasks.trans others.tasks⟩

/-- Panels that agree have their tasks in the same phases. -/
theorem phase?_eq (agrees : first.Agrees second) (task : Nat) :
    second.phase? task = first.phase? task := by
  rw [phase?, phase?, agrees.tasks]

/-- Panels that agree still do when a task comes into a phase in both. -/
theorem setPhase (agrees : first.Agrees second) (task : Nat) (phase : Phase) :
    (first.setPhase task phase).Agrees (second.setPhase task phase) :=
  ⟨agrees.status, agrees.checkedAt, agrees.metrics, by simp [Panel.setPhase, agrees.tasks]⟩

/-- Panels that agree still do after both are ended in one way. -/
theorem step_of_ends (agrees : first.Agrees second)
    (ends : action ∈ [.teardown, .drop] ∨ ∃ call, action = .raise call) :
    (first.step action).Agrees (second.step action) :=
  ((transition_step first action).agrees ends).trans
    (agrees.trans ((transition_step second action).agrees ends).symm)

end Agrees

/-- A task that waits for its response gives up when it looks, once the panel is called off. -/
theorem IsCalledOff.step_look (off : panel.IsCalledOff)
    (probing : panel.phase? task = some (.probing seen)) :
    panel.step (.look task) = panel.setPhase task .interrupted := by
  have hlook : panel.signal.look seen = (true, (panel.signal.look seen).2) :=
    Prod.ext (off.unaware.stops off.raised (.inr probing)) rfl
  simp only [step, probing]
  rw [hlook]

/-- A panel that is called off and for which no status has been found. -/
structure IsClosing (panel : Panel) : Prop where
  off : panel.IsCalledOff
  calm : panel.IsCalm

/-- A panel that is closing stays so after its end. -/
theorem Transition.isClosing (h : Transition panel action later) (aftermath : action.IsAftermath)
    (closing : panel.IsClosing) : later.IsClosing :=
  ⟨h.isCalledOff aftermath closing.off, h.isCalm aftermath closing.calm⟩

/-- To the tasks of two panels that are called off it makes no difference which is theirs. -/
theorem Agrees.step {first second : Panel} (agrees : first.Agrees second)
    (closing : first.IsClosing) (other : second.IsClosing) (aftermath : action.IsAftermath) :
    (first.step action).Agrees (second.step action) := by
  have hphase := agrees.phase?_eq
  cases action with
  | activate | resolve => exact aftermath.elim
  | teardown | drop => exact agrees.step_of_ends (.inl (by simp))
  | raise call => exact agrees.step_of_ends (.inr ⟨call, rfl⟩)
  | readCounter outcome =>
    exact ⟨agrees.status, agrees.checkedAt, by simp [Panel.step, agrees.metrics], agrees.tasks⟩
  | start task =>
    simp only [Panel.step, hphase task]
    split
    case h_1 seen spawned =>
      simp only [startTask, closing.off.raised, other.off.raised, if_true]
      exact agrees.setPhase task .interrupted
    case h_2 => exact agrees
  | look task =>
    by_cases hprobing : ∃ seen, first.phase? task = some (.probing seen)
    · obtain ⟨seen, hfirst⟩ := hprobing
      rw [closing.off.step_look hfirst, other.off.step_look ((hphase task).trans hfirst)]
      exact agrees.setPhase task .interrupted
    · simp only [Panel.step, hphase task]
      split
      case h_1 seen probing => exact absurd ⟨seen, probing⟩ hprobing
      case h_2 => exact agrees
  | apply task now =>
    simp only [Panel.step, hphase task]
    split
    case h_1 status resolved => exact absurd resolved (closing.calm task status).1
    case h_2 => exact agrees
  | record task elapsed =>
    simp only [Panel.step, hphase task]
    split
    case h_1 status applied => exact absurd applied (closing.calm task status).2
    case h_2 =>
      exact { agrees.setPhase task (.ended none) with metrics := by simp [agrees.metrics] }
    case h_3 => exact agrees

/-- Two panels that are closing and agree still do after they have gone on in the same way. -/
theorem Agrees.run {first second : Panel} (agrees : first.Agrees second)
    (closing : first.IsClosing) (other : second.IsClosing)
    (aftermath : ∀ action ∈ actions, action.IsAftermath) :
    (first.run actions).Agrees (second.run actions) := by
  induction actions generalizing first second with
  | nil => exact agrees
  | cons action actions ih =>
    rw [List.forall_mem_cons] at aftermath
    exact ih (agrees.step closing other aftermath.1)
      ((transition_step first action).isClosing aftermath.1 closing)
      ((transition_step second action).isClosing aftermath.1 other) aftermath.2

/-- A panel in use is closing when it has been ended. -/
theorem IsInUse.isClosing_of_ends (used : panel.IsInUse) (ends : Ends ending) :
    (panel.run ending).IsClosing :=
  ⟨used.isCalledOff_of_ends ends, run_induction_of (fun aftermath h => h.isCalm aftermath)
    used.isCalm ends.isAftermath⟩

/-- A drop and a teardown that nothing comes in between have the same effect on a panel in use. -/
theorem IsInUse.agrees_drop_teardown (used : panel.IsInUse)
    (aftermath : ∀ action ∈ actions, action.IsAftermath) :
    (panel.run (.drop :: actions)).Agrees (panel.run (.teardown :: .raise 0 :: actions)) := by
  have hdrop : (panel.step .drop).Agrees panel :=
    (transition_step panel .drop).agrees (.inl (by simp))
  have hteardown : (panel.step .teardown).Agrees panel :=
    (transition_step panel .teardown).agrees (.inl (by simp))
  have hraise : ((panel.step .teardown).step (.raise 0)).Agrees (panel.step .teardown) :=
    (transition_step _ (.raise 0)).agrees (.inr ⟨0, rfl⟩)
  have hboth := hdrop.trans (hraise.trans hteardown).symm
  have hdropped : (panel.step .drop).IsClosing := used.isClosing_of_ends .drop
  have htorn : ((panel.step .teardown).step (.raise 0)).IsClosing :=
    used.isClosing_of_ends (.teardown (List.forall_mem_nil _))
  exact hboth.run hdropped htorn aftermath

/-! ## The theorem -/

/-- To drop a panel is to tear it down. However a panel has been used, with any number of tasks in
flight, and whichever way its use ends: no request is sent afterwards. As long as no responses
come, the tasks in flight have no result but nothing, the counters of all other keys and the
histogram stay as they were, and once the tasks in flight have taken their turns all of them have
ended with nothing, and the counter of checks that were given up has grown by their number. A
drop and a teardown lead to the same tasks, the same metrics and the same status. -/
theorem drop_tears_down (metrics : Option Metrics) (uses : List Use) :
    let panel := (initial metrics).run (uses.flatMap Use.actions)
    (∀ ending, Ends ending →
      (∀ task later, ¬(panel.run ending).Occurs (Asks task) later) ∧
      ∀ later, (∀ action ∈ later, action.IsAftermath) →
        let ended := panel.run (ending ++ later)
        (∀ task result, panel.IsInFlight task → ended.result? task = some result →
          result = none) ∧
        ((initial metrics).IsMetered →
          ∀ outcome, Metrics.key outcome ≠ Metrics.key Metrics.cancelled →
            ended.counter outcome = panel.counter outcome) ∧
        ended.metrics.map Metrics.times = panel.metrics.map Metrics.times ∧
        ((∀ task, panel.IsInFlight task →
            ∃ elapsed, (interrupt task elapsed).Sublist later) →
          (∀ task, panel.IsInFlight task → ended.result? task = some none) ∧
          ((initial metrics).IsMetered →
            ended.counter Metrics.cancelled =
              panel.counter Metrics.cancelled + {task | panel.IsInFlight task}.ncard))) ∧
    ∀ later, (∀ action ∈ later, action.IsAftermath) →
      (panel.run (.drop :: later)).Agrees (panel.run (.teardown :: .raise 0 :: later)) := by
  intro panel
  have hused : panel.IsInUse := isInUse_run metrics uses
  refine ⟨fun ending ends => ⟨fun task later => ?_, fun later aftermath => ?_⟩, ?_⟩
  · exact not_occurs_asks (hused.isRaised_of_ends ends) later
  · intro ended
    have hall : ∀ action ∈ ending ++ later, action.IsAftermath :=
      List.forall_mem_append.mpr ⟨ends.isAftermath, aftermath⟩
    have hmetered (metered : (initial metrics).IsMetered) : panel.IsMetered :=
      run_induction Transition.isMetered metered _
    refine ⟨fun task result hflight hresult => ?_, fun metered outcome hother => ?_,
      hused.times_run hall, fun turns => ?_⟩
    · exact (hflight.runsInVain.run hall).eq_none hresult
    · exact hused.counter_run_of_ne (hmetered metered) hall hother
    · have hended : ∀ task, panel.IsInFlight task → ended.result? task = some none := by
        intro task hflight
        obtain ⟨elapsed, hturns⟩ := turns task hflight
        have hstranded : IsStranded task (panel.run ending) :=
          ⟨hused.isCalledOff_of_ends ends, hflight.runsInVain.run ends.isAftermath⟩
        have hresult := hstranded.result?_of_interrupt aftermath hturns
        rwa [← run_append] at hresult
      exact ⟨hended, fun metered => hused.counter_cancelled_run (hmetered metered) hall hended⟩
  · exact fun later aftermath => hused.agrees_drop_teardown aftermath

/-- One task has ended, one waits for its response, and one has not run yet. -/
def overlappingUses : List Use :=
  [.activate, .proceed 0, .activate, .proceed 1, .release 0 .error ⟨0, 0⟩ (.ofSeconds 0), .activate]

/-- Both tasks in flight end with nothing and are counted, after a drop as after a teardown,
even one that comes only after the last task has sent its request. -/
theorem drop_tears_down_overlapping :
    let panel := (initial (some .empty)).run (overlappingUses.flatMap Use.actions)
    let later := interrupt 2 (.ofSeconds 0) ++ interrupt 1 (.ofSeconds 0)
    (initial (some .empty)).IsMetered ∧ {task | panel.IsInFlight task} = {1, 2} ∧
      (∀ action ∈ later, action.IsAftermath) ∧
      (∀ ending ∈ [[.drop], [.teardown, .raise 0], [.teardown, .start 2, .raise 0]],
        Ends ending ∧ ¬(panel.run ending).Occurs (Asks 2) later ∧
        (∀ task, panel.IsInFlight task →
          (panel.run (ending ++ later)).result? task = some none) ∧
        (panel.run (ending ++ later)).counter "error" = 1 ∧
        (panel.run (ending ++ later)).counter Metrics.cancelled = 2) ∧
      (panel.run (.drop :: later)).Agrees (panel.run (.teardown :: .raise 0 :: later)) := by
  intro panel later
  have htasks : panel.tasks =
      [⟨.ended (some .error), true⟩, ⟨.probing 0, true⟩, ⟨.spawned 0, false⟩] := rfl
  have hflight : {task | panel.IsInFlight task} = {1, 2} := by
    ext task
    rcases task with _ | _ | _ | task <;> simp [IsInFlight, Listens, phase?, htasks]
  have haftermath : ∀ action ∈ later, action.IsAftermath := by
    simp [later, interrupt, Action.IsAftermath]
  have hturns : ∀ task, panel.IsInFlight task →
      ∃ elapsed, (interrupt task elapsed).Sublist later := by
    intro task htask
    have hmem : task ∈ ({1, 2} : Set Nat) := hflight ▸ htask
    rcases hmem with rfl | rfl
    · exact ⟨_, List.sublist_append_right _ _⟩
    · exact ⟨_, List.sublist_append_left _ _⟩
  have hends : ∀ ending ∈ [[.drop], [.teardown, .raise 0], [.teardown, .start 2, .raise 0]],
      Ends ending := by
    intro ending hending
    simp only [List.mem_cons, List.not_mem_nil, or_false] at hending
    rcases hending with rfl | rfl | rfl
    · exact .drop
    · exact Ends.teardown (List.forall_mem_nil _)
    · have hstart : ∀ action ∈ [Action.start 2], action.IsAftermath := by
        simp [Action.IsAftermath]
      exact Ends.teardown hstart
  obtain ⟨heach, hsame⟩ := drop_tears_down (some .empty) overlappingUses
  refine ⟨isMetered_initial, hflight, haftermath, fun ending hending => ?_,
    hsame later haftermath⟩
  have ends := hends ending hending
  obtain ⟨hquiet, hlater⟩ := heach ending ends
  obtain ⟨-, hothers, -, hall⟩ := hlater later haftermath
  obtain ⟨hnothing, hcancelled⟩ := hall hturns
  have herror := hothers isMetered_initial "error" (by decide +kernel)
  have hcount := hcancelled isMetered_initial
  rw [hflight, Set.ncard_pair (by decide)] at hcount
  exact ⟨ends, hquiet 2 later, hnothing, herror, hcount⟩

end HealthPanel.Panel
