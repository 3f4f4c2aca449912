import HealthPanel.Proofs.Panel.Teardown
import HealthPanel.Proofs.Panel.Use
import HealthPanel.Proofs.SingleRequest

/-!
# The end of a panel

However a panel in use ends, its signal is raised then, and no task in flight has seen that yet.
From then on a task that has not run sends no request, and a task that waits for its response
gives up when it next looks. So a task in flight ends with nothing, unless its response comes
before it looks.
-/

namespace HealthPanel

/-- What may still happen after the end of a panel: anything but activations and responses. -/
def Action.IsAftermath : Action → Prop
  | activate | resolve _ _ => False
  | start _ | look _ | apply _ _ | record _ _ | teardown | raise _ | drop | readCounter _ => True

namespace Panel

variable {panel later : Panel} {action : Action} {actions ending : List Action} {task seen : Nat}

/-- How the use of a panel ends: it is dropped, or torn down by a call while the tasks go on. -/
inductive Ends : List Action → Prop
  | drop : Ends [.drop]
  | teardown {between : List Action} (aftermath : ∀ action ∈ between, action.IsAftermath) :
      Ends (.teardown :: (between ++ [.raise 0]))

/-- What ends a panel neither activates it nor brings a response. -/
theorem Ends.isAftermath (ends : Ends ending) : ∀ action ∈ ending, action.IsAftermath := by
  intro action haction
  cases ends with
  | drop =>
    obtain rfl := List.mem_singleton.mp haction
    trivial
  | teardown aftermath =>
    simp only [List.mem_cons, List.mem_append, List.not_mem_nil, or_false] at haction
    rcases haction with rfl | hbetween | rfl
    · trivial
    · exact aftermath action hbetween
    · trivial

/-! ## What listeners have seen -/

/-- No listener has seen the signal raised: it has seen no version that is still to come, and an
earlier one than the latest if the signal is raised. -/
structure IsUnaware (panel : Panel) : Prop where
  seen_le : ∀ task seen, panel.Listens task seen → seen ≤ panel.signal.version
  seen_lt : panel.signal.isRaised = true →
    ∀ task seen, panel.Listens task seen → seen < panel.signal.version

/-- Whoever listens after a step has listened before, unless it has just looked and goes on. -/
theorem Transition.listens (h : Transition panel action later) (aftermath : action.IsAftermath)
    (listens : later.Listens task seen) :
    panel.Listens task seen ∨ seen = panel.signal.version ∧
      ∃ earlier, panel.Listens task earlier ∧ (panel.signal.look earlier).1 = false := by
  have hchange := h.taskChange task
  simp only [Listens, phase?] at listens ⊢
  generalize later.tasks[task]? = entry at hchange listens
  cases hchange with
  | same => exact .inl listens
  | new _ activates =>
    subst activates
    exact aftermath.elim
  | moved hold move =>
    rw [hold]
    cases move with
    | ask =>
      obtain rfl : _ = seen := by simpa using listens
      exact .inl (.inl rfl)
    | @wait earlier _ goesOn =>
      have hlatest : (panel.signal.look earlier).2 = seen := by simpa using listens
      refine .inr ⟨hlatest.symm.trans ?_, _, .inr rfl, goesOn⟩
      simp only [Signal.look]
      split <;> rfl
    | _ => simp at listens

/-- A step leaves the signal as it is, or makes a new version of it. -/
theorem Transition.signal_eq_or (h : Transition panel action later) :
    later.signal = panel.signal ∨ later.signal.version = panel.signal.version + 1 := by
  cases h with
  | raise | drop =>
    by_cases hopen : panel.signal.isOpen <;> simp [raiseSignal, Signal.after, hopen]
  | _ => exact .inl rfl

/-- A listener that has not seen the raised signal stops when it looks. -/
theorem IsUnaware.stops (unaware : panel.IsUnaware) (raised : panel.signal.isRaised = true)
    (listens : panel.Listens task seen) : (panel.signal.look seen).1 = true := by
  have hlt := unaware.seen_lt raised task seen listens
  simp [Signal.look, raised, hlt.ne']

/-- Nobody hears of the signal and goes on to listen. -/
theorem Transition.isUnaware (h : Transition panel action later) (aftermath : action.IsAftermath)
    (unaware : panel.IsUnaware) : later.IsUnaware := by
  have hle : ∀ task seen, later.Listens task seen → seen ≤ panel.signal.version := by
    intro task seen hlistens
    rcases h.listens aftermath hlistens with hbefore | ⟨hlatest, -⟩
    · exact unaware.seen_le task seen hbefore
    · exact Nat.le_of_eq hlatest
  rcases h.signal_eq_or with hsame | hnew
  · refine ⟨fun task seen hlistens => hsame ▸ hle task seen hlistens, ?_⟩
    rw [hsame]
    intro raised task seen hlistens
    rcases h.listens aftermath hlistens with hbefore | ⟨-, earlier, hearlier, goesOn⟩
    · exact unaware.seen_lt raised task seen hbefore
    · rw [unaware.stops raised hearlier] at goesOn
      contradiction
  · refine ⟨fun task seen hlistens => ?_, fun _ task seen hlistens => ?_⟩
    · have hseen := hle task seen hlistens
      omega
    · have hseen := hle task seen hlistens
      omega

/-- In a panel in use no listener has seen the signal raised. -/
theorem IsInUse.isUnaware (used : panel.IsInUse) : panel.IsUnaware where
  seen_le task seen hlistens := by
    rcases hlistens with hphase | hphase
    all_goals
      cases used.resting task _ hphase
      exact Nat.zero_le _
  seen_lt raised := absurd raised (by simp [used.quiet])

/-! ## The signal is raised -/

/-- In a panel in use flag and signal hang together, and nothing has been torn down. -/
theorem IsInUse.isCoherent (used : panel.IsInUse) : panel.IsCoherent where
  inactive_of_called h := absurd used.teardowns h
  raised_or_raising h := by simp [used.isActive] at h
  isOpen_eq := by rw [used.signal, used.isDropped]; rfl
  settled_of_dropped h := by simp [used.isDropped] at h

/-- While a call of a teardown is under way somebody may raise the signal. -/
theorem IsCoherent.isOpen_of_raising (coherent : panel.IsCoherent)
    (raising : .raising ∈ panel.teardowns) : panel.signal.isOpen = true := by
  have hpresent : panel.isDropped = false := by
    rw [← Bool.not_eq_true]
    exact fun hdropped => coherent.settled_of_dropped hdropped raising
  rw [coherent.isOpen_eq, hpresent]
  rfl

/-- The first call of a teardown has yet to raise the signal, unless that is raised. -/
def IsEnding (panel : Panel) : Prop :=
  panel.IsCoherent ∧ (panel.teardowns[0]? = some .raising ∨ panel.signal.isRaised = true)

/-- A teardown that is under way stays so until the signal is raised. -/
theorem Transition.isEnding (h : Transition panel action later) (ending : panel.IsEnding) :
    later.IsEnding := by
  obtain ⟨coherent, raising | raised⟩ := ending
  · refine ⟨h.isCoherent coherent, ?_⟩
    have hmem := List.mem_of_getElem? raising
    cases h with
    | deactivate | returnAtOnce =>
      have hlength := (List.getElem?_eq_some_iff.mp raising).1
      exact .inl (by rw [List.getElem?_append_left hlength, raising])
    | raise => exact .inr (isRaised_raiseSignal (coherent.isOpen_of_raising hmem))
    | drop _ settled => exact absurd hmem settled
    | _ => exact .inl raising
  · exact ⟨h.isCoherent coherent, .inr (h.isRaised raised)⟩

/-- Once a panel in use has ended, its signal is raised. -/
theorem IsInUse.isRaised_of_ends (used : panel.IsInUse) (ends : Ends ending) :
    (panel.run ending).signal.isRaised = true := by
  cases ends with
  | drop =>
    simp [run, step, used.isDropped, used.teardowns, used.signal, raiseSignal, Signal.after,
      Signal.initial]
  | @teardown between aftermath =>
    have hcalled : (panel.step .teardown).teardowns[0]? = some .raising := by
      simp [step, beginTeardown, used.isDropped, used.isActive, used.teardowns]
    have hcoherent := (transition_step panel .teardown).isCoherent used.isCoherent
    have hending := run_induction Transition.isEnding ⟨hcoherent, .inl hcalled⟩ between
    have hrun : panel.run (.teardown :: (between ++ [.raise 0])) =
        ((panel.step .teardown).run between).step (.raise 0) :=
      run_concat (panel.step .teardown) between (.raise 0)
    rw [hrun]
    generalize (panel.step .teardown).run between = ending at hending
    obtain ⟨coherent, raising | raised⟩ := hending
    · have hopen := coherent.isOpen_of_raising (List.mem_of_getElem? raising)
      simpa [step, raising] using isRaised_raiseSignal hopen
    · exact (transition_step ending (.raise 0)).isRaised raised

/-- Under a raised signal nobody sends a request. -/
theorem not_occurs_asks (raised : panel.signal.isRaised = true) (actions : List Action) :
    ¬panel.Occurs (Asks task) actions := by
  rintro ⟨before, action, after, -, -, -, quiet⟩
  rw [run_induction (motive := fun later => later.signal.isRaised = true) Transition.isRaised raised
    before] at quiet
  contradiction

/-- The signal is raised, and no listener has seen that. -/
structure IsCalledOff (panel : Panel) : Prop where
  raised : panel.signal.isRaised = true
  unaware : panel.IsUnaware

/-- A panel that is called off stays so after its end. -/
theorem Transition.isCalledOff (h : Transition panel action later)
    (aftermath : action.IsAftermath) (off : panel.IsCalledOff) : later.IsCalledOff :=
  ⟨h.isRaised off.raised, h.isUnaware aftermath off.unaware⟩

/-- A panel in use is called off when it has been ended. -/
theorem IsInUse.isCalledOff_of_ends (used : panel.IsInUse) (ends : Ends ending) :
    (panel.run ending).IsCalledOff :=
  ⟨used.isRaised_of_ends ends, run_induction_of (fun aftermath h => h.isUnaware aftermath)
    used.isUnaware ends.isAftermath⟩

/-! ## Tasks in flight end with nothing -/

/-- The phases of a task that ends with nothing unless its response comes. -/
inductive IsVain : Phase → Prop
  | spawned (seen : Nat) : IsVain (.spawned seen)
  | probing (seen : Nat) : IsVain (.probing seen)
  | interrupted : IsVain .interrupted
  | ended : IsVain (.ended none)

/-- A task that ends with nothing unless its response comes. -/
def RunsInVain (task : Nat) (panel : Panel) : Prop :=
  ∃ phase, panel.phase? task = some phase ∧ IsVain phase

/-- A task in flight ends with nothing unless its response comes. -/
theorem IsInFlight.runsInVain (inFlight : panel.IsInFlight task) : RunsInVain task panel := by
  obtain ⟨seen, hspawned | hprobing⟩ := inFlight
  · exact ⟨_, hspawned, .spawned seen⟩
  · exact ⟨_, hprobing, .probing seen⟩

/-- Without a response a task goes on to run in vain. -/
theorem Transition.runsInVain (h : Transition panel action later)
    (aftermath : action.IsAftermath) (vain : RunsInVain task panel) : RunsInVain task later := by
  refine h.keeps_phase (fun move hold => ?_) vain
  cases move with
  | refuse | giveUp => exact .interrupted
  | ask | wait => exact .probing _
  | recordCancelled => exact .ended
  | resolve => exact aftermath.elim
  | write | discard | recordCheck => cases hold

/-- After the end of a panel a task that runs in vain goes on to do so. -/
theorem RunsInVain.run (vain : RunsInVain task panel)
    (aftermath : ∀ action ∈ actions, action.IsAftermath) : RunsInVain task (panel.run actions) :=
  run_induction_of (fun aftermath h => h.runsInVain aftermath) vain aftermath

/-- A task that runs in vain has no result but nothing. -/
theorem RunsInVain.eq_none (vain : RunsInVain task panel) {result : Option Status}
    (ended : panel.result? task = some result) : result = none := by
  obtain ⟨phase, hphase, hvain⟩ := vain
  rw [result?_eq_some_iff, hphase] at ended
  obtain rfl := Option.some.inj ended
  cases hvain
  rfl

/-- A run that keeps `before` until one of its actions, and `after` from then on, reaches `after`
if that action does. -/
theorem run_reaches (before after : Panel → Prop)
    (keepBefore : ∀ {panel action later}, action.IsAftermath → Transition panel action later →
      before panel → before later)
    (keepAfter : ∀ {panel action later}, action.IsAftermath → Transition panel action later →
      after panel → after later)
    (reach : ∀ {panel}, before panel → after (panel.step action)) (start : before panel)
    (aftermath : ∀ action ∈ actions, action.IsAftermath) (mem : action ∈ actions) :
    after (panel.run actions) := by
  obtain ⟨earlier, rest, rfl⟩ := List.append_of_mem mem
  rw [List.forall_mem_append, List.forall_mem_cons] at aftermath
  obtain ⟨hearlier, -, hrest⟩ := aftermath
  rw [run_append]
  exact run_induction_of keepAfter (reach (run_induction_of keepBefore start hearlier)) hrest

/-- A task that has not learned yet that its panel is called off. -/
structure IsStranded (task : Nat) (panel : Panel) : Prop where
  off : panel.IsCalledOff
  vain : RunsInVain task panel

/-- After the end of a panel a stranded task stays so. -/
theorem Transition.isStranded (h : Transition panel action later)
    (aftermath : action.IsAftermath) (stranded : IsStranded task panel) : IsStranded task later :=
  ⟨h.isCalledOff aftermath stranded.off, h.runsInVain aftermath stranded.vain⟩

/-- A stranded task that has run, and so waits for its response unless it has given up. -/
structure IsWaiting (task : Nat) (panel : Panel) : Prop where
  stranded : IsStranded task panel
  ran : panel.HasRun task

/-- After the end of a panel a stranded task that has run stays so. -/
theorem Transition.isWaiting (h : Transition panel action later)
    (aftermath : action.IsAftermath) (waiting : IsWaiting task panel) : IsWaiting task later :=
  ⟨h.isStranded aftermath waiting.stranded, h.hasRun waiting.ran⟩

/-- A stranded task that runs for the first time sends no request. -/
theorem IsStranded.start (stranded : IsStranded task panel) :
    IsWaiting task (panel.step (.start task)) := by
  have hstep := transition_step panel (.start task)
  refine ⟨hstep.isStranded trivial stranded, ?_⟩
  obtain ⟨phase, hphase, -⟩ := stranded.vain
  by_cases hspawned : ∃ seen, phase = .spawned seen
  · obtain ⟨seen, rfl⟩ := hspawned
    obtain ⟨asked, hentry⟩ := phase?_eq_some_iff.mp hphase
    have hmoved := (TaskMove.refuse stranded.off.raised).getElem?_step hentry
    exact ⟨.interrupted, phase?_eq_some_iff.mpr ⟨asked, hmoved⟩, by simp⟩
  · exact hstep.hasRun ⟨phase, hphase, not_exists.mp hspawned⟩

/-- A task that waits for its response gives up when it looks. -/
theorem IsWaiting.look (waiting : IsWaiting task panel) :
    (panel.step (.look task)).HasGivenUp task := by
  obtain ⟨⟨off, phase, hphase, hvain⟩, same, hsame, hran⟩ := waiting
  obtain rfl := Option.some.inj (hphase.symm.trans hsame)
  cases hvain with
  | spawned seen => exact absurd rfl (hran seen)
  | probing seen =>
    obtain ⟨asked, hentry⟩ := phase?_eq_some_iff.mp hphase
    have hstops := off.unaware.stops off.raised (.inr hphase)
    have hmoved := (TaskMove.giveUp hstops).getElem?_step hentry
    exact .inl (phase?_eq_some_iff.mpr ⟨asked, hmoved⟩)
  | interrupted => exact (transition_step panel _).hasGivenUp (.inl hphase)
  | ended => exact (transition_step panel _).hasGivenUp (.inr hphase)

/-- A stranded task ends with nothing once it has taken its turns, whatever else happens. -/
theorem IsStranded.result?_of_interrupt (stranded : IsStranded task panel) {elapsed : Span}
    (aftermath : ∀ action ∈ actions, action.IsAftermath)
    (turns : (interrupt task elapsed).Sublist actions) :
    (panel.run actions).result? task = some none := by
  obtain ⟨first, rest, rfl, hstart, hrest⟩ := List.cons_sublist_iff.mp turns
  obtain ⟨second, last, rfl, hlook, hlast⟩ := List.cons_sublist_iff.mp hrest
  rw [List.forall_mem_append, List.forall_mem_append] at aftermath
  obtain ⟨hfirst, hsecond, hthird⟩ := aftermath
  rw [run_append, run_append]
  have hwaiting := run_reaches (IsStranded task) (IsWaiting task)
    (fun aftermath h => h.isStranded aftermath) (fun aftermath h => h.isWaiting aftermath)
    IsStranded.start stranded hfirst hstart
  have hgiven := run_reaches (IsWaiting task) (HasGivenUp task)
    (fun aftermath h => h.isWaiting aftermath) (fun _ h => h.hasGivenUp)
    IsWaiting.look hwaiting hsecond hlook
  exact run_reaches (HasGivenUp task) (fun panel => panel.result? task = some none)
    (fun _ h => h.hasGivenUp) (fun _ h => h.result?_eq)
    (fun given => result?_record given elapsed) hgiven hthird (List.singleton_sublist.mp hlast)

end Panel

end HealthPanel
