import MotionServer.App.Session
import MotionServer.Lib.Runs

/-!
# The detection window of the bus

The monitor counts mismatched cycles in a row. It is not told when the bus is replaced.

* `RuntimeDiagnosticMonitor.updateBus`: the count, and what it leads to;
* **`updateBus_eq`**: the monitor of the session is one with the default threshold;
* `BusLoop`: cycles, failures and recoveries, with a history of what happened;
* `Window`, `sinceGood`: the window of the last cycles, and what is counted;
* **`detectionWindow_iff`**: the runs whose every detection is that of the window.
-/

namespace MotionServer

/-! ## The monitor -/

/-- `RuntimeDiagnosticMonitor`, without the manager and the session that it acts on. -/
structure RuntimeDiagnosticMonitor where
  busWkcMismatchDetectionCycles : ℕ
  busWkcMismatchCycles : ℕ
  one_le : 1 ≤ busWkcMismatchDetectionCycles

/-- What `_update_bus` does after it has counted. -/
inductive BusVerdict
  | resolved
  | counting
  | detected
  | transportLost
  deriving DecidableEq

namespace RuntimeDiagnosticMonitor

/-- The constructor. -/
def new (threshold : ℤ) : Except PyExc RuntimeDiagnosticMonitor :=
  if h : threshold < 1 then .error .valueError else .ok ⟨threshold.toNat, 0, by omega⟩

/-- `_update_bus`. -/
def updateBus (monitor : RuntimeDiagnosticMonitor) (expectedWkc actualWkc : ℤ)
    (transportAvailable : Bool) : BusVerdict × RuntimeDiagnosticMonitor :=
  if 0 < expectedWkc ∧ actualWkc ≠ expectedWkc then
    let monitor := { monitor with busWkcMismatchCycles := monitor.busWkcMismatchCycles + 1 }
    if monitor.busWkcMismatchDetectionCycles ≤ monitor.busWkcMismatchCycles then
      (if transportAvailable then .detected else .transportLost, monitor)
    else (.counting, monitor)
  else (.resolved, { monitor with busWkcMismatchCycles := 0 })

end RuntimeDiagnosticMonitor

/-- The fault is raised, or the transport is reported as lost. -/
def BusVerdict.Alarm (verdict : BusVerdict) : Prop := verdict = .detected ∨ verdict = .transportLost

instance : DecidablePred BusVerdict.Alarm := fun _ => inferInstanceAs (Decidable (_ ∨ _))

namespace RuntimeDiagnosticMonitor

variable (monitor : RuntimeDiagnosticMonitor) {expectedWkc actualWkc : ℤ}

theorem updateBus_reached (hmismatch : 0 < expectedWkc ∧ actualWkc ≠ expectedWkc)
    (hcount : monitor.busWkcMismatchDetectionCycles ≤ monitor.busWkcMismatchCycles + 1)
    (transportAvailable : Bool) :
    monitor.updateBus expectedWkc actualWkc transportAvailable =
      (if transportAvailable then .detected else .transportLost,
        { monitor with busWkcMismatchCycles := monitor.busWkcMismatchCycles + 1 }) :=
  (if_pos hmismatch).trans (if_pos hcount)

theorem updateBus_below (hmismatch : 0 < expectedWkc ∧ actualWkc ≠ expectedWkc)
    (hcount : ¬ monitor.busWkcMismatchDetectionCycles ≤ monitor.busWkcMismatchCycles + 1)
    (transportAvailable : Bool) :
    monitor.updateBus expectedWkc actualWkc transportAvailable =
      (.counting, { monitor with busWkcMismatchCycles := monitor.busWkcMismatchCycles + 1 }) :=
  (if_pos hmismatch).trans (if_neg hcount)

theorem updateBus_mismatch (hmismatch : 0 < expectedWkc ∧ actualWkc ≠ expectedWkc)
    (transportAvailable : Bool) :
    (monitor.updateBus expectedWkc actualWkc transportAvailable).2 =
        { monitor with busWkcMismatchCycles := monitor.busWkcMismatchCycles + 1 } ∧
      ((monitor.updateBus expectedWkc actualWkc transportAvailable).1.Alarm ↔
        monitor.busWkcMismatchDetectionCycles ≤ monitor.busWkcMismatchCycles + 1) := by
  by_cases hcount : monitor.busWkcMismatchDetectionCycles ≤ monitor.busWkcMismatchCycles + 1
  · rw [monitor.updateBus_reached hmismatch hcount]
    refine ⟨rfl, iff_of_true ?_ hcount⟩
    cases transportAvailable
    · exact .inr rfl
    · exact .inl rfl
  · rw [monitor.updateBus_below hmismatch hcount]
    exact ⟨rfl, iff_of_false (show ¬ BusVerdict.counting.Alarm by decide) hcount⟩

theorem updateBus_good (hgood : ¬ (0 < expectedWkc ∧ actualWkc ≠ expectedWkc))
    (transportAvailable : Bool) :
    monitor.updateBus expectedWkc actualWkc transportAvailable =
      (.resolved, { monitor with busWkcMismatchCycles := 0 }) :=
  if_neg hgood

end RuntimeDiagnosticMonitor

/-! ## The monitor of the session -/

section Session

variable {T : Type} [LT T] [DecidableLT T] (stamps : ℕ → Stamp T)

/-- The monitor that a session keeps, with `BUS_WKC_MISMATCH_DETECTION_CYCLES`. -/
def ServerSession.monitor (s : ServerSession T) : RuntimeDiagnosticMonitor :=
  ⟨3, s.busWkcMismatchCycles, by decide⟩

/-- The calls that a verdict leads to. -/
def BusVerdict.act : BusVerdict → Session T Unit
  | resolved => ServerSession.resolveIfActive stamps busProcessDataIncomplete busSource
  | counting => pure ()
  | detected => do
    ServerSession.detect stamps busProcessDataIncomplete busSource none
    ServerSession.setRuntimeState .fault
  | transportLost => throw (communicationException "bus_transport_state")

/-- **The session counts as the monitor does, and acts on its verdict.** -/
theorem updateBus_eq (expectedWkc actualWkc : ℤ) (transportAvailable : Bool) (s : ServerSession T) :
    ServerSession.updateBus stamps expectedWkc actualWkc transportAvailable s =
      BusVerdict.act stamps (s.monitor.updateBus expectedWkc actualWkc transportAvailable).1
        { s with
          busWkcMismatchCycles :=
            (s.monitor.updateBus expectedWkc actualWkc
              transportAvailable).2.busWkcMismatchCycles } := by
  unfold ServerSession.updateBus
  by_cases hmismatch : 0 < expectedWkc ∧ actualWkc ≠ expectedWkc
  · rw [if_pos hmismatch, Prog.bind_run_ok (Prog.modify_run _ _), Prog.bind_run_ok (Prog.get_run _)]
    by_cases hcount : 3 ≤ s.busWkcMismatchCycles + 1
    · rw [Prog.onlyIf_run hcount, s.monitor.updateBus_reached hmismatch hcount]
      cases transportAvailable
      · exact Prog.bind_run_error (Prog.raiseIf_run _ _ _)
      · exact Prog.bind_run_ok (Prog.raiseIf_run _ _ _)
    · rw [Prog.onlyIf_run_of_not hcount, s.monitor.updateBus_below hmismatch hcount]
      rfl
  · rw [if_neg hmismatch, s.monitor.updateBus_good hmismatch]
    rfl

end Session

/-! ## The loop -/

/-- What the last cycles and recoveries were. -/
inductive BusEntry
  | good
  | mismatch
  | reconnect
  deriving DecidableEq

/-- What a cycle that the monitor sees was. -/
def BusEntry.cycle (expectedWkc actualWkc : ℤ) : BusEntry :=
  if 0 < expectedWkc ∧ actualWkc ≠ expectedWkc then .mismatch else .good

/-- `run_server_loop`, as far as its monitor sees it. The history is kept beside it, the newest
entry first. -/
structure BusLoop where
  monitor : RuntimeDiagnosticMonitor
  /-- Whether the server is in `run_bus_disconnected_loop`. -/
  disconnected : Bool
  history : List BusEntry

/-- What happens to the loop: a communication exception that ends a cycle before the monitor, a
cycle that the monitor sees, or a recovery that replaces the bus. -/
inductive BusEvent
  | failed
  | exchanged (expectedWkc actualWkc : ℤ) (transportAvailable : Bool)
  | reconnected

namespace BusLoop

/-- The loop with a new monitor. -/
def init (monitor : RuntimeDiagnosticMonitor) : BusLoop := ⟨monitor, false, []⟩

/-- What the monitor says in an event, if it is asked. -/
def verdict (loop : BusLoop) : BusEvent → Option BusVerdict
  | .exchanged expectedWkc actualWkc transportAvailable =>
    if loop.disconnected then none
    else some (loop.monitor.updateBus expectedWkc actualWkc transportAvailable).1
  | _ => none

/-- One event. There are no cycles while the server waits for the bus, and no recovery otherwise. -/
def step (loop : BusLoop) : BusEvent → BusLoop
  | .failed => { loop with disconnected := true }
  | .exchanged expectedWkc actualWkc transportAvailable =>
    if loop.disconnected then loop
    else
      let result := loop.monitor.updateBus expectedWkc actualWkc transportAvailable
      { monitor := result.2
        disconnected := result.1 = .transportLost
        history := .cycle expectedWkc actualWkc :: loop.history }
  | .reconnected =>
    -- The monitor is the one from before.
    if loop.disconnected then
      { loop with disconnected := false, history := .reconnect :: loop.history }
    else loop

end BusLoop

/-! ## Windows -/

/-- The last `n` entries are mismatched cycles: all of them since the last good cycle and since the
last reconnect. -/
def Window (n : ℕ) (history : List BusEntry) : Prop := List.replicate n .mismatch <+: history

instance (n : ℕ) : DecidablePred (Window n) := fun _ => inferInstanceAs (Decidable (_ <+: _))

/-- The mismatched cycles since the last good one. -/
def sinceGood : List BusEntry → ℕ
  | [] => 0
  | .good :: _ => 0
  | .mismatch :: history => sinceGood history + 1
  | .reconnect :: history => sinceGood history

/-- The mismatched cycles that a list begins with. -/
def inARow : List BusEntry → ℕ
  | .mismatch :: history => inARow history + 1
  | _ => 0

/-- Where a reconnect finds mismatched cycles, fewer follow it in a row than would reach the
threshold together with them. -/
def CarriesNothing (n : ℕ) (history : List BusEntry) : Prop :=
  ∀ later earlier, history = later ++ .reconnect :: earlier →
    sinceGood earlier = 0 ∨ n = 1 ∨ inARow later.reverse < max 1 (n - sinceGood earlier)

theorem window_iff {n : ℕ} {history : List BusEntry} : Window n history ↔ n ≤ inARow history := by
  induction n generalizing history with
  | zero => exact iff_of_true List.nil_prefix (Nat.zero_le _)
  | succ n ih =>
    unfold Window at ih ⊢
    rw [List.replicate_succ]
    rcases history with _ | ⟨entry, history⟩
    · exact iff_of_false (by simp) (by simp [inARow])
    · rw [List.cons_prefix_cons, ih]
      cases entry <;> simp [inARow]

theorem inARow_le_sinceGood (history : List BusEntry) : inARow history ≤ sinceGood history := by
  induction history with
  | nil => exact le_rfl
  | cons entry history ih => cases entry <;> simp [inARow, sinceGood, ih]

/-- What is counted and not in the window lies before a reconnect. -/
theorem exists_reconnect {history : List BusEntry} (hlt : inARow history < sinceGood history) :
    ∃ earlier, history = List.replicate (inARow history) .mismatch ++ .reconnect :: earlier ∧
      sinceGood history = inARow history + sinceGood earlier := by
  induction history with
  | nil => cases hlt
  | cons entry history ih =>
    cases entry with
    | good => cases hlt
    | mismatch =>
      obtain ⟨earlier, heq, hcount⟩ := ih (Nat.lt_of_succ_lt_succ hlt)
      refine ⟨earlier, ?_, ?_⟩
      · show BusEntry.mismatch :: history = List.replicate (inARow history + 1) _ ++ _
        rw [List.replicate_succ, List.cons_append, ← heq]
      · show sinceGood history + 1 = inARow history + 1 + _
        omega
    | reconnect => exact ⟨history, rfl, (Nat.zero_add _).symm⟩

@[simp] theorem sinceGood_replicate (k : ℕ) (history : List BusEntry) :
    sinceGood (List.replicate k .mismatch ++ history) = k + sinceGood history := by
  induction k with
  | zero => simp
  | succ k ih =>
    show sinceGood (List.replicate k BusEntry.mismatch ++ history) + 1 = _
    omega

@[simp] theorem inARow_replicate (k : ℕ) (history : List BusEntry) :
    inARow (List.replicate k .mismatch ++ history) = k + inARow history := by
  induction k with
  | zero => simp
  | succ k ih =>
    show inARow (List.replicate k BusEntry.mismatch ++ history) + 1 = _
    omega

/-- What is counted at every mismatched cycle reaches the threshold only with the window. -/
def WindowCounts (n : ℕ) (history : List BusEntry) : Prop :=
  ∀ earlier, .mismatch :: earlier <:+ history →
    (n ≤ sinceGood (.mismatch :: earlier) ↔ Window n (.mismatch :: earlier))

theorem windowCounts_nil {n : ℕ} : WindowCounts n [] :=
  fun _ hsuffix => absurd (List.suffix_nil.mp hsuffix) (List.cons_ne_nil _ _)

theorem windowCounts_mismatch {n : ℕ} {history : List BusEntry} :
    WindowCounts n (.mismatch :: history) ↔ WindowCounts n history ∧
      (n ≤ sinceGood (.mismatch :: history) ↔ Window n (.mismatch :: history)) := by
  refine ⟨fun h => ⟨fun earlier hsuffix => h earlier (hsuffix.trans (List.suffix_cons _ _)),
    h history List.suffix_rfl⟩, fun h earlier hsuffix => ?_⟩
  obtain heq | hsuffix := List.suffix_cons_iff.mp hsuffix
  · rw [heq]
    exact h.2
  · exact h.1 earlier hsuffix

theorem windowCounts_cons {n : ℕ} {entry : BusEntry} (hentry : entry ≠ .mismatch)
    {history : List BusEntry} : WindowCounts n (entry :: history) ↔ WindowCounts n history := by
  refine ⟨fun h earlier hsuffix => h earlier (hsuffix.trans (List.suffix_cons _ _)),
    fun h earlier hsuffix => ?_⟩
  obtain heq | hsuffix := List.suffix_cons_iff.mp hsuffix
  · exact absurd (List.cons_eq_cons.mp heq).1.symm hentry
  · exact h earlier hsuffix

/-- **The count is that of the window just when no reconnect carries cycles over.** -/
theorem windowCounts_iff {n : ℕ} (hn : 1 ≤ n) (history : List BusEntry) :
    WindowCounts n history ↔ CarriesNothing n history := by
  constructor
  · intro hcounts later earlier heq
    by_contra hcarries
    push Not at hcarries
    obtain ⟨hcarried, hne, hrow⟩ := hcarries
    -- So many mismatched cycles follow the reconnect, and there the count reaches the threshold.
    obtain ⟨k, hk⟩ : ∃ k, max 1 (n - sinceGood earlier) = k + 1 :=
      ⟨_, (Nat.sub_add_cancel (le_max_left _ _)).symm⟩
    rw [hk, ← window_iff, Window, ← List.reverse_replicate, List.reverse_prefix] at hrow
    obtain ⟨front, hfront⟩ := hrow
    have hsuffix :
        BusEntry.mismatch :: (List.replicate k .mismatch ++ .reconnect :: earlier) <:+ history := by
      refine ⟨front, ?_⟩
      rw [heq, ← hfront, List.replicate_succ]
      simp
    have hwindow := hcounts _ hsuffix
    rw [window_iff] at hwindow
    simp only [sinceGood, inARow, sinceGood_replicate, inARow_replicate] at hwindow
    omega
  · intro hcarries earlier hsuffix
    rw [window_iff]
    refine ⟨fun hcount => ?_, fun hrow => hrow.trans (inARow_le_sinceGood _)⟩
    by_contra hrow
    have hlt : inARow (.mismatch :: earlier) < sinceGood (.mismatch :: earlier) := by omega
    obtain ⟨before, heq, hbefore⟩ := exists_reconnect hlt
    obtain ⟨front, hfront⟩ := hsuffix
    rw [heq, ← List.append_assoc] at hfront
    have hfew := hcarries _ _ hfront.symm
    rw [List.reverse_append, List.reverse_replicate, inARow_replicate] at hfew
    have hpos : 1 ≤ inARow (.mismatch :: earlier) := Nat.succ_le_succ (Nat.zero_le _)
    omega

/-! ## Runs -/

namespace BusLoop

/-- The monitor has counted the mismatched cycles since the last good one. -/
def Counted (n : ℕ) (loop : BusLoop) : Prop :=
  loop.monitor.busWkcMismatchDetectionCycles = n ∧
    loop.monitor.busWkcMismatchCycles = sinceGood loop.history

theorem step_exchanged {loop : BusLoop} (hconnected : ¬ loop.disconnected)
    (expectedWkc actualWkc : ℤ) (transportAvailable : Bool) :
    loop.step (.exchanged expectedWkc actualWkc transportAvailable) =
      { monitor := (loop.monitor.updateBus expectedWkc actualWkc transportAvailable).2
        disconnected :=
          (loop.monitor.updateBus expectedWkc actualWkc transportAvailable).1 = .transportLost
        history := .cycle expectedWkc actualWkc :: loop.history } :=
  if_neg hconnected

protected theorem Counted.step {n : ℕ} {loop : BusLoop} (hloop : loop.Counted n)
    (event : BusEvent) : (loop.step event).Counted n := by
  obtain ⟨hthreshold, hcount⟩ := hloop
  cases event with
  | failed => exact ⟨hthreshold, hcount⟩
  | exchanged expectedWkc actualWkc transportAvailable =>
    by_cases hconnected : loop.disconnected
    · rw [BusLoop.step, if_pos hconnected]
      exact ⟨hthreshold, hcount⟩
    · rw [step_exchanged hconnected, Counted, BusEntry.cycle]
      by_cases hmismatch : 0 < expectedWkc ∧ actualWkc ≠ expectedWkc
      · rw [(loop.monitor.updateBus_mismatch hmismatch _).1, if_pos hmismatch]
        exact ⟨hthreshold, congrArg Nat.succ hcount⟩
      · rw [loop.monitor.updateBus_good hmismatch, if_neg hmismatch]
        exact ⟨hthreshold, rfl⟩
  | reconnected =>
    unfold BusLoop.step
    split_ifs
    · exact ⟨hthreshold, hcount⟩
    · exact ⟨hthreshold, hcount⟩

theorem counted_init {threshold : ℤ} {monitor : RuntimeDiagnosticMonitor}
    (hmonitor : RuntimeDiagnosticMonitor.new threshold = .ok monitor) :
    1 ≤ threshold.toNat ∧ (init monitor).Counted threshold.toNat := by
  unfold RuntimeDiagnosticMonitor.new at hmonitor
  split_ifs at hmonitor with hthreshold
  cases hmonitor
  exact ⟨by omega, rfl, rfl⟩

/-- The monitor detects in an event just when the window says so. -/
def Right (n : ℕ) (loop : BusLoop) (event : BusEvent) : Prop :=
  ∀ verdict ∈ loop.verdict event, verdict.Alarm ↔ Window n (loop.step event).history

/-- **One event** is right when the count at the end is that of the window, if it is a cycle. -/
theorem windowCounts_step {n : ℕ} (hn : 1 ≤ n) {loop : BusLoop} (hloop : loop.Counted n)
    (event : BusEvent) :
    WindowCounts n (loop.step event).history ↔
      WindowCounts n loop.history ∧ loop.Right n event := by
  obtain ⟨hthreshold, hcount⟩ := hloop
  cases event with
  | failed => exact (and_iff_left nofun).symm
  | reconnected =>
    rw [and_iff_left (show loop.Right n .reconnected from nofun)]
    unfold BusLoop.step
    split_ifs
    · exact windowCounts_cons (by decide)
    · exact Iff.rfl
  | exchanged expectedWkc actualWkc transportAvailable =>
    by_cases hconnected : loop.disconnected
    · rw [Right, verdict, if_pos hconnected, BusLoop.step, if_pos hconnected]
      exact (and_iff_left nofun).symm
    · rw [Right, verdict, if_neg hconnected, step_exchanged hconnected, BusEntry.cycle]
      simp only [Option.mem_some_iff, forall_eq']
      by_cases hmismatch : 0 < expectedWkc ∧ actualWkc ≠ expectedWkc
      · rw [if_pos hmismatch, (loop.monitor.updateBus_mismatch hmismatch _).2,
          windowCounts_mismatch, hthreshold, hcount]
        rfl
      · rw [loop.monitor.updateBus_good hmismatch, if_neg hmismatch,
          windowCounts_cons (by decide), window_iff]
        refine (and_iff_left (iff_of_false (show ¬ BusVerdict.resolved.Alarm by decide) ?_)).symm
        exact Nat.not_le.mpr hn

/-- **Every event of a run is right** just when the count is always that of the window. -/
theorem right_run_iff {n : ℕ} (hn : 1 ≤ n) {loop : BusLoop} (hloop : loop.Counted n)
    (hloop' : WindowCounts n loop.history) (events : List BusEvent) :
    Runs.Allowed step (Right n) loop events ↔
      WindowCounts n (Runs.run step loop events).history := by
  induction events using List.reverseRecOn with
  | nil => exact iff_of_true trivial hloop'
  | append_singleton events event ih =>
    have hcounted := Runs.invariant (fun _ event h => h.step event) hloop events
    rw [Runs.allowed_append, ih, Runs.run_append]
    exact (and_congr_right' (and_iff_left trivial)).trans (windowCounts_step hn hcounted event).symm

end BusLoop

/-- **The detection window.** In a run with a new monitor, whatever its threshold, each monitored
cycle detects a fault just when it ends a window of mismatched cycles, if and only if no reconnect
carries cycles over. -/
theorem detectionWindow_iff {threshold : ℤ} {monitor : RuntimeDiagnosticMonitor}
    (hmonitor : RuntimeDiagnosticMonitor.new threshold = .ok monitor) (events : List BusEvent) :
    (∀ before event after verdict, events = before ++ event :: after →
        (Runs.run BusLoop.step (.init monitor) before).verdict event = some verdict →
        (verdict.Alarm ↔ Window threshold.toNat
          (Runs.run BusLoop.step (.init monitor) (before ++ [event])).history)) ↔
      CarriesNothing threshold.toNat (Runs.run BusLoop.step (.init monitor) events).history := by
  obtain ⟨hn, hcounted⟩ := BusLoop.counted_init hmonitor
  rw [← windowCounts_iff hn, ← BusLoop.right_run_iff hn hcounted windowCounts_nil,
    Runs.allowed_iff_forall]
  refine forall₃_congr fun before event after => ?_
  rw [Runs.run_append]
  exact forall_comm

theorem detectionWindow_iff_three :
    (∀ before event after verdict,
        [BusEvent.exchanged 3 2 true, .exchanged 3 2 true, .exchanged 3 2 true] =
          before ++ event :: after →
        (Runs.run BusLoop.step (.init ⟨3, 0, by decide⟩) before).verdict event = some verdict →
        (verdict.Alarm ↔ Window (Int.toNat 3)
          (Runs.run BusLoop.step (.init ⟨3, 0, by decide⟩) (before ++ [event])).history)) ↔
      CarriesNothing (Int.toNat 3) (Runs.run BusLoop.step (.init ⟨3, 0, by decide⟩)
        [BusEvent.exchanged 3 2 true, .exchanged 3 2 true, .exchanged 3 2 true]).history :=
  detectionWindow_iff rfl _

/-- Two mismatched cycles, a lost bus, and one mismatched cycle on the bus that replaces it. -/
theorem carried_mismatches_detect :
    (Runs.run BusLoop.step (.init ⟨3, 0, by decide⟩)
        [.exchanged 3 2 true, .exchanged 3 2 true, .failed, .reconnected]).verdict
          (.exchanged 3 2 true) = some .detected ∧
      ¬ Window 3 (Runs.run BusLoop.step (.init ⟨3, 0, by decide⟩)
        [.exchanged 3 2 true, .exchanged 3 2 true, .failed, .reconnected,
          .exchanged 3 2 true]).history := by
  decide

end MotionServer
