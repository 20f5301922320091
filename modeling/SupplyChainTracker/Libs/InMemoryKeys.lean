import SupplyChainTracker.Core.Run
import SupplyChainTracker.Libs.InMemoryDelivery

/-!
# The running flags

Consumers of the same kind whose topics have the same hash share one flag. The first of them to
be closed clears it, and the others come to their end at the next turn of their loop.
-/

namespace SupplyChainTracker.InMemory

section Flags

variable {V T κ : Type} {hash : List String → Int}

/-- The flag of every consumer that is suspended is set. -/
def World.Flagged (hash : List String → Int) (w : World κ V T) : Prop :=
  ∀ k, (w.consumers k).point.live = true →
    w.state.running ((w.consumers k).key hash) = true

/-- No consumer has come to its end by finding its flag cleared. -/
def World.NoneStopped (w : World κ V T) : Prop :=
  ∀ k, (w.consumers k).point ≠ .finished .stopped

/-- A consumer that is suspended is closed only while no other one with its key is suspended. -/
def World.ClosesAlone (hash : List String → Int) (w : World κ V T) : Action κ V T → Prop
  | .close k => (w.consumers k).point.live = true → ∀ j, j ≠ k →
      (w.consumers j).point.live = true → (w.consumers j).key hash ≠ (w.consumers k).key hash
  | .publish .. | .resume _ => True

theorem World.flagged_start (calls : κ → Kind × List String) :
    (World.start calls : World κ V T).Flagged hash := by
  intro k hlive
  cases hlive

theorem World.noneStopped_start (calls : κ → Kind × List String) :
    (World.start calls : World κ V T).NoneStopped := by
  intro k hpoint
  cases hpoint

variable {s : ClassState V} {c : Consumer V T} {log : String → List (Item V T)}
  {r : ClassState V × Consumer V T}

/-- Suspended or not, a consumer keeps its key. -/
theorem Resumed.key (h : Resumed hash log s c r) : r.2.key hash = c.key hash := by
  unfold Consumer.key
  rw [h.call.1, h.call.2]

/-- A consumer that enters its body clears no flag. -/
theorem Enters.running {s' : ClassState V} (h : Enters hash s c s') {key : Kind × Int}
    (hkey : s.running key = true) : s'.running key = true := by
  rcases h with ⟨_, rfl⟩ | ⟨_, rfl⟩
  · exact hkey
  · change Function.update s.running (c.key hash) true key = true
    by_cases hsame : key = c.key hash
    · rw [hsame, Function.update_self]
    · rw [Function.update_of_ne hsame, hkey]

/-- In its body a consumer has its flag set, if it had while it was suspended. -/
theorem Enters.running_key {s' : ClassState V} (h : Enters hash s c s')
    (hflag : c.point.live = true → s.running (c.key hash) = true) :
    s'.running (c.key hash) = true := by
  rcases h with ⟨hlive, rfl⟩ | ⟨_, rfl⟩
  · exact hflag hlive
  · exact Function.update_self ..

/-- What a step of a consumer does to the flags and to itself, if its flag is set while it is
suspended: it clears none, it is not suspended without its own, and it does not stop. -/
structure Unstopped (hash : List String → Int) (s : ClassState V) (c : Consumer V T)
    (r : ClassState V × Consumer V T) : Prop where
  clears : ∀ key, s.running key = true → r.1.running key = true
  sets : r.2.point.live = true → r.1.running (c.key hash) = true
  goesOn : r.2.point = .finished .stopped → c.point = .finished .stopped

theorem Resumed.unstopped (h : Resumed hash log s c r)
    (hflag : c.point.live = true → s.running (c.key hash) = true) : Unstopped hash s c r := by
  cases h with
  | yields s' hs' topic stop rest hnext hstop =>
    exact ⟨fun key hkey => hs'.running hkey, fun _ => hs'.running_key hflag,
      fun hpoint => by cases hpoint⟩
  | sleeps s' hs' hall =>
    exact ⟨fun key hkey => hs'.running hkey, fun _ => hs'.running_key hflag,
      fun hpoint => by cases hpoint⟩
  | stopped hlive hcleared =>
    rw [hflag hlive] at hcleared
    cases hcleared
  | finished ending hpoint => exact ⟨fun _ hkey => hkey, hflag, fun hstopped => hstopped⟩

variable (hash) in
/-- Closing a consumer clears at most its own flag, and leaves the consumer closed. -/
theorem Consumer.close_flags (s : ClassState V) (c : Consumer V T) :
    (∀ key, (c.point.live = true → key ≠ c.key hash) →
      (c.close hash s).1.running key = s.running key) ∧
    (c.close hash s).2.point.live = false ∧
    ((c.close hash s).2.point = .finished .stopped → c.point = .finished .stopped) := by
  have hcleared : ∀ key, key ≠ c.key hash →
      (s.setRunning (c.key hash) false).running key = s.running key :=
    fun key hkey => Function.update_of_ne hkey ..
  unfold Consumer.close
  cases hpoint : c.point with
  | notStarted => exact ⟨fun _ _ => rfl, rfl, fun h => by cases h⟩
  | yielding topic next stop rest =>
    exact ⟨fun key hkey => hcleared key (hkey rfl), rfl, fun h => by cases h⟩
  | sleeping => exact ⟨fun key hkey => hcleared key (hkey rfl), rfl, fun h => by cases h⟩
  | finished ending => exact ⟨fun _ _ => rfl, by rw [hpoint]; rfl, fun h => hpoint ▸ h⟩

variable [PyData V] [DecidableEq κ] {time : DateTimeCodec T} {calls : κ → Kind × List String}

/-- A step in which no consumer is closed beside others with its key keeps the flags set and
stops no consumer. -/
theorem World.Flagged.step {actions : List (Action κ V T)} {w : World κ V T}
    (hflagged : w.Flagged hash) (hnone : w.NoneStopped) (hsound : w.Sound time calls actions)
    {action : Action κ V T} (halone : w.ClosesAlone hash action) :
    (w.step time hash action).Flagged hash ∧ (w.step time hash action).NoneStopped := by
  cases action with
  | publish item topics =>
    refine ⟨fun k hlive => ?_, hnone⟩
    change (w.state.publish time item topics).running _ = true
    rw [running_publish]
    exact hflagged k hlive
  | resume k =>
    have hresumed := hsound.stores.resume hash (hsound.reads k)
    have hunstopped := hresumed.unstopped (hflagged k)
    refine ⟨fun j hlive => ?_, fun j => ?_⟩
    · by_cases hj : j = k
      · subst hj
        simp only [World.step, World.set, Function.update_self] at hlive ⊢
        rw [hresumed.key]
        exact hunstopped.sets hlive
      · simp only [World.step, World.set, Function.update_of_ne hj] at hlive ⊢
        exact hunstopped.clears _ (hflagged j hlive)
    · by_cases hj : j = k
      · subst hj
        simp only [World.step, World.set, Function.update_self]
        exact fun hstopped => hnone j (hunstopped.goesOn hstopped)
      · simp only [World.step, World.set, Function.update_of_ne hj]
        exact hnone j
  | close k =>
    obtain ⟨hflags, hdead, hstopped⟩ := (w.consumers k).close_flags hash w.state
    refine ⟨fun j hlive => ?_, fun j => ?_⟩
    · by_cases hj : j = k
      · subst hj
        simp only [World.step, World.set, Function.update_self] at hlive
        rw [hdead] at hlive
        cases hlive
      · simp only [World.step, World.set, Function.update_of_ne hj] at hlive ⊢
        rw [hflags _ fun hk => halone hk j hj hlive]
        exact hflagged j hlive
    · by_cases hj : j = k
      · subst hj
        simp only [World.step, World.set, Function.update_self]
        exact fun h => hnone j (hstopped h)
      · simp only [World.step, World.set, Function.update_of_ne hj]
        exact hnone j

/-- From a sound process on, closing alone stops no consumer. -/
theorem World.Sound.noneStopped {before : List (Action κ V T)} {w : World κ V T}
    (hsound : w.Sound time calls before) (hflagged : w.Flagged hash) (hnone : w.NoneStopped)
    {actions : List (Action κ V T)} (hreadable : Readable time (before ++ actions))
    (halone : EachStep (World.step time hash) (World.ClosesAlone hash) actions w) :
    Throughout (World.step time hash) World.NoneStopped actions w := by
  induction actions generalizing before w with
  | nil => exact hnone
  | cons action actions ih =>
    obtain ⟨hfirst, hrest⟩ := halone
    have hsplit : before ++ action :: actions = (before ++ [action]) ++ actions := by simp
    rw [hsplit] at hreadable
    have hnow : Readable time (before ++ [action]) := fun item topics hitem =>
      hreadable item topics (List.mem_append_left _ hitem)
    obtain ⟨hflagged', hnone'⟩ := hflagged.step hnone hsound hfirst
    exact ⟨hnone, ih (hsound.step hnow) hflagged' hnone' hreadable hrest⟩

/-- As long as each suspended consumer is closed only while no other one with its key is
suspended, no consumer ever comes to its end because another one has been closed. -/
theorem World.noneStopped_of_closesAlone (calls : κ → Kind × List String)
    {actions : List (Action κ V T)} (hreadable : Readable time actions)
    (halone : EachStep (World.step time hash) (World.ClosesAlone hash) actions (start calls)) :
    Throughout (World.step time hash) World.NoneStopped actions (start calls) :=
  (sound_start calls).noneStopped (flagged_start calls) (noneStopped_start calls)
    hreadable halone

/-- When a consumer is closed, another one that sleeps with the same key stops at its next
step. -/
theorem World.stopped_of_close {w : World κ V T} {j k : κ} (hjk : j ≠ k)
    (hk : (w.consumers k).point.live = true) (hj : (w.consumers j).point = .sleeping)
    (hkey : (w.consumers j).key hash = (w.consumers k).key hash) :
    (((w.step time hash (.close k)).step time hash (.resume j)).consumers j).point =
      .finished .stopped := by
  have hclose : (w.consumers k).close hash w.state =
      (w.consumers k).finish hash .closed w.state := by
    unfold Consumer.close
    cases hpoint : (w.consumers k).point with
    | notStarted => rw [hpoint] at hk; cases hk
    | yielding topic next stop rest => rfl
    | sleeping => rfl
    | finished ending => rw [hpoint] at hk; cases hk
  have hstep : w.step time hash (.close k) =
      w.set k ((w.consumers k).finish hash .closed w.state) := congrArg (w.set k) hclose
  have hconsumer : (w.step time hash (.close k)).consumers j = w.consumers j := by
    rw [hstep]
    exact Function.update_of_ne hjk ..
  have hflag : (w.step time hash (.close k)).state.running ((w.consumers j).key hash) = false := by
    rw [hstep, hkey]
    exact Function.update_self ..
  have hafter : ((w.step time hash (.close k)).step time hash (.resume j)).consumers j =
      ((w.consumers j).resume time hash (w.step time hash (.close k)).state).2 := by
    rw [← hconsumer]
    exact Function.update_self ..
  rw [hafter]
  simp only [Consumer.resume, hj, Consumer.turn, hflag, Bool.false_eq_true, if_false]
  rfl

end Flags

/-- Two consumers of the same topic. -/
def sharedCalls : Bool → Kind × List String := fun _ => (.command, ["delivery.commands"])

/-- Both are started, and one of them is closed. -/
def sharedActions : List (Action Bool Json DateTime) :=
  [.resume false, .resume true, .close false, .resume true]

/-- The other one stops. -/
theorem World.stopped_sharedActions :
    ¬ Throughout (World.step sampleTime fun _ => 7) World.NoneStopped sharedActions
      (World.start sharedCalls) := by
  rintro ⟨_, _, _, _, hnone⟩
  exact hnone true rfl

/-- One is closed when the other one has been. -/
theorem World.noneStopped_of_closesAlone_sample :
    Throughout (World.step sampleTime fun _ => 7) World.NoneStopped
      ([.resume false, .close false, .resume true, .close true] : List (Action Bool Json DateTime))
      (World.start sharedCalls) := by
  refine noneStopped_of_closesAlone sharedCalls ?_ ?_
  · intro item topics hitem
    simp at hitem
  · refine ⟨trivial, fun _ j hj hlive => ?_, trivial, fun _ j hj hlive => ?_, trivial⟩
    · cases j with
      | false => exact absurd rfl hj
      | true => cases hlive
    · cases j with
      | false => cases hlive
      | true => exact absurd rfl hj

end SupplyChainTracker.InMemory
