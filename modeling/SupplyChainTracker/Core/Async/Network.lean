import SupplyChainTracker.Core.Async.Gather

/-!
# Processes that exchange messages

Processes serve requests from outside and handle messages on topics, in tasks that interleave at
their calls. If no call that the requests lead to names a topic on which a process listens, then no
process ever gets a message, and what the calls keep of a process holds throughout.
-/

namespace SupplyChainTracker

/-- A protocol that only restricts the calls. -/
def Protocol.restricting {Op : Type} {Ans : Op → Type} {ε : Type} (ok : Op → Prop) :
    Protocol Op Ans ε Unit where
  may _ := ok
  expects _ _ := True
  next _ _ _ := ()

namespace Coroutine

variable {Op : Type} {Ans : Op → Type} {ε α : Type} {P : Protocol Op Ans ε Unit}

theorem Calls.keeps {ok : Op → Prop} {p : Coroutine Op Ans ε α} (h : p.Calls ok) :
    p.Keeps (.restricting ok) (fun _ _ => True) () := by
  induction p with
  | ret a => trivial
  | raise e => trivial
  | await op k ih => exact ⟨h.1, fun r _ => ih r (h.2 r)⟩

/-- Gathered tasks keep what each of them keeps. -/
theorem keeps_gather (picks : List Nat) {tasks : List (Coroutine Op Ans ε α)}
    (h : ∀ p ∈ tasks, p.Keeps P (fun _ _ => True) ()) :
    (gather picks tasks).Keeps P (fun _ _ => True) () := by
  induction picks generalizing tasks with
  | nil =>
    induction tasks with
    | nil => trivial
    | cons p tasks ih =>
      obtain ⟨hp, htasks⟩ := List.forall_mem_cons.mp h
      refine Keeps.bind (Keeps.tryCatch (Keeps.bind (Keeps.mono (fun r _ _ => ?_) hp)))
      cases r <;> exact ih htasks
  | cons pick picks ih =>
    simp only [gather]
    split
    · rename_i op k hpick
      obtain ⟨hmay, hk⟩ := h _ (List.mem_of_getElem? hpick)
      refine ⟨hmay, fun r hr => ih fun p hp => ?_⟩
      rcases List.mem_or_eq_of_mem_set hp with hp | rfl
      · exact h p hp
      · exact hk r hr
    · exact ih h

end Coroutine

/-- Programs over one machine that are started by requests and by messages. -/
structure Process (M : Type) where
  Op : Type
  Ans : Op → Type
  Err : Type
  World : Type
  Request : Type
  /-- What the handling of a message draws. -/
  Draws : Type
  act : (op : Op) → World → Except Err (Ans op) × World
  /-- What a call may publish and where, whether it returns or raises. -/
  sends : Op → List (String × M)
  serve : Request → Coroutine Op Ans Err Unit
  /-- The topics of the messages that are handled. -/
  listens : List String
  handle : M → Draws → Coroutine Op Ans Err Unit

variable {σ M : Type}

/-- A process with the tasks that have been started. -/
structure Process.State (P : Process M) where
  world : P.World
  running : List (Coroutine P.Op P.Ans P.Err Unit)

namespace Network

/-- Processes with everything that may have been published. -/
structure State (P : σ → Process M) where
  processes : (s : σ) → (P s).State
  published : List (String × M)

/-- What happens next. -/
inductive Action (P : σ → Process M) : Type
  | request (s : σ) (r : (P s).Request)
  /-- A task goes on to its next call, which may be made to raise. -/
  | resume (s : σ) (task : Nat) (fault : Option (P s).Err)
  /-- A process gets a message, not necessarily for the first time or in the order of the
  publications. -/
  | deliver (s : σ) (message : Nat) (draws : (P s).Draws)

/-- A process gets a message. -/
def Action.IsDelivery {P : σ → Process M} : Action P → Prop
  | deliver .. => True
  | _ => False

namespace State

variable {P : σ → Process M}

/-- Processes that have not done anything yet. -/
def start (world : (s : σ) → (P s).World) : State P := ⟨fun s => ⟨world s, []⟩, []⟩

variable [DecidableEq σ]

/-- A process changes, and messages are published. -/
def become (st : State P) (s : σ) (process : (P s).State) (messages : List (String × M)) :
    State P where
  processes := Function.update st.processes s process
  published := st.published ++ messages

/-- A process starts a task. -/
def spawn (st : State P) (s : σ) (p : Coroutine (P s).Op (P s).Ans (P s).Err Unit) : State P :=
  st.become s { st.processes s with running := (st.processes s).running ++ [p] } []

/-- The effect of an action, if it is possible. -/
def step (st : State P) : Action P → Option (State P)
  | .request s r => some (st.spawn s ((P s).serve r))
  | .resume s task fault =>
      match (st.processes s).running[task]? with
      | some (.await op k) =>
          let answered := Coroutine.answer (P s).act fault op (st.processes s).world
          some (st.become s ⟨answered.2, (st.processes s).running.set task (k answered.1)⟩
            ((P s).sends op))
      | _ => none
  | .deliver s message draws =>
      match st.published[message]? with
      | some (topic, m) =>
          if topic ∈ (P s).listens then some (st.spawn s ((P s).handle m draws)) else none
      | none => none

/-- One action after the other. -/
def exec (st : State P) (actions : List (Action P)) : Option (State P) := actions.foldlM step st

end State

/-- What the calls of the requests do: each keeps what holds of its process, and no process listens
to a topic that one of them may publish on. -/
structure Confined (P : σ → Process M) (topics : List String)
    (contract : (s : σ) → Protocol (P s).Op (P s).Ans (P s).Err Unit)
    (inv : (s : σ) → (P s).World → Prop) : Prop where
  deaf : ∀ s, ∀ topic ∈ (P s).listens, topic ∉ topics
  sends : ∀ s op, (contract s).may () op → ∀ m ∈ (P s).sends op, m.1 ∈ topics
  serve : ∀ s r, ((P s).serve r).Keeps (contract s) (fun _ _ => True) ()
  answers : ∀ s op w, inv s w → (contract s).may () op →
    (contract s).expects op ((P s).act op w).1 ∧ inv s ((P s).act op w).2
  raises : ∀ s op e, (contract s).expects op (.error e)

/-- What holds while no process has got a message. -/
structure Quiet {P : σ → Process M} (topics : List String)
    (contract : (s : σ) → Protocol (P s).Op (P s).Ans (P s).Err Unit)
    (inv : (s : σ) → (P s).World → Prop) (st : State P) : Prop where
  published : ∀ m ∈ st.published, m.1 ∈ topics
  running : ∀ s, ∀ p ∈ (st.processes s).running, p.Keeps (contract s) (fun _ _ => True) ()
  world : ∀ s, inv s (st.processes s).world

section Runs

variable {P : σ → Process M} {topics : List String}
  {contract : (s : σ) → Protocol (P s).Op (P s).Ans (P s).Err Unit}
  {inv : (s : σ) → (P s).World → Prop} {st st' : State P}

/-- Before anything has happened. -/
theorem quiet_start {world : (s : σ) → (P s).World} (h : ∀ s, inv s (world s)) :
    Quiet topics contract inv (State.start world : State P) where
  published _ hm := by cases hm
  running _ _ hp := by cases hp
  world := h

variable [DecidableEq σ]

/-- A process changes within what holds. -/
theorem Quiet.become (h : Quiet topics contract inv st) {s : σ} {process : (P s).State}
    {messages : List (String × M)} (hmessages : ∀ m ∈ messages, m.1 ∈ topics)
    (hrunning : ∀ p ∈ process.running, p.Keeps (contract s) (fun _ _ => True) ())
    (hworld : inv s process.world) :
    Quiet topics contract inv (st.become s process messages) := by
  refine ⟨fun m hm => ?_, fun s' => ?_, fun s' => ?_⟩
  · exact (List.mem_append.mp hm).elim (h.published m) (hmessages m)
  · by_cases hs : s' = s
    · subst hs
      simpa only [State.become, Function.update_self] using hrunning
    · simpa only [State.become, Function.update_of_ne hs] using h.running s'
  · by_cases hs : s' = s
    · subst hs
      simpa only [State.become, Function.update_self] using hworld
    · simpa only [State.become, Function.update_of_ne hs] using h.world s'

/-- A task of a request is started. -/
theorem Quiet.request (hconfined : Confined P topics contract inv)
    (h : Quiet topics contract inv st) (s : σ) (r : (P s).Request) :
    Quiet topics contract inv (st.spawn s ((P s).serve r)) := by
  refine h.become (fun _ hm => (by cases hm)) (fun p hp => ?_) (h.world s)
  rcases List.mem_append.mp hp with hp | hp
  · exact h.running s p hp
  · obtain rfl := List.mem_singleton.mp hp
    exact hconfined.serve s r

/-- A task goes on to its next call. -/
theorem Quiet.resume (hconfined : Confined P topics contract inv) (h : Quiet topics contract inv st)
    {s : σ} {task : Nat} {op : (P s).Op}
    {k : Except (P s).Err ((P s).Ans op) → Coroutine (P s).Op (P s).Ans (P s).Err Unit}
    (htask : (st.processes s).running[task]? = some (.await op k)) (fault : Option (P s).Err) :
    let answered := Coroutine.answer (P s).act fault op (st.processes s).world
    Quiet topics contract inv (st.become s
      ⟨answered.2, (st.processes s).running.set task (k answered.1)⟩ ((P s).sends op)) := by
  intro answered
  obtain ⟨hmay, hk⟩ := h.running s _ (List.mem_of_getElem? htask)
  obtain ⟨hexpects, hworld⟩ : (contract s).expects op answered.1 ∧ inv s answered.2 := by
    cases fault with
    | none => exact hconfined.answers s op _ (h.world s) hmay
    | some e => exact ⟨hconfined.raises s op e, h.world s⟩
  refine h.become (hconfined.sends s op hmay) (fun p hp => ?_) hworld
  rcases List.mem_or_eq_of_mem_set hp with hp | rfl
  · exact h.running s p hp
  · exact hk _ hexpects

/-- No possible action is a delivery, and each keeps what holds. -/
theorem Quiet.step (hconfined : Confined P topics contract inv) (h : Quiet topics contract inv st)
    {a : Action P} (ha : st.step a = some st') :
    ¬ a.IsDelivery ∧ Quiet topics contract inv st' := by
  cases a with
  | request s r =>
    cases ha
    exact ⟨id, h.request hconfined s r⟩
  | resume s task fault =>
    simp only [State.step] at ha
    split at ha
    · rename_i op k htask
      cases ha
      exact ⟨id, h.resume hconfined htask fault⟩
    · cases ha
  | deliver s message draws =>
    simp only [State.step] at ha
    split at ha
    · rename_i topic m hm
      split at ha
      · rename_i hlistens
        exact absurd (h.published _ (List.mem_of_getElem? hm)) (hconfined.deaf s topic hlistens)
      · cases ha
    · cases ha

/-- In no run does a process get a message. -/
theorem Quiet.exec (hconfined : Confined P topics contract inv) (h : Quiet topics contract inv st)
    {actions : List (Action P)} (hrun : st.exec actions = some st') :
    (∀ a ∈ actions, ¬ a.IsDelivery) ∧ Quiet topics contract inv st' := by
  induction actions generalizing st with
  | nil =>
    cases hrun
    exact ⟨fun _ ha => (by cases ha), h⟩
  | cons a actions ih =>
    obtain ⟨st₁, hstep, hrest⟩ := Option.bind_eq_some_iff.mp hrun
    obtain ⟨ha, h₁⟩ := h.step hconfined hstep
    obtain ⟨hactions, h'⟩ := ih h₁ hrest
    exact ⟨List.forall_mem_cons.mpr ⟨ha, hactions⟩, h'⟩

end Runs

end Network

end SupplyChainTracker
