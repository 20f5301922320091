import SupplyChainTracker.Libs.InMemory

/-!
# Delivery in memory

A consumer has read each of its topics up to its offset, whoever publishes while it is suspended.
So what it has yielded from a topic is the beginning of what has been published to it, and it
sleeps only when nothing is left.
-/

namespace SupplyChainTracker.InMemory

section Reading

variable {V T κ : Type} {hash : List String → Int} {log : Kind → String → List (Item V T)}
  {s : ClassState V} {c : Consumer V T}

/-- A consumer has yielded the messages of each topic up to its offset, and stands at it. -/
structure Reads (log : Kind → String → List (Item V T)) (c : Consumer V T) : Prop where
  yielded : ∀ topic, c.yieldedFrom topic = (log c.kind topic).take (c.offsets topic)
  bounded : ∀ topic, c.offsets topic ≤ (log c.kind topic).length
  suspended : ∀ topic next stop rest, c.point = .yielding topic next stop rest →
    next = c.offsets topic ∧ stop ≤ (log c.kind topic).length

/-- What has been read stays read when more is published. -/
theorem Reads.mono (h : Reads log c) (more : Kind → String → List (Item V T)) :
    Reads (fun kind topic => log kind topic ++ more kind topic) c where
  yielded topic := by
    rw [h.yielded, List.take_append_of_le_length (h.bounded topic)]
  bounded topic := by
    have hbounded := h.bounded topic
    simp only [List.length_append]
    omega
  suspended topic next stop rest hpoint := by
    obtain ⟨hnext, hstop⟩ := h.suspended topic next stop rest hpoint
    refine ⟨hnext, ?_⟩
    simp only [List.length_append]
    omega

/-- At another point than a yield nothing more is to be known. -/
theorem Reads.move (h : Reads log c) {point : Point} (hpoint : point = .sleeping ∨
    ∃ ending, point = .finished ending) : Reads log { c with point := point } where
  yielded := h.yielded
  bounded := h.bounded
  suspended topic next stop rest hyielding := by
    rcases hpoint with rfl | ⟨ending, rfl⟩
    · cases hyielding
    · cases hyielding

/-- Yielding the next message of a topic. -/
theorem Reads.yields (h : Reads log c) {topic : String} {stop : Nat} (rest : List String)
    (hnext : c.offsets topic < (log c.kind topic).length)
    (hstop : stop ≤ (log c.kind topic).length) :
    Reads log (c.yields (log c.kind topic)[c.offsets topic] topic (c.offsets topic + 1) stop
      rest) where
  yielded topic' := by
    have hyielded := h.yielded topic'
    by_cases htopic : topic = topic'
    · subst htopic
      have hfrom : (c.yields (log c.kind topic)[c.offsets topic] topic (c.offsets topic + 1) stop
          rest).yieldedFrom topic =
          c.yieldedFrom topic ++ [(log c.kind topic)[c.offsets topic]] := by
        simp [Consumer.yieldedFrom, Consumer.yields]
      rw [hfrom, hyielded]
      simp only [Consumer.yields, Function.update_self]
      exact List.take_append_getElem hnext
    · have hfrom : (c.yields (log c.kind topic)[c.offsets topic] topic (c.offsets topic + 1) stop
          rest).yieldedFrom topic' = c.yieldedFrom topic' := by
        simp [Consumer.yieldedFrom, Consumer.yields, htopic]
      rw [hfrom, hyielded]
      simp only [Consumer.yields, Function.update_of_ne (Ne.symm htopic)]
  bounded topic' := by
    by_cases htopic : topic = topic'
    · subst htopic
      simp only [Consumer.yields, Function.update_self]
      omega
    · simp only [Consumer.yields, Function.update_of_ne (Ne.symm htopic)]
      exact h.bounded topic'
  suspended topic' next stop' rest' hpoint := by
    cases hpoint
    simp only [Consumer.yields, Function.update_self]
    exact ⟨trivial, hstop⟩

/-- What has been yielded is the beginning of what has been published. -/
theorem Reads.isPrefix (h : Reads log c) (topic : String) :
    c.yieldedFrom topic <+: log c.kind topic := by
  rw [h.yielded]
  exact List.take_prefix _ _

/-- A topic that is read to its end has been yielded. -/
theorem Reads.eq_of_length_le (h : Reads log c) {topic : String}
    (hall : (log c.kind topic).length ≤ c.offsets topic) :
    c.yieldedFrom topic = log c.kind topic := by
  rw [h.yielded, List.take_of_length_le hall]

/-- What the loops come to, with what has been read of each topic: the next message of some
topic, or the end of the pass over topics without a further message. -/
inductive Advances (log : String → List (Item V T)) (offsets : String → Nat)
    (topics : List String) : Advance V T → Prop
  | yields (topic : String) (stop : Nat) (rest : List String)
      (hnext : offsets topic < (log topic).length) (hstop : stop ≤ (log topic).length) :
      Advances log offsets topics
        (.yields (log topic)[offsets topic] topic (offsets topic + 1) stop rest)
  | passed (h : ∀ topic ∈ topics, (log topic).length ≤ offsets topic) :
      Advances log offsets topics .passed

/-- The class when the body of a consumer is entered: its start sets the flag. -/
def Enters (hash : List String → Int) (s : ClassState V) (c : Consumer V T) (s' : ClassState V) :
    Prop :=
  (c.point.live = true ∧ s' = s) ∨
    (c.point = .notStarted ∧ s' = s.setRunning (c.key hash) true)

/-- What a step of a consumer leads to: it is suspended at the yield of a message or, with
nothing left in its topics, in its sleep; it has found its flag cleared; or it had already
finished. -/
inductive Resumed (hash : List String → Int) (log : String → List (Item V T))
    (s : ClassState V) (c : Consumer V T) : ClassState V × Consumer V T → Prop
  | yields (s' : ClassState V) (hs' : Enters hash s c s')
      (topic : String) (stop : Nat) (rest : List String)
      (hnext : c.offsets topic < (log topic).length) (hstop : stop ≤ (log topic).length) :
      Resumed hash log s c
        (s', c.yields (log topic)[c.offsets topic] topic (c.offsets topic + 1) stop rest)
  | sleeps (s' : ClassState V) (hs' : Enters hash s c s')
      (hall : ∀ topic ∈ c.topics, (log topic).length ≤ c.offsets topic) :
      Resumed hash log s c (s', { c with point := .sleeping })
  | stopped (hlive : c.point.live = true) (hflag : s.running (c.key hash) = false) :
      Resumed hash log s c (c.finish hash .stopped s)
  | finished (ending : Ending) (hpoint : c.point = .finished ending) :
      Resumed hash log s c (s, c)

/-- A step keeps the storage. -/
theorem Resumed.storage {r : ClassState V × Consumer V T} {seen : String → List (Item V T)}
    (h : Resumed hash seen s c r) : r.1.storage = s.storage := by
  cases h with
  | yields s' hs' => rcases hs' with ⟨_, rfl⟩ | ⟨_, rfl⟩ <;> rfl
  | sleeps s' hs' => rcases hs' with ⟨_, rfl⟩ | ⟨_, rfl⟩ <;> rfl
  | stopped hlive hflag => rfl
  | finished ending hpoint => rfl

/-- A step reads on. -/
theorem Resumed.reads {r : ClassState V × Consumer V T} (h : Resumed hash (log c.kind) s c r)
    (hreads : Reads log c) : Reads log r.2 := by
  cases h with
  | yields s' hs' topic stop rest hnext hstop => exact hreads.yields rest hnext hstop
  | sleeps s' hs' hall => exact hreads.move (.inl rfl)
  | stopped hlive hflag => exact hreads.move (.inr ⟨_, rfl⟩)
  | finished ending hpoint => exact hreads

/-- A step keeps what a consumer was called with. -/
theorem Resumed.call {r : ClassState V × Consumer V T} {seen : String → List (Item V T)}
    (h : Resumed hash seen s c r) : r.2.kind = c.kind ∧ r.2.topics = c.topics := by
  cases h with
  | yields s' hs' topic stop rest hnext hstop => exact ⟨rfl, rfl⟩
  | sleeps s' hs' hall => exact ⟨rfl, rfl⟩
  | stopped hlive hflag => exact ⟨rfl, rfl⟩
  | finished ending hpoint => exact ⟨rfl, rfl⟩

variable (hash) in
/-- Closing reads nothing. -/
theorem Consumer.close_eq (s : ClassState V) (c : Consumer V T) :
    (c.close hash s).1.storage = s.storage ∧
      ((c.close hash s).2 = c ∨ (c.close hash s).2 = { c with point := .finished .closed }) := by
  unfold Consumer.close
  cases hpoint : c.point with
  | notStarted => exact ⟨rfl, .inr rfl⟩
  | yielding topic next stop rest => exact ⟨rfl, .inr rfl⟩
  | sleeping => exact ⟨rfl, .inr rfl⟩
  | finished ending => exact ⟨rfl, .inl rfl⟩

theorem storage_append (s : ClassState V) (kind kind' : Kind) (topic topic' : String) (value : V) :
    (s.append kind topic value).storage kind' topic' =
      s.storage kind' topic' ++ if kind = kind' ∧ topic = topic' then [value] else [] := by
  by_cases hkind : kind = kind'
  · subst hkind
    by_cases htopic : topic = topic'
    · subst htopic
      simp [ClassState.append]
    · simp [ClassState.append, Function.update_of_ne (Ne.symm htopic), htopic]
  · simp [ClassState.append, Function.update_of_ne (Ne.symm hkind), hkind]

theorem published_append (actions : List (Action κ V T)) (action : Action κ V T) (kind : Kind)
    (topic : String) :
    published (actions ++ [action]) kind topic =
      published actions kind topic ++ action.published kind topic := by
  simp [published]

/-- The timestamp of an event is read back. -/
def Item.Readable (time : DateTimeCodec T) : Item V T → Prop
  | .event e => time.ReadsBack e.timestamp
  | .command _ => True

/-- The items that actions publish have timestamps that are read back. -/
def Readable (time : DateTimeCodec T) (actions : List (Action κ V T)) : Prop :=
  ∀ item topics, Action.publish item topics ∈ actions → item.Readable time

/-- Of what has been published, everything is of the kind of its storage and can be read. -/
theorem mem_published {time : DateTimeCodec T} {actions : List (Action κ V T)}
    (h : Readable time actions) {kind : Kind} {topic : String} {item : Item V T}
    (hmem : item ∈ published actions kind topic) :
    item.kind = kind ∧ item.Readable time := by
  obtain ⟨action, haction, hitem⟩ := List.mem_flatMap.mp hmem
  cases action with
  | publish item' topics =>
    simp only [Action.published] at hitem
    split at hitem
    · rename_i hkind
      obtain ⟨_, _, rfl⟩ := List.mem_map.mp hitem
      exact ⟨hkind, h _ _ haction⟩
    · cases hitem
  | resume k => cases hitem
  | close k => cases hitem

end Reading

section Delivery

variable {V T κ : Type} [PyData V] {time : DateTimeCodec T} {hash : List String → Int}

variable (κ) in
/-- Publishing stores the values of what has been published. -/
theorem storage_publish (s : ClassState V) (item : Item V T) (topics : List String) (kind : Kind)
    (topic : String) :
    (s.publish time item topics).storage kind topic = s.storage kind topic ++
      ((Action.publish item topics : Action κ V T).published kind topic).map (Item.value time) := by
  unfold ClassState.publish
  induction topics generalizing s with
  | nil => simp [Action.published]
  | cons t topics ih =>
    rw [List.foldl_cons, ih, storage_append, List.append_assoc]
    by_cases hkind : item.kind = kind
    · by_cases htopic : t = topic
      · simp [Action.published, hkind, htopic]
      · simp [Action.published, hkind, htopic]
    · simp [Action.published, hkind]

/-- Publishing touches no flag. -/
theorem running_publish (s : ClassState V) (item : Item V T) (topics : List String) :
    (s.publish time item topics).running = s.running := by
  unfold ClassState.publish
  induction topics generalizing s with
  | nil => rfl
  | cons t topics ih => exact ih _

/-- What is decoded is what has been published. -/
theorem decode_value {item : Item V T} (h : item.Readable time) :
    decode time item.kind (item.value time) = .ok item := by
  cases item with
  | event e =>
    have hdecode := EventObject.fromDict_toDict (V := V) (e := e) h
    simp only [decode, Item.kind, Item.value, hdecode]
    rfl
  | command c =>
    simp only [decode, Item.kind, Item.value, c.fromDict_toDict]
    rfl

/-- The storage holds the values of what has been published, all of which can be decoded. -/
structure Stores (time : DateTimeCodec T) (s : ClassState V)
    (log : Kind → String → List (Item V T)) : Prop where
  storage : ∀ kind topic, s.storage kind topic = (log kind topic).map (Item.value time)
  decodes : ∀ kind topic, ∀ item ∈ log kind topic, decode time kind (item.value time) = .ok item

variable {log : Kind → String → List (Item V T)} {s : ClassState V} {kind : Kind}
  {c : Consumer V T}

theorem Stores.length (h : Stores time s log) (kind : Kind) (topic : String) :
    (s.storage kind topic).length = (log kind topic).length := by
  rw [h.storage, List.length_map]

/-- A message that is there is yielded. -/
theorem Stores.readMessage (h : Stores time s log) {topic : String} {i : Nat}
    (hi : i < (log kind topic).length) (stop : Nat) (rest : List String) :
    s.readMessage time kind topic i stop rest =
      .yields (log kind topic)[i] topic (i + 1) stop rest := by
  have hdecode := h.decodes kind topic _ (List.getElem_mem hi)
  have hvalue : (s.storage kind topic)[i]? = some ((log kind topic)[i].value time) := by
    rw [h.storage, List.getElem?_map, List.getElem?_eq_getElem hi, Option.map_some]
  simp only [ClassState.readMessage, hvalue, hdecode]

/-- The pass over topics. -/
theorem Stores.forTopics (h : Stores time s log) (offsets : String → Nat)
    (topics : List String) :
    Advances (log kind) offsets topics (s.forTopics time kind offsets topics) := by
  induction topics with
  | nil =>
    refine .passed ?_
    intro topic htopic
    cases htopic
  | cons topic rest ih =>
    unfold ClassState.forTopics
    rw [h.length]
    by_cases hnext : offsets topic < (log kind topic).length
    · rw [if_pos hnext, h.readMessage hnext]
      exact .yields topic _ rest hnext le_rfl
    · rw [if_neg hnext]
      revert ih
      generalize s.forTopics time kind offsets rest = advance
      intro ih
      cases ih with
      | yields topic' stop rest' hnext' hstop => exact .yields topic' stop rest' hnext' hstop
      | passed hrest =>
        refine .passed ?_
        intro topic' htopic'
        rcases List.mem_cons.mp htopic' with rfl | hmem
        · exact Nat.le_of_not_lt hnext
        · exact hrest topic' hmem

/-- The loop over the messages of a topic, resumed at its offset. -/
theorem Stores.forMessages (h : Stores time s log) {offsets : String → Nat} {topic : String}
    {stop : Nat} (hstop : stop ≤ (log kind topic).length) (rest : List String) :
    Advances (log kind) offsets rest
      (s.forMessages time kind offsets topic (offsets topic) stop rest) := by
  unfold ClassState.forMessages
  by_cases hnext : offsets topic < stop
  · have hi : offsets topic < (log kind topic).length := Nat.lt_of_lt_of_le hnext hstop
    rw [if_pos hnext, h.readMessage hi]
    exact .yields topic stop rest hi hstop
  · rw [if_neg hnext]
    exact h.forTopics offsets rest

/-- The `while` loop, when the flag is set. -/
theorem Stores.turn (h : Stores time s log) (hflag : s.running (c.key hash) = true)
    {s₀ : ClassState V} (hs : Enters hash s₀ c s) :
    Resumed hash (log c.kind) s₀ c (c.turn time hash s) := by
  have hadvances : Advances (log c.kind) c.offsets c.topics
      (s.forTopics time c.kind c.offsets c.topics) := h.forTopics c.offsets c.topics
  unfold Consumer.turn
  rw [if_pos hflag]
  revert hadvances
  generalize s.forTopics time c.kind c.offsets c.topics = advance
  intro hadvances
  cases hadvances with
  | yields topic stop rest hnext hstop => exact .yields s hs topic stop rest hnext hstop
  | passed hall => exact .sleeps s hs hall

variable (hash) in
/-- Every step of a consumer leads to one of these. -/
theorem Stores.resume (h : Stores time s log) (hreads : Reads log c) :
    Resumed hash (log c.kind) s c (c.resume time hash s) := by
  have hturn : c.point.live = true → Resumed hash (log c.kind) s c (c.turn time hash s) := by
    intro hlive
    cases hflag : s.running (c.key hash) with
    | false =>
      unfold Consumer.turn
      rw [hflag]
      exact .stopped hlive hflag
    | true => exact h.turn hflag (.inl ⟨hlive, rfl⟩)
  unfold Consumer.resume
  cases hpoint : c.point with
  | notStarted =>
    have hstarted : Stores time (s.setRunning (c.key hash) true) log := ⟨h.storage, h.decodes⟩
    exact hstarted.turn (Function.update_self ..) (.inr ⟨hpoint, rfl⟩)
  | yielding topic next stop rest =>
    obtain ⟨rfl, hstop⟩ := hreads.suspended topic next stop rest hpoint
    have hadvances : Advances (log c.kind) c.offsets rest
        (s.forMessages time c.kind c.offsets topic (c.offsets topic) stop rest) :=
      h.forMessages hstop rest
    revert hadvances
    simp only
    generalize s.forMessages time c.kind c.offsets topic (c.offsets topic) stop rest = advance
    intro hadvances
    cases hadvances with
    | yields topic' stop' rest' hnext hstop' =>
      exact .yields s (.inl ⟨by rw [hpoint]; rfl, rfl⟩) topic' stop' rest' hnext hstop'
    | passed hall => exact hturn (by rw [hpoint]; rfl)
  | sleeping => exact hturn (by rw [hpoint]; rfl)
  | finished ending => exact .finished ending hpoint

variable {calls : κ → Kind × List String}

/-- The class stores what actions have published, and every consumer has read of it what it has
yielded. -/
structure World.Sound (time : DateTimeCodec T) (calls : κ → Kind × List String)
    (actions : List (Action κ V T)) (w : World κ V T) : Prop where
  stores : Stores time w.state (published actions)
  reads : ∀ k, Reads (published actions) (w.consumers k)
  calls : ∀ k, (w.consumers k).kind = (calls k).1 ∧ (w.consumers k).topics = (calls k).2

variable (calls) in
/-- Nothing has been published when the process starts. -/
theorem World.sound_start : (World.start calls : World κ V T).Sound time calls [] where
  stores := ⟨fun _ _ => rfl, fun _ _ _ hitem => by cases hitem⟩
  reads k := {
    yielded := fun _ => rfl
    bounded := fun _ => le_rfl
    suspended := fun _ _ _ _ hpoint => by cases hpoint }
  calls _ := ⟨rfl, rfl⟩

variable [DecidableEq κ]

/-- A step of a consumer publishes nothing. -/
theorem World.Sound.set {actions : List (Action κ V T)} {w : World κ V T}
    (h : w.Sound time calls actions) {action : Action κ V T}
    (hpublished : ∀ kind topic, action.published kind topic = []) (k : κ)
    {r : ClassState V × Consumer V T} (hstorage : r.1.storage = w.state.storage)
    (hreads : Reads (published actions) r.2)
    (hcall : r.2.kind = (w.consumers k).kind ∧ r.2.topics = (w.consumers k).topics) :
    (w.set k r).Sound time calls (actions ++ [action]) := by
  have hlog : published (actions ++ [action]) = published actions := by
    funext kind topic
    rw [published_append, hpublished, List.append_nil]
  refine ⟨⟨fun kind topic => ?_, fun kind topic => ?_⟩, fun k' => ?_, fun k' => ?_⟩
  · rw [hlog]
    change r.1.storage kind topic = _
    rw [hstorage]
    exact h.stores.storage kind topic
  · rw [hlog]
    exact h.stores.decodes kind topic
  · rw [hlog]
    by_cases hk : k' = k
    · subst hk
      simpa only [World.set, Function.update_self] using hreads
    · simpa only [World.set, Function.update_of_ne hk] using h.reads k'
  · by_cases hk : k' = k
    · subst hk
      simp only [World.set, Function.update_self, hcall]
      exact h.calls k'
    · simpa only [World.set, Function.update_of_ne hk] using h.calls k'

/-- Every step keeps what is stored and read. -/
theorem World.Sound.step {actions : List (Action κ V T)} {w : World κ V T}
    (h : w.Sound time calls actions) {action : Action κ V T}
    (hreadable : Readable time (actions ++ [action])) :
    (w.step time hash action).Sound time calls (actions ++ [action]) := by
  cases action with
  | publish item topics =>
    have hlog : published (actions ++ [Action.publish item topics]) = fun kind topic =>
        published actions kind topic ++ (Action.publish item topics : Action κ V T).published
          kind topic := by
      funext kind topic
      exact published_append _ _ _ _
    refine ⟨⟨fun kind topic => ?_, fun kind topic item' hitem => ?_⟩, fun k => ?_, h.calls⟩
    · change (w.state.publish time item topics).storage kind topic = _
      rw [storage_publish κ, h.stores.storage, published_append, List.map_append]
    · obtain ⟨hkind, hitem⟩ := mem_published hreadable hitem
      rw [← hkind]
      exact decode_value hitem
    · rw [hlog]
      exact (h.reads k).mono _
  | resume k =>
    have hresumed := h.stores.resume hash (h.reads k)
    exact h.set (fun _ _ => rfl) k hresumed.storage (hresumed.reads (h.reads k)) hresumed.call
  | close k =>
    obtain ⟨hstorage, hclosed⟩ := (w.consumers k).close_eq hash w.state
    refine h.set (fun _ _ => rfl) k hstorage ?_ ?_
    · rcases hclosed with hclosed | hclosed
      · rw [hclosed]
        exact h.reads k
      · rw [hclosed]
        exact (h.reads k).move (.inr ⟨_, rfl⟩)
    · rcases hclosed with hclosed | hclosed
      · rw [hclosed]
        exact ⟨rfl, rfl⟩
      · rw [hclosed]
        exact ⟨rfl, rfl⟩

variable (hash calls) in
/-- A process is sound after any steps. -/
theorem World.sound_run {actions : List (Action κ V T)} (hreadable : Readable time actions) :
    (World.run time hash calls actions).Sound time calls actions := by
  induction actions using List.reverseRecOn with
  | nil => exact sound_start calls
  | append_singleton actions action ih =>
    have hbefore : Readable time actions := fun item topics hitem =>
      hreadable item topics (List.mem_append_left _ hitem)
    unfold World.run
    rw [List.foldl_append]
    exact (ih hbefore).step hreadable

/-- What holds of a consumer in a process and after its next step: what it has yielded from a
topic is the beginning of what has been published to it; when the step takes it to its sleep, it
has yielded all that has been published to its topics; and while its flag is set, the step leaves
it suspended again. -/
structure World.Delivers (hash : List String → Int) (calls : κ → Kind × List String)
    (actions : List (Action κ V T)) (k : κ) (w w' : World κ V T) : Prop where
  inOrder : ∀ topic, (w.consumers k).yieldedFrom topic <+: published actions (calls k).1 topic
  everything : (w'.consumers k).point = .sleeping → ∀ topic ∈ (calls k).2,
    (w'.consumers k).yieldedFrom topic = published actions (calls k).1 topic
  suspends : (w.consumers k).point.live = true →
    w.state.running ((w.consumers k).key hash) = true → (w'.consumers k).point.live = true

/-- Every consumer delivers, whatever has happened in the process. -/
theorem World.delivers (hash : List String → Int) (calls : κ → Kind × List String)
    {actions : List (Action κ V T)} (hreadable : Readable time actions) (k : κ) :
    Delivers hash calls actions k (run time hash calls actions)
      ((run time hash calls actions).step time hash (.resume k)) := by
  have hsound := sound_run hash calls hreadable
  revert hsound
  generalize run time hash calls actions = w
  intro hsound
  have hreads := hsound.reads k
  have hresumed := hsound.stores.resume hash hreads
  have hreads' := hresumed.reads hreads
  have hafter : (w.step time hash (.resume k)).consumers k =
      ((w.consumers k).resume time hash w.state).2 := Function.update_self ..
  obtain ⟨hkind, htopics⟩ := hsound.calls k
  constructor
  · intro topic
    rw [← hkind]
    exact hreads.isPrefix topic
  · rw [hafter, ← hkind, ← htopics]
    revert hresumed hreads'
    generalize (w.consumers k).resume time hash w.state = r
    intro hresumed hreads' hsleeping topic htopic
    cases hresumed with
    | yields s' hs' topic' stop rest hnext hstop => cases hsleeping
    | sleeps s' hs' hall => exact hreads'.eq_of_length_le (hall topic htopic)
    | stopped hlive hflag => cases hsleeping
    | finished ending hpoint => rw [hpoint] at hsleeping; cases hsleeping
  · rw [hafter]
    revert hresumed
    generalize (w.consumers k).resume time hash w.state = r
    intro hresumed hlive hflag
    cases hresumed with
    | yields s' hs' topic' stop rest hnext hstop => rfl
    | sleeps s' hs' hall => rfl
    | stopped hlive' hflag' => rw [hflag] at hflag'; cases hflag'
    | finished ending hpoint => rw [hpoint] at hlive; cases hlive

/-- What a consumer of a topic has yielded when an item has been published to it. -/
def World.consumed (time : DateTimeCodec T) (hash : List String → Int) (topic : String)
    (item : Item V T) : List (Item V T) :=
  ((run time hash (fun _ : Unit => (item.kind, [topic]))
    [.publish item [topic], .resume ()]).consumers ()).yieldedFrom topic

/-- It is the item itself. -/
theorem World.consumed_eq (hash : List String → Int) (topic : String) {item : Item V T}
    (h : item.Readable time) : consumed time hash topic item = [item] := by
  have hdecode := decode_value h
  simp [consumed, run, start, step, set, Consumer.create, Consumer.resume, Consumer.turn,
    Consumer.key, ClassState.setRunning, ClassState.publish, ClassState.append,
    ClassState.forTopics, ClassState.readMessage, hdecode, Consumer.yields,
    Consumer.yieldedFrom]

end Delivery

/-- Two consumers of the same topic, one of them called with it twice. -/
def sampleCalls : Bool → Kind × List String
  | false => (.event, ["shipments", "shipments"])
  | true => (.event, ["shipments"])

/-- An event is published while the first of them sleeps. -/
def sampleActions : List (Action Bool Json DateTime) :=
  [.resume false, .publish (.event sampleEvent) ["shipments", "orders"], .resume true,
    .resume false]

theorem World.delivers_sample :
    Delivers (fun topics => topics.length) sampleCalls sampleActions false
      (run sampleTime (fun topics => topics.length) sampleCalls sampleActions)
      ((run sampleTime (fun topics => topics.length) sampleCalls sampleActions).step sampleTime
        (fun topics => topics.length) (.resume false)) := by
  refine World.delivers _ sampleCalls ?_ false
  intro item topics hitem
  simp only [sampleActions, List.mem_cons, List.not_mem_nil, or_false, reduceCtorEq,
    false_or] at hitem
  cases hitem
  exact readsBack_sampleTime

end SupplyChainTracker.InMemory
