import SupplyChainTracker.Core.Async.Noted
import SupplyChainTracker.Libs.Messaging
import SupplyChainTracker.Python.DateTime

/-!
# Logs of the workers

The context variables, `JsonFormatter` and the loggers, and the loop of a worker, which sets the
correlation id for a message that has one. The variable outlives the message, so a message
without an id is logged under the one of an earlier message.
-/

namespace SupplyChainTracker

/-- The levels the workers log at. -/
inductive LogLevel : Type
  | info
  | warning
  | error
  deriving DecidableEq, Repr

namespace LogLevel

/-- `levelno`. -/
def levelno : LogLevel → Nat
  | info => 20
  | warning => 30
  | error => 40

/-- `levelname`. -/
def levelname : LogLevel → String
  | info => "INFO"
  | warning => "WARNING"
  | error => "ERROR"

end LogLevel

/-- A record; no worker passes a correlation id as an `extra` of its own. -/
structure LogRecord (ε : Type) where
  level : LogLevel
  message : String
  extra : List (String × Json) := []
  excInfo : Option ε := none
  noCorrelationId : ∀ p ∈ extra, p.1 ≠ "correlation_id" := by simp

/-- A record without `extra`s. -/
def LogRecord.of {ε : Type} (level : LogLevel) (message : String)
    (excInfo : Option ε := none) : LogRecord ε where
  level := level
  message := message
  excInfo := excInfo

/-- The context variables. -/
structure LogContext where
  correlationId : Option String := none
  serviceName : Option String := none
  environment : Option String := some "local"

/-- `set_correlation_id`. -/
def setCorrelationId (correlationId : String) (context : LogContext) : LogContext :=
  { context with correlationId := some correlationId }

namespace JsonFormatter

/-- The entry of a variable that is set to a text that is not empty. -/
def entry (key : String) : Option String → List (String × Json)
  | none => []
  | some text => if text = "" then [] else [(key, .str text)]

/-- The attributes of a record that are not copied. -/
def skipped : List String :=
  ["name", "msg", "args", "levelname", "levelno", "pathname", "filename", "module", "exc_info",
    "exc_text", "stack_info", "lineno", "funcName", "created", "msecs", "relativeCreated",
    "thread", "threadName", "processName", "process"]

/-- Copy one `extra` to the payload. -/
def copy (payload : List (String × Json)) (p : String × Json) : List (String × Json) :=
  if p.1.startsWith "_" ∨ p.1 ∈ skipped ∨ (Json.lookup p.1 payload).isSome then payload
  else payload ++ [p]

/-- `format`, before `json.dumps`, at a time and with a `formatException`. -/
def format {ε : Type} (context : LogContext) (name : String) (now : DateTime)
    (formatException : ε → String) (record : LogRecord ε) : List (String × Json) :=
  let payload :=
    [("timestamp", Json.str (DateTimeText.isoformat now)),
      ("level", .str record.level.levelname), ("message", .str record.message),
      ("logger", .str name)] ++
    entry "correlation_id" context.correlationId ++ entry "service" context.serviceName ++
    entry "environment" context.environment
  let payload := record.extra.foldl copy payload
  match record.excInfo with
  | none => payload
  | some e => payload ++ [("exc_info", .str (formatException e))]

end JsonFormatter

/-- A line of a log. -/
inductive LogLine : Type
  | json (payload : List (String × Json))
  | plain (text : String)

/-- The correlation id that a line carries. -/
def LogLine.correlationId? : LogLine → Option Json
  | json payload => Json.lookup "correlation_id" payload
  | plain _ => none

/-- What a logger hands its records to. -/
inductive LogHandler : Type
  | json
  | lastResort

/-- A logger with its effective level. -/
structure Logger where
  name : String
  level : Nat
  handler : LogHandler

/-- `get_json_logger`. -/
def getJsonLogger (name : String) : Logger := ⟨name, LogLevel.info.levelno, .json⟩

/-- `logging.getLogger`, of a logger that nothing has configured: it has the level of the root
logger, and the handler of last resort writes the message alone. -/
def getLogger (name : String) : Logger := ⟨name, LogLevel.warning.levelno, .lastResort⟩

/-- The line that a logger writes for a record, if it is enabled for its level. -/
def Logger.write {ε : Type} (logger : Logger) (context : LogContext) (now : DateTime)
    (formatException : ε → String) (record : LogRecord ε) : Option LogLine :=
  if record.level.levelno < logger.level then none
  else match logger.handler with
    | .json => some (.json (JsonFormatter.format context logger.name now formatException record))
    | .lastResort =>
        match record.excInfo with
        | none => some (.plain record.message)
        | some e => some (.plain (record.message ++ "\n" ++ formatException e))

/-- Looking up in what has been appended to. -/
theorem Json.lookup_append (key : String) (xs ys : List (String × Json)) :
    Json.lookup key (xs ++ ys) = (Json.lookup key xs).or (Json.lookup key ys) := by
  induction xs with
  | nil => rfl
  | cons p xs ih =>
    rw [List.cons_append, Json.lookup, Json.lookup, ih]
    split_ifs <;> rfl

namespace JsonFormatter

/-- A variable is found under its own key. -/
theorem lookup_entry_self (key : String) (value : Option String) :
    Json.lookup key (entry key value) = (value.filter (· ≠ "")).map .str := by
  cases value with
  | none => rfl
  | some text => by_cases h : text = "" <;> simp [entry, h, Json.lookup]

theorem lookup_entry_of_ne {key key' : String} (h : key' ≠ key) (value : Option String) :
    Json.lookup key (entry key' value) = none := by
  cases value with
  | none => rfl
  | some text => by_cases ht : text = "" <;> simp [entry, ht, Json.lookup, h]

/-- Copied entries of other keys are not found. -/
theorem lookup_foldl_copy {key : String} (extra payload : List (String × Json))
    (h : ∀ p ∈ extra, p.1 ≠ key) :
    Json.lookup key (extra.foldl copy payload) = Json.lookup key payload := by
  induction extra generalizing payload with
  | nil => rfl
  | cons p extra ih =>
    rw [List.foldl_cons, ih _ fun q hq => h q (List.mem_cons_of_mem p hq), copy]
    split_ifs
    · rfl
    · rw [Json.lookup_append, Json.lookup, if_neg (h p (List.mem_cons_self ..))]
      exact Option.or_none

/-- A formatted record carries the correlation id of its context. -/
theorem lookup_format {ε : Type} (context : LogContext) (name : String) (now : DateTime)
    (formatException : ε → String) (record : LogRecord ε) :
    Json.lookup "correlation_id" (format context name now formatException record) =
      (context.correlationId.filter (· ≠ "")).map .str := by
  have hservice := lookup_entry_of_ne (show "service" ≠ "correlation_id" by decide)
  have henvironment := lookup_entry_of_ne (show "environment" ≠ "correlation_id" by decide)
  rw [format]
  cases record.excInfo with
  | none =>
    simp [lookup_foldl_copy _ _ record.noCorrelationId, Json.lookup_append, Json.lookup,
      lookup_entry_self, hservice, henvironment]
  | some e =>
    simp [lookup_foldl_copy _ _ record.noCorrelationId, Json.lookup_append, Json.lookup,
      lookup_entry_self, hservice, henvironment]

end JsonFormatter

/-- A JSON logger writes every record of a worker. -/
theorem write_getJsonLogger {ε : Type} (name : String) (context : LogContext) (now : DateTime)
    (formatException : ε → String) (record : LogRecord ε) :
    (getJsonLogger name).write context now formatException record =
      some (.json (JsonFormatter.format context name now formatException record)) := by
  have hlevel : ¬ record.level.levelno < LogLevel.info.levelno := by
    cases record.level <;> decide
  exact if_neg hlevel

section Workers

variable {M ε : Type} (given : M → Option UUID)

/-- Before a message is handled its correlation id is set, if it has one. -/
def enterMessage (m : M) (context : LogContext) : LogContext :=
  match given m with
  | none => context
  | some correlationId => setCorrelationId correlationId.str context

/-- Every line written while a message is handled carries the correlation id of the message, and
none if the message has none. -/
def LogsScoped (logger : Logger) (handled : List (Handled M LogContext (LogRecord ε))) : Prop :=
  ∀ h ∈ handled, ∀ record ∈ h.notes, ∀ now formatException,
    ∀ line ∈ logger.write h.context now formatException record,
      line.correlationId? = (given h.message).map (Json.str ∘ UUID.str)

/-- The first message, and the rest. -/
theorem logsScoped_cons {logger : Logger} {h : Handled M LogContext (LogRecord ε)}
    {hs : List (Handled M LogContext (LogRecord ε))} :
    LogsScoped given logger (h :: hs) ↔
      (∀ record ∈ h.notes, ∀ now formatException,
        ∀ line ∈ logger.write h.context now formatException record,
          line.correlationId? = (given h.message).map (Json.str ∘ UUID.str)) ∧
      LogsScoped given logger hs := List.forall_mem_cons

/-- No message without a correlation id comes after one with. -/
def UnidentifiedFirst (ids : List (Option UUID)) : Prop :=
  ids.Pairwise fun earlier later => later = none → earlier = none

variable {given}

/-- The id can be read back from its entry. -/
theorem json_str_str_injective : Function.Injective (Json.str ∘ UUID.str) := by
  intro u v h
  have hparse : (Json.str u.str).uuid = (Json.str v.str).uuid := congrArg Json.uuid h
  rw [Json.uuid_str, Json.uuid_str] at hparse
  exact Option.some.inj hparse

/-- A line of a JSON logger carries the id of its context. -/
theorem correlationId?_of_mem_write {name : String} {context : LogContext}
    {current : Option UUID} (hcontext : context.correlationId = current.map UUID.str)
    {now : DateTime} {formatException : ε → String} {record : LogRecord ε} {line : LogLine}
    (hline : line ∈ (getJsonLogger name).write context now formatException record) :
    line.correlationId? = current.map (Json.str ∘ UUID.str) := by
  rw [write_getJsonLogger, Option.mem_def, Option.some.injEq] at hline
  rw [← hline, LogLine.correlationId?, JsonFormatter.lookup_format, hcontext]
  cases current with
  | none => rfl
  | some correlationId => simp [UUID.str_ne_empty]

/-- What is logged in the context of some id is scoped exactly if it is the id of the message. -/
theorem forall_line_iff {name : String} {context : LogContext} {current : Option UUID}
    (hcontext : context.correlationId = current.map UUID.str)
    {records : List (LogRecord ε)} (hne : records ≠ []) (id : Option UUID) :
    (∀ record ∈ records, ∀ now formatException,
      ∀ line ∈ (getJsonLogger name).write context now formatException record,
        line.correlationId? = id.map (Json.str ∘ UUID.str)) ↔ current = id := by
  constructor
  · intro h
    obtain ⟨record, rest, rfl⟩ := List.exists_cons_of_ne_nil hne
    have hwrite := write_getJsonLogger name context 0 (fun _ => "") record
    exact Option.map_injective json_str_str_injective
      ((correlationId?_of_mem_write hcontext hwrite).symm.trans
        (h record (List.mem_cons_self ..) 0 _ _ hwrite))
  · rintro rfl record - now formatException line hline
    exact correlationId?_of_mem_write hcontext hline

/-- The context of a message has its id, or the one before it has none. -/
theorem enterMessage_correlationId (given : M → Option UUID) (m : M) {context : LogContext}
    {current : Option UUID}
    (hcontext : context.correlationId = current.map UUID.str) :
    (enterMessage given m context).correlationId = ((given m).or current).map UUID.str := by
  rw [enterMessage]
  cases given m with
  | none => exact hcontext
  | some correlationId => rfl

variable {Op W : Type} {Ans : Op → Type} {act : (op : Op) → W → Except ε (Ans op) × W}
  {handle : M → Coroutine (Noted Op (LogRecord ε)) (Noted.Ans Ans) ε Unit}

/-- Where something is logged for every message without an id, the lines of a JSON logger are
scoped exactly if no such message comes after one with an id; the id that is set at the start
counts as one of a message before the first. -/
theorem logsScoped_handleEach_iff {name : String}
    (hnotes : ∀ m, given m = none → ∀ w, (handle m).notes act w ≠ []) (ms : List M)
    {context : LogContext} {current : Option UUID}
    (hcontext : context.correlationId = current.map UUID.str) (w : W) :
    LogsScoped given (getJsonLogger name)
        (handleEach act (enterMessage given) handle ms context w).1 ↔
      UnidentifiedFirst (current :: ms.map given) := by
  induction ms generalizing context current w with
  | nil => simp [LogsScoped, handleEach, UnidentifiedFirst]
  | cons m ms ih =>
    have henter := enterMessage_correlationId given m hcontext
    rw [handleEach_cons, logsScoped_cons, ih henter]
    rw [UnidentifiedFirst, UnidentifiedFirst, List.map_cons, List.pairwise_cons,
      List.pairwise_cons, List.pairwise_cons, List.forall_mem_cons]
    cases hm : given m with
    | none =>
      rw [forall_line_iff henter (hnotes m hm w), hm, Option.none_or]
      constructor
      · rintro ⟨hcurrent, hlater, hms⟩
        exact ⟨⟨fun _ => hcurrent, hlater⟩, fun _ _ _ => rfl, hms⟩
      · rintro ⟨⟨hcurrent, hlater⟩, _, hms⟩
        exact ⟨hcurrent rfl, hlater, hms⟩
    | some correlationId =>
      rw [hm, Option.some_or] at henter
      rw [Option.some_or]
      constructor
      · rintro ⟨_, hlater, hms⟩
        refine ⟨⟨fun hnone => (Option.some_ne_none _ hnone).elim, fun x hx hnone => ?_⟩, hlater,
          hms⟩
        exact (Option.some_ne_none _ (hlater x hx hnone)).elim
      · rintro ⟨_, hlater, hms⟩
        refine ⟨fun record _ now formatException line hline => ?_, hlater, hms⟩
        exact correlationId?_of_mem_write henter hline

/-- The same of a loop at whose start no id is set. -/
theorem logsScoped_handleEach_start_iff {name : String}
    (hnotes : ∀ m, given m = none → ∀ w, (handle m).notes act w ≠ []) (ms : List M)
    (serviceName environment : Option String) (w : W) :
    LogsScoped given (getJsonLogger name)
        (handleEach act (enterMessage given) handle ms ⟨none, serviceName, environment⟩ w).1 ↔
      UnidentifiedFirst (ms.map given) := by
  have hstart : (none : Option String) = (none : Option UUID).map UUID.str := rfl
  rw [logsScoped_handleEach_iff hnotes ms hstart, UnidentifiedFirst, List.pairwise_cons]
  exact and_iff_right fun _ _ _ => rfl

end Workers

end SupplyChainTracker
