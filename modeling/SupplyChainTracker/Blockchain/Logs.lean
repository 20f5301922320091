import SupplyChainTracker.Blockchain.Worker
import SupplyChainTracker.Libs.Logging

/-!
# What `BlockchainWorker` logs

Its logger is none of the JSON loggers, so its lines carry no correlation id, and of its two
records only the error is enabled.
-/

namespace SupplyChainTracker.Blockchain

open Coroutine (note quiet)

/-- A program that logs. -/
abbrev LoggedProgram : Type → Type :=
  Coroutine (Noted Call (LogRecord BlockchainError)) (Noted.Ans Call.Ans) BlockchainError

/-- `str(e)`. -/
def BlockchainError.text : BlockchainError → String
  | keyError key => "'" ++ key ++ "'"
  | valueError message => message
  | attributeError message => message
  | database violated => violated
  | external message => message

namespace BlockchainWorker.Logged

/-- The logger of the worker. -/
def logger : Logger := getLogger "BlockchainWorker"

variable (worker : BlockchainWorker)

/-- The record of an event that is processed. -/
def processing (event : Event) : LogRecord BlockchainError :=
  .of .info ("Processing event: " ++ event.eventType)

/-- The record of an exception. -/
def errorProcessing (event : Event) (e : BlockchainError) : LogRecord BlockchainError :=
  .of .error ("Error processing event " ++ event.eventType ++ ": " ++ e.text) (some e)

/-- The body of the `try` in `run`. -/
def process (yielded : Yielded) : LoggedProgram Unit := do
  note (processing yielded.event)
  quiet (BlockchainWorker.process yielded)

/-- The body of the loop in `run`. -/
def handle (yielded : Yielded) : LoggedProgram Unit :=
  if yielded.event.eventType ∈ worker.targetEvents then
    (process yielded).tryCatch fun e => note (errorProcessing yielded.event e)
  else return ()

/-- `run`, for the events that have been yielded. -/
def run : List Yielded → LogContext → World →
    List (Handled Yielded LogContext (LogRecord BlockchainError)) × World :=
  handleEach act (enterMessage fun yielded => yielded.event.correlationId) (handle worker)

/-- Without its records the worker does nothing about an event. -/
theorem erase_handle (y : Yielded) : (handle worker y).erase = .ret () := by
  rw [handle]
  split_ifs <;> rfl

/-- The loop leaves what the loop without records does. -/
theorem snd_run (yielded : List Yielded) (context : LogContext) (w : World) :
    (run worker yielded context w).2 = ((worker.run yielded).run act w).2 := by
  rw [run, snd_handleEach, worker.run_eq]
  induction yielded generalizing w with
  | nil => rfl
  | cons y rest ih => rw [List.foldl_cons, ih, erase_handle, Coroutine.run_ret, Coroutine.run_ret]

/-- What is recorded for an event. -/
theorem notes_handle (y : Yielded) (w : World) :
    (handle worker y).notes act w =
      if y.event.eventType ∈ worker.targetEvents then
        [processing y.event, errorProcessing y.event
          (.attributeError "'UUID' object has no attribute 'replace'")]
      else [] := by
  rw [handle]
  split_ifs <;> rfl

/-- The one line that is written for a target event carries no correlation id. -/
theorem forall_line_iff (context : LogContext) (event : Event) (e : BlockchainError)
    (id : Option UUID) :
    (∀ record ∈ [processing event, errorProcessing event e], ∀ now formatException,
      ∀ line ∈ logger.write context now formatException record,
        line.correlationId? = id.map (Json.str ∘ UUID.str)) ↔ id = none := by
  have hinfo (now : DateTime) (formatException : BlockchainError → String) :
      logger.write context now formatException (processing event) = none := rfl
  have herror (now : DateTime) (formatException : BlockchainError → String) :
      logger.write context now formatException (errorProcessing event e) =
        some (.plain ((errorProcessing event e).message ++ "\n" ++ formatException e)) := rfl
  constructor
  · intro h
    have hnone := h (errorProcessing event e) (by simp) 0 (fun _ => "") _ (herror _ _)
    exact Option.map_eq_none_iff.mp hnone.symm
  · rintro rfl record hrecord now formatException line hline
    rcases List.mem_pair.mp hrecord with rfl | rfl
    · rw [hinfo] at hline
      cases hline
    · rw [herror] at hline
      obtain rfl := Option.some.inj hline
      rfl

/-- The lines of the worker carry the ids of their events exactly when no target event has
one. -/
theorem logsScoped_run_iff (yielded : List Yielded) (context : LogContext) (w : World) :
    LogsScoped (fun y : Yielded => y.event.correlationId) logger
        (run worker yielded context w).1 ↔
      ∀ y ∈ yielded, y.event.eventType ∈ worker.targetEvents → y.event.correlationId = none := by
  rw [run]
  induction yielded generalizing context w with
  | nil => simp [LogsScoped, handleEach]
  | cons y rest ih =>
    rw [handleEach_cons, logsScoped_cons, ih, List.forall_mem_cons, notes_handle]
    refine and_congr_left' ?_
    split_ifs with htarget
    · rw [forall_line_iff, forall_prop_of_true htarget]
    · simp [htarget]

end BlockchainWorker.Logged

end SupplyChainTracker.Blockchain
