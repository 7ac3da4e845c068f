import ExprLexer.Demo
import ExprLexer.Proofs.Grammar.Trace
import ExprLexer.Proofs.Report.Block
import Mathlib

/-!
What a demonstration run prints.

A run fails where the settings cannot be read, and then it has printed nothing; an expression that
is not read is no failure of the run. Otherwise it prints a block for every selected expression, of
which there is always one, and then the trailer. A block knows nothing of the others, so the blocks
of two lists stand under each other as the lists do.
-/

namespace ExprLexer

namespace Settings

end Settings

namespace Demo

variable {o : Options} {ambient : Log.Filter} {stored : Settings.Stored} {f : Failure}
  {s : Settings}

lemma run_of_error (h : Settings.load stored = .error f) :
    run o ambient stored = ⟨1, [], "Error: ".toList ++ f.message ++ ['\n'], []⟩ := by
  simp [run, h]

lemma run_of_ok (h : Settings.load stored = .ok s) :
    run o ambient stored =
      ⟨0, blocks (o.json || s.json) (s.selected o.expressions) ++ trailer s.faulty, [],
        filter o ambient (log s (s.selected o.expressions))⟩ := by
  simp [run, h]

/-- **A run shows no log** if it is not verbose and the reader asks for nothing less severe than
warnings: nothing in the log is as severe. -/
lemma log_run_of_not_verbose {l : Log.Level} (h : o.verbose = false)
    (hl : l.rank < Log.Level.info.rank) : (run o (Log.visible l) stored).log = [] := by
  rcases hload : Settings.load stored with f | s
  · rw [run_of_error hload]
  · rw [run_of_ok hload]
    have hfilter : filter o (Log.visible l) = Log.visible l := by simp [filter, h]
    simp only [hfilter]
    refine Log.visible_eq_nil fun r _ => Nat.lt_of_lt_of_le hl ?_
    cases r with
    | span s => exact (by decide : Log.Level.info.rank ≤ Log.Level.debug.rank)
    | event x => cases x <;> simp [Log.Record.level, Log.Event.level, Log.Level.rank]

/-! ### The trailer -/

end Demo

end ExprLexer
