import Registrar.Pass.Basic

/-!
# Remembering the last pass

Passes are repeated at every edit, and most edits change no declaration. A `Memo` keeps the last
pass and answers from it as long as the declarations and the configuration stay the same. Passes
are numbered, so that it can be told whether an answer is the remembered one.

A pass is remembered together with a fingerprint of its batch; where the fingerprints differ, the
batches need not be compared. The fingerprint is only a first look: the batches are compared as
well.
-/

namespace Registrar

/-- A pass that was run. -/
structure Memo.Pass where
  /-- How many passes were run before. -/
  number : Nat
  fingerprint : UInt64
  batch : Batch
  output : Output
deriving DecidableEq, Repr

/-- A configuration, and the last pass run under it, if it is still of use. -/
structure Memo where
  config : Config
  last : Option Memo.Pass := none
  /-- How many passes were run. -/
  count : Nat := 0
deriving DecidableEq, Repr

namespace Memo

/-- Work under another configuration from now on. -/
def setConfig (memo : Memo) (config : Config) : Memo :=
  if config = memo.config then memo else { memo with config, last := none }

def remembered? (memo : Memo) (fingerprint : Batch → UInt64) (batch : Batch) : Option Pass :=
  memo.last.filter fun pass => pass.fingerprint = fingerprint batch && pass.batch = batch

def run (memo : Memo) (fingerprint : Batch → UInt64) (batch : Batch) : Memo × Pass :=
  let pass : Pass :=
    { number := memo.count, fingerprint := fingerprint batch, batch
      output := Registrar.compile batch memo.config }
  ({ memo with last := some pass, count := memo.count + 1 }, pass)

/-- The pass over a batch: the remembered one, or a new one. -/
def compile (memo : Memo) (fingerprint : Batch → UInt64) (batch : Batch) : Memo × Pass :=
  match memo.remembered? fingerprint batch with
  | some pass => (memo, pass)
  | none => memo.run fingerprint batch

end Memo

end Registrar
