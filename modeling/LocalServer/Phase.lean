/-!
# Phases of a bootstrap attempt

An attempt starts unchecked. It ends ready as soon as a server answers,
and otherwise goes on to look for the runtime, to start the server, and to
wait until the server answers; each of these may fail. `Phase.Next` is the
graph of the steps that are allowed.
-/

namespace LocalServer

/-- **The phase** of a bootstrap attempt. -/
inductive Phase where
  | unchecked
  | discovering
  | spawning
  | waitingHealthy
  | ready
  | failed
deriving DecidableEq, Repr

namespace Phase

/-- The name of a phase. -/
def name : Phase → String
  | .unchecked => "UNCHECKED"
  | .discovering => "DISCOVERING"
  | .spawning => "SPAWNING"
  | .waitingHealthy => "WAITING_HEALTHY"
  | .ready => "READY"
  | .failed => "FAILED"

/-- **The steps that are allowed** from one phase to the next. An attempt
on an address that cannot be used fails before it looks for anything; from
any later phase on, the attempt may fail, and a server may turn out to
answer in each phase but while it is being started. -/
inductive Next : Phase → Phase → Prop where
  | found : Next .unchecked .ready
  | refuse : Next .unchecked .failed
  | discover : Next .unchecked .discovering
  | foundMeanwhile : Next .discovering .ready
  | notDiscovered : Next .discovering .failed
  | spawn : Next .discovering .spawning
  | notSpawned : Next .spawning .failed
  | await : Next .spawning .waitingHealthy
  | healthy : Next .waitingHealthy .ready
  | unhealthy : Next .waitingHealthy .failed

/-- Nothing follows on a phase that ends an attempt. -/
theorem not_next_of_final {p q : Phase} (h : p = .ready ∨ p = .failed) : ¬ Next p q := by
  rintro ⟨⟩ <;> simp at h

end Phase

end LocalServer
