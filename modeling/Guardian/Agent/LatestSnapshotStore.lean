import Guardian.Model.Metrics

/-! # The latest snapshot

The store keeps one snapshot under a mutex. Updates and reads are atomic, and a read is a copy.
-/

namespace Guardian.Agent

open Ipc (Bytes)

structure LatestSnapshot (Double : Type) where
  collectedAt : Int64
  cpu : Option (Model.CpuMetric Double)
  memory : Option Model.MemoryMetric
  collectionError : Bytes
  submissionError : Bytes
deriving DecidableEq

structure LatestSnapshotStore (Double : Type) where
  snapshot : Option (LatestSnapshot Double) := none
deriving DecidableEq

namespace LatestSnapshotStore

variable {Double : Type}

def update (_store : LatestSnapshotStore Double) (snapshot : LatestSnapshot Double) :
    LatestSnapshotStore Double := ⟨some snapshot⟩

def get (store : LatestSnapshotStore Double) : Option (LatestSnapshot Double) := store.snapshot

@[simp] theorem get_update (store : LatestSnapshotStore Double) (snapshot : LatestSnapshot Double) :
    (store.update snapshot).get = some snapshot := rfl

end LatestSnapshotStore

end Guardian.Agent
