namespace Rifflex

inductive WorkerError where
  | noAvailableLocalDisk
  | internalError
  | partialDataLost (root : String)
  | localDiskUnhealthy (root : String)
  | localDiskOwnedByPartitionCorrupted (root : String)
  | noEnoughMemoryToBeAllocated
  | memoryUsageLimitedByHugePartition
  | other (message : String)
  | ticketIdNotExist (ticketId : Int)
  | spillEventExceedRetryMaxLimit (appId : String)
  | streamIncomplete
  | streamIncorrect (message : String)
  | streamAbnormal
  | streamMessageTypeNotFound
deriving DecidableEq, Repr

end Rifflex
