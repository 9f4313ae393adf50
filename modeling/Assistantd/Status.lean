namespace Assistantd

/-- `assistantd_status_t`. -/
inductive Status where
  | ok
  | errInvalidArgument
  | errConfig
  | errIo
  | errChildProcess
  | errUnimplemented
  deriving DecidableEq, Repr

/-- A block of heap memory. The address names the allocation, so that two
blocks never share one. -/
structure Block where
  addr : Nat
  bytes : Nat → UInt8

end Assistantd
