import RzRouter.Error

/-!
# Configuration (`config.rs`)

The fields that the modelled functions read.  Durations are natural numbers of clock ticks.
-/

namespace RzRouter

/-- `RouterMode`. -/
inductive RouterMode
  | edge
  | zone
  deriving DecidableEq, Repr

/-- The limits of `Config` that `handle_connection` reads.  The fields start with the defaults of
the command line, in seconds and bytes. -/
structure Config where
  frameTimeout : Nat := 20
  idleTimeout : Nat := 90
  maxBufferSize : Nat := 262144
  maxFrameSize : Nat := 16384
  deriving DecidableEq, Repr

/-- The arguments that `parse` checks. -/
structure CommandLine extends Config where
  mode : RouterMode := .edge
  zoneId : Option String := none
  routerId : Option String := none
  deriving DecidableEq, Repr

/-- `Config::parse`, from the parsed arguments on. -/
def Config.parse (args : CommandLine) : Except RZError CommandLine :=
  if args.mode = .zone ∧ (args.zoneId = none ∨ args.zoneId = some "") then
    .error (.config "zone_id is required for zone mode")
  else if args.mode = .zone ∧ (args.routerId = none ∨ args.routerId = some "") then
    .error (.config "router_id is required for zone mode")
  else if args.maxFrameSize > args.maxBufferSize then
    .error (.config "max_frame_size cannot be larger than max_buffer_size")
  else if args.frameTimeout = 0 then .error (.config "frame_timeout_secs must be > 0")
  else .ok args

/-- Nothing is changed, and of the two limits only their order is checked. -/
theorem Config.of_parse {args cfg : CommandLine} (h : Config.parse args = .ok cfg) :
    cfg = args ∧ cfg.maxFrameSize ≤ cfg.maxBufferSize ∧ 0 < cfg.frameTimeout := by
  unfold Config.parse at h
  split at h
  · cases h
  · split at h
    · cases h
    · split at h
      · cases h
      · rename_i hsize
        split at h
        · cases h
        · rename_i htimeout
          cases h
          exact ⟨rfl, Nat.not_lt.mp hsize, Nat.pos_of_ne_zero htimeout⟩

example : Config.parse {} = .ok {} := rfl

end RzRouter
