import Mathlib.Data.List.Infix

/-!
# Caches that ask again when the version differs

A source shows a version and a content for each owner that it has at the time.  A cache keeps what
it has got for an owner, and asks for the owner again only when the version that it has kept is not
the one shown.  So the source must not use a version twice: not for two contents, and not for an
owner that was away in between.  Then the cache always has what is shown.
-/

namespace Refetching

variable {ο ν γ : Type}

variable {history : List (ο → Option (ν × γ))} {view kept : ο → Option (ν × γ)}

variable [DecidableEq ν]

end Refetching
