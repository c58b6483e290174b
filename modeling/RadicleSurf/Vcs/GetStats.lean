import Mathlib.Data.Finset.Card
import RadicleSurf.FileSystem

/-! # Counting a history: `Browser::get_stats`

`get_stats` counts the local branches the repository lists, the commits of the browser's
history, and the distinct (name, email) pairs of their authors, collected in a `BTreeSet`.
commit.rs, stats.rs, repo.rs and vcs.rs are not in this source: `Commit` and `Author` keep
the fields `get_stats` reads, `Stats` the three it fills, and the repository's branch
listing is the parameter `listBranches`. -/

namespace RadicleSurf.Vcs

/-- `vcs::git::Stats`, the three counts `get_stats` fills. -/
structure Stats where
  branches : Nat
  commits : Nat
  contributors : Nat
deriving DecidableEq, Repr

variable {ε Branch : Type}

end RadicleSurf.Vcs
