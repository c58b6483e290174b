import RadicleSurf.FileSystem
import RadicleSurf.Git2
import RadicleSurf.Diff.Model
import RadicleSurf.Diff.Stats
import RadicleSurf.Diff.Traversal
import RadicleSurf.Diff.MergeJoin
import RadicleSurf.Diff.TreeDiff
import RadicleSurf.Diff.Invert
import RadicleSurf.Diff.Soundness
import RadicleSurf.Diff.Paths
import RadicleSurf.Diff.Git.Content
import RadicleSurf.Diff.Git.Convert
import RadicleSurf.Vcs.GetTree
import RadicleSurf.Vcs.GetStats
