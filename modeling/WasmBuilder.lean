import WasmBuilder.Main
import WasmBuilder.Module.Operation
import WasmBuilder.Reader.Contents
import WasmBuilder.Proofs.Leb128
import WasmBuilder.Proofs.Leb128.Minimal
import WasmBuilder.Proofs.Leb128.Strict
import WasmBuilder.Proofs.Leb128.Widening
import WasmBuilder.Proofs.LocalGroup
import WasmBuilder.Proofs.BlockType
import WasmBuilder.Proofs.Reader.Basic
import WasmBuilder.Proofs.Sink
import WasmBuilder.Proofs.Reader.Types
import WasmBuilder.Proofs.Operator
import WasmBuilder.Proofs.Code.Mismatch
import WasmBuilder.Proofs.Code.Route
import WasmBuilder.Proofs.Reader.Instruction
import WasmBuilder.Proofs.Reader.Stream
import WasmBuilder.Proofs.Reader.Walk
import WasmBuilder.Proofs.Reader.Contents
import WasmBuilder.Proofs.Module.Addition
import WasmBuilder.Proofs.Module.IndexSpace
import WasmBuilder.Proofs.Module.Sink
import WasmBuilder.Proofs.Module.Trace
import WasmBuilder.Proofs.Module.Failure
import WasmBuilder.Proofs.Module.Freeze
import WasmBuilder.Proofs.Module.Bodies
import WasmBuilder.Proofs.Module.Entries
import WasmBuilder.Proofs.Section.Kinds
import WasmBuilder.Proofs.Module.DataCount
import WasmBuilder.Proofs.Module.Population
import WasmBuilder.Proofs.Module.Targets
import WasmBuilder.Proofs.Module.Log
