import BuildingModel.Json.Writer
import BuildingModel.Validation.Report

/-!
# Reports as JSON
-/
namespace BuildingModel.Validation

open BuildingModel.Json

def Result.json (r : Result) : Value :=
  .object [
    ("focus_node", .string r.focusNode), ("result_path", .ofText? r.path),
    ("value", .ofText? r.value), ("message", .string r.message),
    ("severity", .string r.severity.name), ("source_shape", .string r.shape),
    ("source_constraint", .ofText? r.constraint)]

def Report.json (r : Report) : Value :=
  .object [("results", .array (r.results.map Result.json)), ("conforms", .boolean r.conforms)]

end BuildingModel.Validation
