import Conformance.Recognition.Error

/-!
# Results

Each tested source has a result: it was accepted, or rejected at a recognition error. A collector
keeps the results in the order in which the sources were tested.
-/

namespace Conformance

/-- What became of a source. -/
structure SourceResult where
  /-- The name of the source. -/
  file : String
  /-- The error at which it was rejected, if it was. -/
  rejection : Option RecognitionError
  deriving Repr, DecidableEq, Inhabited

namespace SourceResult

/-- A source that was accepted. -/
def accepted (file : String) : SourceResult := ⟨file, none⟩

/-- A source that was rejected. -/
def rejected (file : String) (cause : RecognitionError) : SourceResult := ⟨file, some cause⟩

/-- The source was rejected. -/
def hasFailed (result : SourceResult) : Bool :=
  result.rejection.isSome

/-- Why the source was rejected. -/
def message? (result : SourceResult) : Option String :=
  result.rejection.map RecognitionError.message

end SourceResult

/-- The results of tested sources, in order. -/
structure Collector where
  /-- The results. -/
  results : Array SourceResult
  deriving Repr, DecidableEq, Inhabited

namespace Collector

/-- No result yet. -/
def empty : Collector := ⟨#[]⟩

/-- The collector with one more result. -/
def add (collector : Collector) (result : SourceResult) : Collector :=
  ⟨collector.results.push result⟩

/-- The number of results. -/
def count (collector : Collector) : Nat :=
  collector.results.size

/-- The results of rejected sources, in order. -/
def failures (collector : Collector) : List SourceResult :=
  collector.results.toList.filter SourceResult.hasFailed

/-- The number of rejected sources. -/
def countFailed (collector : Collector) : Nat :=
  collector.failures.length

/-- The number of accepted sources. -/
def countPassed (collector : Collector) : Nat :=
  collector.count - collector.countFailed

/-- Some source was rejected. -/
def hasFailed (collector : Collector) : Bool :=
  collector.results.any SourceResult.hasFailed

/-- A result is added after the others. -/
@[simp] theorem toList_results_add (collector : Collector) (result : SourceResult) :
    (collector.add result).results.toList = collector.results.toList ++ [result] := by
  simp [add]

/-- There are at most as many rejected sources as sources. -/
theorem countFailed_le_count (collector : Collector) :
    collector.countFailed ≤ collector.count := by
  simpa [countFailed, count, failures] using
    List.length_filter_le SourceResult.hasFailed collector.results.toList

/-- The accepted and the rejected sources are all sources. -/
theorem countFailed_add_countPassed (collector : Collector) :
    collector.countFailed + collector.countPassed = collector.count := by
  have bound := collector.countFailed_le_count
  simp only [countPassed]
  omega

end Collector

end Conformance
