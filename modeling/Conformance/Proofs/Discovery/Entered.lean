import Conformance.Discovery.Scan
import Conformance.Proofs.Log.Course

/-!
# What the search for sources enters

A search that succeeds enters how many sources it found. One that fails enters its error where it
comes up, with the directory or the pattern that it is about. Only a walk that fails is not entered.
-/

namespace Conformance

open Log Log.Attempt

namespace DiscoveryError

/-- The events by which the search for sources enters its error. A walk that fails is not
entered. -/
def entered (file : Option String) : DiscoveryError → List Event
  | .directoryNotFound directory =>
    [(Event.error .directoryNotFound "Source directory not found").marked file
      [("directory", directory)]]
  | .invalidPattern pattern _ =>
    [(Event.error .invalidPattern "Invalid file set pattern").marked file [("pattern", pattern)]]
  | .walkFailed _ _ => []

/-- The events of a part of the search: those of its error, if it fails. -/
def enteredBy {α : Type} (file : Option String) : Except DiscoveryError α → List Event
  | .ok _ => []
  | .error error => error.entered file

end DiscoveryError

namespace FileSet

/-- Reading patterns enters nothing but the first one that is none. -/
theorem course_readPatterns (patterns : List String) : ∃ outcome, ∀ file,
    (readPatterns patterns).Course file (DiscoveryError.enteredBy file outcome) file outcome := by
  induction patterns with
  | nil => exact ⟨_, fun file => Course.pure file []⟩
  | cons pattern patterns ih =>
    unfold readPatterns
    cases Glob.ofText pattern with
    | error reason => exact ⟨_, fun file => (Course.throw file _).emit _ _⟩
    | ok glob =>
      obtain ⟨outcome, rest⟩ := ih
      cases outcome with
      | error error => exact ⟨_, fun file => (rest file).bind_error⟩
      | ok globs => exact ⟨_, fun file => (rest file).bind (Course.pure file _)⟩

/-- Scanning a file set enters nothing but its error. -/
theorem course_scan (set : FileSet) (tree : FileTree) : ∃ outcome, ∀ file,
    (set.scan tree).Course file (DiscoveryError.enteredBy file outcome) file outcome := by
  unfold scan
  by_cases missing : (!tree.isDirectory set.directory) = true
  · rw [if_pos missing]
    exact ⟨_, fun file => ((Course.throw file _).bind_error).emit _ _⟩
  · rw [if_neg missing]
    obtain ⟨included, includes⟩ := course_readPatterns set.includes
    obtain ⟨excluded, excludes⟩ := course_readPatterns set.excludes
    cases included with
    | error error => exact ⟨_, fun file => (includes file).bind_error⟩
    | ok includes' =>
      cases excluded with
      | error error => exact ⟨_, fun file => (includes file).bind (excludes file).bind_error⟩
      | ok excludes' =>
        cases tree.walk set.directory with
        | error reason =>
          exact ⟨_, fun file => (includes file).bind ((excludes file).bind (Course.throw file _))⟩
        | ok files =>
          exact ⟨_, fun file => (includes file).bind ((excludes file).bind (Course.pure file _))⟩

/-- Scanning file sets enters nothing but the first error. -/
theorem course_scanAll (tree : FileTree) (sets : List FileSet) : ∃ outcome, ∀ file,
    (scanAll tree sets).Course file (DiscoveryError.enteredBy file outcome) file outcome := by
  induction sets with
  | nil => exact ⟨_, fun file => Course.pure file []⟩
  | cons set sets ih =>
    unfold scanAll
    obtain ⟨found, scanned⟩ := course_scan set tree
    cases found with
    | error error => exact ⟨_, fun file => (scanned file).bind_error⟩
    | ok files =>
      obtain ⟨outcome, rest⟩ := ih
      cases outcome with
      | error error => exact ⟨_, fun file => (scanned file).bind (rest file).bind_error⟩
      | ok others =>
        exact ⟨_, fun file => (scanned file).bind ((rest file).bind (Course.pure file _))⟩

/-- The event of a search for sources that succeeds. -/
def discoveredEvent (file : Option String) (sets : List FileSet) (paths : List String) : Event :=
  (Event.success .discoveryCompleted "Source discovery completed").marked file
    [("filesets", toString sets.length), ("sources", toString paths.length)]

/-- That sources were found is no failure. -/
theorem isError_discoveredEvent (file : Option String) (sets : List FileSet)
    (paths : List String) : (discoveredEvent file sets paths).isError = false :=
  Event.isError_marked

/-- Nor is it a warning. -/
theorem isWarning_discoveredEvent (file : Option String) (sets : List FileSet)
    (paths : List String) : (discoveredEvent file sets paths).isWarning = false :=
  Event.isWarning_marked

/-- The events of a search for sources: how many there are, or its error. -/
def searchEvents (file : Option String) (sets : List FileSet) :
    Except DiscoveryError (List String) → List Event
  | .ok paths => [discoveredEvent file sets paths]
  | .error error => error.entered file

/-- The search for sources enters how many there are, or its error. -/
theorem course_discover (sets : List FileSet) (tree : FileTree) : ∃ outcome, ∀ file,
    (discover sets tree).Course file (searchEvents file sets outcome) file outcome := by
  obtain ⟨outcome, scanned⟩ := course_scanAll tree sets
  cases outcome with
  | error error => exact ⟨_, fun file => (scanned file).bind_error⟩
  | ok paths => exact ⟨_, fun file => (scanned file).bind ((Course.pure file paths).emit _ _)⟩

end FileSet

end Conformance
