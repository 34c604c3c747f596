import PypnmCmts.CoordinationManager
import PypnmCmts.PosixPath

/-! `orchestrator/work_runner.py`: the placeholder tests of a service group, and the files that
their results are written to. -/
namespace PypnmCmts

inductive WorkStatus
  | success
  | failed
  | skipped
deriving DecidableEq

structure WorkItemModel where
  sgId : ServiceGroupId
  testName : String
  runId : String
deriving DecidableEq

structure WorkResultModel where
  sgId : ServiceGroupId
  testName : String
  status : WorkStatus
  durationSeconds : ℚ
  errorMessage : String
deriving DecidableEq

/-- What is at the path of a result. A write that fails may leave anything. -/
inductive ResultFile
  | absent
  | torn
  | holds (result : WorkResultModel)
deriving DecidableEq

abbrev ResultTree := PosixPath → ResultFile

/-- What the clock shows around a test, and how its file is written: not at all, in part, or as a
whole. -/
structure TestAnswers where
  startTime : ℚ
  endTime : ℚ
  opened : Bool
  written : Bool

namespace WorkRunner

def resultsDirName : String := "results"
def minDurationSeconds : ℚ := 1/1000000
def testNameSeparator : Char := '_'

/-- `value.replace(old, new)` for single characters. -/
def replaceChar (old new : Char) (value : String) : String :=
  String.ofList (value.toList.map fun c => if c = old then new else c)

def sanitizeTestName (value : String) : String :=
  let pnmName := PyText.strip value
  let pnmName := replaceChar '/' testNameSeparator pnmName
  replaceChar '\\' testNameSeparator pnmName

variable (stateDir : PosixPath)

def resultFilename (item : WorkItemModel) : String :=
  item.runId ++ "_" ++ sanitizeTestName item.testName ++ ".json"

def resultPath (item : WorkItemModel) : PosixPath :=
  ((stateDir.join resultsDirName).join ("sg_" ++ toString item.sgId)).join (resultFilename item)

/-- What fails here is logged and forgotten. -/
def persistResult (item : WorkItemModel) (result : WorkResultModel) (answers : TestAnswers)
    (files : ResultTree) : ResultTree :=
  if !answers.opened then files
  else if !answers.written then Function.update files (resultPath stateDir item) .torn
  else Function.update files (resultPath stateDir item) (.holds result)

/-- The tests in turn, with the answers for each. -/
def runPnmTests (sgId : ServiceGroupId) (runId : String) :
    List String → (ℕ → TestAnswers) → ResultTree → List WorkResultModel × ResultTree
  | [], _, files => ([], files)
  | pnmTestName :: rest, answers, files =>
    let item : WorkItemModel := ⟨sgId, pnmTestName, runId⟩
    let duration := max ((answers 0).endTime-(answers 0).startTime) minDurationSeconds
    let result : WorkResultModel := ⟨sgId, item.testName, .success, duration, ""⟩
    let (results, files) := runPnmTests sgId runId rest (fun n => answers (n+1))
      (persistResult stateDir item result (answers 0) files)
    (result :: results, files)

variable {stateDir}

theorem persistResult_of_ne {item : WorkItemModel} {path : PosixPath}
    (h : path ≠ resultPath stateDir item) (result : WorkResultModel) (answers : TestAnswers)
    (files : ResultTree) : persistResult stateDir item result answers files path = files path := by
  unfold persistResult
  split
  · rfl
  · split
    · exact Function.update_of_ne h _ _
    · exact Function.update_of_ne h _ _

/-- One result for each test, all of them for the group. -/
theorem results_runPnmTests {sgId : ServiceGroupId} {runId : String} (tests : List String)
    (answers : ℕ → TestAnswers) (files : ResultTree) :
    (runPnmTests stateDir sgId runId tests answers files).1.map (fun r => (r.sgId, r.testName)) =
      tests.map fun name => (sgId, name) := by
  induction tests generalizing answers files with
  | nil => rfl
  | cons name rest ih => exact congrArg _ (ih _ _)

/-- Only the paths of the tests are written to. -/
theorem files_runPnmTests {sgId : ServiceGroupId} {runId : String} (tests : List String)
    (answers : ℕ → TestAnswers) (files : ResultTree) {path : PosixPath}
    (h : (runPnmTests stateDir sgId runId tests answers files).2 path ≠ files path) :
    ∃ name ∈ tests, path = resultPath stateDir ⟨sgId, name, runId⟩ := by
  induction tests generalizing answers files with
  | nil => exact absurd rfl h
  | cons name rest ih =>
    by_cases hpath : path = resultPath stateDir ⟨sgId, name, runId⟩
    · exact ⟨name, List.mem_cons_self, hpath⟩
    · rw [← persistResult_of_ne hpath
        ⟨sgId, name, .success, max ((answers 0).endTime-(answers 0).startTime) minDurationSeconds,
          ""⟩ (answers 0) files] at h
      obtain ⟨other, hmem, hother⟩ := ih _ _ h
      exact ⟨other, List.mem_cons_of_mem _ hmem, hother⟩

end WorkRunner
end PypnmCmts
