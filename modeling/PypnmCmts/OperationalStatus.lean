import Mathlib.Data.Prod.Lex
import Mathlib.Data.String.Basic
import PypnmCmts.JsonDumps
import PypnmCmts.KeyedSort
import PypnmCmts.OrderedDict
import PypnmCmts.PidFile
import PypnmCmts.PyConvert
import PypnmCmts.PyText

/-! `status` of `api/routes/operational/service.py`: what it reports from the pidfiles and, where
none of them names a running process, from the list of processes. -/
namespace PypnmCmts

open KeyedSort LabelledRun PyText

structure OperationalProcessInfoModel where
  pidfilePath : Option PosixPath
  pidfileExists : Bool
  pid : Option ℤ
  isRunning : Bool
  sgId : Option ℤ
deriving DecidableEq

structure OperationalStatusResponseModel where
  ok : Bool
  controller : OperationalProcessInfoModel
  workers : List OperationalProcessInfoModel
  pidRecordsMissing : Bool
  pidRecordsStale : Bool
  fallbackUsed : Bool

/-- What the endpoint finds: the directory of the pidfiles with the texts that can be read in it,
what `os.kill(pid, 0)` says, and the lines of `ps`, if it runs. -/
structure StatusHost where
  pidDir : Option (OrderedDict String (Option String))
  alive : ℤ → Bool
  processLines : Option (List String)

namespace Shlex

def isBlank (c : Char) : Bool := c = ' ' || c = '\t' || c = '\r' || c = '\n'

def isQuote (c : Char) : Bool := c = '\'' || c = '"'

/-- Where the lexer is: between two tokens, in one, or in a part of one in quotes. -/
inductive State
  | between
  | inToken
  | inQuotes (quote : Char)

/-- The tokens from here on. An open quote and a last backslash raise a `ValueError`. -/
def tokensFrom : State → List Char → List Char → Option (List (List Char))
  | .between, _, [] => some []
  | .inToken, token, [] => some [token]
  | .inQuotes _, _, [] => none
  | .between, _, c :: cs =>
    if isBlank c then tokensFrom .between [] cs
    else if c = '\\' then
      match cs with
      | [] => none
      | d :: cs => tokensFrom .inToken [d] cs
    else if isQuote c then tokensFrom (.inQuotes c) [] cs
    else tokensFrom .inToken [c] cs
  | .inToken, token, c :: cs =>
    if isBlank c then (tokensFrom .between [] cs).map (token :: ·)
    else if c = '\\' then
      match cs with
      | [] => none
      | d :: cs => tokensFrom .inToken (token ++ [d]) cs
    else if isQuote c then tokensFrom (.inQuotes c) token cs
    else tokensFrom .inToken (token ++ [c]) cs
  | .inQuotes quote, token, c :: cs =>
    if c = quote then tokensFrom .inToken token cs
    -- in double quotes a backslash stands for itself, unless it is before one or before the quote
    else if c = '\\' ∧ quote = '"' then
      match cs with
      | [] => none
      | d :: cs =>
        if d = '\\' ∨ d = quote then tokensFrom (.inQuotes quote) (token ++ [d]) cs
        else tokensFrom (.inQuotes quote) (token ++ ['\\', d]) cs
    else tokensFrom (.inQuotes quote) (token ++ [c]) cs

/-- `shlex.split`. -/
def split (text : String) : Option (List String) :=
  (tokensFrom .between [] text.toList).map fun tokens => tokens.map String.ofList

example : split "a --x 'b c'\"\\\"d\\e\" '' f\\ g" = some ["a", "--x", "b c\"d\\e", "", "f g"] := by
  decide +kernel

end Shlex

namespace OperationalService

def pidFileSuffix : String := ".pid"

def endsWith (text suffix : String) : Bool := suffix.toList.isSuffixOf text.toList

def parseWorkerPidSg (filename : String) : Option ℤ :=
  if !startsWith filename PidFileRecord.workerPidPrefix then none
  else if !endsWith filename pidFileSuffix then none
  else
    let raw := String.ofList ((filename.toList.drop
        PidFileRecord.workerPidPrefix.toList.length).rdrop
      pidFileSuffix.toList.length)
    if raw = "unbound" then none else PyConvert.parseInt raw

/-- `int` of the text, if there is one. -/
def pidOf (text : Option String) : Option ℤ :=
  text.bind fun text => if strip text = "" then none else PyConvert.parseInt (strip text)

def pidfileInfo (host : StatusHost) (pidPath : PosixPath) (text : Option String) (sgId : Option ℤ) :
    OperationalProcessInfoModel where
  pidfilePath := some pidPath
  pidfileExists := true
  pid := pidOf text
  isRunning := (pidOf text).any host.alive
  sgId := sgId

def noProcess : OperationalProcessInfoModel := ⟨none, false, none, false, none⟩

/-- The service group that a pidfile's name stands for. -/
def sgOf (name : String) : Option ℤ :=
  if name = PidFileRecord.workerUnboundPidfile then none
  else if startsWith name PidFileRecord.workerPidPrefix && endsWith name pidFileSuffix then
    parseWorkerPidSg name
  else none

/-- What the loop of `_collect_pidfile_status` has found. -/
structure Collected where
  controller : OperationalProcessInfoModel
  workers : List OperationalProcessInfoModel
  runningFound : Bool

def fileInfo (host : StatusHost) (pidDir : PosixPath) (file : String × Option String) :
    OperationalProcessInfoModel :=
  pidfileInfo host (pidDir.child file.1) file.2
    (if file.1 = PidFileRecord.controllerPidfile then none else sgOf file.1)

def collectOne (host : StatusHost) (pidDir : PosixPath) (found : Collected)
    (file : String × Option String) : Collected :=
  let info := fileInfo host pidDir file
  if file.1 = PidFileRecord.controllerPidfile then
    ⟨info, found.workers, found.runningFound || info.isRunning⟩
  else ⟨found.controller, found.workers ++ [info], found.runningFound || info.isRunning⟩

/-- `glob("*.pid")`, in the order of the directory. -/
def pidFiles (entries : OrderedDict String (Option String)) : List (String × Option String) :=
  entries.entries.filter fun entry => endsWith entry.1 pidFileSuffix

def nothingCollected : Collected := ⟨noProcess, [], false⟩

/-- The processes, and whether there are no records and whether none of them runs. -/
def collectPidfileStatus (host : StatusHost) (stateDir : PosixPath) : Collected × Bool × Bool :=
  match host.pidDir with
  | none => (nothingCollected, true, false)
  | some entries =>
    if pidFiles entries = [] then (nothingCollected, true, false)
    else
      let found := (pidFiles entries).foldl
        (collectOne host (stateDir.join PidFileRecord.pidDirName))
        nothingCollected
      (found, false, !found.runningFound)

/-! ### The list of processes -/

/-- `str.lower`, as far as it yields ASCII. -/
def lower (text : String) : List Char :=
  text.toList.flatMap fun c =>
    if c.toNat = 0x130 then ['i', Char.ofNat 0x307] else if c.toNat = 0x212A then ['k']
      else [c.toLower]

def includes (text : List Char) (word : String) : Bool := decide (word.toList <:+: text)

def argValue (argName : String) : List String → String
  | [] => ""
  | token :: rest =>
    if token = argName then rest.headD ""
    else if startsWith token (argName ++ "=") then dropPrefix token (argName ++ "=")
    else argValue argName rest

def extractArgValue (argsText argName : String) : String :=
  match Shlex.split argsText with
  | none => ""
  | some tokens => argValue argName tokens

/-- `line.strip().split(maxsplit=1)`, where it has two parts. -/
def splitLine (line : String) : Option (String × String) :=
  let chars := (strip line).toList
  let rest := (chars.dropWhile fun c => !isSpace c).dropWhile isSpace
  if rest = [] then none
  else some (String.ofList (chars.takeWhile fun c => !isSpace c), String.ofList rest)

/-- The command line is one of a runner. -/
def runnerSignature (argsText : String) : Bool :=
  let args := lower argsText
  (includes args "pypnm-cmts" || includes args "pypnm_cmts.cli") &&
    (includes args "run-forever" || (includes args "serve" && includes args "--with-runner"))

def matchLine (electionName : String) (line : String) : Option (ℤ × String) := do
  let (pidText, argsText) ← splitLine line
  let pid ← PyConvert.parseInt pidText
  if runnerSignature argsText ∧ extractArgValue argsText "--election-name" ≠ "" ∧
      extractArgValue argsText "--election-name" = electionName then
    some (pid, argsText)
  else none

def fallbackFindProcesses (host : StatusHost) (electionName : String) : List (ℤ × String) :=
  (host.processLines.getD []).filterMap (matchLine electionName)

def candidateInfo (host : StatusHost) (candidate : ℤ × String) : OperationalProcessInfoModel where
  pidfilePath := none
  pidfileExists := false
  pid := some candidate.1
  isRunning := host.alive candidate.1
  sgId :=
    let sgValue := extractArgValue candidate.2 "--sg-id"
    if sgValue = "" then none else PyConvert.parseInt sgValue

def addCandidate (host : StatusHost)
    (found : OperationalProcessInfoModel × List OperationalProcessInfoModel)
    (candidate : ℤ × String) : OperationalProcessInfoModel × List OperationalProcessInfoModel :=
  if extractArgValue candidate.2 "--mode" = "controller"
    then (candidateInfo host candidate, found.2)
  else (found.1, found.2 ++ [candidateInfo host candidate])

def applyFallbackProcessScan (host : StatusHost) (electionName : Option String)
    (controller : OperationalProcessInfoModel) (workers : List OperationalProcessInfoModel) :
    Bool × OperationalProcessInfoModel × List OperationalProcessInfoModel :=
  let electionValue := strip (electionName.getD "")
  if electionValue = "" then (false, controller, workers)
  else
    let candidates := fallbackFindProcesses host electionValue
    if candidates = [] then (false, controller, workers)
    else (true, candidates.foldl (addCandidate host) (controller, workers))

def anyRunning (controller : OperationalProcessInfoModel)
    (workers : List OperationalProcessInfoModel) :
    Bool :=
  controller.isRunning || workers.any fun entry => entry.isRunning

/-- `str(path)`. -/
def pathText (path : PosixPath) : String :=
  if path.root = "" ∧ path.parts = [] then "." else path.root ++ "/".intercalate path.parts

def workerKey (entry : OperationalProcessInfoModel) : Bool ×ₗ ℤ ×ₗ ℤ ×ₗ String :=
  toLex (entry.sgId.isNone, toLex (entry.sgId.getD 0, toLex (entry.pid.getD 0,
    (entry.pidfilePath.map pathText).getD "")))

/-- `status`, where a state directory that is not configured, or blank, is `none`. -/
def status (host : StatusHost) (electionName : Option String) (stateDir : Option PosixPath) :
    OperationalStatusResponseModel :=
  match stateDir with
  | none => ⟨false, noProcess, [], true, false, false⟩
  | some stateDir =>
    let (found, missing, stale) := collectPidfileStatus host stateDir
    let (fallbackUsed, controller, workers) :=
      if missing || stale then applyFallbackProcessScan host electionName
        found.controller found.workers
      else (false, found.controller, found.workers)
    let effectiveRunning := anyRunning controller workers
    let stale := if fallbackUsed && effectiveRunning then false else stale
    { ok := !(!effectiveRunning && (missing || stale))
      controller := controller
      workers := sortBy workerKey workers
      pidRecordsMissing := missing
      pidRecordsStale := stale
      fallbackUsed := fallbackUsed }

/-! ### The names of the pidfiles -/

/-- What `int` makes of the digits of a number. -/
theorem parseInt_toString (n : ℕ) : PyConvert.parseInt (toString n) = some (n : ℤ) ∧
    strip (toString n) = toString n ∧ strip (toString n ++ "\n") = toString n := by
  have hchars : (toString n).toList = Nat.toDigits 10 n := by
    rw [Nat.toString_eq_repr, Nat.repr, String.toList_ofList]
  have hdigit (c : Char) (hc : c ∈ Nat.toDigits 10 n) : c.isDigit = true :=
    PyJson.isDigit_toDigits hc
  have hspace (c : Char) (hc : c ∈ Nat.toDigits 10 n) : isSpace c = false := by
    have hb := PyJson.digit_bounds (hdigit c hc)
    simp only [isSpace, Bool.or_eq_false_iff, Bool.and_eq_false_iff, decide_eq_false_iff_not,
      beq_eq_false_iff_ne]
    omega
  have hne : Nat.toDigits 10 n ≠ [] := Nat.toDigits_ne_nil
  have hleft (behind : List Char) :
      (Nat.toDigits 10 n ++ behind).dropWhile isSpace = Nat.toDigits 10 n ++ behind := by
    cases hd : Nat.toDigits 10 n with
    | nil => exact absurd hd hne
    | cons c cs =>
      have hc := hspace c (hd ▸ List.mem_cons_self)
      rw [List.cons_append, List.dropWhile_cons, hc]
      rfl
  have hright : (Nat.toDigits 10 n).rdropWhile isSpace = Nat.toDigits 10 n := by
    rw [List.rdropWhile_eq_self_iff]
    intro h
    rw [hspace _ (List.getLast_mem h)]
    exact Bool.false_ne_true
  have hstrip : strip (toString n) = toString n := by
    apply strip_eq_self
    · rw [hchars, ← List.append_nil (Nat.toDigits 10 n), hleft]
    · rw [hchars, hright]
  refine ⟨?_, hstrip, ?_⟩
  · rw [PyConvert.parseInt, hstrip, hchars, PyJson.signed_of_digits hdigit,
      PyJson.parseDigits_digits hdigit 0 false (Or.inr hne), Nat.ofDigitChars_ten_toDigits]
    rfl
  · have hnewline : isSpace '\n' = true := by decide
    have hchars' : (toString n ++ "\n").toList = Nat.toDigits 10 n ++ ['\n'] := by
      rw [String.toList_append, hchars]
      rfl
    rw [strip, hchars', hleft, List.rdropWhile_concat_pos _ _ _ hnewline, hright, ← hchars,
      String.ofList_toList]

theorem pidOf_pidText (pid : ℕ) : pidOf (some (PidFileRecord.pidText pid)) = some (pid : ℤ) := by
  obtain ⟨hparse, -, hstrip⟩ := parseInt_toString pid
  have hne : toString pid ≠ "" := by
    intro h
    have hempty : PyConvert.parseInt "" = none := by decide
    rw [h, hempty] at hparse
    cases hparse
  rw [pidOf, Option.bind_some, PidFileRecord.pidText, hstrip, if_neg hne, hparse]

/-- The name that the runtime of a service group writes is read as that group. -/
theorem sgOf_worker (sgId : ℕ) :
    sgOf (PidFileRecord.workerPidPrefix ++ toString sgId ++ ".pid") = some (sgId : ℤ) := by
  have hparse := (parseInt_toString sgId).1
  have hbound : toString sgId ≠ "unbound" := by
    intro h
    have hnone : PyConvert.parseInt "unbound" = none := by decide
    rw [h, hnone] at hparse
    cases hparse
  have hname : PidFileRecord.workerPidPrefix ++ toString sgId ++ ".pid" ≠
      PidFileRecord.workerUnboundPidfile := by
    intro h
    have hsplit : PidFileRecord.workerUnboundPidfile =
        PidFileRecord.workerPidPrefix ++ "unbound" ++ ".pid" := by decide
    rw [hsplit, String.append_left_inj, String.append_right_inj] at h
    exact hbound h
  have hprefix : startsWith (PidFileRecord.workerPidPrefix ++ toString sgId ++ ".pid")
      PidFileRecord.workerPidPrefix = true :=
    startsWith_iff.mpr ⟨toString sgId ++ ".pid", String.append_assoc⟩
  have hsuffix : endsWith (PidFileRecord.workerPidPrefix ++ toString sgId ++ ".pid") pidFileSuffix =
      true := by
    rw [endsWith, List.isSuffixOf_iff_suffix, String.toList_append]
    exact List.suffix_append _ _
  have hraw : String.ofList (((PidFileRecord.workerPidPrefix ++ toString sgId ++ ".pid").toList.drop
      PidFileRecord.workerPidPrefix.toList.length).rdrop pidFileSuffix.toList.length) =
      toString sgId := by
    rw [String.append_assoc, String.toList_append, List.drop_left, String.toList_append]
    have hrdrop : ((toString sgId).toList ++ ".pid".toList).rdrop pidFileSuffix.toList.length =
        (toString sgId).toList := by
      rw [List.rdrop_eq_reverse_drop_reverse, List.reverse_append]
      have hlength : pidFileSuffix.toList.length = ".pid".toList.reverse.length := by decide
      rw [hlength, List.drop_left, List.reverse_reverse]
    rw [hrdrop, String.ofList_toList]
  have hgroup : parseWorkerPidSg (PidFileRecord.workerPidPrefix ++ toString sgId ++ ".pid") =
      some (sgId : ℤ) := by
    simp only [parseWorkerPidSg, hprefix, hsuffix, hraw, Bool.not_true, Bool.false_eq_true,
      if_false, if_neg hbound, hparse]
  rw [sgOf, if_neg hname, hprefix, hsuffix, hgroup]
  rfl

/-! ### What is collected -/

section Collecting
variable (host : StatusHost) (pidDir : PosixPath)

theorem workers_foldl (files : List (String × Option String)) (found : Collected) :
    (files.foldl (collectOne host pidDir) found).workers = found.workers ++
      (files.filter fun file => file.1 ≠ PidFileRecord.controllerPidfile).map
        (fileInfo host pidDir) := by
  induction files generalizing found with
  | nil => simp
  | cons file files ih =>
    rw [List.foldl_cons, ih, collectOne]
    by_cases hname : file.1 = PidFileRecord.controllerPidfile
    · simp [hname]
    · simp [hname]

theorem controller_foldl_of_notMem {files : List (String × Option String)} (found : Collected)
    (h : PidFileRecord.controllerPidfile ∉ files.map Prod.fst) :
    (files.foldl (collectOne host pidDir) found).controller = found.controller := by
  induction files generalizing found with
  | nil => rfl
  | cons file files ih =>
    rw [List.map_cons, List.mem_cons, not_or] at h
    rw [List.foldl_cons, ih _ h.2, collectOne, if_neg (Ne.symm h.1)]

/-- No name occurs twice, so that the controller's record is the only one of its name. -/
theorem controller_foldl_of_mem {files : List (String × Option String)} (found : Collected)
    (hnodup : (files.map Prod.fst).Nodup) {file : String × Option String} (hmem : file ∈ files)
    (hname : file.1 = PidFileRecord.controllerPidfile) :
    (files.foldl (collectOne host pidDir) found).controller = fileInfo host pidDir file := by
  induction files generalizing found with
  | nil => cases hmem
  | cons first files ih =>
    rw [List.map_cons, List.nodup_cons] at hnodup
    rw [List.foldl_cons]
    rcases List.mem_cons.mp hmem with rfl | hmem
    · rw [controller_foldl_of_notMem _ _ _ (hname ▸ hnodup.1), collectOne, if_pos hname]
    · exact ih _ hnodup.2 hmem

theorem runningFound_foldl (files : List (String × Option String)) (found : Collected) :
    (files.foldl (collectOne host pidDir) found).runningFound =
      (found.runningFound || files.any fun file => (fileInfo host pidDir file).isRunning) := by
  induction files generalizing found with
  | nil => simp
  | cons file files ih =>
    rw [List.foldl_cons, ih, collectOne, List.any_cons, ← Bool.or_assoc]
    split
    · rfl
    · rfl

/-- Some process is reported as running if and only if the loop has met one. -/
theorem anyRunning_collected (entries : OrderedDict String (Option String)) :
    let found := (pidFiles entries).foldl (collectOne host pidDir) nothingCollected
    anyRunning found.controller found.workers = found.runningFound := by
  have hnodup : ((pidFiles entries).map Prod.fst).Nodup :=
    entries.nodup_keys.sublist (List.filter_sublist.map _)
  dsimp only
  rw [Bool.eq_iff_iff, anyRunning, workers_foldl, runningFound_foldl]
  simp only [nothingCollected, List.nil_append, List.any_map, Bool.false_or, Bool.or_eq_true,
    List.any_eq_true, List.mem_filter, Function.comp_apply, decide_eq_true_eq]
  constructor
  · rintro (hcontroller | ⟨file, ⟨hmem, -⟩, hrunning⟩)
    · by_cases hname : PidFileRecord.controllerPidfile ∈ (pidFiles entries).map Prod.fst
      · obtain ⟨file, hmem, hfile⟩ := List.mem_map.mp hname
        rw [controller_foldl_of_mem _ _ _ hnodup hmem hfile] at hcontroller
        exact ⟨file, hmem, hcontroller⟩
      · rw [controller_foldl_of_notMem _ _ _ hname] at hcontroller
        cases hcontroller
    · exact ⟨file, hmem, hrunning⟩
  · rintro ⟨file, hmem, hrunning⟩
    by_cases hname : file.1 = PidFileRecord.controllerPidfile
    · rw [controller_foldl_of_mem _ _ _ hnodup hmem hname]
      exact Or.inl hrunning
    · exact Or.inr ⟨file, ⟨hmem, hname⟩, hrunning⟩

end Collecting

theorem any_sortBy (workers : List OperationalProcessInfoModel) :
    (sortBy workerKey workers).any (fun entry => entry.isRunning) =
      workers.any fun entry => entry.isRunning :=
  (sortBy_perm workerKey workers).any_eq

/-- Whether records are missing or stale, the answer is whether a process that runs was found. -/
theorem status_ok_iff (host : StatusHost) (electionName : Option String)
    (stateDir : Option PosixPath) :
    (status host electionName stateDir).ok =
      anyRunning (status host electionName stateDir).controller
        (status host electionName stateDir).workers := by
  cases stateDir with
  | none => rfl
  | some stateDir =>
    obtain ⟨⟨found, missing, stale⟩, hcollected⟩ :
        ∃ collected, collected = collectPidfileStatus host stateDir := ⟨_, rfl⟩
    have hfound : missing = false → stale = false → anyRunning found.controller
        found.workers = true := by
      intro hmissing hstale
      rw [collectPidfileStatus] at hcollected
      split at hcollected
      · simp_all
      · next entries _ =>
        split_ifs at hcollected
        · simp_all
        · obtain ⟨rfl, -, hrest⟩ := Prod.mk.inj hcollected |>.imp id Prod.mk.inj
          rw [anyRunning_collected]
          simpa [hstale] using hrest
    have hsorted (controller : OperationalProcessInfoModel)
        (workers : List OperationalProcessInfoModel) :
        anyRunning controller (sortBy workerKey workers) = anyRunning controller workers := by
      rw [anyRunning, any_sortBy, anyRunning]
    simp only [status, ← hcollected, hsorted]
    cases hrecords : missing || stale with
    | true =>
      simp only [if_true]
      -- the scan may have found a process, or nothing runs and the records say so
      cases hrunning : anyRunning
          (applyFallbackProcessScan host electionName found.controller found.workers).2.1
          (applyFallbackProcessScan host electionName found.controller found.workers).2.2 with
      | true => simp
      | false =>
        have hshown : missing = false → stale = true := by
          intro hmissing
          rwa [hmissing, Bool.false_or] at hrecords
        simpa using hshown
    | false =>
      obtain ⟨rfl, rfl⟩ := Bool.or_eq_false_iff.mp hrecords
      simp [hfound rfl rfl]

end OperationalService

namespace PidRuntime
open PidFileRecord

def fileName (r : PidRuntime) : String :=
  match r.mode with
  | .worker =>
    match r.sgId with
    | none => workerUnboundPidfile
    | some sgId => workerPidPrefix ++ toString sgId ++ ".pid"
  | _ => controllerPidfile

/-- What the endpoint is to say of a runtime. -/
def reported (r : PidRuntime) : OperationalProcessInfoModel where
  pidfilePath := some r.pidfilePath
  pidfileExists := true
  pid := some r.pid
  isRunning := true
  sgId := if r.mode = .worker then r.sgId.map fun sgId => (sgId : ℤ) else none

variable (r : PidRuntime)

theorem head_fileName : r.fileName.toList.head? = if r.mode = .worker then some 'w' else
    some 'c' := by
  have hunbound : workerUnboundPidfile.toList.head? = some 'w' := by decide
  have hcontroller : controllerPidfile.toList.head? = some 'c' := by decide
  by_cases hworker : r.mode = .worker
  · rw [if_pos hworker, fileName, hworker]
    cases r.sgId with
    | none => exact hunbound
    | some sgId =>
      dsimp only
      rw [String.append_assoc, String.toList_append]
      rfl
  · rw [if_neg hworker, fileName]
    cases hmode : r.mode with
    | worker => exact absurd hmode hworker
    | _ => exact hcontroller

/-- A worker's record is not the controller's. -/
theorem fileName_eq_controller_iff : r.fileName = controllerPidfile ↔ r.mode ≠ .worker := by
  constructor
  · intro h hworker
    have hhead := r.head_fileName
    rw [h, if_pos hworker] at hhead
    exact absurd hhead (by decide)
  · intro h
    rw [fileName]
    cases hmode : r.mode with
    | worker => exact absurd hmode h
    | _ => rfl

theorem fileName_plain : '/' ∉ r.fileName.toList ∧ r.fileName ≠ "" ∧ r.fileName ≠ "." ∧
    OperationalService.endsWith r.fileName OperationalService.pidFileSuffix = true := by
  have hhead := r.head_fileName
  have hempty : r.fileName ≠ "" := by
    intro h
    rw [h] at hhead
    split_ifs at hhead
    all_goals cases hhead
  have hdot : r.fileName ≠ "." := by
    intro h
    rw [h] at hhead
    split_ifs at hhead
    all_goals exact absurd hhead (by decide)
  by_cases hworker : r.mode = .worker
  · cases hsg : r.sgId with
    | none =>
      have hname : r.fileName = workerUnboundPidfile := by rw [fileName, hworker, hsg]
      rw [hname]
      decide
    | some sgId =>
      have hname : r.fileName = workerPidPrefix ++ toString sgId ++ ".pid" := by
        rw [fileName, hworker, hsg]
      refine ⟨?_, hempty, hdot, ?_⟩
      · have hdigits : '/' ∉ (toString sgId).toList := by
          rw [Nat.toString_eq_repr, Nat.repr, String.toList_ofList]
          intro hmem
          have hb := PyJson.digit_bounds (PyJson.isDigit_toDigits hmem)
          exact absurd hb.1 (by decide)
        rw [hname, String.toList_append, String.toList_append, List.mem_append, List.mem_append]
        intro hmem
        rcases hmem with (hmem | hmem) | hmem
        · exact absurd hmem (by decide)
        · exact hdigits hmem
        · exact absurd hmem (by decide)
      · rw [hname, OperationalService.endsWith, List.isSuffixOf_iff_suffix, String.toList_append]
        exact List.suffix_append _ _
  · rw [r.fileName_eq_controller_iff.mpr hworker]
    decide

theorem pidfilePath_eq : r.pidfilePath = (r.stateDir.join pidDirName).child r.fileName := by
  have hjoin := PosixPath.join_plain (r.stateDir.join pidDirName) r.fileName_plain.1
    r.fileName_plain.2.1 r.fileName_plain.2.2.1
  rw [← hjoin]
  obtain ⟨stateDir, mode, sgId, pid⟩ := r
  cases mode with
  | worker =>
    cases sgId with
    | none => rfl
    | some sgId => rfl
  | _ => rfl

/-- The record of a runtime that lives is reported as that runtime. -/
theorem fileInfo_reported {host : StatusHost} (h : host.alive r.pid = true) :
    OperationalService.fileInfo host (r.stateDir.join pidDirName)
      (r.fileName, some (pidText r.pid)) =
      r.reported := by
  have hpid := OperationalService.pidOf_pidText r.pid
  have hsg : (if r.fileName = controllerPidfile then none else OperationalService.sgOf r.fileName) =
      if r.mode = .worker then r.sgId.map fun sgId => (sgId : ℤ) else none := by
    by_cases hworker : r.mode = .worker
    · have hname : r.fileName ≠ controllerPidfile :=
        fun heq => r.fileName_eq_controller_iff.mp heq hworker
      rw [if_neg hname, if_pos hworker, fileName, hworker]
      cases r.sgId with
      | none => rfl
      | some sgId => exact OperationalService.sgOf_worker sgId
    · rw [if_pos (r.fileName_eq_controller_iff.mpr hworker), if_neg hworker]
  rw [OperationalService.fileInfo, OperationalService.pidfileInfo, reported, pidfilePath_eq]
  simp only [hpid, hsg, Option.any_some, h]

end PidRuntime

namespace PidGroup
open OperationalService PidFileRecord
variable {ι : Type*} [DecidableEq ι] (group : PidGroup ι)

/-- What the endpoint finds after a run: the files in the directory, the processes that have entered
their scope and not left it, and any others of the host. The number in a pidfile has not gone to one
of those. -/
structure Seen (dir : PosixPath) (w : PidWorld ι) (host : StatusHost) : Prop where
  listed : ∀ name text, (name, text) ∈ host.pidDir.elim [] OrderedDict.entries ↔
    ∃ content, text = some content ∧ w.file ((dir.join pidDirName).child name) = some content
  alive : ∀ i, w.phase i ≠ .outside → host.alive ((group i).pid : ℤ) = true
  notForeign : ∀ name content n, w.file ((dir.join pidDirName).child name) = some content →
    pidOf (some content) = some n → host.alive n = true →
    ∃ i, w.phase i ≠ .outside ∧ ((group i).pid : ℤ) = n

/-- A file names no runtime, or has been written by one whose path it is. -/
def Authored (w : PidWorld ι) : Prop :=
  ∀ p text, w.file p = some text → (∀ i, pidOf (some text) ≠ some ((group i).pid : ℤ)) ∨
    ∃ i, group.path i = p ∧ text = group.text i

variable {group}

omit [DecidableEq ι] in
/-- What a call leaves in a file: nothing new, an empty text, or the runtime's own pid. -/
theorem Authored.update {w : PidWorld ι} (h : group.Authored w) {i : ι} {content : Option String}
    (hcontent : content = none ∨ content = some "" ∨ content = some (group.text i))
    (phase : ι → PidPhase) :
    group.Authored ⟨phase, Function.update w.file (group.path i) content⟩ := by
  intro p text hp
  dsimp only at hp
  by_cases hpath : p = group.path i
  · rw [hpath, Function.update_self] at hp
    rcases hcontent with hnone | hempty | hown
    · rw [hnone] at hp
      cases hp
    · rw [hempty] at hp
      rw [← Option.some.inj hp]
      have hpid : pidOf (some "") = none := by decide
      exact Or.inl fun j hj => by rw [hpid] at hj; cases hj
    · rw [hown] at hp
      exact Or.inr ⟨i, hpath.symm, (Option.some.inj hp).symm⟩
  · rw [Function.update_of_ne hpath] at hp
    exact h p text hp

theorem authored_step {w : PidWorld ι} {a : PidAction ι} (hguard : group.EntersAlone w a)
    (h : group.Authored w) : group.Authored (group.step w a) := by
  cases a with
  | enter i ok =>
    rw [step]
    split
    · exact h
    · exact h
  | next i ok left =>
    simp only [step, nextCall]
    cases hi : w.phase i with
    | opening =>
      cases ok with
      | false => exact h
      | true => exact h.update (Or.inr (Or.inl rfl)) _
    | writing =>
      have hok : ok = true := hguard.resolve_left (by simp [hi])
      rw [hok, if_pos rfl]
      exact h.update (Or.inr (Or.inr rfl)) _
    | unlinking =>
      cases ok with
      | false => exact h
      | true => exact h.update (Or.inl rfl) _
    | outside => exact h
    | inside => exact h
  | exit i ok =>
    rw [step]
    split
    · exact h
    · split
      · exact h
      · exact h
  | kill i => exact h

section Reports
variable {w : PidWorld ι} {host : StatusHost} {dir : PosixPath}
  {entries : OrderedDict String (Option String)}

omit [DecidableEq ι] in
/-- A runtime in its scope is found under its name. -/
theorem reported_of_inside (hdir : ∀ i, (group i).stateDir = dir) (h : group.Alone w)
    (hseen : group.Seen dir w host) (hentries : host.pidDir = some entries) {i : ι}
    (hi : w.phase i = .inside) :
    ((group i).fileName, some (group.text i)) ∈ pidFiles entries ∧
      fileInfo host (dir.join pidDirName) ((group i).fileName, some (group.text i)) =
        (group i).reported := by
  have hlisted := hseen.listed (group i).fileName (some (group.text i))
  have hpath := (group i).pidfilePath_eq
  rw [hdir i] at hpath
  have hwritten := h.written i (Or.inl hi)
  rw [path, hpath] at hwritten
  rw [hentries] at hlisted
  refine ⟨?_, ?_⟩
  · rw [pidFiles, List.mem_filter]
    exact ⟨hlisted.mpr ⟨_, rfl, hwritten⟩, (group i).fileName_plain.2.2.2⟩
  · have halive : host.alive ((group i).pid : ℤ) = true := hseen.alive i (by simp [hi])
    rw [← hdir i]
    exact (group i).fileInfo_reported halive

omit [DecidableEq ι] in
/-- A file that names a process that lives is that process's own. -/
theorem reported_of_running (hdir : ∀ i, (group i).stateDir = dir)
    (hpid : ∀ i j, (group i).pid = (group j).pid → i = j) (h : group.Authored w)
    (hseen : group.Seen dir w host) (hentries : host.pidDir = some entries)
    {pidFile : String × Option String} (hmem : pidFile ∈ pidFiles entries)
    (hrunning : (fileInfo host (dir.join pidDirName) pidFile).isRunning = true) :
    ∃ i, w.phase i ≠ .outside ∧ fileInfo host (dir.join pidDirName) pidFile =
      (group i).reported := by
  obtain ⟨name, text⟩ := pidFile
  have hlisted := hseen.listed name text
  rw [hentries] at hlisted
  obtain ⟨content, rfl, hcontent⟩ := hlisted.mp (List.mem_filter.mp hmem).1
  obtain ⟨n, hn, halive⟩ : ∃ n, pidOf (some content) = some n ∧ host.alive n = true := by
    rw [fileInfo, pidfileInfo, Option.any_eq_true] at hrunning
    obtain ⟨n, hn, halive⟩ := hrunning
    exact ⟨n, hn, halive⟩
  obtain ⟨j, hj, hjn⟩ := hseen.notForeign name content n hcontent hn halive
  rcases h _ _ hcontent with hforeign | ⟨i, hpath, rfl⟩
  · exact absurd (hn.trans (congrArg some hjn.symm)) (hforeign j)
  · -- the file has the pid of the runtime that wrote it, and no other one has that pid
    have hown : ((group i).pid : ℤ) = n := Option.some.inj ((pidOf_pidText _).symm.trans hn)
    obtain rfl := hpid i j (by exact_mod_cast hown.trans hjn.symm)
    rw [path, (group i).pidfilePath_eq, hdir i] at hpath
    obtain ⟨-, rfl⟩ := PosixPath.child_inj.mp hpath
    refine ⟨i, hj, ?_⟩
    have halive' : host.alive ((group i).pid : ℤ) = true := hown ▸ halive
    rw [← hdir i]
    exact (group i).fileInfo_reported halive'

end Reports

variable (group)

/-- The endpoint answers `ok` if and only if it reports a process that runs. While some runtime of a
state directory is in its scope it answers from the pidfiles, tells of every runtime in its scope
what it is, and of none that has left. -/
theorem status_tells_runtimes (dir : PosixPath) (hdir : ∀ i, (group i).stateDir = dir)
    (hpid : ∀ i j, (group i).pid = (group j).pid → i = j) (file : PosixPath → Option String)
    (hfile : ∀ p text, file p = some text → ∀ i, pidOf (some text) ≠ some ((group i).pid : ℤ))
    (actions : List (PidAction ι))
    (halone : Guarded group.step group.EntersAlone (start file) actions)
    (host : StatusHost) (hseen : group.Seen dir (exec group.step (start file) actions) host)
    (electionName : Option String) :
    let report := status host electionName (some dir)
    report.ok = anyRunning report.controller report.workers ∧
      ((∃ i, (exec group.step (start file) actions).phase i = .inside) →
        report.ok = true ∧ report.fallbackUsed = false ∧
        (∀ i, (exec group.step (start file) actions).phase i = .inside →
          if (group i).mode = .worker then (group i).reported ∈ report.workers
          else report.controller = (group i).reported) ∧
        ∀ entry, entry = report.controller ∨ entry ∈ report.workers → entry.isRunning = true →
          ∃ i, (exec group.step (start file) actions).phase i ≠ .outside ∧
            entry = (group i).reported) := by
  refine ⟨status_ok_iff host electionName (some dir), ?_⟩
  intro hsome
  obtain ⟨w, hw⟩ : ∃ w, w = exec group.step (start file) actions := ⟨_, rfl⟩
  rw [← hw] at hseen hsome ⊢
  have hstart : group.Alone (start file) ∧ group.Authored (start file) := by
    refine ⟨⟨fun i _ _ hi _ => absurd rfl hi, fun i hi => by simp [start] at hi⟩, ?_⟩
    intro p text hp
    exact Or.inl (hfile p text hp)
  have hinv : group.Alone w ∧ group.Authored w := by
    rw [hw]
    exact invariant_of_guarded (I := fun w => group.Alone w ∧ group.Authored w)
      (fun w a hguard h => ⟨alone_step h.1 hguard, authored_step hguard h.2⟩) halone hstart
  obtain ⟨halone', hauthored⟩ := hinv
  obtain ⟨entries, hentries⟩ : ∃ entries, host.pidDir = some entries := by
    obtain ⟨i, hi⟩ := hsome
    have hlisted := hseen.listed (group i).fileName (some (group.text i))
    have hwritten := halone'.written i (Or.inl hi)
    rw [path, (group i).pidfilePath_eq, hdir i] at hwritten
    cases hdirectory : host.pidDir with
    | some entries => exact ⟨entries, rfl⟩
    | none =>
      rw [hdirectory] at hlisted
      exact absurd (hlisted.mpr ⟨_, rfl, hwritten⟩) List.not_mem_nil
  have hnodup : ((pidFiles entries).map Prod.fst).Nodup :=
    entries.nodup_keys.sublist (List.filter_sublist.map _)
  obtain ⟨found, hfound⟩ : ∃ found, found = (pidFiles entries).foldl
      (collectOne host (dir.join pidDirName)) nothingCollected := ⟨_, rfl⟩
  have hrunning : found.runningFound = true := by
    obtain ⟨i, hi⟩ := hsome
    obtain ⟨hmem, hinfo⟩ := reported_of_inside hdir halone' hseen hentries hi
    rw [hfound, runningFound_foldl, nothingCollected, Bool.false_or, List.any_eq_true]
    exact ⟨_, hmem, by rw [hinfo]; rfl⟩
  have hfiles : pidFiles entries ≠ [] := by
    obtain ⟨i, hi⟩ := hsome
    exact List.ne_nil_of_mem (reported_of_inside hdir halone' hseen hentries hi).1
  have hreport : status host electionName (some dir) =
      ⟨true, found.controller, sortBy workerKey found.workers, false, false, false⟩ := by
    simp only [status, collectPidfileStatus, hentries, if_neg hfiles, ← hfound, hrunning]
    simp
  have hworkers : found.workers = ((pidFiles entries).filter fun file =>
      file.1 ≠ controllerPidfile).map (fileInfo host (dir.join pidDirName)) := by
    rw [hfound, workers_foldl, nothingCollected, List.nil_append]
  rw [hreport]
  refine ⟨rfl, rfl, ?_, ?_⟩
  · intro i hi
    obtain ⟨hmem, hinfo⟩ := reported_of_inside hdir halone' hseen hentries hi
    split_ifs with hworker
    · have hname : (group i).fileName ≠ controllerPidfile := fun heq =>
        (group i).fileName_eq_controller_iff.mp heq hworker
      rw [(sortBy_perm workerKey _).mem_iff, hworkers, List.mem_map]
      exact ⟨_, List.mem_filter.mpr ⟨hmem, decide_eq_true hname⟩, hinfo⟩
    · have hname := (group i).fileName_eq_controller_iff.mpr hworker
      have hcontroller := controller_foldl_of_mem host (dir.join pidDirName) nothingCollected hnodup
        hmem hname
      rw [hinfo, ← hfound] at hcontroller
      exact hcontroller
  · intro entry hentry hentryRunning
    have hfrom : ∃ pidFile ∈ pidFiles entries, entry =
        fileInfo host (dir.join pidDirName) pidFile := by
      rcases hentry with rfl | hmem
      · by_cases hname : controllerPidfile ∈ (pidFiles entries).map Prod.fst
        · obtain ⟨pidFile, hmem, hpidFile⟩ := List.mem_map.mp hname
          refine ⟨pidFile, hmem, ?_⟩
          rw [hfound]
          exact controller_foldl_of_mem _ _ _ hnodup hmem hpidFile
        · have hnone := controller_foldl_of_notMem host (dir.join pidDirName) nothingCollected hname
          rw [← hfound] at hnone
          dsimp only at hentryRunning
          rw [hnone] at hentryRunning
          cases hentryRunning
      · rw [(sortBy_perm workerKey _).mem_iff, hworkers, List.mem_map] at hmem
        obtain ⟨pidFile, hpidFile, rfl⟩ := hmem
        exact ⟨pidFile, (List.mem_filter.mp hpidFile).1, rfl⟩
    obtain ⟨pidFile, hmem, rfl⟩ := hfrom
    exact reported_of_running hdir hpid hauthored hseen hentries hmem hentryRunning

/-- A controller, and a worker of a service group. -/
def workingRuntimes : PidGroup Bool
  | false => ⟨⟨"/", ["state"]⟩, .controller, none, 100⟩
  | true => ⟨⟨"/", ["state"]⟩, .worker, some 7, 200⟩

def workingEntries : List (String × Option String) :=
  [("controller.pid", some "100\n"), ("worker_7.pid", some "200\n")]

theorem nodup_workingEntries : (workingEntries.map Prod.fst).Nodup := by decide

/-- The two runtimes, and another process. -/
def workingHost : StatusHost :=
  ⟨some ⟨workingEntries, nodup_workingEntries⟩, fun n => n = 1 ∨ n = 100 ∨ n = 200, none⟩

theorem seen_working : workingRuntimes.Seen ⟨"/", ["state"]⟩
    (exec workingRuntimes.step (start fun _ => none) (entering false ++ entering true))
      workingHost := by
  have hcontroller : workingRuntimes.path false =
      ((⟨"/", ["state"]⟩ : PosixPath).join pidDirName).child "controller.pid" := by decide
  have hworker : workingRuntimes.path true =
      ((⟨"/", ["state"]⟩ : PosixPath).join pidDirName).child "worker_7.pid" := by decide
  have hfile (p : PosixPath) : (exec workingRuntimes.step (start fun _ => none)
      (entering false ++ entering true)).file p =
      if p = workingRuntimes.path true then some "200\n"
      else if p = workingRuntimes.path false then some "100\n" else none := by
    have hcalls : (exec workingRuntimes.step (start fun _ => none)
        (entering false ++ entering true)).file =
        Function.update (Function.update (Function.update (Function.update (fun _ => none)
          (workingRuntimes.path false) (some "")) (workingRuntimes.path false) (some "100\n"))
          (workingRuntimes.path true) (some "")) (workingRuntimes.path true) (some "200\n") := rfl
    rw [hcalls, Function.update_idem, Function.update_idem, Function.update_apply,
      Function.update_apply]
  have hphase (i : Bool) : (exec workingRuntimes.step (start fun _ => none)
      (entering false ++ entering true)).phase i ≠ .outside := by
    cases i
    · decide
    · decide
  refine ⟨?_, ?_, ?_⟩
  · -- the directory lists the two files
    intro name text
    simp only [hfile, hcontroller, hworker, PosixPath.child_inj, workingHost, workingEntries,
      Option.elim_some, List.mem_cons, List.not_mem_nil, or_false, Prod.mk.injEq, true_and]
    by_cases hseven : name = "worker_7.pid"
    · simp [hseven]
    · by_cases hc : name = "controller.pid"
      · simp [hc]
      · simp [hseven, hc]
  · intro i _
    cases i
    · decide
    · decide
  · -- each pid in a file is that of a runtime at work
    intro name content n hcontent hn _
    rw [hfile] at hcontent
    split_ifs at hcontent
    · have hpid : pidOf (some "200\n") = some 200 := by decide
      rw [← Option.some.inj hcontent, hpid] at hn
      exact ⟨true, hphase true, Option.some.inj hn⟩
    · have hpid : pidOf (some "100\n") = some 100 := by decide
      rw [← Option.some.inj hcontent, hpid] at hn
      exact ⟨false, hphase false, Option.some.inj hn⟩

theorem status_tells_runtimes_working :
    (workingRuntimes true).reported ∈
      (status workingHost none (some ⟨"/", ["state"]⟩)).workers := by
  have hreport := workingRuntimes.status_tells_runtimes ⟨"/", ["state"]⟩ (by decide) (by decide)
    (fun _ => none) (by simp) (entering false ++ entering true)
    (by simp only [entering, List.cons_append, List.nil_append, Guarded, EntersAlone]; decide)
    workingHost seen_working none
  exact (hreport.2 ⟨true, by decide⟩).2.2.1 true (by decide)

end PidGroup
end PypnmCmts
