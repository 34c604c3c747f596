import PypnmCmts.Attempt
import PypnmCmts.SgwCacheStore

/-! What the collectors of the CMTS tables rest on: the SNMP client and its helper functions, name
resolution and the modems themselves. All of it is the PyPNM package or the network, so it is an
environment here, which may answer each question anew or fail. -/
namespace PypnmCmts

abbrev InterfaceIndex := ℤ
abbrev NodeName := String
abbrev MdCmSgId := ℕ

/-- A row of a walk. The value is the text in which it is printed. -/
structure VarBind where
  oid : List ℕ
  value : String
deriving DecidableEq

/-- A walk of a column, or a get of one cell of it. -/
inductive SnmpRequest
  | walk (oidBase : String)
  | get (oidBase : String) (index : List ℤ)
deriving DecidableEq

/-- What is collected from the CMTS in a heavy refresh. -/
inductive Collection
  | topology | channels | modems
deriving DecidableEq

/-- The places at which an exception can be raised beneath the heavy poller. A helper of the SNMP
client is guarded where the exception is caught by the function that calls it or by one on the
way up. -/
inductive CollectionFailure
  | eventLoop (collection : Collection)
  | hostname (collection : Collection)
  | client (collection : Collection)
  | request (collection : Collection) (request : SnmpRequest)
  | helper (collection : Collection) (guarded : Bool)
  | requestDefaults
  | modemSysDescr
deriving DecidableEq

/-- Where no `try` block on the way turns the exception into a value. -/
def CollectionFailure.raisesThrough : CollectionFailure → Bool
  | .eventLoop _ => true
  | .hostname _ => true
  | .client _ => true
  -- every walk and every get stands in a `try` block of its own
  | .request _ _ => false
  | .helper _ guarded => !guarded
  | .requestDefaults => true
  | .modemSysDescr => false

/-- The collection from the CMTS that the failure belongs to. -/
def CollectionFailure.collection? : CollectionFailure → Option Collection
  | .eventLoop collection => some collection
  | .hostname collection => some collection
  | .client collection => some collection
  | .request collection _ => some collection
  | .helper collection _ => some collection
  | .requestDefaults => none
  | .modemSysDescr => none

/-- The classes of exceptions that the handlers tell apart. -/
inductive ExceptionClass
  | valueError | typeError | other
deriving DecidableEq

structure HelperError where
  exceptionClass : ExceptionClass
  message : String

/-- Configuration for CMTS adapter selection and targeting. -/
structure CmtsAdapterConfig where
  hostname : String
  community : String
  writeCommunity : String := ""
  port : ℕ := 161

/-- The answers of the package and of the network. The first argument of an answer that can differ
from call to call is the number of the question. An object identifier in dotted form stands as
the list of its numbers. -/
structure SnmpEnvironment where
  insideEventLoop : Bool
  resolveHost : ℕ → String → Except HelperError (List String)
  openClient : ℕ → String → String → ℕ → Except String Unit
  answer : ℕ → SnmpRequest → Except String (List VarBind)
  modemCommunity : ℕ → Except String (Option String)
  getSysDescr : ℕ → String → String → String → Except String SystemDescriptorModel
  parseInet : String → Option String
  parseMac : String → Option String
  hexToInet : String → Option String
  resolveOid : String → Except HelperError (List ℕ)
  snmpGetResultValue : List VarBind → Except String (List String)
  extractLastOidIndex : List VarBind → Except String (List ℤ)
  getResultValue : List VarBind → Except String (Option String)

abbrev Collecting := Attempt CollectionFailure

namespace SnmpEnvironment
variable (env : SnmpEnvironment) (collection : Collection)

def send (request : SnmpRequest) : Collecting (List VarBind) := do
  let answer ← Attempt.ask fun n => env.answer n request
  Attempt.ofExcept (.request collection request) answer

def walk (oidBase : String) : Collecting (List VarBind) := env.send collection (.walk oidBase)

def get (oidBase : String) (index : List ℤ) : Collecting (List VarBind) :=
  env.send collection (.get oidBase index)

/-- `_run_asyncio`. -/
def runAsyncio {α : Type} (coro : Collecting α) : Collecting α :=
  if env.insideEventLoop then
    Attempt.fail (.eventLoop collection)
      "heavy poller cannot be run from inside an existing asyncio loop"
  else coro

/-- Resolve CMTS hostname or IP into a valid address. A caller may put its own text in the place of
that of a `ValueError`. -/
def resolveCmtsInet (hostname : String) (relabel : Option String) : Collecting String :=
  let raiseValueError (message : String) : Collecting String :=
    Attempt.fail (.hostname collection) (relabel.getD message)
  let hostnameValue := PyText.strip hostname
  if hostnameValue = "" then raiseValueError "CMTS hostname is required."
  else match env.parseInet hostnameValue with
    | some inet => pure inet
    | none => do
      let answer ← Attempt.ask fun n => env.resolveHost n hostnameValue
      match answer with
      | .error exc =>
        -- only a `ValueError` of the resolver is caught
        if exc.exceptionClass = .valueError then
          raiseValueError s!"Failed to resolve hostname: {hostnameValue}"
        else Attempt.fail (.hostname collection) exc.message
      | .ok addresses =>
        match addresses.findSome? env.parseInet with
        | some inet => pure inet
        | none => raiseValueError s!"Failed to resolve hostname: {hostnameValue}"

/-- The constructor of `CmtsOperation`, which opens the SNMP client. -/
def openOperation (inet writeCommunity : String) (port : ℕ) : Collecting Unit := do
  let answer ← Attempt.ask fun n => env.openClient n inet writeCommunity port
  Attempt.ofExcept (.client collection) answer

/-- What the topology and the channel collectors do before their requests. -/
def connect (adapter : CmtsAdapterConfig) : Collecting Unit := do
  let inet ← env.resolveCmtsInet collection adapter.hostname none
  let writeCommunity := PyText.strip adapter.writeCommunity
  env.openOperation collection inet
    (if writeCommunity = "" then PyText.strip adapter.community else writeCommunity) adapter.port

section Rules
open Attempt
variable {env collection}

/-- What is caught somewhere beneath the poller. -/
def Swallowed (failure : CollectionFailure) : Prop := ¬ failure.raisesThrough = true

/-- A program that raises exactly what nobody beneath the poller catches. -/
abbrev RaisesThrough {α : Type} (x : Collecting α) : Prop :=
  FailsAt (fun f : CollectionFailure => f.raisesThrough = true) x

theorem send_within (request : SnmpRequest) : Within Swallowed (env.send collection request) :=
  (Within.ask _).bind fun _ => .ofExcept (by exact Bool.false_ne_true) _

theorem walk_rescue (oidBase : String) :
    RaisesThrough ((env.walk collection oidBase).rescue []) :=
  .rescue (send_within _) []

theorem get_rescue (oidBase : String) (index : List ℤ) :
    RaisesThrough ((env.get collection oidBase index).rescue []) :=
  .rescue (send_within _) []

theorem runAsyncio_raises {α : Type} {coro : Collecting α} (h : RaisesThrough coro) :
    RaisesThrough (env.runAsyncio collection coro) := by
  unfold runAsyncio
  split
  · exact .fail (by rfl) _
  · exact h

theorem resolveCmtsInet_raises (hostname : String) (relabel : Option String) :
    RaisesThrough (env.resolveCmtsInet collection hostname relabel) := by
  unfold resolveCmtsInet
  dsimp only
  split
  · exact .fail (by rfl) _
  · split
    · exact .pure _
    · refine (FailsAt.ask _).bind fun answer => ?_
      split
      · split
        · exact .fail (by rfl) _
        · exact .fail (by rfl) _
      · split
        · exact .pure _
        · exact .fail (by rfl) _

theorem openOperation_raises (inet writeCommunity : String) (port : ℕ) :
    RaisesThrough (env.openOperation collection inet writeCommunity port) :=
  (FailsAt.ask _).bind fun _ => .ofExcept (by rfl) _

theorem connect_raises (adapter : CmtsAdapterConfig) :
    RaisesThrough (env.connect collection adapter) :=
  (resolveCmtsInet_raises _ _).bind fun _ => openOperation_raises _ _ _

end Rules
end SnmpEnvironment
end PypnmCmts
