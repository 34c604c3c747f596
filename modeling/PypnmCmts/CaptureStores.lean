import PypnmCmts.LabelledRun
import PypnmCmts.ModemScope

/-! The stores that operation services and capture workers keep: `api/common/service/pnm/modem.py`,
the scope resolver of an operation service and the `_resolve_modem_ip` that all capture workers
share. A store is an object of the process, so what they keep is a reference to one. -/
namespace PypnmCmts

abbrev StoreId := ℕ
abbrev ServiceId := ℕ
abbrev WorkerId := ℕ

/-- The address helpers of the PyPNM package, `none` where they raise. -/
structure InetHelpers where
  hexToInet : String → Option String
  inet : String → Option InetAddressStr

namespace PnmModemResolver
variable (helpers : InetHelpers)

def normalizeIpValue (rawValue : String) : String :=
  let value := PyText.strip rawValue
  if value = "" then ""
  else if !"0x".toList.isPrefixOf value.toList then value
  else (helpers.hexToInet (String.ofList (value.toList.drop 2))).getD value

def selectIp (modem : SgwCableModemModel) : Option String :=
  let ipv4 := normalizeIpValue helpers modem.ipv4
  if ipv4 ∉ ["", "0.0.0.0"] then some ipv4
  else
    let ipv6 := normalizeIpValue helpers modem.ipv6
    if ipv6 ∉ ["", "::"] then some ipv6 else none

/-- The address that a store has for a modem. -/
def storedIp (store : SgwCacheStore) (sgId : ServiceGroupId) (macAddress : MacAddressStr) :
    Option InetAddressStr :=
  match store.getEntry sgId with
  | none => none
  | some entry =>
    -- the first row of the modem decides, even if it has no usable address
    match entry.snapshot.cableModems.find? fun modem => modem.mac = macAddress with
    | none => none
    | some modem => (selectIp helpers modem).bind helpers.inet

/-- The address, and the store that it was looked up in. -/
def resolveModemIp (stores : StoreId → SgwCacheStore) (getSgwStore sgwStore : Option StoreId)
    (sgId : ServiceGroupId) (macAddress : MacAddressStr) :
    Option InetAddressStr × Option StoreId :=
  match sgwStore.or getSgwStore with
  | none => (none, sgwStore)
  | some store => (storedIp helpers (stores store) sgId macAddress, some store)

end PnmModemResolver

/-- The store of an operation service and that of its scope resolver. -/
structure OperationService where
  sgwStore : Option StoreId := none
  scopeStore : Option StoreId := none
deriving DecidableEq

structure CaptureWorker where
  sgwStore : Option StoreId := none
deriving DecidableEq

namespace OperationService
variable (stores : StoreId → SgwCacheStore) (getSgwStore : Option StoreId)

/-- The scope resolver, with the stores that its references lead to. -/
def scopeResolver (service : OperationService) : PnmOperationScopeResolver where
  sgwStore := service.scopeStore.map stores
  runtimeStoreLoader := some (getSgwStore.map stores)

/-- `resolve_store` of the scope resolver, and the service keeps what that has kept. -/
def resolveStore (service : OperationService) : OperationService where
  scopeStore := service.scopeStore.or getSgwStore
  sgwStore := service.sgwStore.or (service.scopeStore.or getSgwStore)

def resolveModemScope (service : OperationService) (requestedSgIds : List ServiceGroupId)
    (requestedMacAddresses : List MacAddressStr) :
    (List ServiceGroupId × List MacAddressStr) × OperationService :=
  let scope := ((service.scopeResolver stores getSgwStore).resolveModemScope requestedSgIds
    requestedMacAddresses).1
  -- a request that leaves nothing open does not ask for a store
  if requestedSgIds ≠ [] ∧ requestedMacAddresses ≠ [] then
    (scope, { service with sgwStore := service.sgwStore.or service.scopeStore })
  else (scope, service.resolveStore getSgwStore)

end OperationService

namespace CaptureWorker

/-- `_resolve_modem_ip`, the same in all capture workers. -/
def resolveModemIp (helpers : InetHelpers) (stores : StoreId → SgwCacheStore)
    (getSgwStore : Option StoreId) (worker : CaptureWorker) (sgId : ServiceGroupId)
    (macAddress : MacAddressStr) : Option InetAddressStr × CaptureWorker :=
  let activeStore := worker.sgwStore.or getSgwStore
  let (resolvedIp, store) :=
    PnmModemResolver.resolveModemIp helpers stores getSgwStore activeStore sgId macAddress
  (resolvedIp, { sgwStore := worker.sgwStore.or store })

end CaptureWorker

/-- Whoever keeps a store. -/
inductive StoreHolder
  | service (id : ServiceId)
  | worker (id : WorkerId)
deriving DecidableEq

/-- The process, with all its stores. How often the active store has been replaced, and how often
it had been when a holder loaded its store, is recorded for the statements. -/
structure CaptureWorld where
  stores : StoreId → SgwCacheStore
  nextStore : StoreId
  sgwStore : Option StoreId
  services : ServiceId → OperationService
  workers : WorkerId → CaptureWorker
  replacements : ℕ
  loadedAt : StoreHolder → Option ℕ

inductive CaptureAction
  | startupSuccess (store : SgwCacheStore)
  | startupFailure
  | guardRestart
  | refresh (store : StoreId) (content : SgwCacheStore)
  | resolveModemScope (service : ServiceId) (requestedSgIds : List ServiceGroupId)
      (requestedMacAddresses : List MacAddressStr)
  | resolveStore (service : ServiceId)
  | resolveModemIp (worker : WorkerId) (sgId : ServiceGroupId) (macAddress : MacAddressStr)

namespace CaptureWorld

/-- Services and workers that were constructed without a store. -/
def boot : CaptureWorld where
  stores _ := .empty
  nextStore := 0
  sgwStore := none
  services _ := {}
  workers _ := {}
  replacements := 0
  loadedAt _ := none

def getSgwStore (w : CaptureWorld) : Option StoreId := w.sgwStore

def kept (w : CaptureWorld) : StoreHolder → Option StoreId
  | .service id => (w.services id).scopeStore
  | .worker id => (w.workers id).sgwStore

/-- A new store becomes the active one. -/
def publish (w : CaptureWorld) (store : SgwCacheStore) : CaptureWorld :=
  { w with
    stores := Function.update w.stores w.nextStore store
    nextStore := w.nextStore+1
    sgwStore := some w.nextStore
    replacements := w.replacements+1 }

/-- Record when the holder has loaded the store that it keeps. -/
def recordLoad (w : CaptureWorld) (holder : StoreHolder) : CaptureWorld :=
  { w with
    loadedAt := Function.update w.loadedAt holder
      ((w.loadedAt holder).or ((w.kept holder).map fun _ => w.replacements)) }

def setService (w : CaptureWorld) (id : ServiceId) (service : OperationService) : CaptureWorld :=
  ({ w with services := Function.update w.services id service }).recordLoad (.service id)

def setWorker (w : CaptureWorld) (id : WorkerId) (worker : CaptureWorker) : CaptureWorld :=
  ({ w with workers := Function.update w.workers id worker }).recordLoad (.worker id)

variable (helpers : InetHelpers)

def step (w : CaptureWorld) : CaptureAction → CaptureWorld
  | .startupSuccess store => w.publish store
  | .startupFailure => { w with sgwStore := none, replacements := w.replacements+1 }
  | .guardRestart => w.publish .empty
  | .refresh store content => { w with stores := Function.update w.stores store content }
  | .resolveModemScope id requestedSgIds requestedMacAddresses =>
    w.setService id ((w.services id).resolveModemScope w.stores w.getSgwStore requestedSgIds
      requestedMacAddresses).2
  | .resolveStore id => w.setService id ((w.services id).resolveStore w.getSgwStore)
  | .resolveModemIp id sgId macAddress =>
    w.setWorker id ((w.workers id).resolveModemIp helpers w.stores w.getSgwStore sgId macAddress).2

/-- A resolution answers as one against the active store does. -/
def AnswersLive (w : CaptureWorld) : CaptureAction → Prop
  | .resolveModemScope id requestedSgIds requestedMacAddresses =>
    ((w.services id).resolveModemScope w.stores w.getSgwStore requestedSgIds
        requestedMacAddresses).1 =
      (PnmOperationScopeResolver.resolveModemScope ⟨w.getSgwStore.map w.stores, none⟩
        requestedSgIds requestedMacAddresses).1
  | .resolveModemIp id sgId macAddress =>
    ((w.workers id).resolveModemIp helpers w.stores w.getSgwStore sgId macAddress).1 =
      (w.getSgwStore.map w.stores).bind fun store =>
        PnmModemResolver.storedIp helpers store sgId macAddress
  | _ => True

/-- The holder has not loaded a store, or the active store has not been replaced since. -/
def UpToDate (w : CaptureWorld) (holder : StoreHolder) : Prop :=
  ∀ n, w.loadedAt holder = some n → n = w.replacements

/-- Nobody resolves against a store that has been replaced since it was loaded. -/
def ResolvesUpToDate (w : CaptureWorld) : CaptureAction → Prop
  | .resolveModemScope id requestedSgIds requestedMacAddresses =>
    (requestedSgIds ≠ [] ∧ requestedMacAddresses ≠ []) ∨ w.UpToDate (.service id)
  | .resolveModemIp id _ _ => w.UpToDate (.worker id)
  | _ => True

end CaptureWorld

/-! What a resolution answers depends on the kept store, or else on the loaded one, alone. -/

theorem resolveStore_eq (held loaded : Option SgwCacheStore) :
    (PnmOperationScopeResolver.mk held (some loaded)).resolveStore.1 = held.or loaded ∧
      (PnmOperationScopeResolver.mk held (some loaded)).resolveStore.2.sgwStore =
        held.or loaded := by
  cases held with
  | some store => exact ⟨rfl, rfl⟩
  | none =>
    cases loaded with
    | none => exact ⟨rfl, rfl⟩
    | some store => exact ⟨rfl, rfl⟩

theorem resolveModemScope_eq (held loaded : Option SgwCacheStore) (sgIds : List ServiceGroupId)
    (macs : List MacAddressStr) :
    ((PnmOperationScopeResolver.mk held (some loaded)).resolveModemScope sgIds macs).1 =
      ((PnmOperationScopeResolver.mk (held.or loaded) none).resolveModemScope sgIds macs).1 := by
  unfold PnmOperationScopeResolver.resolveModemScope
  by_cases hgiven : sgIds ≠ [] ∧ macs ≠ []
  · rw [if_pos hgiven, if_pos hgiven]
  · rw [if_neg hgiven, if_neg hgiven]
    cases held with
    | some store =>
      simp only [PnmOperationScopeResolver.resolveStore, Option.some_or,
        PnmOperationScopeResolver.loadCacheEntries]
      split_ifs <;> rfl
    | none =>
      cases loaded with
      | none => rfl
      | some store =>
        simp only [PnmOperationScopeResolver.resolveStore, Option.none_or,
          PnmOperationScopeResolver.loadCacheEntries]
        split_ifs <;> rfl

/-- The references that a service keeps lead to the stores that its resolver keeps. -/
theorem sgwStore_resolveModemScope (stores : StoreId → SgwCacheStore)
    (getSgwStore : Option StoreId) (service : OperationService) (sgIds : List ServiceGroupId)
    (macs : List MacAddressStr) :
    ((service.scopeResolver stores getSgwStore).resolveModemScope sgIds macs).2.sgwStore =
      ((service.resolveModemScope stores getSgwStore sgIds macs).2.scopeStore).map stores := by
  have hresolve := resolveStore_eq (service.scopeStore.map stores) (getSgwStore.map stores)
  rw [← Option.map_or] at hresolve
  unfold OperationService.resolveModemScope PnmOperationScopeResolver.resolveModemScope
  by_cases hgiven : sgIds ≠ [] ∧ macs ≠ []
  · rw [if_pos hgiven, if_pos hgiven]
    rfl
  · rw [if_neg hgiven, if_neg hgiven]
    refine Eq.trans ?_ hresolve.2
    unfold OperationService.scopeResolver
    generalize (PnmOperationScopeResolver.mk _ _).resolveStore = resolved
    obtain ⟨answer, resolver⟩ := resolved
    cases answer with
    | none => rfl
    | some store =>
      dsimp only
      split_ifs <;> rfl

namespace CaptureWorld
variable {helpers : InetHelpers} {w : CaptureWorld} {holder : StoreHolder}

/-- A holder that has loaded a store since the last replacement keeps the active one. -/
structure HolderKept (w : CaptureWorld) (holder : StoreHolder) : Prop where
  unloaded : w.loadedAt holder = none → w.kept holder = none
  loaded : ∀ n, w.loadedAt holder = some n → n ≤ w.replacements ∧
    (n = w.replacements → w.kept holder = w.sgwStore)

theorem holderKept_boot (holder : StoreHolder) : boot.HolderKept holder := by
  refine ⟨?_, ?_⟩
  · cases holder with
    | service id => exact fun _ => rfl
    | worker id => exact fun _ => rfl
  · intro n hn
    cases hn

/-- A replacement leaves nobody up to date who has loaded a store. -/
theorem HolderKept.replaced (h : w.HolderKept holder) {w' : CaptureWorld}
    (hkept : w'.kept holder = w.kept holder) (hloaded : w'.loadedAt holder = w.loadedAt holder)
    (hreplaced : w'.replacements = w.replacements+1) : w'.HolderKept holder := by
  refine ⟨?_, ?_⟩
  · rw [hkept, hloaded]
    exact h.unloaded
  · rw [hloaded]
    intro n hn
    have hle := (h.loaded n hn).1
    exact ⟨by omega, fun heq => absurd heq (by omega)⟩

theorem HolderKept.frame (h : w.HolderKept holder) {w' : CaptureWorld}
    (hkept : w'.kept holder = w.kept holder) (hloaded : w'.loadedAt holder = w.loadedAt holder)
    (hreplaced : w'.replacements = w.replacements) (hactive : w'.sgwStore = w.sgwStore) :
    w'.HolderKept holder := by
  refine ⟨?_, ?_⟩
  · rw [hkept, hloaded]
    exact h.unloaded
  · rw [hkept, hloaded, hreplaced, hactive]
    exact h.loaded

/-- A holder that keeps the store it has, or else the active one, is up to date with what it
loads now. -/
theorem HolderKept.recordLoad (h : w.HolderKept holder) {w' : CaptureWorld}
    (hkept : w'.kept holder = (w.kept holder).or w.sgwStore ∨ w'.kept holder = w.kept holder)
    (hloaded : w'.loadedAt = w.loadedAt) (hreplaced : w'.replacements = w.replacements)
    (hactive : w'.sgwStore = w.sgwStore) : (w'.recordLoad holder).HolderKept holder := by
  have hrecord : (w'.recordLoad holder).loadedAt holder =
      (w.loadedAt holder).or ((w'.kept holder).map fun _ => w.replacements) := by
    rw [← hloaded, ← hreplaced]
    exact Function.update_self _ _ _
  have hsame : (w'.recordLoad holder).kept holder = w'.kept holder := by
    cases holder <;> rfl
  have hcount : (w'.recordLoad holder).replacements = w.replacements := hreplaced
  have hstore : (w'.recordLoad holder).sgwStore = w.sgwStore := hactive
  refine ⟨?_, ?_⟩
  · rw [hrecord, hsame, Option.or_eq_none_iff, Option.map_eq_none_iff]
    exact And.right
  · rw [hrecord, hsame, hcount, hstore]
    intro n hn
    cases hold : w.loadedAt holder with
    | some m =>
      rw [hold, Option.some_or, Option.some.injEq] at hn
      subst hn
      obtain ⟨hle, heq⟩ := h.loaded m hold
      refine ⟨hle, ?_⟩
      intro hm
      rcases hkept with hkept | hkept
      · rw [hkept, heq hm, Option.or_self]
      · rw [hkept, heq hm]
    | none =>
      rw [hold, Option.none_or] at hn
      have hnone := h.unloaded hold
      rcases hkept with hkept | hkept
      · rw [hkept, hnone, Option.none_or] at hn ⊢
        cases hactive : w.sgwStore with
        | none =>
          rw [hactive] at hn
          cases hn
        | some store =>
          rw [hactive, Option.map_some, Option.some.injEq] at hn
          exact ⟨hn.ge, fun _ => rfl⟩
      · rw [hkept, hnone] at hn
        cases hn

/-- What a service keeps after a resolution. -/
theorem scopeStore_resolveModemScope (stores : StoreId → SgwCacheStore)
    (getSgwStore : Option StoreId) (service : OperationService) (sgIds : List ServiceGroupId)
    (macs : List MacAddressStr) :
    (service.resolveModemScope stores getSgwStore sgIds macs).2.scopeStore =
        service.scopeStore.or getSgwStore ∨
      (service.resolveModemScope stores getSgwStore sgIds macs).2.scopeStore =
        service.scopeStore := by
  unfold OperationService.resolveModemScope
  split_ifs
  · exact Or.inr rfl
  · exact Or.inl rfl

theorem resolveModemIp_eq (helpers : InetHelpers) (stores : StoreId → SgwCacheStore)
    (getSgwStore : Option StoreId) (worker : CaptureWorker) (sgId : ServiceGroupId)
    (macAddress : MacAddressStr) :
    worker.resolveModemIp helpers stores getSgwStore sgId macAddress =
      (((worker.sgwStore.or getSgwStore).map stores).bind fun store =>
        PnmModemResolver.storedIp helpers store sgId macAddress,
       ⟨worker.sgwStore.or getSgwStore⟩) := by
  obtain ⟨held⟩ := worker
  cases held with
  | some store => rfl
  | none =>
    cases getSgwStore with
    | none => rfl
    | some store => rfl

theorem holderKept_setService (h : w.HolderKept holder) (id : ServiceId)
    (service : OperationService)
    (hkept : service.scopeStore = (w.services id).scopeStore.or w.sgwStore ∨
      service.scopeStore = (w.services id).scopeStore) :
    (w.setService id service).HolderKept holder := by
  by_cases hholder : holder = .service id
  · subst hholder
    refine h.recordLoad ?_ rfl rfl rfl
    simpa only [kept, Function.update_self] using hkept
  · refine h.frame ?_ (Function.update_of_ne hholder _ _) rfl rfl
    cases holder with
    | service other =>
      have hne : other ≠ id := fun heq => hholder (congrArg StoreHolder.service heq)
      exact congrArg OperationService.scopeStore (Function.update_of_ne hne _ _)
    | worker other => rfl

theorem holderKept_setWorker (h : w.HolderKept holder) (id : WorkerId) (worker : CaptureWorker)
    (hkept : worker.sgwStore = (w.workers id).sgwStore.or w.sgwStore) :
    (w.setWorker id worker).HolderKept holder := by
  by_cases hholder : holder = .worker id
  · subst hholder
    refine h.recordLoad ?_ rfl rfl rfl
    exact Or.inl (by simpa only [kept, Function.update_self] using hkept)
  · refine h.frame ?_ (Function.update_of_ne hholder _ _) rfl rfl
    cases holder with
    | service other => rfl
    | worker other =>
      have hne : other ≠ id := fun heq => hholder (congrArg StoreHolder.worker heq)
      exact congrArg CaptureWorker.sgwStore (Function.update_of_ne hne _ _)

theorem holderKept_step (a : CaptureAction) (h : w.HolderKept holder) :
    (w.step helpers a).HolderKept holder := by
  cases a with
  | startupSuccess store => exact h.replaced (by cases holder <;> rfl) rfl rfl
  | startupFailure => exact h.replaced (by cases holder <;> rfl) rfl rfl
  | guardRestart => exact h.replaced (by cases holder <;> rfl) rfl rfl
  | refresh store content => exact h.frame (by cases holder <;> rfl) rfl rfl rfl
  | resolveModemScope id sgIds macs =>
    exact holderKept_setService h id _ (scopeStore_resolveModemScope _ _ _ _ _)
  | resolveStore id => exact holderKept_setService h id _ (Or.inl rfl)
  | resolveModemIp id sgId macAddress =>
    refine holderKept_setWorker h id _ ?_
    rw [resolveModemIp_eq]
    rfl

/-- Who is up to date resolves against the active store. -/
theorem HolderKept.or_active (h : w.HolderKept holder) (hfresh : w.UpToDate holder) :
    (w.kept holder).or w.sgwStore = w.sgwStore := by
  cases hloaded : w.loadedAt holder with
  | none => rw [h.unloaded hloaded, Option.none_or]
  | some n => rw [(h.loaded n hloaded).2 (hfresh n hloaded), Option.or_self]

theorem answersLive_of_kept {a : CaptureAction} (h : ∀ holder, w.HolderKept holder)
    (hfresh : w.ResolvesUpToDate a) : w.AnswersLive helpers a := by
  cases a with
  | resolveModemScope id sgIds macs =>
    have hanswer : ((w.services id).resolveModemScope w.stores w.getSgwStore sgIds macs).1 =
        (((w.services id).scopeResolver w.stores w.getSgwStore).resolveModemScope
          sgIds macs).1 := by
      unfold OperationService.resolveModemScope
      split_ifs <;> rfl
    rw [AnswersLive, hanswer, OperationService.scopeResolver, resolveModemScope_eq, ← Option.map_or]
    rcases hfresh with hgiven | hfresh
    · -- nothing is looked up
      rw [PnmOperationScopeResolver.resolveModemScope, if_pos hgiven,
        PnmOperationScopeResolver.resolveModemScope, if_pos hgiven]
    · have hactive : (w.services id).scopeStore.or w.getSgwStore = w.getSgwStore :=
        (h (.service id)).or_active hfresh
      rw [hactive]
  | resolveModemIp id sgId macAddress =>
    have hactive : (w.workers id).sgwStore.or w.getSgwStore = w.getSgwStore :=
      (h (.worker id)).or_active hfresh
    rw [AnswersLive, resolveModemIp_eq, hactive]
  | _ => trivial

/-- In every run in which nobody resolves against a store that has been replaced since it was
loaded, each resolution answers as one against the active store does. -/
theorem resolutions_live (helpers : InetHelpers) (as : List CaptureAction)
    (hrun : LabelledRun.Guarded (step helpers) ResolvesUpToDate boot as) :
    LabelledRun.Guarded (step helpers) (AnswersLive helpers) boot as := by
  rw [LabelledRun.guarded_iff] at hrun ⊢
  intro bs a cs has
  have hkept (holder : StoreHolder) :
      (LabelledRun.exec (step helpers) boot bs).HolderKept holder :=
    LabelledRun.invariant_of_step (I := fun w : CaptureWorld => w.HolderKept holder)
      (fun w a h => holderKept_step a h) bs (holderKept_boot holder)
  exact answersLive_of_kept hkept (hrun bs a cs has)

/-- Address helpers that take every text as it is. -/
def plainHelpers : InetHelpers := ⟨fun _ => none, some⟩

/-- A store with one modem. -/
def oneModem : SgwCacheStore :=
  SgwCacheStore.empty.upsertEntry
    { sgId := 1, snapshot := { sgId := 1, cableModems := [{ mac := "m", ipv4 := "10.0.0.1" }] } }

/-- A restart before the first resolution does no harm. -/
theorem resolutions_live_after_restart :
    LabelledRun.Guarded (step plainHelpers) (AnswersLive plainHelpers) boot
      [.startupSuccess oneModem, .guardRestart, .refresh 1 oneModem,
       .resolveModemScope 0 [] [], .resolveModemIp 0 1 "m"] := by
  refine resolutions_live plainHelpers _ ⟨trivial, trivial, trivial, Or.inr ?_, ?_, trivial⟩
  · intro n hn
    cases hn
  · intro n hn
    cases hn

/-- A service and a worker resolve, the guard restarts, and both resolve once more: they see the
modem that the active store does not have. -/
theorem stale_store_answers :
    let w := LabelledRun.exec (step plainHelpers) boot
      [.startupSuccess oneModem, .resolveModemScope 0 [] [], .resolveModemIp 0 1 "m",
       .guardRestart]
    ¬ w.AnswersLive plainHelpers (.resolveModemScope 0 [] []) ∧
      ¬ w.AnswersLive plainHelpers (.resolveModemIp 0 1 "m") := by
  intro w
  have hscope : ¬ ((w.services 0).resolveModemScope w.stores w.getSgwStore [] []).1 =
      (PnmOperationScopeResolver.resolveModemScope ⟨w.getSgwStore.map w.stores, none⟩ [] []).1 := by
    decide +kernel
  have hip : ¬ ((w.workers 0).resolveModemIp plainHelpers w.stores w.getSgwStore 1 "m").1 =
      (w.getSgwStore.map w.stores).bind fun store =>
        PnmModemResolver.storedIp plainHelpers store 1 "m" := by
    decide +kernel
  exact ⟨hscope, hip⟩

end CaptureWorld
end PypnmCmts
