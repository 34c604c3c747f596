import Mathlib.Data.List.Basic
import PypnmCmts.OperationModels

/-! How the workers read the response to a capture: `parse_capture_response` of
`api/common/service/pnm/capture.py`, and `_run_capture` of the RxMER and of the upstream
pre-equalization worker. -/
namespace PypnmCmts

/-- An object in a payload. All but `None` carry the text that `str` makes of them; a dictionary
answers `get` with `None` for a key it has not. -/
inductive PayloadObject
  | none
  | dict (text : String) (get : String → PayloadObject)
  | messagePayload (text : String) (messageType : String) (message : PayloadObject)
  | other (text : String)

namespace PayloadObject

def isNone : PayloadObject → Bool
  | none => true
  | _ => false

def str : PayloadObject → String
  | none => "None"
  | dict text _ | messagePayload text _ _ | other text => text

end PayloadObject

/-- The payload of a response is a list or, as `none`, something else. -/
structure MessageResponse where
  status : ServiceStatusCode
  payload : Option (List PayloadObject)

/-- What the PyPNM package knows of its status codes. -/
structure StatusCodes where
  pnmFileTransactionIdNotFound : ServiceStatusCode
  name : ServiceStatusCode → String

def clearMessage : String := ""
def noMessageResponse : String := "capture returned no message response"
def missingTransactionMessage : String := "missing transaction_id or filename"

/-- `MessageResponseType.PNM_FILE_TRANSACTION.name`. -/
def pnmFileTransaction : String := "PNM_FILE_TRANSACTION"

namespace PnmCaptureHelper

def extractPayloadEntry : PayloadObject → Option String × PayloadObject
  | .messagePayload _ messageType message => (some messageType, message)
  | .dict _ get =>
    let messageType := get "message_type"
    (if messageType.isNone then none else some messageType.str, get "message")
  | _ => (none, .none)

/-- The loop of `parse_capture_response`, which returns at the first pair it finds. -/
def firstTransaction (expectedMessageType : String) :
    List PayloadObject → Option (TransactionId × FileNameStr)
  | [] => none
  | element :: rest =>
    let (messageType, message) := extractPayloadEntry element
    if messageType ≠ some expectedMessageType then firstTransaction expectedMessageType rest
    else
      match message with
      | .dict _ get =>
        let transactionId := get "transaction_id"
        let filename := get "filename"
        if transactionId.isNone || filename.isNone then
          firstTransaction expectedMessageType rest
        else some (transactionId.str, filename.str)
      | _ => firstTransaction expectedMessageType rest

structure ParsedCapture where
  statusCode : ServiceStatusCode
  transactionId : Option TransactionId
  filename : Option FileNameStr
  message : String

def parseCaptureResponse (codes : StatusCodes) (response : Option MessageResponse)
    (expectedMessageType : String) : ParsedCapture :=
  match response with
  | none => ⟨.failure, none, none, noMessageResponse⟩
  | some response =>
    if response.status ≠ .success then ⟨response.status, none, none, codes.name response.status⟩
    else
      match response.payload with
      | none => ⟨.failure, none, none, missingTransactionMessage⟩
      | some payload =>
        match firstTransaction expectedMessageType payload with
        | some (transactionId, filename) =>
          ⟨response.status, some transactionId, some filename, clearMessage⟩
        | none => ⟨codes.pnmFileTransactionIdNotFound, none, none, missingTransactionMessage⟩

end PnmCaptureHelper

/-- The channel that the stage is recorded under. -/
def captureChannelId : List ChannelId → Option ChannelId
  | [channelId] => some channelId
  | _ => none

namespace RxMerCaptureWorker
open PnmCaptureHelper

/-- `_run_capture`, from the response to the capture on. -/
def runCapture (codes : StatusCodes) (channelIds : List ChannelId) (createdEpoch : TimestampSec)
    (captureResponse : Option MessageResponse) : OperationStageResultModel :=
  let parsed := parseCaptureResponse codes captureResponse pnmFileTransaction
  let (transactionIds, filenames, message) :=
    match parsed.statusCode, parsed.transactionId, parsed.filename with
    | .success, some transactionId, some filename => ([transactionId], [filename], parsed.message)
    | _, _, _ =>
      ([], [], if parsed.message = "" then missingTransactionMessage else parsed.message)
  { stage := .capture
    statusCode := parsed.statusCode
    channelId := captureChannelId channelIds
    transactionIds := transactionIds
    filenames := filenames
    message := message
    startedEpoch := createdEpoch
    finishedEpoch := createdEpoch }

end RxMerCaptureWorker

namespace PreEqualizationCaptureWorker
open PnmCaptureHelper

/-- The loop of `_run_capture` with its two lists. -/
def collectTransactions :
    List PayloadObject → List TransactionId → List FileNameStr →
      List TransactionId × List FileNameStr
  | [], ids, names => (ids, names)
  | element :: rest, ids, names =>
    let (messageType, message) := extractPayloadEntry element
    if messageType ≠ some pnmFileTransaction then collectTransactions rest ids names
    else
      match message with
      | .dict _ get =>
        let transactionId := get "transaction_id"
        let filename := get "filename"
        if transactionId.isNone || filename.isNone then collectTransactions rest ids names
        else collectTransactions rest (ids ++ [transactionId.str]) (names ++ [filename.str])
      | _ => collectTransactions rest ids names

def runCapture (codes : StatusCodes) (channelIds : List ChannelId) (createdEpoch : TimestampSec)
    (captureResponse : Option MessageResponse) : OperationStageResultModel :=
  let (statusCode, ids, names, message) :=
    match captureResponse with
    | none => (.failure, [], [], noMessageResponse)
    | some response =>
      if response.status ≠ .success then (response.status, [], [], codes.name response.status)
      else
        match response.payload with
        | none => (.failure, [], [], missingTransactionMessage)
        | some payload =>
          let (ids, names) := collectTransactions payload [] []
          if ids.isEmpty || names.isEmpty then
            (codes.pnmFileTransactionIdNotFound, ids, names, missingTransactionMessage)
          else (.success, ids, names, "")
  { stage := .capture
    statusCode := statusCode
    channelId := captureChannelId channelIds
    transactionIds := ids
    filenames := names
    message := message
    startedEpoch := createdEpoch
    finishedEpoch := createdEpoch }

end PreEqualizationCaptureWorker

namespace PayloadObject

/-- The type and the message of an entry, for the two kinds of entries there are. -/
def typedMessage : PayloadObject → Option (String × PayloadObject)
  | messagePayload _ messageType message => some (messageType, message)
  | dict _ get => if (get "message_type").isNone then Option.none
    else some ((get "message_type").str, get "message")
  | none | other _ => Option.none

/-- The pair of an entry that carries both fields. -/
def bothFields : PayloadObject → Option (TransactionId × FileNameStr)
  | dict _ get =>
    if (get "transaction_id").isNone || (get "filename").isNone then Option.none
    else some ((get "transaction_id").str, (get "filename").str)
  | _ => Option.none

/-- The pair of a file transaction. -/
def transaction (element : PayloadObject) : Option (TransactionId × FileNameStr) :=
  match element.typedMessage with
  | some (messageType, message) =>
    if messageType = pnmFileTransaction then message.bothFields else Option.none
  | Option.none => Option.none

end PayloadObject

/-- The files that a payload names. -/
def payloadTransactions (payload : List PayloadObject) : List (TransactionId × FileNameStr) :=
  payload.filterMap PayloadObject.transaction

/-- The stage lists exactly these files. -/
def OperationStageResultModel.ListsExactly (stage : OperationStageResultModel)
    (files : List (TransactionId × FileNameStr)) : Prop :=
  stage.transactionIds = files.map Prod.fst ∧ stage.filenames = files.map Prod.snd

instance (stage : OperationStageResultModel) (files : List (TransactionId × FileNameStr)) :
    Decidable (stage.ListsExactly files) :=
  inferInstanceAs (Decidable (_ ∧ _))

namespace PnmCaptureHelper

/-- What the two tests on an entry come to. -/
theorem transaction_eq (element : PayloadObject) :
    element.transaction =
      if (extractPayloadEntry element).1 = some pnmFileTransaction then
        (extractPayloadEntry element).2.bothFields else none := by
  cases element with
  | none | other => rfl
  | messagePayload text messageType message =>
    simp only [PayloadObject.transaction, PayloadObject.typedMessage, extractPayloadEntry,
      Option.some_inj]
  | dict text get =>
    rw [PayloadObject.transaction, PayloadObject.typedMessage, extractPayloadEntry]
    by_cases hnone : (get "message_type").isNone = true
    · simp only [hnone, if_true, reduceCtorEq, if_false]
    · simp only [hnone, Bool.false_eq_true, if_false, Option.some_inj]

/-- One pass through the loop over the payload. -/
theorem firstTransaction_cons (element : PayloadObject) (rest : List PayloadObject) :
    firstTransaction pnmFileTransaction (element :: rest) =
      element.transaction.or (firstTransaction pnmFileTransaction rest) := by
  rw [firstTransaction, transaction_eq]
  by_cases htype : (extractPayloadEntry element).1 = some pnmFileTransaction
  · simp only [htype, ne_eq, not_true_eq_false, if_false, if_true]
    cases (extractPayloadEntry element).2 with
    | dict text get =>
      simp only [PayloadObject.bothFields]
      split <;> rfl
    | _ => rfl
  · simp only [htype, ne_eq, not_false_eq_true, if_true, if_false, Option.none_or]

/-- The shared helper finds the first file and drops the others. -/
theorem firstTransaction_eq_head? (payload : List PayloadObject) :
    firstTransaction pnmFileTransaction payload = (payloadTransactions payload).head? := by
  induction payload with
  | nil => rfl
  | cons element rest ih =>
    rw [firstTransaction_cons, ih, payloadTransactions, payloadTransactions, List.filterMap_cons]
    cases element.transaction with
    | none => rfl
    | some file => rfl

end PnmCaptureHelper

namespace PreEqualizationCaptureWorker
open PnmCaptureHelper

theorem collectTransactions_cons (element : PayloadObject) (rest : List PayloadObject)
    (ids : List TransactionId) (names : List FileNameStr) :
    collectTransactions (element :: rest) ids names =
      collectTransactions rest (ids ++ element.transaction.toList.map Prod.fst)
        (names ++ element.transaction.toList.map Prod.snd) := by
  have hskip : collectTransactions rest ids names =
      collectTransactions rest (ids ++ []) (names ++ []) := by
    rw [List.append_nil, List.append_nil]
  rw [collectTransactions, transaction_eq]
  by_cases htype : (extractPayloadEntry element).1 = some pnmFileTransaction
  · simp only [htype, ne_eq, not_true_eq_false, if_false, if_true]
    cases (extractPayloadEntry element).2 with
    | dict text get =>
      simp only [PayloadObject.bothFields]
      split
      · exact hskip
      · rfl
    | _ => exact hskip
  · simp only [htype, ne_eq, not_false_eq_true, if_true, if_false]
    exact hskip

/-- The loop leaves no file out. -/
theorem collectTransactions_eq (payload : List PayloadObject) (ids : List TransactionId)
    (names : List FileNameStr) :
    collectTransactions payload ids names =
      (ids ++ (payloadTransactions payload).map Prod.fst,
        names ++ (payloadTransactions payload).map Prod.snd) := by
  induction payload generalizing ids names with
  | nil =>
    rw [collectTransactions, payloadTransactions, List.filterMap_nil, List.map_nil, List.map_nil,
      List.append_nil, List.append_nil]
  | cons element rest ih =>
    rw [collectTransactions_cons, ih, payloadTransactions, payloadTransactions,
      List.filterMap_cons]
    cases element.transaction with
    | none => simp
    | some file => simp

theorem listsExactly_runCapture (codes : StatusCodes) (channelIds : List ChannelId)
    (createdEpoch : TimestampSec) (payload : List PayloadObject) :
    (runCapture codes channelIds createdEpoch (some ⟨.success, some payload⟩)).ListsExactly
      (payloadTransactions payload) := by
  have hcollect := collectTransactions_eq payload [] []
  rw [List.nil_append, List.nil_append] at hcollect
  simp only [runCapture, ne_eq, not_true_eq_false, if_false, hcollect]
  -- without a file the stage is reported as failed, with both lists empty
  split <;> exact ⟨rfl, rfl⟩

end PreEqualizationCaptureWorker

namespace RxMerCaptureWorker
open PnmCaptureHelper

/-- The stage lists the first file only. -/
theorem runCapture_lists (codes : StatusCodes) (channelIds : List ChannelId)
    (createdEpoch : TimestampSec) (payload : List PayloadObject) :
    (runCapture codes channelIds createdEpoch (some ⟨.success, some payload⟩)).ListsExactly
      (payloadTransactions payload).head?.toList := by
  have hfirst := firstTransaction_eq_head? payload
  simp only [runCapture, parseCaptureResponse, ne_eq, not_true_eq_false, if_false, hfirst]
  cases (payloadTransactions payload).head? with
  | none =>
    -- whatever code stands for a missing transaction
    dsimp only
    cases codes.pnmFileTransactionIdNotFound <;> exact ⟨rfl, rfl⟩
  | some file => exact ⟨rfl, rfl⟩

end RxMerCaptureWorker

theorem head?_toList_of_length_le {α : Type*} {l : List α} (h : l.length ≤ 1) :
    l.head?.toList = l := by
  match l, h with
  | [], _ => rfl
  | [a], _ => rfl

/-- Both workers list every file of a successful response, in the order of the payload, if and only
if it has no more than one. The pre-equalization worker always does. -/
theorem capture_lists_files_iff (codes : StatusCodes) (channelIds : List ChannelId)
    (createdEpoch : TimestampSec) (payload : List PayloadObject) :
    let response : MessageResponse := ⟨.success, some payload⟩
    let files := payloadTransactions payload
    let rxMer := RxMerCaptureWorker.runCapture codes channelIds createdEpoch (some response)
    let preEqualization :=
      PreEqualizationCaptureWorker.runCapture codes channelIds createdEpoch (some response)
    (rxMer.ListsExactly files ∧ preEqualization.ListsExactly files ↔ files.length ≤ 1) ∧
      preEqualization.ListsExactly files := by
  intro response files rxMer preEqualization
  have hpre : preEqualization.ListsExactly files :=
    PreEqualizationCaptureWorker.listsExactly_runCapture codes channelIds createdEpoch payload
  have hfirst : rxMer.ListsExactly files.head?.toList :=
    RxMerCaptureWorker.runCapture_lists codes channelIds createdEpoch payload
  refine ⟨⟨?_, ?_⟩, hpre⟩
  · rintro ⟨hlists, -⟩
    have hsame : files.map Prod.fst = files.head?.toList.map Prod.fst :=
      hlists.1.symm.trans hfirst.1
    have hlength := congrArg List.length hsame
    rw [List.length_map, List.length_map] at hlength
    rw [hlength]
    exact Option.length_toList_le
  · intro hone
    rw [head?_toList_of_length_le hone] at hfirst
    exact ⟨hfirst, hpre⟩

/-- The file transaction of one channel. -/
def fileTransaction (transactionId filename : String) : PayloadObject :=
  .messagePayload "" pnmFileTransaction <| .dict "" fun key =>
    if key = "transaction_id" then .other transactionId
    else if key = "filename" then .other filename
    else .none

/-- A capture of two channels, of which the RxMER worker records the first file. -/
theorem rxMer_drops_second_file :
    let payload := [fileTransaction "tx1" "channel1.bin", fileTransaction "tx2" "channel2.bin"]
    let stage := RxMerCaptureWorker.runCapture ⟨.other 1, fun _ => "FAILURE"⟩ [] 0
      (some ⟨.success, some payload⟩)
    payloadTransactions payload = [("tx1", "channel1.bin"), ("tx2", "channel2.bin")] ∧
      stage.statusCode = .success ∧ stage.transactionIds = ["tx1"] ∧
      stage.filenames = ["channel1.bin"] ∧ ¬ stage.ListsExactly (payloadTransactions payload) := by
  decide +kernel

end PypnmCmts
