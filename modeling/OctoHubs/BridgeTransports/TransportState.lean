import OctoHubs.Library.Coercions
import OctoHubs.Time

/-! What is known of the transports of each server's Event Bridge plugin, and what a payload
changes in it.
-/

namespace OctoHubs.BridgeTransports

open OctoHubs.Library

abbrev Socket := Nat

structure ServerState where
  serverId : String
  serverName : String := ""
  pluginVersion : String := ""
  transport : String := "http"
  connected : Bool := false
  connectedAt : Option Timestamp := none
  lastSeenAt : Option Timestamp := none
  lastEventAt : Option Timestamp := none
  lastConfigSentAt : Option Timestamp := none
  lastConfigAckAt : Option Timestamp := none
  lastConfigTransport : String := ""
  lastConfigAckStatus : String := ""
  lastConfigAckError : String := ""
  lastConfigMessageId : String := ""
  lastConfigAckMessageId : String := ""
  lastPluginSettingsAt : Option Timestamp := none
  pluginSettings : Document := ∅
  pluginTargetCount : Option Int := none
  pluginTargets : List (String × String) := []
  lastEventType : String := ""
  lastEventName : String := ""
  receivedCount : Nat := 0
  generation : Nat := 0
  websocket : Option Socket := none

/-- The part of a server's state that ties it to a socket. -/
structure Connection where
  connected : Bool
  generation : Nat
  websocket : Option Socket
deriving DecidableEq

def ServerState.connection (state : ServerState) : Connection :=
  ⟨state.connected, state.generation, state.websocket⟩

/-- How payloads are read. -/
structure BridgeRules extends Alphabet where
  settingsFromPlugin : Document → Document

section Payloads

variable (rules : BridgeRules)

/-- The text of the first value that does not count as false. -/
def firstText (values : List Json) (default_ : String) : String :=
  (values.find? Json.truthy).elim default_ (·.asText rules.toAlphabet)

def stripped (value : Json) : String := strip (value.textOr rules.toAlphabet "")

def nonempty (text default_ : String) : String := if text = "" then default_ else text

/-- The server's identifier, or what stands for it, with the server's name. -/
def identity (serverId serverName : String) : String × String :=
  (nonempty serverId (nonempty serverName "unknown"), serverName)

def serverIdentity (payload : Document) : String × String :=
  let serverId := stripped rules (Document.field payload "serverId")
  let serverName := stripped rules (Document.field payload "serverName")
  match Document.dictAt? payload "server" with
  | none => identity serverId serverName
  | some server =>
      let innerId := stripped rules (Document.field server "id")
      let innerName := stripped rules (Document.field server "name")
      if innerId = "" ∧ innerName = "" then identity serverId serverName
      else identity innerId innerName

def batchSchema : String := "octohubs.emby.event_batch.v1"

def eventBridgePayloads (payload : Document) : List Document :=
  match Document.field payload "schema" with
  | .text schema =>
      if schema = batchSchema then
        ((Document.field payload "events").asList?.getD []).filterMap Json.asDict?
      else [payload]
  | _ => [payload]

def boundedText (value : Json) : String :=
  String.ofList ((stripped rules value).toList.take 256)

def recordEventIdentity (state : ServerState) (payload : Document) : ServerState :=
  let event := Document.dictAt payload "event"
  let first (key outer : String) : Json :=
    let value := Document.field event key
    if value.truthy then value else Document.field payload outer
  { state with
    lastEventType := boundedText rules (first "type" "eventType")
    lastEventName := boundedText rules (first "name" "eventName") }

/-- The targets with an address; one without a name is numbered by its place. -/
def pluginTargets (value : Json) : List (String × String) :=
  (value.asList?.getD []).zipIdx.filterMap (fun (entry, index) =>
    entry.asDict?.bind (fun item =>
      let urls := [Document.field item "url", Document.field item "baseUrl"]
      let url := strip (firstText rules urls "")
      let name := firstText rules [Document.field item "name"] s!"OctoHubs {index + 1}"
      if url = "" then none else some (strip name, url)))

def intOrNone (value : Json) : Option Int :=
  rules.readInt? (strip (value.asText rules.toAlphabet))

def recordPluginPayloadState (state : ServerState) (plugin : Document) (now : Timestamp)
    : ServerState :=
  { state with
    pluginSettings := rules.settingsFromPlugin plugin
    lastPluginSettingsAt := some now
    pluginVersion := firstText rules [Document.field plugin "version"] state.pluginVersion
    pluginTargetCount := intOrNone rules (Document.field plugin "octoHubsTargetCount")
    pluginTargets := pluginTargets rules (Document.field plugin "octoHubsTargets") }

def recordPlugin (state : ServerState) (payload : Document) (now : Timestamp) : ServerState :=
  let plugin := Document.dictAt payload "plugin"
  if plugin.keys = [] then state else recordPluginPayloadState rules state plugin now

def isFalse : Json → Bool
  | .bool false => true
  | _ => false

/-- A value under the first key, if the response has it, and else under the second. -/
def eitherField (response : Document) (key other : String) : Json :=
  if (Dict.get? response key).isSome then Document.field response key
  else Document.field response other

/-- The server of a socket that says hello, which is its current one from now on. -/
def ServerState.registered (state : ServerState) (socket : Socket) (hello : Document)
    (serverName : String) (now : Timestamp)
    : ServerState :=
  let versions := [Document.field hello "pluginVersion", Document.field hello "version"]
  { state with
    generation := state.generation + 1
    serverName := nonempty serverName state.serverName
    pluginVersion := firstText rules versions state.pluginVersion
    transport := "websocket"
    connected := true
    connectedAt := some now
    lastSeenAt := some now
    websocket := some socket }

/-- The server whose current socket has gone. -/
def ServerState.detached (state : ServerState) (now : Timestamp) : ServerState :=
  { state with connected := false, websocket := none, lastSeenAt := some now }

/-- The server while a configuration is being sent: an acknowledgement can come before the end. -/
def ServerState.sending (state : ServerState) (messageId : String) (now : Timestamp)
    : ServerState :=
  { state with
    lastSeenAt := some now
    lastConfigSentAt := some now
    lastConfigTransport := "websocket"
    lastConfigMessageId := messageId
    lastConfigAckStatus := "pending"
    lastConfigAckError := "" }

/-- What a delivery that fails restores. -/
structure Delivery where
  lastSeenAt : Option Timestamp
  lastConfigSentAt : Option Timestamp
  lastConfigTransport : String
  lastConfigMessageId : String
  lastConfigAckStatus : String
  lastConfigAckError : String

def ServerState.delivery (state : ServerState) : Delivery where
  lastSeenAt := state.lastSeenAt
  lastConfigSentAt := state.lastConfigSentAt
  lastConfigTransport := state.lastConfigTransport
  lastConfigMessageId := state.lastConfigMessageId
  lastConfigAckStatus := state.lastConfigAckStatus
  lastConfigAckError := state.lastConfigAckError

def ServerState.restored (state : ServerState) (previous : Delivery) : ServerState :=
  { state with
    lastSeenAt := previous.lastSeenAt
    lastConfigSentAt := previous.lastConfigSentAt
    lastConfigTransport := previous.lastConfigTransport
    lastConfigMessageId := previous.lastConfigMessageId
    lastConfigAckStatus := previous.lastConfigAckStatus
    lastConfigAckError := previous.lastConfigAckError }

def ServerState.httpEvent (state : ServerState) (item : Document) (now : Timestamp)
    : ServerState :=
  let seen :=
    { state with
      serverName := nonempty (serverIdentity rules item).2 state.serverName
      transport := if state.connected then state.transport else "http"
      lastSeenAt := some now
      lastEventAt := some now
      receivedCount := state.receivedCount + 1 }
  recordPlugin rules (recordEventIdentity rules seen item) item now

/-- An event that arrives over the server's current socket. -/
def ServerState.websocketEvent (state : ServerState) (socket : Socket) (item : Document)
    (now : Timestamp)
    : ServerState :=
  let seen :=
    { state with
      serverName := nonempty (serverIdentity rules item).2 state.serverName
      transport := "websocket"
      connected := true
      websocket := some socket
      lastSeenAt := some now
      lastEventAt := some now
      receivedCount := state.receivedCount + 1 }
  recordPlugin rules (recordEventIdentity rules seen item) item now

def ServerState.configAck (state : ServerState) (payload : Document) (messageId : String)
    (now : Timestamp)
    : ServerState :=
  let applied :=
    !isFalse (Document.field payload "ok") && !isFalse (Document.field payload "applied")
  { state with
    lastSeenAt := some now
    lastConfigAckAt := some now
    lastConfigTransport := "websocket"
    lastConfigAckMessageId := messageId
    lastConfigAckStatus := if applied then "applied" else "error"
    lastConfigAckError := if applied then "" else stripped rules (Document.field payload "error") }

/-- The response of the plugin's own configuration endpoint. -/
def ServerState.pluginResponse (state : ServerState) (response : Document) (now : Timestamp)
    : ServerState :=
  let applied :=
    !isFalse (eitherField response "Ok" "ok") && !isFalse (eitherField response "Applied" "applied")
  let errors := [Document.field response "Error", Document.field response "error"]
  let answered :=
    { state with
      serverName :=
        firstText rules [Document.field response "ServerName", Document.field response "serverName"]
          state.serverName
      pluginVersion :=
        firstText rules
          [Document.field response "PluginVersion", Document.field response "pluginVersion"]
          state.pluginVersion
      transport := if state.connected then state.transport else "http"
      lastSeenAt := some now
      lastConfigSentAt := some now
      lastConfigAckAt := some now
      lastConfigTransport := "http"
      lastConfigAckStatus := if applied then "applied" else "error"
      lastConfigAckError := if applied then "" else strip (firstText rules errors "") }
  match (eitherField response "Settings" "settings").asDict? with
  | some settings => recordPluginPayloadState rules answered settings now
  | none => answered

variable {rules}

theorem nonempty_ne {text default_ : String} (some_ : default_ ≠ "")
    : nonempty text default_ ≠ "" := by
  unfold nonempty
  split
  · exact some_
  · assumption

theorem identity_ne (serverId serverName : String) : (identity serverId serverName).1 ≠ "" :=
  nonempty_ne (nonempty_ne (by decide))

theorem serverIdentity_ne (payload : Document) : (serverIdentity rules payload).1 ≠ "" := by
  rw [serverIdentity]
  cases Document.dictAt? payload "server" with
  | none => exact identity_ne _ _
  | some server =>
      dsimp only
      split
      · exact identity_ne _ _
      · exact identity_ne _ _

theorem connection_recordPlugin (state : ServerState) (payload : Document) (now : Timestamp)
    : (recordPlugin rules state payload now).connection = state.connection := by
  unfold recordPlugin
  dsimp only
  split <;> rfl

theorem connection_httpEvent (state : ServerState) (item : Document) (now : Timestamp)
    : (state.httpEvent rules item now).connection = state.connection := by
  rw [ServerState.httpEvent, connection_recordPlugin]
  rfl

theorem connection_websocketEvent (state : ServerState) (socket : Socket) (item : Document)
    (now : Timestamp)
    : (state.websocketEvent rules socket item now).connection
      = ⟨true, state.generation, some socket⟩ := by
  rw [ServerState.websocketEvent, connection_recordPlugin]
  rfl

theorem connection_registered (state : ServerState) (socket : Socket) (hello : Document)
    (serverName : String) (now : Timestamp)
    : (state.registered rules socket hello serverName now).connection
      = ⟨true, state.generation + 1, some socket⟩ :=
  rfl

theorem connection_pluginResponse (state : ServerState) (response : Document) (now : Timestamp)
    : (state.pluginResponse rules response now).connection = state.connection := by
  unfold ServerState.pluginResponse
  dsimp only
  split <;> rfl

end Payloads

theorem connection_sending (state : ServerState) (messageId : String) (now : Timestamp)
    : (state.sending messageId now).connection = state.connection :=
  rfl

theorem connection_restored (state : ServerState) (previous : Delivery)
    : (state.restored previous).connection = state.connection :=
  rfl

end OctoHubs.BridgeTransports
