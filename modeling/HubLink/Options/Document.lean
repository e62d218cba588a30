import HubLink.Json.Record
import HubLink.Options.Basic

/-! # Options documents

Reading options from JSON. Every field but the address of a proxy may be left out. -/

namespace HubLink

open Json

namespace RetryOptions

/-- The fields, in order. -/
def fields : List String :=
  ["base_delay_ms", "max_delay_ms", "max_retry_duration_ms", "jitter", "seed"]

/-- Read the settings of a retry policy. -/
def ofTree? (t : Tree) : Option RetryOptions := do
  let r ← t.record? fields
  let number := Tree.natBelow? Text.bound64
  let standard : RetryOptions := {}
  return {
    baseDelay := ← r.withDefault? "base_delay_ms" standard.baseDelay number
    maxDelay := ← r.withDefault? "max_delay_ms" standard.maxDelay number
    maxDuration := ← r.withDefault? "max_retry_duration_ms" standard.maxDuration number
    jitter := ← r.withDefault? "jitter" standard.jitter Tree.real?
    seed := ← r.withDefault? "seed" standard.seed number }

end RetryOptions

namespace ProxySettings

/-- The fields, in order. -/
def fields : List String := ["host", "port", "username", "password"]

/-- Read the settings of a proxy. -/
def ofTree? (t : Tree) : Option ProxySettings := do
  let r ← t.record? fields
  let text := Tree.nullable? Tree.string?
  return {
    host := ← r.required? "host" Tree.string?
    port := ← r.required? "port" (Tree.natBelow? Text.bound16)
    username := ← r.withDefault? "username" none text
    password := ← r.withDefault? "password" none text }

end ProxySettings

namespace ClientOptions

/-- The fields, in order. -/
def fields : List String :=
  ["operation_timeout_ms", "ack_timeout_ms", "connect_timeout_ms", "keep_alive_secs",
    "token_ttl_secs", "https_poll_interval_ms", "event_channel_capacity", "model_id", "proxy",
    "retry"]

/-- Read the settings of a client. -/
def ofTree? (t : Tree) : Option ClientOptions := do
  let r ← t.record? fields
  let number := Tree.natBelow? Text.bound64
  let standard : ClientOptions := {}
  return {
    operationTimeout := ← r.withDefault? "operation_timeout_ms" standard.operationTimeout number
    ackTimeout := ← r.withDefault? "ack_timeout_ms" standard.ackTimeout number
    connectTimeout := ← r.withDefault? "connect_timeout_ms" standard.connectTimeout number
    keepAlive :=
      ← r.withDefault? "keep_alive_secs" standard.keepAlive (Tree.natBelow? Text.bound16)
    tokenLifetime := ← r.withDefault? "token_ttl_secs" standard.tokenLifetime number
    pollInterval := ← r.withDefault? "https_poll_interval_ms" standard.pollInterval number
    eventCapacity := ← r.withDefault? "event_channel_capacity" standard.eventCapacity number
    modelId := ← r.withDefault? "model_id" none (Tree.nullable? Tree.string?)
    proxy := ← r.withDefault? "proxy" none (Tree.nullable? ProxySettings.ofTree?)
    retry := ← r.withDefault? "retry" {} RetryOptions.ofTree? }

/-- Read the settings of a client from a JSON text. -/
def parse? (text : List UInt8) : Option ClientOptions := (Tree.parse? text).bind ofTree?

end ClientOptions

end HubLink
