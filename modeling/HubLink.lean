import HubLink.Bench.Receiver
import HubLink.Bench.Wait
import HubLink.Options.Document
import HubLink.Proxy
import HubLink.Proofs.Collection.Reading
import HubLink.Proofs.Delivery.Reading
import HubLink.Proofs.Delivery.Due
import HubLink.Proofs.Delivery.Handling
import HubLink.Proofs.Delivery.Bookkeeping
import HubLink.Proofs.Delivery.Rejection
import HubLink.Proofs.Delivery.Commuting
import HubLink.Proofs.Delivery.Sweeping
import HubLink.Proofs.Retry.Policy
import HubLink.Proofs.Retry.Rising
import HubLink.Proofs.Retry.Budget
import HubLink.Proofs.Options.Checked
import HubLink.Proofs.Text.Form
import HubLink.Proofs.Text.Utf8
import HubLink.Proofs.Text.Percent
import HubLink.Proofs.Text.Pairs
import HubLink.Proofs.Token.Fields
import HubLink.Proofs.Token.ConnectionString
import HubLink.Proofs.Dtmi.Grammar
import HubLink.Proofs.Proxy.Answer
import HubLink.Proofs.Proxy.Request
import HubLink.Proofs.Mqtt.Name
import HubLink.Proofs.Mqtt.Route
import HubLink.Proofs.Mqtt.Properties
import HubLink.Proofs.Mqtt.TwinAnswer
import HubLink.Proofs.Mqtt.MethodAnswer
import HubLink.Proofs.Mqtt.TwinReading
import HubLink.Proofs.Mqtt.Confirmation
import HubLink.Proofs.Mqtt.InFlight
import HubLink.Proofs.Https.Headers
import HubLink.Proofs.Https.Telemetry
import HubLink.Proofs.Https.Polling
import HubLink.Proofs.Https.Addressing
import HubLink.Proofs.Connection.History
import HubLink.Proofs.Connection.Move
import HubLink.Proofs.Connection.Turn
import HubLink.Proofs.Connection.Situation
import HubLink.Proofs.Connection.Runs
import HubLink.Proofs.Connection.Attempts
import HubLink.Proofs.Connection.Restart
import HubLink.Proofs.Connection.Rest
import HubLink.Proofs.Connection.Waking
import HubLink.Proofs.Connection.Completion
import HubLink.Proofs.Connection.Discipline
import HubLink.Proofs.Connection.Replay
import HubLink.Proofs.Connection.Setback
import HubLink.Proofs.Connection.Reconnect
import HubLink.Proofs.Connection.Resending
import HubLink.Proofs.Connection.Warrant
import HubLink.Proofs.Connection.Narration
import HubLink.Proofs.Connection.Lifecycle
import HubLink.Proofs.Connection.Waiting
import HubLink.Proofs.Connection.Replies
import HubLink.Proofs.Connection.Quiet
import HubLink.Proofs.Connection.Schedule
import HubLink.Proofs.Connection.Punctuality
import HubLink.Proofs.Connection.Horizon
import HubLink.Proofs.Connection.Deadlines
import HubLink.Proofs.Connection.Deferring
import HubLink.Proofs.Connection.Settling
import HubLink.Proofs.Connection.Passing
import HubLink.Proofs.Connection.Containment
import HubLink.Proofs.Client.Limits
import HubLink.Proofs.Client.Building
import HubLink.Proofs.Client.Submitting
import HubLink.Proofs.Upload.Releasing
import HubLink.Proofs.Upload.Receiving
