import HttpCalls.Call.Features
import HttpCalls.Call.Target
import HttpCalls.Client.Basic
import HttpCalls.Dispatch.Dispatcher
import HttpCalls.Settings.Basic
import HttpCalls.Proofs.Dispatch.Streams
import HttpCalls.Proofs.Dispatch.Styles
import HttpCalls.Proofs.Endpoint.RegistryRuns
import HttpCalls.Proofs.Call.HeaderParams
import HttpCalls.Proofs.Call.RequestParts
import HttpCalls.Proofs.Results
import HttpCalls.Proofs.Url.WebUrls
import HttpCalls.Proofs.Client.Targets
import HttpCalls.Proofs.Client.Closing
import HttpCalls.Proofs.Client.MissingResources
import HttpCalls.Proofs.Client.SentHeaders
import HttpCalls.Proofs.Dispatch.DispatcherRuns
import HttpCalls.Proofs.Endpoint.NamedServices
import HttpCalls.Proofs.Endpoint.Rounds
import HttpCalls.Proofs.Client.Turns
import HttpCalls.Proofs.Template.Meanings
import HttpCalls.Proofs.Template.NamedPairs
import HttpCalls.Proofs.Template.Nesting
import HttpCalls.Proofs.Template.Alphabet
import HttpCalls.Proofs.Template.Written
import HttpCalls.Proofs.Template.Reference
import HttpCalls.Proofs.Json.ReadScalars
import HttpCalls.Proofs.Json.Layouts
import HttpCalls.Proofs.Json.ReadBack
import HttpCalls.Proofs.Call.Bodies
import HttpCalls.Proofs.Dispatch.Lookup
import HttpCalls.Proofs.Dispatch.NoContent
import HttpCalls.Proofs.Call.NamedValues
import HttpCalls.Proofs.Client.BlankReplies
import HttpCalls.Proofs.Client.Answers
import HttpCalls.Proofs.Endpoint.Removals
import HttpCalls.Proofs.Template.Members
import HttpCalls.Proofs.Template.StrayPercents
import HttpCalls.Proofs.Dispatch.Completions
import HttpCalls.Proofs.Call.Toggles
import HttpCalls.Proofs.Template.Stretches
import HttpCalls.Proofs.Endpoint.FaultyUrls
import HttpCalls.Proofs.Endpoint.Resolving
