import ActionProxy.Storage.LockExclusion
import ActionProxy.Contracts.DuplicateKeys
import ActionProxy.Security.ApiKeyScopes
import ActionProxy.Security.CredentialAnswers
import ActionProxy.Security.HttpSecurity
import ActionProxy.Storage.LocalDevStore
import ActionProxy.Services.DirectoryUpdates
import ActionProxy.Routes.PolicyRedaction
import ActionProxy.Wrapper.RoundTrip
import ActionProxy.Wrapper.OutcomeDuty
import ActionProxy.Wrapper.IdDiscipline
import ActionProxy.Sdk.ExternalRunner
import ActionProxy.Policy.FrozenContext
import ActionProxy.Routes.PolicySimulation
import ActionProxy.Routes.PolicyUpdates
import ActionProxy.Routes.McpCatalog
import ActionProxy.Routes.ResultSecrecy
import ActionProxy.Services.OutcomeRecording
import ActionProxy.Services.PresentationCoalescing
import ActionProxy.Services.SingleUseTokens
import ActionProxy.Security.McpSession
import ActionProxy.Wrapper.SizeLimits
import ActionProxy.Integrations.EmailMessage
import ActionProxy.Integrations.PresentationReports
import ActionProxy.Integrations.TelegramConnect
import ActionProxy.Integrations.NotificationFanout
import ActionProxy.Integrations.McpProfiles
import ActionProxy.Services.ObservationRuns
import ActionProxy.Policy.PolicySchema
import ActionProxy.Routes.OperatorListings
import ActionProxy.Services.GateSafety
import ActionProxy.Storage.JsonlFile
