import LobstrMcp.Run.Restore
import LobstrMcp.Run.Gate
import LobstrMcp.Run.Histories
import LobstrMcp.Run.Started
import LobstrMcp.Run.Report
import LobstrMcp.Run.Crawler
import LobstrMcp.Tools.RetrySafe
import LobstrMcp.Auth.Scopes
import LobstrMcp.Auth.Revocation
import LobstrMcp.Stores.DropIn
import LobstrMcp.Auth.Consent
import LobstrMcp.Tools.Attaching
import LobstrMcp.Run.TwoInventories
import LobstrMcp.Schema.Placement
import LobstrMcp.Schema.Order
import LobstrMcp.Schema.Required
import LobstrMcp.Toon.Lossless
import LobstrMcp.Tools.StepByStep
import LobstrMcp.Run.Done
import LobstrMcp.Run.Estimate
import LobstrMcp.Tools.ShortNames
import LobstrMcp.Tools.FirstPage
import LobstrMcp.Tools.ScraperPages
import LobstrMcp.Tools.SentEvents
import LobstrMcp.Tools.LookedUp
import LobstrMcp.Tools.WireNames
import LobstrMcp.Tools.Similar
import LobstrMcp.Auth.Registration
import LobstrMcp.Server.Confinement
import LobstrMcp.Server.Identity
import LobstrMcp.Server.WiderTokens
import LobstrMcp.Server.ResultPages
import LobstrMcp.Server.Disclosure
import LobstrMcp.Server.Sessions
import LobstrMcp.Server.Retried
import LobstrMcp.Stores.AtRest
import LobstrMcp.Tools.FullSearch
import LobstrMcp.Stores.RunKeys
import LobstrMcp.Server.Described
import LobstrMcp.Auth.Restarts
