import Kalm.Lib.Fields
import Kalm.Lib.Reach
import Kalm.Lib.Wildcard
import Kalm.Lib.Codes
import Kalm.Lib.Mirror
import Kalm.Lib.Runs
import Kalm.Lib.MergePatch
import Kalm.Go.Strings
import Kalm.K8s.Names
import Kalm.Rbac.Model
import Kalm.Rbac.Objects
import Kalm.Rbac.Policies
import Kalm.Rbac.Injection
import Kalm.Rbac.Isolation
import Kalm.Rbac.Client
import Kalm.Rbac.Cache
import Kalm.Rbac.Partial
import Kalm.Frontend.Enforcer
import Kalm.Frontend.Login
import Kalm.Frontend.Agreement
import Kalm.Frontend.Unicode
import Kalm.Frontend.Dashboard
import Kalm.Frontend.DiskForm
import Kalm.Go.Parse
import Kalm.Route.Objects
import Kalm.Route.Istio
import Kalm.Route.Authorize
import Kalm.Route.Requests
import Kalm.Resources.Apply
import Kalm.Lib.Calls
import Kalm.Api.Handlers
import Kalm.Api.NoGrant
import Kalm.Component.Bindings
import Kalm.Component.Repeat
import Kalm.Component.Volumes
import Kalm.Rbac.Reload
import Kalm.Api.Edits
import Kalm.Pods.Registry
import Kalm.Pods.Waits
import Kalm.Frontend.Mirrored
import Kalm.Pods.Streams
import Kalm.Proxy.Refresh
import Kalm.Proxy.Waiters
import Kalm.Proxy.Resting
import Kalm.Go.Bytes
import Kalm.Lib.Sorting
import Kalm.Lib.Objects
import Kalm.Route.Matches
import Kalm.Route.Specific
import Kalm.Route.Envoy
import Kalm.Route.Run
import Kalm.Route.Ready
import Kalm.Route.Hosts
import Kalm.Route.Redirects
import Kalm.Proxy.Groups
import Kalm.Component.Controller
import Kalm.Component.Reconciled
import Kalm.Component.Forgets
import Kalm.Component.Waking
import Kalm.Component.Enabled
import Kalm.Lib.Base64
import Kalm.Lib.Chaining
import Kalm.Go.Base64
import Kalm.Go.Quote
import Kalm.Go.Json
import Kalm.Proxy.ThinToken
import Kalm.Proxy.ExtAuthz
import Kalm.Proxy.Untrusted
import Kalm.Proxy.Userinfo
import Kalm.Component.Selectors
import Kalm.Component.BindingOwners
import Kalm.Lib.Histories
import Kalm.Volumes.Claims
import Kalm.Volumes.InUse
import Kalm.Lib.Interleaved
import Kalm.Lib.Served
import Kalm.Lib.Informers
import Kalm.Volumes.Parties
import Kalm.Volumes.Reuse
import Kalm.Volumes.Marks
import Kalm.Lib.Captures
import Kalm.Api.Impersonation
import Kalm.Proxy.Login
import Kalm.Api.RoleBindings
import Kalm.Api.Cluster
import Kalm.Component.Injected
import Kalm.Component.Permission
import Kalm.Component.Spec
import Kalm.Logs.Stack
import Kalm.Sso.Config
import Kalm.Sso.Urls
import Kalm.Sso.Modes
import Kalm.Sso.Filters
import Kalm.Certs.Objects
import Kalm.Lib.Tables
import Kalm.Certs.Challenges
import Kalm.Certs.ClusterIssuers
import Kalm.Lib.Parts
import Kalm.Files.Paths
import Kalm.Files.Operations
import Kalm.Files.Moves
import Kalm.Files.Tree
import Kalm.Files.Listing
import Kalm.Lib.Sh
import Kalm.Lib.Shares
import Kalm.Route.Weights
import Kalm.Route.Destinations
import Kalm.Volumes.Orphans
import Kalm.Volumes.Owners
import Kalm.Volumes.Available
import Kalm.Component.Disks
import Kalm.Volumes.Templates
import Kalm.Component.DiskChecks
import Kalm.Component.Immutable
import Kalm.Component.PodNames
import Kalm.Component.Services
import Kalm.Component.Affinity
import Kalm.Pods.Metrics
import Kalm.Certs.HttpsCerts
import Kalm.Certs.Gateway
import Kalm.Certs.AcmeServer
import Kalm.Certs.Naming
import Kalm.Certs.Status
import Kalm.Certs.Upload
import Kalm.Lib.Joined
import Kalm.Go.Plain
import Kalm.Docker.Registries
import Kalm.Docker.PullSecrets
import Kalm.Api.DeployWebhook
import Kalm.Api.Filters
import Kalm.Volumes.StorageClasses
import Kalm.Lib.Regex
import Kalm.Go.Cron
import Kalm.K8s.Texts
import Kalm.Frontend.Validator
import Kalm.Frontend.Admitted
import Kalm.Lib.Series
import Kalm.Lib.Transactions
import Kalm.Metrics.Merged
import Kalm.Metrics.Traffic
import Kalm.Metrics.Scraper
import Kalm.Lib.Cuts
import Kalm.Docker.Reference
import Kalm.Api.ImageTag
import Kalm.Operator.Manifests
import Kalm.Operator.Rules
import Kalm.Operator.Install
import Kalm.Lib.Watched
import Kalm.Plugins.Cache
import Kalm.Component.SavedBindings
