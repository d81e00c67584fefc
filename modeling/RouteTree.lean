import RouteTree.Decimal.Shortest
import RouteTree.OrderedMap
import RouteTree.Text.Case
import RouteTree.Text.Quoted
import RouteTree.Regex.Reader
import RouteTree.Regex.Pattern
import RouteTree.Value.Text
import RouteTree.Template.Path
import RouteTree.Options
import RouteTree.Registry
import RouteTree.Router.Definition
import RouteTree.Session
import RouteTree.Sample
import RouteTree.Proofs.Template.Compiling
import RouteTree.Proofs.Template.Grammar
import RouteTree.Proofs.Router.Inheritance
import RouteTree.Proofs.Session.Refusal
import RouteTree.Proofs.Template.RoundTrip
import RouteTree.Proofs.Template.Paths
import RouteTree.Proofs.Template.Recompiling
import RouteTree.Proofs.Template.Malformed
import RouteTree.Proofs.Router.Names
import RouteTree.Proofs.Session.Modes
import RouteTree.Proofs.Template.Joining
import RouteTree.Proofs.Template.JoiningWritten
import RouteTree.Proofs.Router.Commuting
import RouteTree.Proofs.Router.Nesting
import RouteTree.Proofs.Router.Accepting
import RouteTree.Proofs.Router.Prefixes
import RouteTree.Proofs.Router.RootRoutes
import RouteTree.Proofs.Url.Queries
import RouteTree.Proofs.Url.Segments
import RouteTree.Proofs.Template.Anchored
import RouteTree.Proofs.Template.Unanchoring
import RouteTree.Proofs.Session.Routes
import RouteTree.Proofs.Url.Structure
import RouteTree.Proofs.Url.Flattening
import RouteTree.Proofs.Url.Repeating
import RouteTree.Proofs.Url.Rooted
import RouteTree.Proofs.Router.Uris
import RouteTree.Proofs.Router.Urls
import RouteTree.Proofs.Router.Loggers
import RouteTree.Proofs.Router.Constraints
import RouteTree.Proofs.Template.Placeholders
import RouteTree.Proofs.Template.Extracting
