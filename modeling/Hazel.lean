import Hazel.Config.StorageMerge
import Hazel.Config.Isolation
import Hazel.Config.Settled
import Hazel.Config.Heeded
import Hazel.Config.Loads
import Hazel.Config.Aliases
import Hazel.Config.Document
import Hazel.Config.Overlay
import Hazel.Config.NamedFile
import Hazel.Config.Snapshot
import Hazel.Config.Observed
import Hazel.Config.Repair
import Hazel.Config.Serialize
import Hazel.Config.Reload
import Hazel.Lib.DotSegments
import Hazel.Lib.Reader
import Hazel.Lib.Services
import Hazel.Lib.Snapshot
import Hazel.Lib.Interleaving
import Hazel.Lib.Layer
import Hazel.Lib.Percent
import Hazel.Lib.Trace
import Hazel.Lib.Ends
import Hazel.Lib.Repair
import Hazel.Net
import Hazel.Server.Http
import Hazel.Server.Middlewares
import Hazel.Server.Routes
import Hazel.Server.Confinement
import Hazel.Server.Lookup
import Hazel.Server.Address
import Hazel.Server.Responses
import Hazel.Server.Proxy
import Hazel.Server.Headers
import Hazel.Server.Abort
import Hazel.Server.Start
import Hazel.Server.Sources
import Hazel.Installer.Install
import Hazel.Installer.Verified
import Hazel.Installer.Release
import Hazel.Installer.Frame
import Hazel.Installer.Arguments
