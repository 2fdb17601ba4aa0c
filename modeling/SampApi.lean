import SampApi.Lib.Prog
import SampApi.Lib.Transition
import SampApi.Lib.Lanes
import SampApi.Lib.Regex
import SampApi.Lib.Map
import SampApi.Lib.Text
import SampApi.Lib.Width
import SampApi.Lib.Blocks
import SampApi.Lib.Word
import SampApi.Types
import SampApi.Config
import SampApi.Route
import SampApi.Template
import SampApi.Matching
import SampApi.Plugin
import SampApi.PlayerManager
import SampApi.Handler
import SampApi.Session
import SampApi.Endpoint
import SampApi.Api
import SampApi.Functions
import SampApi.Answers
import SampApi.Demo
import SampApi.Dispatch
import SampApi.Server
import SampApi.Lifetime
import SampApi.Protocol
import SampApi.Escape
import SampApi.Status
import SampApi.Envelope
import SampApi.Documented
import SampApi.Purge
import SampApi.Registry
import SampApi.Removing
import SampApi.Naming
import SampApi.Occupants
import SampApi.Listing
import SampApi.Faithful
import SampApi.BanTime
import SampApi.Startup
import SampApi.Numerals
import SampApi.Printing
import SampApi.Blanks
import SampApi.Authorize
import SampApi.Tick
import SampApi.Serial
import SampApi.Authentic
import SampApi.Schedule
import SampApi.XXHash.Memory
import SampApi.XXHash.Stripes
import SampApi.XXHash.Hash32
import SampApi.XXHash.Buffer
import SampApi.XXHash.Stream32
import SampApi.XXHash.Hash64
import SampApi.XXHash.Stream64
import SampApi.XXHash.Spread
import SampApi.Credentials
import SampApi.Exports
import SampApi.Answered
import SampApi.Codecs
import SampApi.Bodies
import SampApi.Secrecy
import SampApi.Audit
