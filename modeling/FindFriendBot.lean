import FindFriendBot.Lib.StepMachine
import FindFriendBot.Lib.BoundedPool
import FindFriendBot.Lib.ObjectHeap
import FindFriendBot.Model.Conf
import FindFriendBot.Model.Tox
import FindFriendBot.Model.LockedQueue
import FindFriendBot.Model.Member
import FindFriendBot.Model.MemberMgr
import FindFriendBot.Model.Database
import FindFriendBot.Model.MemberModel
import FindFriendBot.Model.Assisant
import FindFriendBot.Model.Bot
import FindFriendBot.Lib.OrderedMap
import FindFriendBot.Registry.Ownership
import FindFriendBot.Registry.Reference
import FindFriendBot.Registry.Simulation
import FindFriendBot.Friends.Statements
import FindFriendBot.Registry.Teardown
import FindFriendBot.Friends.Share
import FindFriendBot.Registry.Recommendation
import FindFriendBot.Friends.Leak
import FindFriendBot.Friends.Locality
import FindFriendBot.Friends.Membership
import FindFriendBot.Friends.Agreement
import FindFriendBot.Friends.Acknowledgement
import FindFriendBot.Friends.OptOut
import FindFriendBot.Friends.FailedWrite
import FindFriendBot.Messages.Parsing
import FindFriendBot.Messages.Separators
import FindFriendBot.Friends.Profiles
import FindFriendBot.Messages.Answered
import FindFriendBot.Friends.Ledger
import FindFriendBot.Lib.PairReplacement
import FindFriendBot.Messages.Verbatim
import FindFriendBot.Model.Savedata
import FindFriendBot.Model.Welcome
import FindFriendBot.Storage.Identity
import FindFriendBot.Welcome.Chains
import FindFriendBot.Model.DBConn
import FindFriendBot.Model.Session
import FindFriendBot.Storage.Pool
import FindFriendBot.Storage.Containment
import FindFriendBot.Lib.Hex
import FindFriendBot.Model.Util
import FindFriendBot.Registry.Keys
import FindFriendBot.Welcome.Backoff
import FindFriendBot.Registry.Capacity
import FindFriendBot.Avatar.Loading
import FindFriendBot.Lib.Reassembly
import FindFriendBot.Avatar.Chunks
import FindFriendBot.Model.Lending
import FindFriendBot.Storage.Conservation
import FindFriendBot.Storage.Strings
import FindFriendBot.Messages.Lengths
import FindFriendBot.Model.Borrowers
import FindFriendBot.Storage.Idle
import FindFriendBot.Lib.Printf
import FindFriendBot.Model.DebugLog
import FindFriendBot.Process.LogLines
import FindFriendBot.Lib.Json
import FindFriendBot.Model.Bootstrap
import FindFriendBot.Process.Bootstrapping
import FindFriendBot.Friends.Noninterference
import FindFriendBot.Friends.Recommended
import FindFriendBot.Friends.Recovery
import FindFriendBot.Friends.Rows
import FindFriendBot.Friends.Traffic
import FindFriendBot.Avatar.Versions
import FindFriendBot.Lib.Amortized
import FindFriendBot.Welcome.Quiescence
import FindFriendBot.Storage.Shutdown
import FindFriendBot.Lib.Projection
import FindFriendBot.Process.Machine
import FindFriendBot.Process.Handlers
import FindFriendBot.Process.Refinement
import FindFriendBot.Process.Durability
import FindFriendBot.Process.FriendNumbers
import FindFriendBot.Process.Lives
import FindFriendBot.Model.Buffers
import FindFriendBot.Messages.Buffers
import FindFriendBot.Process.Strangers
