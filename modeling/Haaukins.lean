import Haaukins.Lib.Machine
import Haaukins.Lib.GoMap
import Haaukins.Lab.Hub
import Haaukins.Lab.HubInvariant
import Haaukins.Lab.HubStock
import Haaukins.Lab.HubCapacity
import Haaukins.Lab.HubShutdown
import Haaukins.Lab.HubWait
import Haaukins.Lab.HubProduction
import Haaukins.Lab.HubFailures
import Haaukins.Lab.HubVisible
import Haaukins.Store.User
import Haaukins.Store.UserFile
import Haaukins.Store.Team
import Haaukins.Store.TeamIndexes
import Haaukins.Lib.GoTime
import Haaukins.Store.Challenges
import Haaukins.Lib.ScoreSheet
import Haaukins.Store.ScoreTable
import Haaukins.Store.Restart
import Haaukins.Store.Exercise
import Haaukins.Store.TeamExercises
import Haaukins.Exercise.Environment
import Haaukins.Exercise.Machines
import Haaukins.Lab.Lab
import Haaukins.Lab.LabMachines
import Haaukins.Guacamole.IPTables
import Haaukins.Guacamole.Event
import Haaukins.Guacamole.PeerAddresses
import Haaukins.Amigo.LabRequests
import Haaukins.Amigo.Table
import Haaukins.Amigo.FrontendData
import Haaukins.Daemon.Exercise
import Haaukins.Daemon.AddChallenge
import Haaukins.Daemon.ExerciseTemplate
import Haaukins.Daemon.ServedChallenges
import Haaukins.Amigo.ManageChallenge
import Haaukins.Daemon.ResetExercise
import Haaukins.Daemon.ManagedEvent
import Haaukins.Daemon.DisabledChallenges
import Haaukins.Daemon.HubRequest
import Haaukins.Daemon.Team
import Haaukins.Daemon.LabOwnership
import Haaukins.Daemon.TeamIsolation
import Haaukins.Daemon.Signup
import Haaukins.Lib.GoStrings
import Haaukins.Daemon.Net
import Haaukins.Daemon.Event
import Haaukins.Daemon.VPNSubnets
import Haaukins.Lib.Threads
import Haaukins.Amigo.SignupCapacity
import Haaukins.Amigo.InitChallenges
import Haaukins.Daemon.EventPool
import Haaukins.Daemon.PoolHandlers
import Haaukins.Daemon.EventStarts
import Haaukins.Daemon.SuspensionStatus
import Haaukins.Daemon.EventEnds
import Haaukins.Daemon.BookedVisits
import Haaukins.Store.Event
import Haaukins.Daemon.EventRows
import Haaukins.Daemon.CreateEvent
import Haaukins.Daemon.BookingPaths
import Haaukins.Daemon.UserQuota
import Haaukins.Lab.LabSuspension
import Haaukins.Guacamole.EventSuspension
import Haaukins.Daemon.StopEvent
import Haaukins.Lib.Jwt
import Haaukins.Daemon.Auth
import Haaukins.Daemon.UserRequests
import Haaukins.Daemon.Sessions
import Haaukins.Daemon.SuperUsers
import Haaukins.Amigo.SessionCookies
import Haaukins.Lab.LabResources
import Haaukins.Lib.Lookups
import Haaukins.Daemon.AbsentObjects
import Haaukins.Daemon.EventCreation
import Haaukins.Amigo.StartStop
import Haaukins.Daemon.ResetBranches
import Haaukins.Daemon.TimeSeries
import Haaukins.Guacamole.FirewallRules
import Haaukins.Amigo.FrontendLoop
import Haaukins.Lib.Logged
import Haaukins.Virtual.Network
import Haaukins.Exercise.StaticExercises
import Haaukins.Exercise.DNSRecords
import Haaukins.Exercise.Instances
import Haaukins.Exercise.ResetRecords
import Haaukins.Daemon.EventEffects
import Haaukins.Daemon.ForeignEvents
import Haaukins.Daemon.SolvedStops
import Haaukins.Amigo.ScoreboardColumns
import Haaukins.Guacamole.VPNKeys
import Haaukins.Exercise.AddFailures
import Haaukins.Lab.Frontends
import Haaukins.Lib.Locks
import Haaukins.Store.TeamLocks
import Haaukins.Daemon.SolveChallenge
import Haaukins.Exercise.ResetRetry
import Haaukins.Lib.Retry
import Haaukins.Guacamole.AuthAction
import Haaukins.Store.PasswordUpdate
import Haaukins.Virtual.ImageLibrary
import Haaukins.Amigo.ClientInput
import Haaukins.Lib.GoBytes
import Haaukins.Guacamole.KeyLogger
import Haaukins.Guacamole.Proto
import Haaukins.Daemon.ReturnedExercises
import Haaukins.Lib.WeightedPool
import Haaukins.Lib.IPv4
import Haaukins.Virtual.SubnetPool
import Haaukins.Daemon.VPNPool
import Haaukins.Virtual.ImageReference
import Haaukins.Daemon.EventRouting
import Haaukins.Client.Version
import Haaukins.Store.EventDirectory
import Haaukins.Daemon.BookingDates
import Haaukins.Store.Flag
import Haaukins.Daemon.WeightedPick
import Haaukins.Store.FrontendsFile
import Haaukins.Amigo.ScoreGraph
import Haaukins.Lib.Shuffle
import Haaukins.Guacamole.WebsocketProxy
import Haaukins.Amigo.WritePump
import Haaukins.Amigo.ChallengesPage
import Haaukins.Lib.FanOut
import Haaukins.Daemon.SuspendTeams
import Haaukins.Guacamole.EventResources
import Haaukins.Guacamole.DesktopAccess
import Haaukins.Lib.ForkJoin
import Haaukins.Lab.LabClose
import Haaukins.Lab.LabLife
import Haaukins.Virtual.Bridge
import Haaukins.Lib.SharedFile
import Haaukins.Virtual.ResolvFile
import Haaukins.Lib.SharedDir
import Haaukins.Guacamole.VPNConfigs
import Haaukins.Virtual.ImageImports
import Haaukins.Amigo.LabPages
import Haaukins.Exercise.FailingCalls
import Haaukins.Lib.Rounds
import Haaukins.Lab.FrontendLab
import Haaukins.Lib.JsOrder
