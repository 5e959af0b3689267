import AgentKit.Scratch
import AgentKit.Session.Run
import AgentKit.Layout.Read
import AgentKit.Layout.Write
import AgentKit.Program.Greeter
import AgentKit.Program.StatusServer
import AgentKit.Main
import AgentKit.Proofs.FieldMerge
import AgentKit.Proofs.NumberToken
import AgentKit.Proofs.Utf8
import AgentKit.Proofs.WrittenString
import AgentKit.Proofs.PlainToken
import AgentKit.Proofs.NestedValue
import AgentKit.Proofs.LayoutGrammar
import AgentKit.Proofs.LayoutReading
import AgentKit.Proofs.LayoutRoundTrip
import AgentKit.Proofs.FlatObject
import AgentKit.Proofs.RecordText
import AgentKit.Proofs.LineWriting
import AgentKit.Proofs.WriterRun
import AgentKit.Proofs.LoggerRun
import AgentKit.Proofs.LineRecovery
import AgentKit.Proofs.LinePhases
import AgentKit.Proofs.SharedWriter
import AgentKit.Proofs.SharedLines
import AgentKit.Proofs.PathPieces
import AgentKit.Proofs.TreeLocation
import AgentKit.Proofs.WalkKept
import AgentKit.Proofs.WalkParts
import AgentKit.Proofs.DirectoryCreation
import AgentKit.Proofs.WorkspaceCreation
import AgentKit.Proofs.WorkspaceRepetition
import AgentKit.Proofs.OverrideRoot
import AgentKit.Proofs.ActionSequence
import AgentKit.Proofs.FileWriting
import AgentKit.Proofs.TaskRun
import AgentKit.Proofs.TwoRuns
import AgentKit.Proofs.SecretSession
import AgentKit.Proofs.RequestTarget
import AgentKit.Proofs.RequestService
import AgentKit.Proofs.StreamSeparation
import AgentKit.Proofs.CalendarDate
import AgentKit.Proofs.TimestampText
import AgentKit.Proofs.SinkLines
import AgentKit.Proofs.TaskStages
import AgentKit.Proofs.TaskCourse
import AgentKit.Proofs.FilterReading
import AgentKit.Proofs.GreeterRun
import AgentKit.Proofs.FilterChange
import AgentKit.Proofs.PageText
import AgentKit.Proofs.PathComponents
import AgentKit.Proofs.TimestampOrder
import AgentKit.Proofs.WorkspaceDirectories
import AgentKit.Proofs.SamePlaces
import AgentKit.Proofs.SameLayouts
import AgentKit.Proofs.RootListing
import AgentKit.Proofs.GreetingText
import AgentKit.Proofs.SortedListing
import AgentKit.Proofs.EnvironmentHistory
import AgentKit.Proofs.NearestPattern
import AgentKit.Proofs.ShortestDecimal
import AgentKit.Proofs.TokenValue
import AgentKit.Proofs.WidenedNumber
import AgentKit.Proofs.NumericFields
