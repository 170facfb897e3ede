import TestRig.Config
import TestRig.Command.Codecs
import TestRig.Files.Codecs
import TestRig.Host.Probe
import TestRig.Machine.Remote
import TestRig.Machine.Work
import TestRig.Package.Codecs
import TestRig.CommandLine.Run
import TestRig.Main
import TestRig.Proofs.FileSystem.LinkFree
import TestRig.Proofs.Text.Cutting
import TestRig.Proofs.FileSystem.PathText
import TestRig.Proofs.FileSystem.Writing
import TestRig.Proofs.Files.Split
import TestRig.Proofs.Files.Backup
import TestRig.Proofs.Files.Batch
import TestRig.Proofs.Text.Order
import TestRig.Proofs.Files.Sweep
import TestRig.Proofs.FileSystem.Following
import TestRig.Proofs.FileSystem.Straying
import TestRig.Proofs.Files.Missing
import TestRig.Proofs.FileSystem.Removing
import TestRig.Proofs.Files.Cleanup
import TestRig.Proofs.Command.Template
import TestRig.Proofs.Command.Gaps
import TestRig.Proofs.Text.Words
import TestRig.Proofs.Command.EmptyValue
import TestRig.Proofs.Command.Judgement
import TestRig.Proofs.Text.Lines
import TestRig.Proofs.Command.Output
import TestRig.Proofs.Text.Showing
import TestRig.Proofs.Command.LocalJudgement
import TestRig.Proofs.Package.BackEnds
import TestRig.Proofs.Command.Exchange
import TestRig.Proofs.Package.Session
import TestRig.Proofs.Machine.CommandLines
import TestRig.Proofs.Files.Landing
import TestRig.Proofs.Files.RandomSplit
import TestRig.Proofs.Json.Parser
import TestRig.Proofs.Json.Codec
import TestRig.Proofs.Json.ReadBack
import TestRig.Proofs.Command.Overlay
import TestRig.Proofs.Config
import TestRig.Proofs.Package.Presence
import TestRig.Proofs.Host.Listing
import TestRig.Proofs.Command.CarriedKey
import TestRig.Proofs.Text.Hex
import TestRig.Proofs.Digest.SumLine
import TestRig.Proofs.Files.Interrupted
import TestRig.Proofs.FileSystem.Leading
import TestRig.Proofs.Files.Repeated
import TestRig.Proofs.Files.Volume
import TestRig.Proofs.Machine.RandomSizes
