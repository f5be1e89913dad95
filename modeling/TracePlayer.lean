import TracePlayer.Interpreters
import TracePlayer.Main
import TracePlayer.Proofs.Grid
import TracePlayer.Proofs.Scene
import TracePlayer.Proofs.Effect
import TracePlayer.Proofs.Drive
import TracePlayer.Proofs.Protocol
import TracePlayer.Proofs.Acts
import TracePlayer.Proofs.Account
import TracePlayer.Proofs.Telling
import TracePlayer.Proofs.Looking
import TracePlayer.Proofs.Incidents
import TracePlayer.Proofs.Notices
import TracePlayer.Proofs.Ending
import TracePlayer.Proofs.Holding
import TracePlayer.Proofs.Words
import TracePlayer.Proofs.Lines
import TracePlayer.Proofs.Readers
import TracePlayer.Proofs.Numerals
import TracePlayer.Proofs.PrintedJson
import TracePlayer.Proofs.Fields
import TracePlayer.Proofs.FieldGrammar
import TracePlayer.Proofs.Writing
import TracePlayer.Proofs.Footprint
import TracePlayer.Proofs.Transfers
import TracePlayer.Proofs.TwosComplement
import TracePlayer.Proofs.Highlights
import TracePlayer.Proofs.Answers
import TracePlayer.Proofs.MemoryMoves
import TracePlayer.Proofs.GridLines
import TracePlayer.Proofs.Scrolling
import TracePlayer.Proofs.Following
import TracePlayer.Proofs.Columns
import TracePlayer.Proofs.ListedTexts
import TracePlayer.Proofs.NewestEntry
import TracePlayer.Proofs.Pacing
import TracePlayer.Proofs.Deliveries
import TracePlayer.Proofs.LooseBlanks
import TracePlayer.Proofs.GivenOptions
import TracePlayer.Proofs.PropertiesFile
import TracePlayer.Proofs.Precedence
