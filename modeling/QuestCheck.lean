import QuestCheck.Actor
import QuestCheck.Check
import QuestCheck.Check.Compile
import QuestCheck.Check.Inspect
import QuestCheck.Check.Run
import QuestCheck.Command.Arguments
import QuestCheck.Command.FileTree
import QuestCheck.Command.Path
import QuestCheck.Command.Report
import QuestCheck.Command.Sources
import QuestCheck.Defect
import QuestCheck.Dict
import QuestCheck.Event
import QuestCheck.Fault
import QuestCheck.Inspect
import QuestCheck.Instruction
import QuestCheck.Instruction.Field
import QuestCheck.Instruction.Written
import QuestCheck.Json
import QuestCheck.Json.Decode
import QuestCheck.Json.Lexeme
import QuestCheck.Json.Parse
import QuestCheck.Json.Print
import QuestCheck.Log
import QuestCheck.Main
import QuestCheck.Misreading
import QuestCheck.Parameter
import QuestCheck.Procedure
import QuestCheck.Proofs.Acceptance
import QuestCheck.Proofs.Accounting
import QuestCheck.Proofs.Codec
import QuestCheck.Proofs.Course
import QuestCheck.Proofs.Fields
import QuestCheck.Proofs.Lines
import QuestCheck.Proofs.Loading
import QuestCheck.Proofs.Meaning
import QuestCheck.Proofs.Packages
import QuestCheck.Proofs.Phases
import QuestCheck.Proofs.Protocol
import QuestCheck.Proofs.Safety
import QuestCheck.Proofs.Surroundings
import QuestCheck.QualifiedName
import QuestCheck.Stored
import QuestCheck.Suite
import QuestCheck.Suite.Load
import QuestCheck.Template
import QuestCheck.Text.Blank
import QuestCheck.Text.Bytes
import QuestCheck.Text.Cut
import QuestCheck.Text.Name
import QuestCheck.Text.Quoted
import QuestCheck.Text.Ranges
import QuestCheck.Text.Shapeless
import QuestCheck.Token
import QuestCheck.Token.Written
import QuestCheck.Truth
import QuestCheck.World
import QuestCheck.World.Conditions
import QuestCheck.World.Variables
import QuestCheck.Proofs.Isolation
import QuestCheck.Proofs.Runners
import QuestCheck.Proofs.Agreement
import QuestCheck.Proofs.Substitution
import QuestCheck.Proofs.SuiteText
import QuestCheck.Proofs.Independence
import QuestCheck.Proofs.JsonTexts
import QuestCheck.Proofs.Stages
import QuestCheck.Proofs.Series
import QuestCheck.Proofs.Pieces
import QuestCheck.Proofs.Colons
import QuestCheck.Proofs.Segments
import QuestCheck.Proofs.Words
import QuestCheck.Proofs.Requirements
import QuestCheck.Proofs.Topmost
import QuestCheck.Proofs.Order
import QuestCheck.Proofs.Defaults
import QuestCheck.Proofs.Switching
import QuestCheck.Proofs.Joined
import QuestCheck.Proofs.Histories
import QuestCheck.Proofs.Outcomes
import QuestCheck.Proofs.Evaluable
import QuestCheck.Proofs.Names
import QuestCheck.Proofs.Literals
import QuestCheck.Proofs.Unasked
import QuestCheck.Proofs.JsonValues
import QuestCheck.Proofs.Records
import QuestCheck.Proofs.Reloading
import QuestCheck.Proofs.Sharing
