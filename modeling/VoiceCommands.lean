import VoiceCommands.Text.Case
import VoiceCommands.Text.Words
import VoiceCommands.Text.Digits
import VoiceCommands.Fault
import VoiceCommands.Action.Interpolate
import VoiceCommands.Action.Basic
import VoiceCommands.Recognition.Element
import VoiceCommands.Recognition.SpecSyntax
import VoiceCommands.Recognition.Spec
import VoiceCommands.Recognition.Scan
import VoiceCommands.Recognition.Numbers
import VoiceCommands.Recognition.Alphabet
import VoiceCommands.Recognition.Grammar
import VoiceCommands.Formatting.Identifier
import VoiceCommands.Formatting.Phrase
import VoiceCommands.Formatting.Spoken
import VoiceCommands.Vocabulary.Basic
import VoiceCommands.Vocabulary.Builtin
import VoiceCommands.Value
import VoiceCommands.Value.Operations
import VoiceCommands.Session
import VoiceCommands.Vim.Parts
import VoiceCommands.Vim.Commands
import VoiceCommands.Charwise.Keys
import VoiceCommands.Charwise.Commands
import VoiceCommands.MultiEdit
import VoiceCommands.Browser
import VoiceCommands.WindowManager
import VoiceCommands.Git.Options
import VoiceCommands.Git.Catalogue
import VoiceCommands.Git.Commands
import VoiceCommands.Context
import VoiceCommands.Loading
import VoiceCommands.Proofs.Except
import VoiceCommands.Proofs.Actions
import VoiceCommands.Proofs.Recognition.Conforms
import VoiceCommands.Proofs.Charwise.Replay
import VoiceCommands.Proofs.Vim.Sending
import VoiceCommands.Proofs.Vim.Modes
import VoiceCommands.Proofs.Text.Markers
import VoiceCommands.Proofs.Formatting.Spoken
import VoiceCommands.Proofs.Formatting.Agreement
import VoiceCommands.Proofs.Vim.Values
import VoiceCommands.Proofs.Vim.Faults
import VoiceCommands.Proofs.Vim.Runs
import VoiceCommands.Proofs.Git.Expansion
import VoiceCommands.Proofs.Git.CommandText
import VoiceCommands.Proofs.Vim.Keys
import VoiceCommands.Proofs.Formatting.Phrases
import VoiceCommands.Proofs.Formatting.Uppercase
import VoiceCommands.Proofs.Git.CommandLine
import VoiceCommands.Proofs.Formatting.Cleanup
import VoiceCommands.Proofs.MultiEdit.Rounds
import VoiceCommands.Proofs.Vocabulary.Loaded
