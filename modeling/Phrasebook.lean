import Phrasebook.Text.Chars
import Phrasebook.Text.Quoted
import Phrasebook.Text.Case
import Phrasebook.Text.Cased
import Phrasebook.Text.Utf8
import Phrasebook.Table
import Phrasebook.Effect
import Phrasebook.Value
import Phrasebook.Fault
import Phrasebook.Catalog.Source
import Phrasebook.Catalog.Basic
import Phrasebook.Fallback
import Phrasebook.Settings
import Phrasebook.Settings.File
import Phrasebook.Json.Reader
import Phrasebook.Json.Writer
import Phrasebook.Log.Event
import Phrasebook.Log.Incident
import Phrasebook.Log.Journal
import Phrasebook.Registry.Basic
import Phrasebook.Registry.Session
import Phrasebook.Path
import Phrasebook.Disk
import Phrasebook.Source.Remote
import Phrasebook.Source.Gather
import Phrasebook.Watch
import Phrasebook.Cli.Grammar
import Phrasebook.Cli.Parse
import Phrasebook.Cli.Run
import Phrasebook.Main
import Phrasebook.Number
import Phrasebook.Text.Point
import Phrasebook.Sorting
import Phrasebook.Fault.Given
import Phrasebook.Binary64
import Phrasebook.Mapping
import Phrasebook.Hash
import Phrasebook.KeyTable
import Phrasebook.Proofs.Outcome
import Phrasebook.Proofs.Lifecycle
import Phrasebook.Proofs.FirstHit
import Phrasebook.Proofs.Reading
import Phrasebook.Proofs.RoundTrip
import Phrasebook.Proofs.Loading
import Phrasebook.Proofs.Interleaving
import Phrasebook.Proofs.Downloads
import Phrasebook.Proofs.FileLoading
import Phrasebook.Proofs.Watching
import Phrasebook.Proofs.LineGrammar
import Phrasebook.Proofs.EffectiveChain
import Phrasebook.Proofs.TextLookup
import Phrasebook.Proofs.Coverage
import Phrasebook.Proofs.Retry
import Phrasebook.Proofs.Gathering
import Phrasebook.Proofs.FallbackReading
import Phrasebook.Proofs.LocaleFiles
import Phrasebook.Proofs.SettingsRecord
import Phrasebook.Proofs.History
import Phrasebook.Proofs.SettingsValidation
import Phrasebook.Proofs.SettingsCache
import Phrasebook.Proofs.CommandLine
import Phrasebook.Proofs.EventLines
import Phrasebook.Proofs.FaultReports
