import LeveledLogging.Main
import LeveledLogging.Yaml.Settings
import LeveledLogging.Proofs.Inheritance
import LeveledLogging.Proofs.Files
import LeveledLogging.Proofs.Destinations
import LeveledLogging.Proofs.Operations
import LeveledLogging.Proofs.Delivery
import LeveledLogging.Proofs.Merge
import LeveledLogging.Proofs.Names
import LeveledLogging.Proofs.Environment
import LeveledLogging.Proofs.Layers
import LeveledLogging.Proofs.Loading
import LeveledLogging.Proofs.Levels
import LeveledLogging.Proofs.Resolution
import LeveledLogging.Proofs.Ceiling
import LeveledLogging.Proofs.Loaded
import LeveledLogging.Proofs.Opening
import LeveledLogging.Proofs.Diagnostics
import LeveledLogging.Proofs.Emission
import LeveledLogging.Proofs.Lines
import LeveledLogging.Proofs.Overrides
import LeveledLogging.Proofs.Reconfiguration
import LeveledLogging.Proofs.Places
import LeveledLogging.Proofs.Configurations
import LeveledLogging.Proofs.Lookup
import LeveledLogging.Proofs.Absorption
import LeveledLogging.Proofs.Expansion
import LeveledLogging.Proofs.Refusals
import LeveledLogging.Proofs.Precedence
import LeveledLogging.Proofs.Saving
import LeveledLogging.Proofs.Journal
import LeveledLogging.Proofs.Trees
import LeveledLogging.Proofs.Silence
import LeveledLogging.Proofs.Replacement
import LeveledLogging.Proofs.Faults
import LeveledLogging.Proofs.Uses
import LeveledLogging.Proofs.Quiet
import LeveledLogging.Proofs.Inspection
import LeveledLogging.Proofs.Octets
import LeveledLogging.Proofs.Growth
import LeveledLogging.Proofs.Replay
import LeveledLogging.Proofs.Wrapping
import LeveledLogging.Proofs.Origins
import LeveledLogging.Proofs.Nesting
import LeveledLogging.Proofs.Scopes
import LeveledLogging.Proofs.Attainment
import LeveledLogging.Proofs.Writes
import LeveledLogging.Proofs.Overlay
import LeveledLogging.Proofs.Variables
import LeveledLogging.Proofs.Concatenation
import LeveledLogging.Proofs.Blanks
import LeveledLogging.Proofs.Spellings
import LeveledLogging.Proofs.Directives
import LeveledLogging.Proofs.Naming
import LeveledLogging.Proofs.Insertions
import LeveledLogging.Proofs.Digits
import LeveledLogging.Proofs.Unambiguity
import LeveledLogging.Proofs.Assignments
import LeveledLogging.Proofs.Renderings
import LeveledLogging.Proofs.Ancestry
import LeveledLogging.Proofs.Recovery
import LeveledLogging.Proofs.Rejections
import LeveledLogging.Proofs.LogFiles
import LeveledLogging.Proofs.Calendar
import LeveledLogging.Proofs.Timestamps
