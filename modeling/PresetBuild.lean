import PresetBuild.Main
import PresetBuild.Proofs.Build.Agenda
import PresetBuild.Proofs.Elevation
import PresetBuild.Proofs.PresetFile.Contribution
import PresetBuild.Rehearsal
import PresetBuild.Proofs.Listing.Lines
import PresetBuild.Proofs.Build.Questions
import PresetBuild.Proofs.Discovery.Agreement
import PresetBuild.Proofs.Arguments.Interleaving
import PresetBuild.Proofs.Json.Ending
import PresetBuild.Proofs.Listing.Truncation
import PresetBuild.Proofs.PresetFile.Wholeness
import PresetBuild.Proofs.Arguments.Recognition
import PresetBuild.Proofs.Build.Defaulting
import PresetBuild.Proofs.Arguments.Insertion
import PresetBuild.Proofs.Build.StandardOutput
import PresetBuild.Proofs.Build.Messages
import PresetBuild.Proofs.Arguments.Naming
import PresetBuild.Proofs.Timing
import PresetBuild.Proofs.Discovery.Isolation
import PresetBuild.Proofs.Sifting
import PresetBuild.Proofs.Build.Colour
import PresetBuild.Proofs.Words.Spelling
import PresetBuild.Proofs.Words.Wish
import PresetBuild.Proofs.Arguments.Sorting
import PresetBuild.Proofs.Listing.Spacing
import PresetBuild.Proofs.Listing.Slices
import PresetBuild.Proofs.Discovery.Capture
import PresetBuild.Proofs.Elapsed.Accuracy
import PresetBuild.Proofs.Command.Text
import PresetBuild.Proofs.Command.Start
