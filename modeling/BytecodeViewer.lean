import BytecodeViewer.Pattern.Reader
import BytecodeViewer.Text.Units
import BytecodeViewer.Viewer.Viewer
import BytecodeViewer.Viewer.Launch
import BytecodeViewer.Main
import BytecodeViewer.Proofs.Render.ClassCache
import BytecodeViewer.Proofs.Host.Rest
import BytecodeViewer.Proofs.Plugin.Resolution
import BytecodeViewer.Proofs.Session.PipelineStep
import BytecodeViewer.Proofs.Session.Showing
import BytecodeViewer.Proofs.Session.Calls
import BytecodeViewer.Proofs.Session.History
import BytecodeViewer.Proofs.Plugin.Builtin
import BytecodeViewer.Proofs.Session.TempCopy
import BytecodeViewer.Proofs.Session.Opening
import BytecodeViewer.Proofs.Session.AllOrNothing
import BytecodeViewer.Proofs.Session.View
import BytecodeViewer.Proofs.Session.Neighbours
import BytecodeViewer.Proofs.Session.Interleaving
import BytecodeViewer.Proofs.Plugin.Installation
import BytecodeViewer.Proofs.Session.NewSession
import BytecodeViewer.Proofs.Session.Independence
import BytecodeViewer.Proofs.Plugin.Loading
import BytecodeViewer.Proofs.Viewer.Replacing
import BytecodeViewer.Proofs.Bytecode.InMemory
import BytecodeViewer.Proofs.Render.LookUp
import BytecodeViewer.Proofs.Session.Nodes
import BytecodeViewer.Proofs.Session.Selectable
import BytecodeViewer.Proofs.Session.MethodNodes
import BytecodeViewer.Proofs.Plugin.Picking
import BytecodeViewer.Proofs.Session.OpeningFailure
import BytecodeViewer.Proofs.Settings.Loading
import BytecodeViewer.Proofs.Viewer.OpenSession
import BytecodeViewer.Proofs.Command.UsualLanguage
import BytecodeViewer.Proofs.Session.FailedCall
import BytecodeViewer.Proofs.Host.Keeps
import BytecodeViewer.Proofs.Session.Keeping
import BytecodeViewer.Proofs.Viewer.Operation
import BytecodeViewer.Proofs.Session.Leaving
import BytecodeViewer.Proofs.Viewer.Telling
import BytecodeViewer.Proofs.Viewer.Trace
import BytecodeViewer.Proofs.Plugin.Events
import BytecodeViewer.Proofs.Plugin.Calls
import BytecodeViewer.Proofs.Plugin.Bookkeeping
import BytecodeViewer.Proofs.Pattern.Bounds
import BytecodeViewer.Proofs.Pattern.Successive
import BytecodeViewer.Proofs.Highlight.StableSort
import BytecodeViewer.Proofs.Highlight.Spans
import BytecodeViewer.Proofs.Highlight.Layers
import BytecodeViewer.Proofs.Highlight.Marker
import BytecodeViewer.Proofs.Highlight.Terminal
import BytecodeViewer.Proofs.Session.Changes
import BytecodeViewer.Proofs.Viewer.Turn
import BytecodeViewer.Proofs.Viewer.InSync
import BytecodeViewer.Proofs.Viewer.Visible
import BytecodeViewer.Proofs.Viewer.Containment
import BytecodeViewer.Proofs.Session.Uses
import BytecodeViewer.Proofs.Session.Closing
import BytecodeViewer.Proofs.Text.Lowering
import BytecodeViewer.Proofs.Session.Filtering
import BytecodeViewer.Proofs.Session.Finding
import BytecodeViewer.Proofs.Archive.Contents
import BytecodeViewer.Proofs.Archive.Refusals
import BytecodeViewer.Proofs.Session.Extracting
import BytecodeViewer.Proofs.Terminal.Escaping
import BytecodeViewer.Proofs.Command.Sessions
import BytecodeViewer.Proofs.Command.Endings
import BytecodeViewer.Proofs.Command.Release
import BytecodeViewer.Proofs.Text.Portions
import BytecodeViewer.Proofs.Settings.LoadingFailure
import BytecodeViewer.Proofs.Command.Reports
import BytecodeViewer.Proofs.Viewer.Visit
import BytecodeViewer.Proofs.Command.Requests
import BytecodeViewer.Proofs.Command.Agreement
import BytecodeViewer.Proofs.Bytecode.QualifiedName
import BytecodeViewer.Proofs.Session.Narrowing
import BytecodeViewer.Proofs.Session.Grouping
import BytecodeViewer.Proofs.Render.Blocks
import BytecodeViewer.Proofs.Render.MethodBlocks
import BytecodeViewer.Proofs.Render.MemberSections
import BytecodeViewer.Proofs.Render.SectionBlocks
import BytecodeViewer.Proofs.Render.Depth
import BytecodeViewer.Proofs.Render.Bracketed
import BytecodeViewer.Proofs.Bytecode.Descriptor
import BytecodeViewer.Proofs.Render.Prototype
import BytecodeViewer.Proofs.Render.Rebinding
import BytecodeViewer.Proofs.Highlight.Keywords
import BytecodeViewer.Proofs.Highlight.Identifiers
import BytecodeViewer.Proofs.Highlight.Opcodes
import BytecodeViewer.Proofs.Highlight.Comments
import BytecodeViewer.Proofs.Highlight.Literals
import BytecodeViewer.Proofs.Highlight.Positions
import BytecodeViewer.Proofs.Plugin.FirstParser
import BytecodeViewer.Proofs.Text.Trimming
import BytecodeViewer.Proofs.Settings.Precedence
import BytecodeViewer.Proofs.Settings.Accepted
import BytecodeViewer.Proofs.Render.ParameterNames
import BytecodeViewer.Proofs.Command.MethodNames
import BytecodeViewer.Proofs.Text.PairNumerals
import BytecodeViewer.Proofs.Color.Reading
import BytecodeViewer.Proofs.Host.LogContext
import BytecodeViewer.Proofs.Session.Logging
import BytecodeViewer.Proofs.Session.Bracketing
import BytecodeViewer.Proofs.Context.NormalForms
import BytecodeViewer.Proofs.Render.Levels
import BytecodeViewer.Proofs.Text.DecimalNumerals
import BytecodeViewer.Proofs.Logging.Levels
