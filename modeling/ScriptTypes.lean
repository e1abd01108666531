import ScriptTypes.Main
import ScriptTypes.ToolServer
import ScriptTypes.Proofs.Insertions
import ScriptTypes.Proofs.Naming
import ScriptTypes.Proofs.Fragments
import ScriptTypes.Proofs.Idempotence
import ScriptTypes.Proofs.Boundary
import ScriptTypes.Proofs.Leaves
import ScriptTypes.Proofs.Totality
import ScriptTypes.Proofs.Standing
import ScriptTypes.Proofs.Target
import ScriptTypes.Proofs.FileRun
import ScriptTypes.Proofs.Batch
import ScriptTypes.Proofs.Written
import ScriptTypes.Proofs.Demand
import ScriptTypes.Proofs.References
import ScriptTypes.Proofs.InterfaceBlock
import ScriptTypes.Proofs.Bindings
import ScriptTypes.Proofs.Nodes
import ScriptTypes.Proofs.Handled
import ScriptTypes.Proofs.OpenSites
import ScriptTypes.Proofs.Search
import ScriptTypes.Proofs.Independence
import ScriptTypes.Proofs.DryRun
import ScriptTypes.Proofs.Rerun
import ScriptTypes.Proofs.FrontEnds
import ScriptTypes.Proofs.Imports
import ScriptTypes.Proofs.ShapeMap
import ScriptTypes.Proofs.Resemblance
import ScriptTypes.Proofs.Gathering
import ScriptTypes.Proofs.Locality
import ScriptTypes.Proofs.AlikeDrafts
import ScriptTypes.Proofs.Comments
import ScriptTypes.Proofs.DocumentFaults
import ScriptTypes.Proofs.Containment
import ScriptTypes.Proofs.CutCharacter
import ScriptTypes.Proofs.MergeLaws
import ScriptTypes.Proofs.SameFields
import ScriptTypes.Proofs.InferredTypes
import ScriptTypes.Proofs.AccessChains
import ScriptTypes.Proofs.QuotedKeys
import ScriptTypes.Proofs.ConstructorProps
import ScriptTypes.Proofs.SourceTree
import ScriptTypes.Proofs.Grammars
import ScriptTypes.Proofs.FreeNames
import ScriptTypes.Proofs.PascalCase
import ScriptTypes.Proofs.SourceNames
import ScriptTypes.Proofs.ReactImports
import ScriptTypes.Proofs.FullShapes
import ScriptTypes.Proofs.Walks
