import SceneCompiler.Export
import SceneCompiler.Interchange.Commands
import SceneCompiler.Interchange.Output
import SceneCompiler.Proofs.Batch.Order
import SceneCompiler.Proofs.Drawing.Moves
import SceneCompiler.Proofs.Export.Buffers
import SceneCompiler.Proofs.Export.Culling
import SceneCompiler.Proofs.Export.Failures
import SceneCompiler.Proofs.Export.Lighting
import SceneCompiler.Proofs.Export.PlainCommands
import SceneCompiler.Proofs.Export.Symbols
import SceneCompiler.Proofs.Export.TextureScale
import SceneCompiler.Proofs.Hardware.SlotAssignment
import SceneCompiler.Proofs.Material.Estimates
import SceneCompiler.Proofs.Material.Necessity
import SceneCompiler.Proofs.Material.TextureHistory
import SceneCompiler.Proofs.Material.ThroughRest
import SceneCompiler.Proofs.Mesh.Conversion
import SceneCompiler.Proofs.Mesh.Projection
import SceneCompiler.Proofs.Mesh.Skin
import SceneCompiler.Proofs.Skeleton.Endings
import SceneCompiler.Proofs.Tour.Budget
import SceneCompiler.Proofs.Tour.Optimality
import SceneCompiler.Proofs.Unit.Estimates
import SceneCompiler.Proofs.Unit.SharedNames
import SceneCompiler.Settings.File
import SceneCompiler.Settings.Message
