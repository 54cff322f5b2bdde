import SchemaGraph.Session
import SchemaGraph.Host
import SchemaGraph.Main
import SchemaGraph.Proofs.Schema.Runs
import SchemaGraph.Proofs.Schema.DrawnIdentities
import SchemaGraph.Proofs.Schema.SharedIdentities
import SchemaGraph.Proofs.Schema.Tickets
import SchemaGraph.Proofs.Sql.ImportStability
import SchemaGraph.Proofs.Sql.DialectIndependence
import SchemaGraph.Proofs.Sql.StatementOrder
import SchemaGraph.Proofs.Schema.MovesWhileEditing
import SchemaGraph.Proofs.Schema.StaleReferences
import SchemaGraph.Proofs.Schema.Removals
import SchemaGraph.Proofs.Schema.TableEdits
import SchemaGraph.Proofs.Sql.StatementEffect
import SchemaGraph.Proofs.Sql.KeyOrder
import SchemaGraph.Proofs.Sql.ClauseOrder
import SchemaGraph.Proofs.Sql.KeyForm
import SchemaGraph.Proofs.Sql.CompleteStatement
import SchemaGraph.Proofs.Sql.KeySpelling
import SchemaGraph.Proofs.Sql.ClosedText
import SchemaGraph.Proofs.Sql.KeyTarget
import SchemaGraph.Proofs.Sql.ReservedWords
import SchemaGraph.Proofs.Sql.IndexClauses
import SchemaGraph.Proofs.Sql.UnknownKeys
import SchemaGraph.Proofs.Sql.MalformedClauses
import SchemaGraph.Proofs.Canvas.TableRows
import SchemaGraph.Proofs.Canvas.ZoomAnchor
import SchemaGraph.Proofs.Canvas.GestureRules
import SchemaGraph.Proofs.Canvas.SceneEdges
import SchemaGraph.Proofs.Wire.ScriptExchange
import SchemaGraph.Proofs.Schema.Projection
import SchemaGraph.Proofs.Canvas.PlacementGaps
import SchemaGraph.Proofs.Canvas.PanLaw
import SchemaGraph.Proofs.Sql.GuessedDialect
import SchemaGraph.Proofs.Sql.ArrayTypes
import SchemaGraph.Proofs.Wire.HostTickets
import SchemaGraph.Proofs.Sql.WrittenNames
import SchemaGraph.Proofs.Sql.BodyCuts
import SchemaGraph.Proofs.Scan.Advance
