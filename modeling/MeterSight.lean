import MeterSight.Main
import MeterSight.Proofs.Acceptance
import MeterSight.Proofs.Completeness
import MeterSight.Proofs.Composition
import MeterSight.Proofs.CycleFailure
import MeterSight.Proofs.Diagnosis
import MeterSight.Proofs.EngineHistory
import MeterSight.Proofs.Isolation
import MeterSight.Proofs.Paper
import MeterSight.Proofs.Poisoning
import MeterSight.Proofs.DriftDetection
import MeterSight.Proofs.FrameCorner
import MeterSight.Proofs.ByteOrder
import MeterSight.Proofs.Truncation
import MeterSight.Proofs.LongestNumber
import MeterSight.Proofs.SingleSign
import MeterSight.Proofs.NumberText
import MeterSight.Proofs.BoxTranslation
import MeterSight.Proofs.TableRows
import MeterSight.Proofs.MontageLayout
import MeterSight.Proofs.FiniteDocument
import MeterSight.Proofs.SettingsRoundTrip
import MeterSight.Proofs.NormalSettings
import MeterSight.Proofs.JsonText
import MeterSight.Proofs.EdgeSymmetry
import MeterSight.Proofs.FlatAreas
import MeterSight.Proofs.RunOutcome
import MeterSight.Proofs.StageFrames
