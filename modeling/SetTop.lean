import SetTop.Console.Control
import SetTop.Device.Waiting
import SetTop.Main
import SetTop.Proofs.Batch.Order
import SetTop.Proofs.Batch.Run
import SetTop.Proofs.Cache.Findings
import SetTop.Proofs.Config.Agreement
import SetTop.Proofs.Config.Failing
import SetTop.Proofs.Device.MotionRegion
import SetTop.Proofs.Device.Setup
import SetTop.Proofs.Device.Streaks
import SetTop.Proofs.Device.TextRegion
import SetTop.Proofs.IrBox.Emitting
import SetTop.Proofs.IrBox.Reports
import SetTop.Proofs.IrBox.Routing
import SetTop.Proofs.Matching.Confirm
import SetTop.Proofs.Matching.Ending
import SetTop.Proofs.Ocr.Phrase
import SetTop.Proofs.Power.Switch
import SetTop.Proofs.Remote.Addresses
import SetTop.Proofs.Remote.Frames
import SetTop.Proofs.Remote.Relaying
import SetTop.Proofs.Screen.Lattice
import SetTop.Proofs.State.Agreement
import SetTop.Proofs.State.Failing
import SetTop.Proofs.Video.Delivery
import SetTop.Proofs.Video.Missing
import SetTop.Proofs.Video.Overlay
import SetTop.Record
import SetTop.Remote.Recorder
import SetTop.Scene.DisplaySteps
import SetTop.Scene.FrameObjectSteps
import SetTop.Scene.RegionSteps
import SetTop.Scene.SearchSteps
import SetTop.Scene.ToolSteps
import SetTop.Scene.VideoFileSteps
