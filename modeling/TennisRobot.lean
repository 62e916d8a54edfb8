import TennisRobot.Proof.Detect.NmsRuns
import TennisRobot.Proof.Esp32Capture.Resources
import TennisRobot.Proof.Game.Bucket
import TennisRobot.Proof.Game.Int32
import TennisRobot.Proof.Game.NewRound
import TennisRobot.Proof.Game.Progress
import TennisRobot.Proof.Game.Search
import TennisRobot.Proof.Main.Carry
import TennisRobot.Proof.Main.Pose
import TennisRobot.Proof.Main.Signals
import TennisRobot.Proof.Motor.Moments
import TennisRobot.Proof.Perception.Deposit
import TennisRobot.Proof.Uart.Bounds
import TennisRobot.Proof.Uart.Calls
import TennisRobot.Proof.Uart.Deadline
import TennisRobot.Proof.Uart.Probe
import TennisRobot.Proof.UvcCapture.Formats
import TennisRobot.Proof.UvcCapture.Resources
import TennisRobot.Proof.ViCapture.Lifetime
import TennisRobot.Proof.ViCapture.Strides
