import Assistantd.Config.Dump
import Assistantd.Config.Numerals
import Assistantd.Capture.Children
import Assistantd.Capture.Handles
import Assistantd.Queue
import Assistantd.Adapter.Bodies
import Assistantd.Adapter.Outcomes
import Assistantd.Adapter.Prompt
import Assistantd.Ring.Accounting
import Assistantd.Ring.Snapshot
import Assistantd.Ring.Spsc
import Assistantd.Ring.Steady
import Assistantd.Ring.Wrap
import Assistantd.Vad.Reset
import Assistantd.Supervisor.Accepted
import Assistantd.Supervisor.Alignment
import Assistantd.Supervisor.Append
import Assistantd.Supervisor.Answers
import Assistantd.Supervisor.Bounds
import Assistantd.Supervisor.Files
import Assistantd.Supervisor.Lifecycle
import Assistantd.Main
import Assistantd.Playback
import Assistantd.Queue.Records
import Assistantd.Supervisor.Paths
import Assistantd.Supervisor.Segmentation
import Assistantd.Supervisor.Texts
import Assistantd.Local
import Assistantd.Validation
import Assistantd.Adapter.Posts
import Assistantd.CJson.Buffer
import Assistantd.Supervisor.Recordings
import Assistantd.WebRtc.Minimum
import Assistantd.Supervisor.Listening
