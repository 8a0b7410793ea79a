import SecNetPerf.Init
import SecNetPerf.LatencyRing
import SecNetPerf.Completion
import SecNetPerf.Stream
import SecNetPerf.World
import SecNetPerf.Books
import SecNetPerf.Refinement
import SecNetPerf.Accounting
import SecNetPerf.Lifecycle
import SecNetPerf.Slots
import SecNetPerf.Sends
import SecNetPerf.Tcp
import SecNetPerf.Latency
import SecNetPerf.Finalize
import SecNetPerf.Start
import SecNetPerf.Export
import SecNetPerf.Sending
import SecNetPerf.StreamSends
import SecNetPerf.Workers
import SecNetPerf.Progress
import SecNetPerf.SendBuffering
import SecNetPerf.Repeat
import SecNetPerf.Upload
import SecNetPerf.Atomicity
