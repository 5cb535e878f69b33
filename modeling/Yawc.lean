import Yawc.Library.Incremental
import Yawc.Library.BigEndian
import Yawc.Library.Poll
import Yawc.Library.Trace
import Yawc.Library.Interleave
import Yawc.Library.Lending
import Yawc.Library.Utf8
import Yawc.Library.Dialogue
import Yawc.Library.Interaction
import Yawc.Library.Broadcast
import Yawc.Error
import Yawc.Frame
import Yawc.Fragments
import Yawc.Mask
import Yawc.Library.Memory
import Yawc.Mask.Pointers
import Yawc.Codec
import Yawc.Codec.Chunking
import Yawc.Codec.RoundTrip
import Yawc.Codec.WireFrames
import Yawc.Compression.Deflate
import Yawc.Compression.SyncFlush
import Yawc.Options
import Yawc.Compression.Extensions
import Yawc.Compression.Offer
import Yawc.Compression.Wire
import Yawc.Compression.Windows
import Yawc.Compression.Grammar
import Yawc.Compression.ByteInput
import Yawc.Compression.WellFormed
import Yawc.Compression.Spellings
import Yawc.Compression.Wrappers
import Yawc.Compression.Pool
import Yawc.Compression.Sharing
import Yawc.Compression.Stored
import Yawc.Compression.Bounds
import Yawc.Compression.Idle
import Yawc.Compression.Restoring
import Yawc.Compression.StoredEnds
import Yawc.Native.Handshake
import Yawc.Native.Agreement
import Yawc.Native.Answer
import Yawc.Native.HeaderLines
import Yawc.Native.Split
import Yawc.Native.Streaming
import Yawc.Native.WebSocket
import Yawc.Native.Effects
import Yawc.Native.GracefulClose
import Yawc.Native.Outcomes
import Yawc.Native.CloseDiscipline
import Yawc.Native.ReadErrors
import Yawc.Native.Sending
import Yawc.Native.Closing
import Yawc.Native.Contexts
import Yawc.Native.Reassembly
import Yawc.Native.Delivery
import Yawc.Native.Inflation
import Yawc.Native.Compressed
import Yawc.Native.Capacity
import Yawc.Native.Reception
import Yawc.Native.Messages
import Yawc.Native.DefaultLimit
import Yawc.Native.LastReply
import Yawc.Native.Replies
import Yawc.Native.LegalReplies
import Yawc.Native.StreamEnd
import Yawc.Native.ReservedBit
import Yawc.Native.Origins
import Yawc.Native.AutoFragments
import Yawc.Native.WakeProxy
import Yawc.Native.Watched
import Yawc.Native.Wakeups
import Yawc.Native.Socks5
import Yawc.Native.ProxyRequests
import Yawc.Native.Http2
import Yawc.Native.Handshakes
import Yawc.Native.Connect
import Yawc.Native.Connecting
import Yawc.Native.ConnectFailures
import Yawc.Yawcc.Connection
import Yawc.Yawcc.Redirects
import Yawc.Yawcc.Server
import Yawc.Yawcc.Session
import Yawc.Yawcc.Serving
