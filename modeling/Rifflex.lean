import Rifflex.Lib.Word
import Rifflex.Lib.Transition
import Rifflex.Lib.Paging
import Rifflex.Lib.Assoc
import Rifflex.Lib.Bytes
import Rifflex.Lib.Path
import Rifflex.Lib.Decode
import Rifflex.Lib.Fill
import Rifflex.Error
import Rifflex.Store.Block
import Rifflex.Store.Mem.Buffer
import Rifflex.Store.Mem.Read
import Rifflex.Store.Mem.Reader
import Rifflex.Store.Mem.Served
import Rifflex.Store.Mem.Page
import Rifflex.Store.Mem.Budget
import Rifflex.Store.Mem.Ticket
import Rifflex.Store.Mem.Size
import Rifflex.Store.Memory
import Rifflex.Store.Localfile
import Rifflex.Store.Localfile.Path
import Rifflex.Store.Localfile.Purge
import Rifflex.Store.Localfile.Spill
import Rifflex.App
import Rifflex.Store.Hybrid
import Rifflex.Store.Mem.Held
import Rifflex.Store.Mem.Pickup
import Rifflex.Server.State
import Rifflex.Server.Exec
import Rifflex.Server.Frame
import Rifflex.Server.Purged
import Rifflex.Server.Blocks
import Rifflex.Server.LocalIndex
import Rifflex.Server.Served
import Rifflex.Server.Ledger
import Rifflex.Server.LedgerSteps
import Rifflex.Server.Capacity
import Rifflex.Urpc.Frame
import Rifflex.Urpc.Write
import Rifflex.Server.Frontends
import Rifflex.Server.DataInsert
import Rifflex.Urpc.RoundTrip
import Rifflex.Server.SpillRace
import Rifflex.Store.Localfile.Read
import Rifflex.Urpc.Connection
import Rifflex.Lib.Alloc
import Rifflex.Server.Tickets
import Rifflex.Server.LocalRead
import Rifflex.Server.LocalReplies
import Rifflex.App.Results
import Rifflex.App.ResultRuns
import Rifflex.App.ResultReads
import Rifflex.Lib.Binary64
import Rifflex.Lib.FloatParse
import Rifflex.ReadableSize
